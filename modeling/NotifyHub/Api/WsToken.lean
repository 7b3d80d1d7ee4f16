import NotifyHub.Database
import NotifyHub.Queue

/-! # `auth.WSTokenService`

A browser cannot send the API key when it opens a WebSocket. It gets a token for one recipient
first and presents that. Tokens hold whole seconds: the instants of issue and expiry are cut.
-/

namespace NotifyHub

/-- The payload of a token; instants in seconds since the epoch. -/
structure WSClaims where
  tenantID : UUID
  recipientID : String
  issuedAt : Int
  expiresAt : Int
  deriving Repr, DecidableEq

/-- `signer` is HS256 under the secret: reading gives nothing for a text that is malformed, signed
    with another method or under another secret. -/
structure WSTokenService where
  signer : Codec WSClaims String
  ttlSeconds : Int

/-- `jwt.NewNumericDate`. -/
def numericDate (t : Time) : Int := t / second

namespace WSTokenService

/-- `time.Duration(ttlSeconds) * time.Second`, in 64 bits. -/
def ttl (svc : WSTokenService) : Int := int64 (svc.ttlSeconds * second)

def claims (svc : WSTokenService) (tenantID : UUID) (recipientID : String) (now : Time) : WSClaims :=
  { tenantID := tenantID
    recipientID := recipientID
    issuedAt := numericDate now
    expiresAt := numericDate (now + svc.ttl) }

def issue (svc : WSTokenService) (tenantID : UUID) (recipientID : String) (now : Time) : String :=
  svc.signer.marshal (svc.claims tenantID recipientID now)

/-- The parser looks at the expiry, and at nothing else that the claims say. -/
def verify (svc : WSTokenService) (token : String) (now : Time) : Except Err WSClaims :=
  match svc.signer.unmarshal token with
  | none => .error (.wrap "ws jwt" (.plain "token is malformed or its signature is invalid"))
  | some claims =>
      if now < claims.expiresAt * second then
        if claims.recipientID = "" then .error (.plain "ws jwt: missing recipient_id")
        else .ok claims
      else .error (.wrap "ws jwt" (.plain "token has invalid claims: token is expired"))

end WSTokenService

end NotifyHub
