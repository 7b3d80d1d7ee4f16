import NotifyHub.Api.Server

/-! # What requests do to the tables

Over whole runs of the server: what a tenant owns changes by requests that are made for it only,
and an error says that nothing has happened.
-/

namespace NotifyHub.Api

open Isolation.Stores (TableName rows owns ownsDelivery)

/-- All that a tenant has in the tables. -/
@[ext]
structure Holdings where
  notifications : List NotificationRow
  templates : List TemplateRow
  rows : (t : TableName) → List t.Row
  deliveries : List WebhookDeliveryRow

def holdings (tenantID : UUID) (s : Storage) : Holdings :=
  { notifications := s.core.notifications.filter (Database.ownNotification tenantID)
    templates := s.core.templates.filter (Database.ownTemplate tenantID)
    rows := fun t => (rows s t).filter (owns tenantID t)
    deliveries := s.deliveries.rows.filter (ownsDelivery tenantID s.endpoints.rows) }

theorem holdings_of_writes {tenantID other : UUID} {s s' : Storage}
    (writes : s.WrittenBy tenantID s') (ne : other ≠ tenantID) :
    holdings other s' = holdings other s := by
  apply Holdings.ext
  · exact writes.core.others other ne
  · exact writes.core.otherTemplates other ne
  · funext t
    exact writes.rows other ne t
  · exact writes.deliveries other ne

theorem holdings_withTenants {s : Storage} {tenants : List UUID}
    (grows : ∀ x ∈ s.core.tenants, x ∈ tenants) (tenantID : UUID) :
    holdings tenantID (Storage.withTenants s tenants grows) = holdings tenantID s := by
  apply Holdings.ext
  · rfl
  · rfl
  · funext t
    cases t <;> rfl
  · rfl

section Steps

variable {cfg : Config} {s : Server} {req : Request}

/-- A request for somebody else, or for nobody, leaves a tenant what it has. -/
theorem handle_holdings {tenantID : UUID} (foreign : req.tenant cfg s ≠ some tenantID) :
    holdings tenantID (s.handle cfg req).2.backend.storage =
      holdings tenantID s.backend.storage := by
  have ne : ∀ {actor : UUID}, req.tenant cfg s = some actor → tenantID ≠ actor := by
    rintro actor acts rfl
    exact foreign acts
  generalize outcome : s.handle cfg req = result
  have handled := outcome ▸ handle_handled cfg s req
  cases handled with
  | answered response redis => rfl
  | provisioned grows success =>
      exact holdings_withTenants (fun x known => grows x (s.registered ▸ known)) tenantID
  | worked same acts effect => exact holdings_of_writes effect.writes (ne acts)
  | buried same acts success writes => exact holdings_of_writes writes (ne acts)

end Steps

/-- A token that everybody can read, and write. -/
def unsigned : Codec WSClaims String where
  marshal c := Json.goStyle.text (.arr [.str c.tenantID.text, .str c.recipientID,
    .num (.ofInt c.issuedAt), .num (.ofInt c.expiresAt)])
  unmarshal token :=
    match Json.parse token with
    | some (.arr [.str tenant, .str recipientID, .num issuedAt, .num expiresAt]) => do
        return ⟨← UUID.parse tenant, recipientID, ← issuedAt.asInt, ← expiresAt.asInt⟩
    | _ => none
  roundTrip := by
    intro c
    simp only [Json.parse_text, UUID.parse_text, JsonNumber.asInt_ofInt, Option.bind_eq_bind,
      Option.bind_some, Option.pure_def]

def shop : Deps := ⟨3, echo, fun _ => true, ⟨unsigned, 60⟩⟩

/-- A digest that fills up with zeros. -/
def padded : Digest where
  hex := fun key => String.ofList ((key.toList ++ List.replicate 64 '0').take 64)
  length_hex := by simp

def twoShops : Accounts :=
  ProvisionCall.after padded .none
    [.createTenant .up ⟨"acme"⟩ 7 0, .createTenant .up ⟨"shop"⟩ 8 0,
      .createAPIKey 8 ⟨"web"⟩ { random := some "k8", id := 80 }]

def opened : Server :=
  { accounts := twoShops
    backend := ⟨.ofCore (.ofTenants (twoShops.tenants.rows.map (·.id))), []⟩
    redis := RateLimit.empty
    registered := rfl }

def webClient : APIClient := ⟨80, 8, "web", true⟩

theorem auth_web : Middleware.auth padded .up twoShops "k8" = .ok webClient := by
  decide +kernel

def oneAMinute (deps : Deps) : Config := ⟨deps, padded, "secret", 1⟩

/-- One tenant registers a webhook, and somebody has no key. -/
def shopRequests : List Request :=
  [.api "k8" .up .up 0 (.createWebhook (.json ⟨"shop/hook", "s", some ["delivered"]⟩) .up 1 0),
    .api "" .up .up 1 (.listWebhooks .up)]

end NotifyHub.Api
