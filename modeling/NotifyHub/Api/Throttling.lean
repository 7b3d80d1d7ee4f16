import NotifyHub.Api.Requests

/-! # The request rate of a client

The limiter of the API counts per client, in the run of a server that serves many. Redis keeps
one set for each client, so what others do does not count.
-/

namespace NotifyHub.Api

open RateLimit (Link Redis apiKeyName onKey answered stateAfter allowKey ExactScores)

theorem apiKeyName_injective {first second : UUID} (same : apiKeyName first = apiKeyName second) :
    first = second := by
  have chars := congrArg String.toList same
  simp only [apiKeyName, String.toList_append] at chars
  exact UUID.text_injective (String.toList_injective (List.append_cancel_left chars))

/-- The call of the limiter for the client that a request makes, if it makes one. -/
def Request.limiterCall (cfg : Config) (s : Server) (clientID : UUID) : Request → Option (Link × Int)
  | .api key lookup link now _ =>
      match Middleware.auth cfg.digest lookup s.accounts key with
      | .error _ => none
      | .ok client => if client.id = clientID then some (link, now) else none
  | .admin .. => none

namespace Server

def after (cfg : Config) : Server → List Request → Server
  | s, [] => s
  | s, req :: rest => after cfg (s.handle cfg req).2 rest

/-- The calls of the limiter for the client, turned away or not. -/
def limiterCalls (cfg : Config) (clientID : UUID) : Server → List Request → List (Link × Int)
  | _, [] => []
  | s, req :: rest =>
      (req.limiterCall cfg s clientID).toList ++
        limiterCalls cfg clientID (s.handle cfg req).2 rest

end Server

section Limiter

variable {cfg : Config} {s : Server} {clientID : UUID} {rdb other : Redis}

theorem after_congr {key : String} {window cap : Int} (calls : List (Link × Int))
    (same : rdb key = other key) :
    RateLimit.after (onKey key window cap) rdb calls key =
      RateLimit.after (onKey key window cap) other calls key := by
  induction calls generalizing rdb other with
  | nil => exact same
  | cons call rest ih => exact ih (RateLimit.allowKey_congr (r := onKey key window cap call) same).2

theorem handleAdmin_redis (route : AdminRoute) : (s.handleAdmin cfg route).2.redis = s.redis := by
  cases route with
  | createTenant body conn id now =>
      simp only [Server.handleAdmin, Server.provisioned]
      split <;> rfl
  | createAPIKey id body calls =>
      simp only [Server.handleAdmin, Server.provisioned]
      split <;> rfl
  | listDeadLetters | getDeadLetter | replayDeadLetter | deleteDeadLetter => rfl

theorem handleClient_redis (client : APIClient) (link : Link) (now : Time) (route : Route) :
    (s.handleClient cfg client link now route).2.redis =
      (allowKey s.redis (Middleware.limit cfg.rateLimitRPM client.id link now)).2 := by
  unfold Server.handleClient
  dsimp only
  split <;> rfl

/-- One request moves the set of a client by its own call, if it makes one. -/
theorem handle_redis (req : Request) :
    (s.handle cfg req).2.redis (apiKeyName clientID) =
      RateLimit.after (onKey (apiKeyName clientID) minute cfg.rateLimitRPM) s.redis
        (req.limiterCall cfg s clientID).toList (apiKeyName clientID) := by
  cases req with
  | admin token route =>
      simp only [Server.handle, Request.limiterCall, Option.toList_none, RateLimit.after]
      split
      · rfl
      · rw [handleAdmin_redis]
  | api key lookup link now route =>
      simp only [Server.handle, Request.limiterCall]
      cases found : Middleware.auth cfg.digest lookup s.accounts key with
      | error e => rfl
      | ok client =>
          simp only [handleClient_redis]
          by_cases own : client.id = clientID
          · subst own
            simp only [if_true, Option.toList_some, RateLimit.after]
            rfl
          · have elsewhere : apiKeyName clientID ≠
                (Middleware.limit cfg.rateLimitRPM client.id link now).key :=
              fun same => own (apiKeyName_injective same).symm
            simp only [if_neg own, Option.toList_none, RateLimit.after]
            exact RateLimit.allowKey_other elsewhere

/-- Over a run, the set of a client is that of its own calls. -/
theorem after_redis (requests : List Request) :
    (s.after cfg requests).redis (apiKeyName clientID) =
      RateLimit.after (onKey (apiKeyName clientID) minute cfg.rateLimitRPM) s.redis
        (s.limiterCalls cfg clientID requests) (apiKeyName clientID) := by
  induction requests generalizing s with
  | nil => rfl
  | cons req rest ih =>
      simp only [Server.after, Server.limiterCalls]
      rw [ih, RateLimit.after_append]
      exact after_congr _ (handle_redis req)

end Limiter

/-- After any run, a request of a client is turned away if and only if the client has made
    `rpm` requests or more within the last minute, those that were turned away included; otherwise
    its handler answers. Whatever other clients did is of no account. -/
theorem throttled_iff_recent (cfg : Config) (s : Server) (before : List Request) (key : String)
    (lookup : Conn) (client : APIClient) (now : Int) (route : Route) (times : List Int)
    (unused : s.redis (apiKeyName client.id) = none)
    (authentic : Middleware.auth cfg.digest lookup (s.after cfg before).accounts key = .ok client)
    (calls : s.limiterCalls cfg client.id before = answered times)
    (increasing : (times ++ [now]).Pairwise (· < ·))
    (exact_ : ∀ u ∈ times ++ [now], ExactScores minute u) :
    ((s.after cfg before).handle cfg (.api key lookup .up now route)).1 =
      if cfg.rateLimitRPM ≤ (Window.recent minute now times).length then tooManyRequests
      else (route.handle cfg.deps client.tenantID (s.after cfg before).backend).1 := by
  have state : (s.after cfg before).redis (apiKeyName client.id) =
      stateAfter (apiKeyName client.id) minute cfg.rateLimitRPM (answered times)
        (apiKeyName client.id) := by
    rw [after_redis, calls]
    exact after_congr _ unused
  have counted : RateLimit.kept
      (stateAfter (apiKeyName client.id) minute cfg.rateLimitRPM (answered times))
      (apiKeyName client.id) minute now = Window.recent minute now times.reverse :=
    RateLimit.kept_answered (by decide) increasing exact_
  have length : (Window.recent minute now times.reverse).length =
      (Window.recent minute now times).length := by
    rw [Window.recent, List.filter_reverse, List.length_reverse, Window.recent]
  have answer : (allowKey (s.after cfg before).redis
      (Middleware.limit cfg.rateLimitRPM client.id .up now)).1 =
        .ok (decide (((Window.recent minute now times).length : Int) < cfg.rateLimitRPM)) := by
    rw [(RateLimit.allowKey_congr state).1]
    simp only [allowKey, Middleware.limit, counted, length]
  simp only [Server.handle, authentic, Server.handleClient, answer, Middleware.throttles]
  by_cases full : cfg.rateLimitRPM ≤ (Window.recent minute now times).length
  · simp [full]
  · simp [full, Server.served]

/-- With one request a minute, the second one of the client comes too early. -/
theorem second_within_a_minute :
    ∃ cfg, cfg.rateLimitRPM = 1 ∧
      ((opened.after cfg [.api "k8" .up .up 1700000000000000000 (.listWebhooks .up)]).handle cfg
        (.api "k8" .up .up 1700000030000000000 (.listWebhooks .up))).1 = tooManyRequests := by
  have found : Middleware.auth (oneAMinute shop).digest .up opened.accounts "k8" = .ok webClient :=
    auth_web
  have calls : opened.limiterCalls (oneAMinute shop) webClient.id
      [.api "k8" .up .up 1700000000000000000 (.listWebhooks .up)] =
        answered [1700000000000000000] := by
    simp only [Server.limiterCalls, Request.limiterCall, found]
    rfl
  have accounts : (opened.after (oneAMinute shop)
      [.api "k8" .up .up 1700000000000000000 (.listWebhooks .up)]).accounts = opened.accounts := by
    simp only [Server.after, Server.handle, found]
    rfl
  have full : (1 : Int) ≤ (Window.recent minute 1700000030000000000 [1700000000000000000]).length := by
    decide
  have answer := throttled_iff_recent (oneAMinute shop) opened
    [.api "k8" .up .up 1700000000000000000 (.listWebhooks .up)] "k8" .up webClient
    1700000030000000000 (.listWebhooks .up) [1700000000000000000] rfl
    (by rw [accounts]; exact found) calls (by decide) (by decide +kernel)
  exact ⟨oneAMinute shop, rfl, answer.trans (if_pos full)⟩

end NotifyHub.Api
