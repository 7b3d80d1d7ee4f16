import NotifyHub.Api.Effects
import NotifyHub.Lib.Transition
import NotifyHub.RateLimit.Log

/-! # The API server

`NewRouter` with its middleware: AdminAuth before the internal routes, Auth and RateLimit before
the others. A request is handled whole; what several requests do to the database at once is the
subject of the lifecycle modules.
-/

namespace NotifyHub

open RateLimit (Redis Link apiKeyName)

/-! ## Middleware -/

namespace Middleware

def adminAuth (token provided : String) : Except AppError Unit :=
  if provided = "" then .error (newUnauthorizedError "X-Admin-Token header is required")
  else if token = "" ∨ provided ≠ token then .error (newForbiddenError "invalid admin token")
  else .ok ()

/-- The call of AllowKey for a client. -/
def limit (rpm : Int) (clientID : UUID) (link : Link) (now : Time) : RateLimit.Request :=
  { link := link, key := apiKeyName clientID, window := minute, cap := rpm, now := now }

/-- Whether a request is turned away. A limiter that fails lets it through. -/
def throttles : Except Err Bool → Bool
  | .ok allowed => !allowed
  | .error _ => false

end Middleware

namespace Api

def tooManyRequests : Response :=
  { jsonError (newRateLimitedError "API rate limit exceeded") with retryAfter := some 60 }

/-! ## State -/

/-- More tenants that rows can belong to. -/
def Storage.withTenants (s : Storage) (tenants : List UUID)
    (grows : ∀ x ∈ s.core.tenants, x ∈ tenants) : Storage :=
  s.withCore
    { s.core with
      tenants := tenants
      templates_tenant_id_fkey := fun t member x owner =>
        grows x (s.core.templates_tenant_id_fkey t member x owner)
      notifications_tenant_id_fkey := fun n member x owner =>
        grows x (s.core.notifications_tenant_id_fkey n member x owner) }
    ⟨grows, fun _ stored => stored⟩

structure Server where
  accounts : Accounts
  backend : Backend
  redis : Redis
  registered : backend.storage.core.tenants = accounts.tenants.rows.map (·.id)

def Accounts.Grows (a a' : Accounts) : Prop :=
  ∀ x ∈ a.tenants.rows.map (·.id), x ∈ a'.tenants.rows.map (·.id)

namespace Server

def provision (s : Server) (a : Accounts) (grows : Accounts.Grows s.accounts a) : Server :=
  { accounts := a
    backend :=
      { s.backend with
        storage := Storage.withTenants s.backend.storage (a.tenants.rows.map (·.id)) fun x known =>
          grows x (s.registered ▸ known) }
    redis := s.redis
    registered := rfl }

/-- The answer of TenantHandler to a call of its service. -/
def provisioned {α : Type} (s : Server) (data : α → Data) (result : Except AppError (α × Accounts))
    (grows : ∀ a accounts, result = .ok (a, accounts) → Accounts.Grows s.accounts accounts) :
    Response × Server :=
  match result, grows with
  | .error e, _ => (jsonError e, s)
  | .ok (a, accounts), grows => (json 201 (data a), s.provision accounts (grows a accounts rfl))

/-- The answer of a handler of the other tables. -/
def served (s : Server) (result : Response × Backend)
    (same : result.2.storage.core.tenants = s.backend.storage.core.tenants) : Response × Server :=
  (result.1, { s with backend := result.2, registered := same.trans s.registered })

end Server

/-! ## Internal routes -/

namespace TenantHandler

def createTenant (a : Accounts) (body : Body NameRequest) (conn : Conn) (id : UUID) (now : Time) :
    Except AppError (Tenant × Accounts) :=
  match body.decode with
  | .error e => .error e
  | .ok req => TenantService.createTenant conn a req id now

def createAPIKey (digest : Digest) (a : Accounts) (id : Option UUID) (body : Body NameRequest)
    (calls : KeyCalls) : Except AppError (CreateAPIKeyResponse × Accounts) :=
  match id with
  | none => .error (newValidationError "invalid tenant id" [])
  | some tenantID =>
      match body.decode with
      | .error e => .error e
      | .ok req => TenantService.createAPIKey digest calls a tenantID req

end TenantHandler

inductive AdminRoute where
  | createTenant (body : Body NameRequest) (conn : Conn) (id : UUID) (now : Time)
  | createAPIKey (id : Option UUID) (body : Body NameRequest) (calls : KeyCalls)
  | listDeadLetters (tenant : HeaderID) (params : DLQParams) (conn : Conn)
  | getDeadLetter (tenant : HeaderID) (id : Option UUID) (conn : Conn)
  | replayDeadLetter (tenant : HeaderID) (id : Option UUID) (calls : ReplayCalls)
  | deleteDeadLetter (tenant : HeaderID) (id : Option UUID) (conn : Conn)

section Grows

variable {a a' : Accounts}

theorem createTenant_grows {body : Body NameRequest} {conn : Conn} {id : UUID} {now : Time}
    {tenant : Tenant} (done : TenantHandler.createTenant a body conn id now = .ok (tenant, a')) :
    Accounts.Grows a a' := by
  unfold TenantHandler.createTenant at done
  split at done
  · cases done
  · obtain ⟨row, added, _⟩ := createTenant_ok done
    intro x known
    rw [added, List.map_append]
    exact List.mem_append_left _ known

theorem createAPIKey_grows {digest : Digest} {id : Option UUID} {body : Body NameRequest}
    {calls : KeyCalls} {response : CreateAPIKeyResponse}
    (done : TenantHandler.createAPIKey digest a id body calls = .ok (response, a')) :
    Accounts.Grows a a' := by
  unfold TenantHandler.createAPIKey at done
  split at done
  · cases done
  · split at done
    · cases done
    · rw [Accounts.Grows, (createAPIKey_ok done).1]
      exact fun _ known => known

end Grows

/-- All that the routes of the dead letters do. -/
inductive AdminEffect (tenant : HeaderID) (b : Backend) : Response × Backend → Prop where
  | answered (response : Response) : AdminEffect tenant b (response, b)
  | written {tenantID : UUID} {response : Response} {b' : Backend} (named : tenant = .parsed tenantID)
      (success : response.status < 400) (writes : b.storage.WrittenBy tenantID b'.storage) :
      AdminEffect tenant b (response, b')

namespace AdminEffect

variable {tenant : HeaderID} {b : Backend} {result : Response × Backend}

theorem tenants (effect : AdminEffect tenant b result) :
    result.2.storage.core.tenants = b.storage.core.tenants := by
  cases effect with
  | answered => rfl
  | written named success writes => exact writes.core.tenants

theorem tenantIDFromHeader_ok {tenantID : UUID}
    (read : DLQHandler.tenantIDFromHeader tenant = .ok tenantID) : tenant = .parsed tenantID := by
  cases tenant with
  | absent | malformed => cases read
  | parsed id => rw [Except.ok.inj read]

/-- A replay that is refused has published nothing and marked nothing. -/
theorem replay_refused {maxAttempts : Int} {calls : ReplayCalls} {s : Storage} {tenantID id : UUID}
    {e : AppError}
    (refused : (NotifyHub.DLQHandler.replay maxAttempts calls s tenantID id).1 = .refused e) :
    (NotifyHub.DLQHandler.replay maxAttempts calls s tenantID id).2 = ([], s) := by
  rcases Replay.replay_cases maxAttempts calls s tenantID id with
    ⟨e', same⟩ | ⟨out, ⟨warning, same⟩ | ⟨s', _, same⟩⟩ <;> rw [same] at refused ⊢
  · cases refused
  · cases refused

theorem replay (deps : Deps) (tenant : HeaderID) (id : Option UUID) (calls : ReplayCalls) :
    AdminEffect tenant b (DLQHandler.replay deps tenant id calls b) := by
  unfold DLQHandler.replay
  split
  · exact .answered _
  · exact .answered _
  · rename_i tenantID id read
    have named := tenantIDFromHeader_ok read
    have writes : b.storage.WrittenBy tenantID
        (NotifyHub.DLQHandler.replay deps.maxRetries calls b.storage tenantID id).2.2 :=
      .replay deps.maxRetries calls
    dsimp only
    cases outcome : (NotifyHub.DLQHandler.replay deps.maxRetries calls b.storage tenantID
        id).1 with
    | refused e =>
        rw [replay_refused outcome, List.append_nil]
        exact .answered _
    | replayed warning =>
        have success : (DLQHandler.replayResponse (.replayed warning)).status < 400 := by
          simp [DLQHandler.replayResponse, json]
        exact .written named success writes

theorem delete (tenant : HeaderID) (id : Option UUID) (conn : Conn) :
    AdminEffect tenant b (DLQHandler.delete tenant id conn b) := by
  unfold DLQHandler.delete
  split
  · exact .answered _
  · exact .answered _
  · rename_i tenantID id read
    cases done : DeadLetterRepository.delete conn b.storage tenantID id with
    | error e => exact .answered _
    | ok s => exact .written (tenantIDFromHeader_ok read) (by decide) (.deleteDeadLetter done)

end AdminEffect

/-! ## Requests -/

structure Config where
  deps : Deps
  digest : Digest
  adminToken : String
  rateLimitRPM : Int

/-- A request with what the middleware meets: the key and its lookup, the limiter and its clock. -/
inductive Request where
  | api (key : String) (lookup : Conn) (link : Link) (now : Time) (route : Route)
  | admin (token : String) (route : AdminRoute)

namespace Server

def handleAdmin (cfg : Config) (s : Server) : AdminRoute → Response × Server
  | .createTenant body conn id now =>
      s.provisioned .tenant (TenantHandler.createTenant s.accounts body conn id now)
        fun _ _ done => createTenant_grows done
  | .createAPIKey id body calls =>
      s.provisioned .apiKey (TenantHandler.createAPIKey cfg.digest s.accounts id body calls)
        fun _ _ done => createAPIKey_grows done
  | .listDeadLetters tenant params conn => (DLQHandler.list tenant params conn s.backend, s)
  | .getDeadLetter tenant id conn => (DLQHandler.getByID tenant id conn s.backend, s)
  | .replayDeadLetter tenant id calls =>
      s.served (DLQHandler.replay cfg.deps tenant id calls s.backend)
        (AdminEffect.replay cfg.deps tenant id calls).tenants
  | .deleteDeadLetter tenant id conn =>
      s.served (DLQHandler.delete tenant id conn s.backend)
        (AdminEffect.delete tenant id conn).tenants

/-- A request of an authenticated client: the limiter, then the handler. -/
def handleClient (cfg : Config) (s : Server) (client : APIClient) (link : Link) (now : Time)
    (route : Route) : Response × Server :=
  let checked := RateLimit.allowKey s.redis (Middleware.limit cfg.rateLimitRPM client.id link now)
  let s := { s with redis := checked.2 }
  if Middleware.throttles checked.1 then (tooManyRequests, s)
  else
    s.served (route.handle cfg.deps client.tenantID s.backend)
      (handle_effect cfg.deps client.tenantID s.backend route).writes.core.tenants

def handle (cfg : Config) (s : Server) : Request → Response × Server
  | .admin token route =>
      match Middleware.adminAuth cfg.adminToken token with
      | .error e => (jsonError e, s)
      | .ok () => s.handleAdmin cfg route
  | .api key lookup link now route =>
      match Middleware.auth cfg.digest lookup s.accounts key with
      | .error e => (jsonError e, s)
      | .ok client => s.handleClient cfg client link now route

/-- The server between two requests. -/
def step (cfg : Config) (s : Server) (req : Request) : Option Server := some (s.handle cfg req).2

end Server

/-- The tenant of an internal route: the one in the header. -/
def AdminRoute.tenant : AdminRoute → Option UUID
  | .listDeadLetters tenant .. | .getDeadLetter tenant .. | .replayDeadLetter tenant ..
  | .deleteDeadLetter tenant .. =>
      match tenant with
      | .parsed tenantID => some tenantID
      | _ => none
  | .createTenant .. | .createAPIKey .. => none

/-- The tenant that a request is made for, where it is let in. -/
def Request.tenant (cfg : Config) (s : Server) : Request → Option UUID
  | .api key lookup _ _ _ =>
      match Middleware.auth cfg.digest lookup s.accounts key with
      | .error _ => none
      | .ok client => some client.tenantID
  | .admin token route =>
      match Middleware.adminAuth cfg.adminToken token with
      | .error _ => none
      | .ok () => route.tenant

def Request.sends : Request → Sends
  | .api _ _ _ _ route => route.sends
  | .admin .. => .none

/-! ## What a request can do -/

/-- Beside the limiter's count: nothing, or new accounts, or the effect of a handler for the tenant
    that the request is made for. -/
inductive Handled (cfg : Config) (s : Server) (req : Request) : Response × Server → Prop where
  | answered (response : Response) (redis : Redis) :
      Handled cfg s req (response, { s with redis := redis })
  | provisioned {response : Response} {a : Accounts} (grows : Accounts.Grows s.accounts a)
      (success : response.status < 400) : Handled cfg s req (response, s.provision a grows)
  | worked {tenantID : UUID} {result : Response × Backend} {redis : Redis}
      (same : result.2.storage.core.tenants = s.backend.storage.core.tenants)
      (acts : req.tenant cfg s = some tenantID)
      (effect : Effect cfg.deps tenantID s.backend req.sends result) :
      Handled cfg s req (Server.served { s with redis := redis } result same)
  | buried {tenantID : UUID} {result : Response × Backend}
      (same : result.2.storage.core.tenants = s.backend.storage.core.tenants)
      (acts : req.tenant cfg s = some tenantID) (success : result.1.status < 400)
      (writes : s.backend.storage.WrittenBy tenantID result.2.storage) :
      Handled cfg s req (s.served result same)

section Handled

variable {cfg : Config} {s : Server} {req : Request}

theorem provisioned_handled {α : Type} {data : α → Data} {result : Except AppError (α × Accounts)}
    (grows : ∀ a accounts, result = .ok (a, accounts) → Accounts.Grows s.accounts accounts) :
    Handled cfg s req (s.provisioned data result grows) := by
  cases result with
  | error e => exact .answered _ s.redis
  | ok done => exact .provisioned _ (by simp [json])

theorem served_handled {tenant : HeaderID} {result : Response × Backend}
    (same : result.2.storage.core.tenants = s.backend.storage.core.tenants)
    (acts : ∀ tenantID, tenant = .parsed tenantID → req.tenant cfg s = some tenantID)
    (effect : AdminEffect tenant s.backend result) :
    Handled cfg s req (s.served result same) := by
  cases effect with
  | answered response => exact .answered response s.redis
  | written named success writes => exact .buried same (acts _ named) success writes

theorem handleAdmin_handled {token : String} {route : AdminRoute}
    (passed : Middleware.adminAuth cfg.adminToken token = .ok ()) :
    Handled cfg s (.admin token route) (s.handleAdmin cfg route) := by
  have acts : ∀ {tenant : HeaderID}, (∀ tenantID, tenant = .parsed tenantID →
      route.tenant = some tenantID) → ∀ tenantID, tenant = .parsed tenantID →
      (Request.admin token route).tenant cfg s = some tenantID := by
    intro tenant named tenantID parsed
    simp only [Request.tenant, passed, named tenantID parsed]
  cases route with
  | createTenant body conn id now => exact provisioned_handled _
  | createAPIKey id body calls => exact provisioned_handled _
  | listDeadLetters tenant params conn => exact .answered _ s.redis
  | getDeadLetter tenant id conn => exact .answered _ s.redis
  | replayDeadLetter tenant id calls =>
      refine served_handled (AdminEffect.replay cfg.deps tenant id calls).tenants (acts ?_)
        (.replay cfg.deps tenant id calls)
      rintro tenantID rfl
      rfl
  | deleteDeadLetter tenant id conn =>
      refine served_handled (AdminEffect.delete tenant id conn).tenants (acts ?_)
        (.delete tenant id conn)
      rintro tenantID rfl
      rfl

theorem handle_handled (cfg : Config) (s : Server) (req : Request) :
    Handled cfg s req (s.handle cfg req) := by
  cases req with
  | admin token route =>
      cases passed : Middleware.adminAuth cfg.adminToken token with
      | error e =>
          simp only [Server.handle, passed]
          exact .answered _ s.redis
      | ok =>
          simp only [Server.handle, passed]
          exact handleAdmin_handled passed
  | api key lookup link now route =>
      cases found : Middleware.auth cfg.digest lookup s.accounts key with
      | error e =>
          simp only [Server.handle, found]
          exact .answered _ s.redis
      | ok client =>
          have acts : (Request.api key lookup link now route).tenant cfg s =
              some client.tenantID := by
            simp only [Request.tenant, found]
          have effect := handle_effect cfg.deps client.tenantID s.backend route
          simp only [Server.handle, found, Server.handleClient]
          split
          · exact .answered _ _
          · exact .worked effect.writes.core.tenants acts effect

end Handled

end Api

end NotifyHub
