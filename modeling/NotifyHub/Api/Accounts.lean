import NotifyHub.AbsentRows
import NotifyHub.NotificationService

/-! # Tenants, API clients and their keys

`tenantService` issues keys and `middleware.Auth` accepts them. A key is stored as its digest
only; the two sides compute the digest each for themselves.

Text has no NUL character, which a TEXT value cannot hold.
-/

namespace NotifyHub

open Rows

/-- SHA-256 in hexadecimal digits. -/
structure Digest where
  hex : String → String
  length_hex : ∀ key, (hex key).length = 64

/-! ## Tables -/

structure APIClientRow where
  id : UUID
  tenantID : Option UUID
  name : String
  apiKeyHash : String
  isActive : Bool
  createdAt : Time
  updatedAt : Time
  deriving Repr, DecidableEq

/-- `name VARCHAR(255) NOT NULL UNIQUE`. -/
def TenantRow.key (t : TenantRow) : Option String := some t.name

/-- The table `tenants` has no CHECK and refers to nothing. -/
def TenantRow.Valid (_ : TenantRow) : Prop := True

/-- `api_key_hash VARCHAR(255) NOT NULL UNIQUE`. -/
def APIClientRow.key (c : APIClientRow) : Option String := some c.apiKeyHash

/-- `tenant_id UUID REFERENCES tenants(id)`. -/
def APIClientRow.Valid (tenants : List TenantRow) (c : APIClientRow) : Prop :=
  ∀ x ∈ c.tenantID, x ∈ tenants.map (·.id)

instance : DecidablePred TenantRow.Valid := fun _ => .isTrue trivial

instance (tenants : List TenantRow) : DecidablePred (APIClientRow.Valid tenants) :=
  fun _ => inferInstanceAs (Decidable (∀ _ ∈ _, _))

structure Accounts where
  tenants : Table TenantRow.id TenantRow.key TenantRow.Valid
  clients : Table APIClientRow.id APIClientRow.key (APIClientRow.Valid tenants.rows)

def Accounts.none : Accounts := ⟨.empty, .empty⟩

/-! ## Statements -/

def tenantRow (name : String) (id : UUID) (now : Time) : TenantRow :=
  { id := id
    name := name
    isActive := true
    createdAt := now
    updatedAt := now }

def insertTenant (a : Accounts) (name : String) (id : UUID) (now : Time) :
    Except SqlError (TenantRow × Accounts) :=
  match varchar 255 name with
  | none => .error (.rejected "value too long for type character varying")
  | some stored =>
      let row := tenantRow stored id now
      if accepted : a.tenants.Accepts row then
        .ok (row,
          { tenants := a.tenants.insert row accepted
            clients := a.clients.recheck (by
              intro c member x owner
              have known := a.clients.valid c member x owner
              have kept : x ∈ (a.tenants.rows ++ [row]).map (·.id) := by
                rw [List.map_append]
                exact List.mem_append_left _ known
              exact kept) })
      else .error (.rejected "constraint violation")

def apiClientRow (tenantID : UUID) (name hash : String) (id : UUID) (now : Time) : APIClientRow :=
  { id := id
    tenantID := some tenantID
    name := name
    apiKeyHash := hash
    isActive := true
    createdAt := now
    updatedAt := now }

def insertAPIClient (a : Accounts) (tenantID : UUID) (name hash : String) (id : UUID) (now : Time) :
    Except SqlError (APIClientRow × Accounts) :=
  match varchar 255 name, varchar 255 hash with
  | some name, some hash =>
      match insertRow a.clients (apiClientRow tenantID name hash id now) with
      | .error e => .error e
      | .ok (row, clients) => .ok (row, { a with clients := clients })
  | _, _ => .error (.rejected "value too long for type character varying")

/-- `WHERE api_key_hash = $1 AND is_active = true`. -/
def activeClientOf (hash : String) (c : APIClientRow) : Bool := c.apiKeyHash == hash && c.isActive

def getAPIClientByKeyHash (rows : List APIClientRow) (hash : String) :
    Except SqlError APIClientRow :=
  match rows.find? (activeClientOf hash) with
  | none => .error .noRows
  | some row => .ok row

/-! ## Repositories -/

structure APIClient where
  id : UUID
  tenantID : UUID
  name : String
  isActive : Bool
  deriving Repr, DecidableEq

def dbAPIClientToDomain (c : APIClientRow) : APIClient :=
  { id := c.id
    tenantID := c.tenantID.getD UUID.zero
    name := c.name
    isActive := c.isActive }

namespace APIClientRepository

def getByKeyHash (conn : Conn) (a : Accounts) (hash : String) : Except AppError APIClient :=
  match conn.exec (getAPIClientByKeyHash a.clients.rows hash) with
  | .error .noRows => .error (newUnauthorizedError "invalid API key")
  | .error _ => .error (newInternalError "api client lookup failed")
  | .ok row => .ok (dbAPIClientToDomain row)

def createForTenant (conn : Conn) (a : Accounts) (tenantID : UUID) (name hash : String) (id : UUID)
    (now : Time) : Except AppError (APIClient × Accounts) :=
  match conn.exec (insertAPIClient a tenantID name hash id now) with
  | .error _ => .error (newInternalError "failed to create api client")
  | .ok (row, a') =>
      .ok ({ id := row.id, tenantID := tenantID, name := row.name, isActive := row.isActive }, a')

end APIClientRepository

def TenantRepository.create (conn : Conn) (a : Accounts) (name : String) (id : UUID) (now : Time) :
    Except AppError (Tenant × Accounts) :=
  match conn.exec (insertTenant a name id now) with
  | .error _ => .error (newInternalError "failed to insert tenant")
  | .ok (row, a') => .ok (dbTenantToDomain row, a')

/-! ## `tenantService` -/

/-- CreateTenantRequest and CreateAPIKeyRequest have this one field. -/
structure NameRequest where
  name : String
  deriving Repr, DecidableEq

structure CreateAPIKeyResponse where
  id : UUID
  tenantID : UUID
  name : String
  apiKey : String
  deriving Repr, DecidableEq

/-- What the calls of a CreateAPIKey meet; `random` is what `generateKey` returns, and nothing
    where the source of randomness fails. -/
structure KeyCalls where
  lookup : Conn := .up
  random : Option String
  insert : Conn := .up
  id : UUID
  now : Time := 0
  deriving Repr, DecidableEq

namespace TenantService

/-- `required,max=255`. -/
def validateName (req : NameRequest) : Except AppError Unit :=
  NotificationService.toValidationError
    (if req.name = "" then [("Name", "required")]
    else if 255 < req.name.length then [("Name", "max")]
    else [])

def createTenant (conn : Conn) (a : Accounts) (req : NameRequest) (id : UUID) (now : Time) :
    Except AppError (Tenant × Accounts) :=
  match validateName req with
  | .error e => .error e
  | .ok () => TenantRepository.create conn a req.name id now

def createAPIKey (digest : Digest) (calls : KeyCalls) (a : Accounts) (tenantID : UUID)
    (req : NameRequest) : Except AppError (CreateAPIKeyResponse × Accounts) :=
  match validateName req with
  | .error e => .error e
  | .ok () =>
      match TenantRepository.getByID calls.lookup a.tenants.rows tenantID with
      | .error e => .error e
      | .ok _ =>
          match calls.random with
          | none => .error (newInternalError "failed to generate api key")
          | some rawKey =>
              match APIClientRepository.createForTenant calls.insert a tenantID req.name
                  (digest.hex rawKey) calls.id calls.now with
              | .error e => .error e
              | .ok (client, a') =>
                  .ok (⟨client.id, tenantID, client.name, rawKey⟩, a')

end TenantService

/-! ## `middleware.Auth` -/

/-- The lookup finds active clients only, so that its second check always passes. -/
def Middleware.auth (digest : Digest) (conn : Conn) (a : Accounts) (rawKey : String) :
    Except AppError APIClient :=
  if rawKey = "" then .error (newUnauthorizedError "X-API-Key header is required")
  else
    match APIClientRepository.getByKeyHash conn a (digest.hex rawKey) with
    | .error e => .error e
    | .ok client =>
        if client.isActive then .ok client else .error (newForbiddenError "API key is inactive")

/-! ## Histories -/

inductive ProvisionCall where
  | createTenant (conn : Conn) (req : NameRequest) (id : UUID) (now : Time)
  | createAPIKey (tenantID : UUID) (req : NameRequest) (calls : KeyCalls)

namespace ProvisionCall

/-- The key that a call hands out, if it is one that does, and the tables after it. -/
def perform (digest : Digest) (a : Accounts) :
    ProvisionCall → Option CreateAPIKeyResponse × Accounts
  | .createTenant conn req id now =>
      match TenantService.createTenant conn a req id now with
      | .error _ => (none, a)
      | .ok (_, a') => (none, a')
  | .createAPIKey tenantID req calls =>
      match TenantService.createAPIKey digest calls a tenantID req with
      | .error _ => (none, a)
      | .ok (response, a') => (some response, a')

def after (digest : Digest) (a : Accounts) (calls : List ProvisionCall) : Accounts :=
  calls.foldl (fun a call => (call.perform digest a).2) a

/-- The keys handed out, in order. -/
def issued (digest : Digest) : Accounts → List ProvisionCall → List CreateAPIKeyResponse
  | _, [] => []
  | a, call :: rest =>
      (call.perform digest a).1.toList ++ issued digest (call.perform digest a).2 rest

end ProvisionCall

/-- The client that a key was handed out for. -/
def CreateAPIKeyResponse.client (r : CreateAPIKeyResponse) : APIClient :=
  { id := r.id, tenantID := r.tenantID, name := r.name, isActive := true }

section Keys

variable {digest : Digest} {a a' : Accounts} {hash key : String} {client : APIClient}

/-- The client that a digest authenticates. -/
def Accounts.clientOf (a : Accounts) (hash : String) : Option APIClient :=
  (a.clients.rows.find? (activeClientOf hash)).map dbAPIClientToDomain

theorem auth_ok_iff :
    Middleware.auth digest .up a key = .ok client ↔
      key ≠ "" ∧ a.clientOf (digest.hex key) = some client := by
  unfold Middleware.auth
  by_cases empty : key = ""
  · simp [empty]
  · simp only [APIClientRepository.getByKeyHash, Conn.exec, getAPIClientByKeyHash,
      Accounts.clientOf, ne_eq, empty, not_false_eq_true, true_and]
    cases found : a.clients.rows.find? (activeClientOf (digest.hex key)) with
    | none => simp
    | some row =>
        have active : (dbAPIClientToDomain row).isActive = true := by
          have hit := List.find?_some found
          simp only [activeClientOf, Bool.and_eq_true] at hit
          exact hit.2
        simp [active]

/-- A new tenant is one row more, and no client. -/
theorem createTenant_ok {conn : Conn} {req : NameRequest} {id : UUID} {now : Time}
    {tenant : Tenant} (done : TenantService.createTenant conn a req id now = .ok (tenant, a')) :
    ∃ row, a'.tenants.rows = a.tenants.rows ++ [row] ∧ a'.clients.rows = a.clients.rows := by
  unfold TenantService.createTenant at done
  split at done
  · cases done
  · unfold TenantRepository.create at done
    cases conn with
    | down => simp [Conn.exec] at done
    | up =>
        simp only [Conn.exec, insertTenant] at done
        cases fits : varchar 255 req.name with
        | none => simp [fits] at done
        | some stored =>
            by_cases accepted : a.tenants.Accepts (tenantRow stored id now)
            · simp only [fits, dif_pos accepted, Except.ok.injEq, Prod.mk.injEq] at done
              rw [← done.2]
              exact ⟨tenantRow stored id now, rfl, rfl⟩
            · simp [fits, dif_neg accepted] at done

/-- A key that is handed out has a digest that no client had, and one client more has it. -/
theorem createAPIKey_ok {tenantID : UUID} {req : NameRequest} {calls : KeyCalls}
    {response : CreateAPIKeyResponse}
    (done : TenantService.createAPIKey digest calls a tenantID req = .ok (response, a')) :
    a'.tenants = a.tenants ∧ ∃ row, a'.clients.rows = a.clients.rows ++ [row] ∧
      row.apiKeyHash = digest.hex response.apiKey ∧
      digest.hex response.apiKey ∉ a.clients.rows.map (·.apiKeyHash) ∧ row.isActive = true ∧
      dbAPIClientToDomain row = response.client := by
  unfold TenantService.createAPIKey at done
  split at done
  · cases done
  · split at done
    · cases done
    · split at done
      · cases done
      · rename_i rawKey _
        unfold APIClientRepository.createForTenant at done
        cases insert : calls.insert with
        | down => simp [insert, Conn.exec] at done
        | up =>
            have hashFits : varchar 255 (digest.hex rawKey) = some (digest.hex rawKey) :=
              if_pos (by rw [digest.length_hex]; decide)
            simp only [insert, Conn.exec, insertAPIClient, hashFits] at done
            cases fits : varchar 255 req.name with
            | none => simp [fits] at done
            | some name =>
                simp only [fits, insertRow] at done
                by_cases accepted : a.clients.Accepts
                    (apiClientRow tenantID name (digest.hex rawKey) calls.id calls.now)
                · simp only [dif_pos accepted, Except.ok.injEq, Prod.mk.injEq] at done
                  obtain ⟨rfl, rfl⟩ := done
                  refine ⟨rfl, _, rfl, rfl, ?_, rfl, rfl⟩
                  have fresh := accepted.2.1 (digest.hex rawKey) rfl
                  rwa [show a.clients.rows.filterMap APIClientRow.key =
                    a.clients.rows.map (·.apiKeyHash) from filterMap_some_eq _ _] at fresh
                · simp [dif_neg accepted] at done

/-- One call changes who is authenticated by the key that it hands out, and nothing else. -/
theorem perform_clientOf (call : ProvisionCall) (hash : String) :
    (call.perform digest a).2.clientOf hash = some client ↔
      a.clientOf hash = some client ∨
        ∃ r ∈ (call.perform digest a).1, digest.hex r.apiKey = hash ∧ client = r.client := by
  cases call with
  | createTenant conn req id now =>
      cases done : TenantService.createTenant conn a req id now with
      | error e => simp [ProvisionCall.perform, done]
      | ok result =>
          obtain ⟨tenant, a'⟩ := result
          have performed : (ProvisionCall.createTenant conn req id now).perform digest a =
              (none, a') := by
            simp only [ProvisionCall.perform, done]
          obtain ⟨_, _, same⟩ := createTenant_ok done
          rw [performed]
          simp [Accounts.clientOf, same]
  | createAPIKey tenantID req calls =>
      cases done : TenantService.createAPIKey digest calls a tenantID req with
      | error e => simp [ProvisionCall.perform, done]
      | ok result =>
          obtain ⟨response, a'⟩ := result
          obtain ⟨_, row, added, hashed, fresh, active, named⟩ := createAPIKey_ok done
          have performed : (ProvisionCall.createAPIKey tenantID req calls).perform digest a =
              (some response, a') := by
            simp only [ProvisionCall.perform, done]
          rw [performed]
          simp only [Option.mem_def, Option.some.injEq, exists_eq_left', Accounts.clientOf, added,
            List.find?_append]
          by_cases own : digest.hex response.apiKey = hash
          · have before : a.clients.rows.find? (activeClientOf hash) = none := by
              rw [List.find?_eq_none]
              intro other member hit
              simp only [activeClientOf, Bool.and_eq_true, beq_iff_eq] at hit
              exact fresh (List.mem_map.mpr ⟨other, member, hit.1.trans own.symm⟩)
            have hit : activeClientOf hash row = true := by
              simp [activeClientOf, hashed, own, active]
            simp only [before, hit, own, named, Option.none_or, List.find?_cons_of_pos,
              Option.map_some, Option.map_none, Option.some.injEq, reduceCtorEq, false_or, true_and]
            exact eq_comm
          · have missed : activeClientOf hash row = false := by
              simp [activeClientOf, hashed, own]
            simp only [missed, own, false_and, or_false, Option.or_none, List.find?_nil,
              List.find?_cons]

end Keys

end NotifyHub
