import NotifyHub.NotificationRepository
import NotifyHub.Stores.InAppRepository
import NotifyHub.Stores.WebhookRepository
import NotifyHub.TemplateRepository
import NotifyHub.Worker.Replay

/-! # How an absent row is reported

Twelve operations work on the one row that their WHERE clause finds. The driver answers
`sql.ErrNoRows` when there is none; each repository translates that by hand, and the
handlers map what comes out with `toAppError`.

The database is up throughout. Text has no NUL character, which a TEXT value cannot hold.
-/

namespace NotifyHub

open Rows

/-! ## `postgresTenantRepo` -/

structure TenantRow where
  id : UUID
  name : String
  isActive : Bool
  createdAt : Time
  updatedAt : Time
  deriving Repr, DecidableEq

structure Tenant where
  id : UUID
  name : String
  isActive : Bool
  createdAt : Time
  updatedAt : Time
  deriving Repr, DecidableEq

def getTenantByID (rows : List TenantRow) (id : UUID) : Except SqlError TenantRow :=
  match rows.find? (·.id == id) with
  | none => .error .noRows
  | some row => .ok row

def dbTenantToDomain (t : TenantRow) : Tenant :=
  { id := t.id
    name := t.name
    isActive := t.isActive
    createdAt := t.createdAt
    updatedAt := t.updatedAt }

def TenantRepository.getByID (conn : Conn) (rows : List TenantRow) (id : UUID) :
    Except AppError Tenant :=
  match conn.exec (getTenantByID rows id) with
  | .error .noRows => .error (newNotFoundError "tenant not found")
  | .error _ => .error (newInternalError "failed to get tenant")
  | .ok row => .ok (dbTenantToDomain row)

namespace AbsentRows

/-- All tables. The rows of `tenants` are those that the others refer to. -/
structure Content where
  storage : Storage
  tenants : Table TenantRow.id (fun t => some t.name) fun _ => True
  known : ∀ id, id ∈ storage.core.tenants ↔ id ∈ tenants.rows.map (·.id)

/-! ## The operations -/

inductive Operation where
  | getNotification (tenantID id : UUID)
  | cancelNotification (tenantID id : UUID) (now : Time)
  | getTemplate (tenantID id : UUID)
  | getTemplateByName (tenantID : UUID) (name : String)
  | updateTemplate (tenantID id : UUID) (req : UpdateTemplateRequest) (now : Time)
  | deleteTemplate (tenantID id : UUID) (now : Time)
  | getEndpoint (tenantID id : UUID)
  | updateEndpoint (ep : WebhookEndpoint) (now : Time)
  | getTenant (id : UUID)
  | getDeadLetter (tenantID id : UUID)
  | listCursor (tenantID id : UUID)
  | listSinceCursor (tenantID id : UUID)

/-- The cursor lookup in front of a listing. -/
def cursorLookup (context : String) (conn : Conn) (s : Storage) (tenantID id : UUID) :
    Except Err InAppRow :=
  wrapError context (conn.exec (getInAppMessage s.inapp.rows id tenantID))

/-- The error in a result, if it is one. -/
def failure {ε α : Type} (err : ε → Err) : Except ε α → Option Err
  | .error e => some (err e)
  | .ok _ => none

/-- The error that the operation returns. -/
def Operation.error (c : Content) : Operation → Option Err
  | .getNotification tenantID id =>
      failure .app (NotificationRepository.getByID .up c.storage.core tenantID id)
  | .cancelNotification tenantID id now =>
      failure .app (NotificationRepository.cancel .up c.storage.core tenantID id now)
  | .getTemplate tenantID id =>
      failure .app (TemplateRepository.getByID .up c.storage.core tenantID id)
  | .getTemplateByName tenantID name =>
      failure .app (TemplateRepository.getByName .up c.storage.core tenantID name)
  | .updateTemplate tenantID id req now =>
      failure .app (TemplateRepository.update .up .up c.storage.core tenantID id req now)
  | .deleteTemplate tenantID id now =>
      failure .app (TemplateRepository.delete .up c.storage.core tenantID id now)
  | .getEndpoint tenantID id =>
      failure .app (WebhookRepository.getEndpoint .up c.storage tenantID id)
  | .updateEndpoint ep now =>
      failure .app (WebhookRepository.updateEndpoint .up c.storage ep now)
  | .getTenant id => failure .app (TenantRepository.getByID .up c.tenants.rows id)
  | .getDeadLetter tenantID id =>
      failure (fun e => e) (DeadLetterRepository.getByID .up c.storage tenantID id)
  | .listCursor tenantID id =>
      failure (fun e => e)
        (cursorLookup "list inbox cursor lookup" .up c.storage tenantID id)
  | .listSinceCursor tenantID id =>
      failure (fun e => e)
        (cursorLookup "list inbox since cursor lookup" .up c.storage tenantID id)

/-- The code of the response, if the operation has failed. -/
def Operation.code (c : Content) (op : Operation) : Option ErrCode :=
  (op.error c).map fun e => (toAppError e).code

/-- A row satisfies the lookup condition. -/
def Operation.Matches (c : Content) : Operation → Prop
  | .getNotification tenantID id =>
      ∃ n ∈ c.storage.core.notifications, n.id = id ∧ n.tenantID = some tenantID
  | .cancelNotification tenantID id _ =>
      ∃ n ∈ c.storage.core.notifications, n.id = id ∧ n.tenantID = some tenantID ∧
        (n.status = .pending ∨ n.status = .queued)
  | .getTemplate tenantID id | .updateTemplate tenantID id _ _ | .deleteTemplate tenantID id _ =>
      ∃ t ∈ c.storage.core.templates, t.id = id ∧ t.tenantID = some tenantID
  | .getTemplateByName tenantID name =>
      ∃ t ∈ c.storage.core.templates, t.name = name ∧ t.tenantID = some tenantID ∧
        t.isActive = true
  | .getEndpoint tenantID id =>
      ∃ e ∈ c.storage.endpoints.rows, e.id = id ∧ e.tenantID = tenantID
  | .updateEndpoint ep _ =>
      ∃ e ∈ c.storage.endpoints.rows, e.id = ep.id ∧ e.tenantID = ep.tenantID
  | .getTenant id => ∃ t ∈ c.tenants.rows, t.id = id
  | .getDeadLetter tenantID id =>
      ∃ d ∈ c.storage.deadLetters.rows, d.id = id ∧ d.tenantID = tenantID
  | .listCursor tenantID id | .listSinceCursor tenantID id =>
      ∃ m ∈ c.storage.inapp.rows, m.id = id ∧ m.tenantID = tenantID

/-- NOT_FOUND exactly when there is no such row, and never INTERNAL_ERROR. -/
def Uniform (c : Content) (op : Operation) : Prop :=
  (op.code c = some .notFound ↔ ¬op.Matches c) ∧ op.code c ≠ some .internal

/-- The three operations that wrap the driver's error have to find their row; an update
    has to leave room in the INT column `version`. -/
def Operation.Translated (c : Content) (op : Operation) : Prop :=
  match op with
  | .getDeadLetter _ _ | .listCursor _ _ | .listSinceCursor _ _ => op.Matches c
  | .updateTemplate tenantID id _ _ =>
      ∀ t ∈ c.storage.core.templates, t.id = id → t.tenantID = some tenantID →
        t.version + 1 < 2 ^ 31
  | _ => True

/-! ## Three ways to answer -/

section Answers

variable {c : Content} {op : Operation}

theorem uniform_of_absent (absent : ¬op.Matches c) (code : op.code c = some .notFound) :
    Uniform c op := by
  simp [Uniform, absent, code]

theorem uniform_of_found (found : op.Matches c) (code : op.code c = none) : Uniform c op := by
  simp [Uniform, found, code]

theorem not_uniform_of_internal (code : op.code c = some .internal) : ¬Uniform c op :=
  fun uniform => uniform.2 code

/-- The operation answers by what a WHERE clause selects: nothing, or one row. -/
structure LooksUp {ρ : Type} (c : Content) (op : Operation) (rows : List ρ) (cond : ρ → Bool)
    (absent : Err) : Prop where
  selects : op.Matches c ↔ ∃ row ∈ rows, cond row = true
  answers : op.error c = if (rows.find? cond).isSome then none else some absent

namespace LooksUp

variable {ρ : Type} {rows : List ρ} {cond : ρ → Bool} {absent : Err}

theorem code_of_matches (looksUp : LooksUp c op rows cond absent) (found : op.Matches c) :
    op.code c = none := by
  have selected : (rows.find? cond).isSome = true :=
    List.find?_isSome.mpr (looksUp.selects.mp found)
  rw [Operation.code, looksUp.answers, if_pos selected, Option.map_none]

theorem code_of_not_matches (looksUp : LooksUp c op rows cond absent) (missing : ¬op.Matches c) :
    op.code c = some (toAppError absent).code := by
  have unselected : ¬(rows.find? cond).isSome = true := by
    intro selected
    exact missing (looksUp.selects.mpr (List.find?_isSome.mp selected))
  rw [Operation.code, looksUp.answers, if_neg unselected, Option.map_some]

/-- With the translation of `sql.ErrNoRows` that a repository makes by hand. -/
theorem uniform {msg : String} (rows : List ρ) (cond : ρ → Bool)
    (looksUp : LooksUp c op rows cond (.app (newNotFoundError msg))) : Uniform c op := by
  by_cases found : op.Matches c
  · exact uniform_of_found found (looksUp.code_of_matches found)
  · exact uniform_of_absent found (looksUp.code_of_not_matches found)

/-- Without it the driver's error becomes an unexpected one. -/
theorem uniform_iff {context msg : String} (rows : List ρ) (cond : ρ → Bool)
    (looksUp : LooksUp c op rows cond (.wrap context (.plain msg))) :
    Uniform c op ↔ op.Matches c := by
  by_cases found : op.Matches c
  · exact iff_of_true (uniform_of_found found (looksUp.code_of_matches found)) found
  · exact iff_of_false (not_uniform_of_internal (looksUp.code_of_not_matches found)) found

end LooksUp

end Answers

/-! ## Operation by operation -/

variable (c : Content)

theorem getNotification_uniform (tenantID id : UUID) :
    Uniform c (.getNotification tenantID id) := by
  apply LooksUp.uniform c.storage.core.notifications
    (fun n => n.id == id && n.tenantID == some tenantID)
  constructor
  · simp [Operation.Matches]
  · simp only [Operation.error, NotificationRepository.getByID, getNotificationByID, Conn.exec]
    cases c.storage.core.notifications.find? _ <;> rfl

theorem cancelNotification_uniform (tenantID id : UUID) (now : Time) :
    Uniform c (.cancelNotification tenantID id now) := by
  apply LooksUp.uniform c.storage.core.notifications (cancellable id tenantID)
  constructor
  · simp [Operation.Matches, cancellable, and_assoc]
  · simp only [Operation.error, NotificationRepository.cancel, NotifyHub.cancelNotification,
      Conn.exec]
    cases c.storage.core.notifications.find? _ <;> rfl

theorem getTemplate_uniform (tenantID id : UUID) : Uniform c (.getTemplate tenantID id) := by
  apply LooksUp.uniform c.storage.core.templates (templateAt id tenantID)
  constructor
  · simp [Operation.Matches, templateAt]
  · simp only [Operation.error, TemplateRepository.getByID, getTemplateByID, Conn.exec]
    cases c.storage.core.templates.find? _ <;> rfl

theorem getTemplateByName_uniform (tenantID : UUID) (name : String) :
    Uniform c (.getTemplateByName tenantID name) := by
  apply LooksUp.uniform c.storage.core.templates (activeNamed name tenantID)
  constructor
  · simp [Operation.Matches, activeNamed, and_assoc]
  · simp only [Operation.error, TemplateRepository.getByName, NotifyHub.getTemplateByName,
      Conn.exec]
    cases c.storage.core.templates.find? _ <;> rfl

theorem deleteTemplate_uniform (tenantID id : UUID) (now : Time) :
    Uniform c (.deleteTemplate tenantID id now) := by
  apply LooksUp.uniform c.storage.core.templates (templateAt id tenantID)
  constructor
  · simp [Operation.Matches, templateAt]
  · simp only [Operation.error, TemplateRepository.delete, NotifyHub.deleteTemplate, Conn.exec]
    cases c.storage.core.templates.find? _ <;> rfl

theorem getEndpoint_uniform (tenantID id : UUID) : Uniform c (.getEndpoint tenantID id) := by
  apply LooksUp.uniform c.storage.endpoints.rows (endpointAt id tenantID)
  constructor
  · simp [Operation.Matches, endpointAt]
  · simp only [Operation.error, WebhookRepository.getEndpoint, getWebhookEndpoint, Conn.exec]
    cases c.storage.endpoints.rows.find? _ <;> rfl

theorem updateEndpoint_uniform (ep : WebhookEndpoint) (now : Time) :
    Uniform c (.updateEndpoint ep now) := by
  apply LooksUp.uniform c.storage.endpoints.rows (endpointAt ep.id ep.tenantID)
  constructor
  · simp [Operation.Matches, endpointAt]
  · simp only [Operation.error, WebhookRepository.updateEndpoint, updateWebhookEndpoint, Conn.exec]
    cases c.storage.endpoints.rows.find? _ <;> rfl

theorem getTenant_uniform (id : UUID) : Uniform c (.getTenant id) := by
  apply LooksUp.uniform c.tenants.rows (fun t => t.id == id)
  constructor
  · simp [Operation.Matches]
  · simp only [Operation.error, TenantRepository.getByID, getTenantByID, Conn.exec]
    cases c.tenants.rows.find? _ <;> rfl

/-- The update reads the row first, with the same condition. -/
theorem updateTemplate_code (tenantID id : UUID) (req : UpdateTemplateRequest) (now : Time) :
    (Operation.updateTemplate tenantID id req now).code c =
      match c.storage.core.templates.find? (templateAt id tenantID) with
      | none => some .notFound
      | some row => if row.version + 1 < 2 ^ 31 then none else some .internal := by
  cases result : c.storage.core.templates.find? (templateAt id tenantID) with
  | none =>
      simp [Operation.code, Operation.error, TemplateRepository.update, TemplateRepository.getByID,
        getTemplateByID, Conn.exec, result, failure, toAppError, Err.asApp, newNotFoundError]
  | some row =>
      have read : TemplateRepository.getByID .up c.storage.core tenantID id =
          .ok (dbTemplateToDomain row) := by
        simp only [TemplateRepository.getByID, getTemplateByID, Conn.exec, result]
      by_cases room : row.version + 1 < 2 ^ 31
      · simp only [Operation.code, Operation.error, TemplateRepository.update, read, Conn.exec,
          TemplateRepository.updateParams, NotifyHub.updateTemplate, result, if_pos room, failure,
          Option.map_none]
      · simp only [Operation.code, Operation.error, TemplateRepository.update, read, Conn.exec,
          TemplateRepository.updateParams, NotifyHub.updateTemplate, result, if_neg room, failure,
          Option.map_some, toAppError, Err.asApp, newInternalError, Option.getD_some]

theorem updateTemplate_uniform_iff (tenantID id : UUID) (req : UpdateTemplateRequest)
    (now : Time) :
    Uniform c (.updateTemplate tenantID id req now) ↔
      (Operation.updateTemplate tenantID id req now).Translated c := by
  have code := updateTemplate_code c tenantID id req now
  cases result : c.storage.core.templates.find? (templateAt id tenantID) with
  | none =>
      have absent : ∀ t ∈ c.storage.core.templates, t.id = id → t.tenantID ≠ some tenantID := by
        simpa [templateAt] using List.find?_eq_none.mp result
      refine iff_of_true (uniform_of_absent ?_ (by simpa [result] using code)) ?_
      · rintro ⟨t, stored, named, owned⟩
        exact absent t stored named owned
      · intro t stored named owned
        exact absurd owned (absent t stored named)
  | some row =>
      have stored := List.mem_of_find?_eq_some result
      have selected : row.id = id ∧ row.tenantID = some tenantID := by
        simpa [templateAt] using List.find?_some result
      simp only [result] at code
      by_cases room : row.version + 1 < 2 ^ 31
      · refine iff_of_true (uniform_of_found ⟨row, stored, selected⟩ ?_) ?_
        · rw [code, if_pos room]
        · intro t member named _
          -- the primary key: there is one row with this id
          have same : t = row := UniqueOn.eq_of_mem c.storage.core.templates_pkey member stored
            (congrArg some named) (congrArg some selected.1)
          rwa [same]
      · refine iff_of_false (not_uniform_of_internal ?_) ?_
        · rw [code, if_neg room]
        · intro translated
          exact room (translated row stored selected.1 selected.2)

theorem getDeadLetter_uniform_iff (tenantID id : UUID) :
    Uniform c (.getDeadLetter tenantID id) ↔ (Operation.getDeadLetter tenantID id).Matches c := by
  apply LooksUp.uniform_iff c.storage.deadLetters.rows (deadLetterAt id tenantID)
  constructor
  · simp [Operation.Matches, deadLetterAt]
  · simp only [Operation.error, DeadLetterRepository.getByID, getDeadLetterByID, Conn.exec]
    cases c.storage.deadLetters.rows.find? _ <;> rfl

/-- Either cursor lookup. -/
theorem cursor_uniform_iff {context : String} {tenantID id : UUID} {op : Operation}
    (looksUp : op.error c = failure (fun e => e) (cursorLookup context .up c.storage tenantID id))
    (selects : op.Matches c ↔ ∃ m ∈ c.storage.inapp.rows, m.id = id ∧ m.tenantID = tenantID) :
    Uniform c op ↔ op.Matches c := by
  apply LooksUp.uniform_iff c.storage.inapp.rows (inappAt id tenantID)
  constructor
  · simpa [inappAt] using selects
  · simp only [looksUp, cursorLookup, getInAppMessage, Conn.exec]
    cases c.storage.inapp.rows.find? _ <;> rfl

/-- A listing with a cursor returns what the lookup of the cursor fails with. -/
theorem list_of_cursorLookup {conn cursorConn : Conn} {s : Storage} {q : InboxQuery} {id : UUID}
    {e : Err} (after : q.afterID = some id)
    (failed : cursorLookup "list inbox cursor lookup" cursorConn s q.tenantID id = .error e) :
    InAppRepository.list conn cursorConn s q = .error e := by
  unfold cursorLookup at failed
  simp only [InAppRepository.list, after, failed, bind, Except.bind]

theorem listSince_of_cursorLookup {conn cursorConn : Conn} {s : Storage} {tenantID id : UUID}
    {recipientID : String} {e : Err}
    (failed : cursorLookup "list inbox since cursor lookup" cursorConn s tenantID id = .error e) :
    InAppRepository.listSince conn cursorConn s tenantID recipientID id = .error e := by
  unfold cursorLookup at failed
  simp only [InAppRepository.listSince, failed, bind, Except.bind]

/-- Nine of the operations translate the driver's answer; the other three report an absent
    row as an internal error. -/
theorem uniform_iff_translated (c : Content) (op : Operation) :
    Uniform c op ↔ op.Translated c := by
  cases op with
  | getNotification tenantID id => exact iff_of_true (getNotification_uniform c tenantID id) trivial
  | cancelNotification tenantID id now =>
      exact iff_of_true (cancelNotification_uniform c tenantID id now) trivial
  | getTemplate tenantID id => exact iff_of_true (getTemplate_uniform c tenantID id) trivial
  | getTemplateByName tenantID name =>
      exact iff_of_true (getTemplateByName_uniform c tenantID name) trivial
  | updateTemplate tenantID id req now => exact updateTemplate_uniform_iff c tenantID id req now
  | deleteTemplate tenantID id now =>
      exact iff_of_true (deleteTemplate_uniform c tenantID id now) trivial
  | getEndpoint tenantID id => exact iff_of_true (getEndpoint_uniform c tenantID id) trivial
  | updateEndpoint ep now => exact iff_of_true (updateEndpoint_uniform c ep now) trivial
  | getTenant id => exact iff_of_true (getTenant_uniform c id) trivial
  | getDeadLetter tenantID id => exact getDeadLetter_uniform_iff c tenantID id
  | listCursor tenantID id => exact cursor_uniform_iff c rfl Iff.rfl
  | listSinceCursor tenantID id => exact cursor_uniform_iff c rfl Iff.rfl

/-- A deployment with a tenant and nothing else. -/
def fresh : Content where
  storage := .ofCore (.ofTenants [1])
  tenants :=
    { rows := [⟨1, "acme", true, 0, 0⟩]
      pkey := List.nodup_singleton _
      unique := List.nodup_singleton _
      valid := fun _ _ => trivial }
  known := by
    intro id
    simp [Storage.ofCore, Database.ofTenants]

/-- An unknown notification is not found, and neither is an unknown template; an unknown
    dead letter and an unknown cursor are internal errors. -/
theorem unknown_deadLetter_internal :
    ¬(Operation.getDeadLetter 1 7).Matches fresh ∧
    (Operation.getNotification 1 7).code fresh = some .notFound ∧
    (Operation.getDeadLetter 1 7).code fresh = some .internal ∧
    (Operation.listCursor 1 7).code fresh = some .internal ∧
    (Operation.listSinceCursor 1 7).code fresh = some .internal ∧
    ¬Uniform fresh (.getDeadLetter 1 7) := by
  have internal : (Operation.getDeadLetter 1 7).code fresh = some .internal := by decide +kernel
  refine ⟨?_, ?_, internal, ?_, ?_, fun uniform => uniform.2 internal⟩
  · rintro ⟨d, stored, _⟩
    cases stored
  · decide +kernel
  · decide +kernel
  · decide +kernel

end AbsentRows

end NotifyHub
