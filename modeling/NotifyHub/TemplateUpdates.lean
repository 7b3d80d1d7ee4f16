import NotifyHub.Lib.Fields
import NotifyHub.Lib.Threads
import NotifyHub.Lib.Transition
import NotifyHub.TemplateRepository

/-! # Concurrent updates of one template

Update reads the template, fills the fields its request leaves out from what it
read, and writes all of them back. The read and the write are separate statements,
so the steps of other calls can come between them. A write puts back, in the fields
its request leaves out, what was there at the time of the read.
-/

namespace NotifyHub.TemplateUpdates

open Fields TemplateRepository

/-! ## The fields of a template -/

/-- The fields that an update can set. -/
inductive Field where
  | subjectTemplate
  | bodyTemplate
  | metadata
  | isActive
  deriving Repr, DecidableEq

abbrev Field.type : Field → Type
  | .subjectTemplate => Option String
  | .bodyTemplate => String
  | .metadata => Option JSONMap
  | .isActive => Bool

def content (row : TemplateRow) : ∀ field : Field, field.type
  | .subjectTemplate => row.subjectTemplate
  | .bodyTemplate => row.bodyTemplate
  | .metadata => row.metadata
  | .isActive => row.isActive

/-- The columns that no call changes. -/
def identity (row : TemplateRow) : UUID × Option UUID × String × Channel × Time :=
  (row.id, row.tenantID, row.name, row.channel, row.createdAt)

def undated (row : TemplateRow) : TemplateRow := { row with updatedAt := 0 }

theorem undated_ext {left right : TemplateRow} (sameContent : content left = content right)
    (sameVersion : left.version = right.version) (sameIdentity : identity left = identity right) :
    undated left = undated right := by
  have subject : left.subjectTemplate = right.subjectTemplate :=
    congrFun sameContent .subjectTemplate
  have body : left.bodyTemplate = right.bodyTemplate := congrFun sameContent .bodyTemplate
  have metadata : left.metadata = right.metadata := congrFun sameContent .metadata
  have active : left.isActive = right.isActive := congrFun sameContent .isActive
  cases left
  cases right
  simp_all [undated, identity]

/-! ## Calls -/

inductive Call where
  | update (req : UpdateTemplateRequest)
  | delete
  deriving Repr, DecidableEq

def Call.sets : Call → Patch Field.type
  | .update req, .subjectTemplate => req.subjectTemplate.map some
  | .update req, .bodyTemplate => req.bodyTemplate
  | .update req, .metadata => req.metadata.map some
  | .update req, .isActive => req.isActive
  | .delete, .isActive => some false
  | .delete, _ => none

/-- What an update carries over from its read. COALESCE makes a NULL set nothing. -/
def held (existing : Template) : Patch Field.type
  | .subjectTemplate => existing.subjectTemplate.map some
  | .bodyTemplate => some existing.bodyTemplate
  | .metadata => existing.metadata.map some
  | .isActive => some existing.isActive

section

variable (tenantID id : UUID)

/-- The second half of Update, after its read. -/
def writeBack (conn : Conn) (db : Database) (existing : Template) (req : UpdateTemplateRequest)
    (now : Time) : Except AppError (Template × Database) :=
  match conn.exec (updateTemplate db (updateParams tenantID id existing req) now) with
  | .error .noRows => .error (newNotFoundError errTemplateNotFound)
  | .error _ => .error (newInternalError "failed to update template")
  | .ok (row, db') => .ok (dbTemplateToDomain row, db')

theorem update_eq_writeBack (conn updateConn : Conn) (db : Database) (req : UpdateTemplateRequest)
    (now : Time) :
    update conn updateConn db tenantID id req now =
      (getByID conn db tenantID id).bind
        fun existing => writeBack tenantID id updateConn db existing req now := by
  unfold update
  cases getByID conn db tenantID id <;> rfl

/-- The row after the write of an update that read `existing`. -/
def overwrite (existing : Template) (req : UpdateTemplateRequest) (now : Time) (row : TemplateRow) :
    TemplateRow :=
  ((updateParams tenantID id existing req).update now).set row

/-- A call without interruption, on the template's row. -/
def Call.apply (now : Time) (row : TemplateRow) : Call → TemplateRow
  | .update req => overwrite tenantID id (dbTemplateToDomain row) req now row
  | .delete => (deactivate now).set row

def sequential (now : Time) (calls : List Call) (row : TemplateRow) : TemplateRow :=
  calls.foldl (Call.apply tenantID id now) row

variable {tenantID id}

theorem content_overwrite {existing : Template} {req : UpdateTemplateRequest} {now : Time}
    {row : TemplateRow} :
    content (overwrite tenantID id existing req now row) =
      (Call.update req).sets.apply ((held existing).apply (content row)) := by
  funext field
  cases field with
  | subjectTemplate =>
      simp only [overwrite, content, updateParams, UpdateTemplateParams.update, Patch.apply,
        Call.sets, held]
      cases req.subjectTemplate <;> cases existing.subjectTemplate <;> rfl
  | metadata =>
      simp only [overwrite, content, updateParams, UpdateTemplateParams.update, Patch.apply,
        Call.sets, held]
      cases req.metadata <;> cases existing.metadata <;> rfl
  | bodyTemplate | isActive => rfl

theorem content_delete {now : Time} {row : TemplateRow} :
    content ((deactivate now).set row) = Call.delete.sets.apply (content row) := by
  funext field
  cases field with
  | subjectTemplate | bodyTemplate | metadata | isActive => rfl

theorem held_row {row : TemplateRow} {field : Field} {value : field.type}
    (carried : held (dbTemplateToDomain row) field = some value) : content row field = value := by
  cases field with
  | bodyTemplate | isActive => exact Option.some.inj carried
  | subjectTemplate | metadata =>
      obtain ⟨inner, stored, rfl⟩ := Option.map_eq_some_iff.mp carried
      exact stored

def Call.isUpdate : Call → Bool
  | .update _ => true
  | .delete => false

/-- The row that the calls lead to, from `start` and without regard to their order. -/
structure Reached (start : TemplateRow) (calls : List Call) (row : TemplateRow) : Prop where
  content : content row = applyAll (calls.map Call.sets) (content start)
  version : row.version = start.version + calls.countP Call.isUpdate
  identity : identity row = identity start

namespace Reached

variable {start row : TemplateRow} {calls others : List Call}

theorem none_ : Reached start [] start :=
  ⟨rfl, by simp, rfl⟩

theorem update {existing : Template} {req : UpdateTemplateRequest} {now : Time}
    (reached : Reached start calls row)
    (there : ∀ field value, (Call.update req).sets field = none →
      held existing field = some value → TemplateUpdates.content row field = value) :
    Reached start (calls ++ [.update req]) (overwrite tenantID id existing req now row) := by
  refine ⟨?_, ?_, reached.identity⟩
  · rw [content_overwrite, Patch.apply_apply_eq there, reached.content, List.map_append, applyAll_append]
    rfl
  · have bumped : (overwrite tenantID id existing req now row).version = row.version + 1 := rfl
    rw [bumped, reached.version, List.countP_append]
    simp [Call.isUpdate]
    omega

theorem delete {now : Time} (reached : Reached start calls row) :
    Reached start (calls ++ [.delete]) ((deactivate now).set row) := by
  refine ⟨?_, ?_, reached.identity⟩
  · rw [content_delete, reached.content, List.map_append, applyAll_append]
    rfl
  · have same : ((deactivate now).set row).version = row.version := rfl
    rw [same, reached.version, List.countP_append]
    simp [Call.isUpdate]

theorem perm (reached : Reached start calls row) (apart : (others.map Call.sets).Pairwise Apart)
    (order : others.Perm calls) : Reached start others row :=
  ⟨reached.content.trans (applyAll_perm apart (order.map _)).symm,
    by rw [reached.version, order.countP_eq], reached.identity⟩

theorem unique {other : TemplateRow} (reached : Reached start calls row)
    (reached' : Reached start calls other) : undated row = undated other :=
  undated_ext (reached.content.trans reached'.content.symm)
    (reached.version.trans reached'.version.symm) (reached.identity.trans reached'.identity.symm)

theorem sequential (start : TemplateRow) (now : Time) (calls : List Call) :
    Reached start calls (sequential tenantID id now calls start) := by
  induction calls using List.reverseRecOn with
  | nil => exact none_
  | append_singleton before last ih =>
      have split : TemplateUpdates.sequential tenantID id now (before ++ [last]) start =
          last.apply tenantID id now (TemplateUpdates.sequential tenantID id now before start) := by
        simp [TemplateUpdates.sequential]
      rw [split]
      cases last with
      | delete => exact ih.delete
      | update req =>
          apply ih.update
          exact fun _ _ _ => held_row

end Reached

end

/-! ## Runs -/

/-- A call under way. -/
inductive Thread where
  | updating (req : UpdateTemplateRequest)
  | holding (req : UpdateTemplateRequest) (existing : Template)
  | deleting
  | returned (call : Call) (result : Except AppError Template)
  deriving Repr, DecidableEq

def Thread.call : Thread → Call
  | .updating req => .update req
  | .holding req _ => .update req
  | .deleting => .delete
  | .returned call _ => call

/-- The call, if it has written. -/
def Thread.applied : Thread → Option Call
  | .returned call (.ok _) => some call
  | _ => none

def Call.thread : Call → Thread
  | .update req => .updating req
  | .delete => .deleting

structure State where
  db : Database
  threads : List Thread

def State.applied (s : State) : List Call := s.threads.filterMap Thread.applied

/-- The next statement of one of the calls. -/
structure Label where
  thread : Nat
  conn : Conn
  now : Time

section

variable (tenantID id : UUID)

/-- A statement that answers with an error ends its call and changes nothing. -/
def finish (call : Call) (db : Database) :
    Except AppError (Template × Database) → Thread × Database
  | .error e => (.returned call (.error e), db)
  | .ok (t, db') => (.returned call (.ok t), db')

def Thread.advance (conn : Conn) (now : Time) (db : Database) : Thread → Option (Thread × Database)
  | .updating req =>
      match getByID conn db tenantID id with
      | .error e => some (.returned (.update req) (.error e), db)
      | .ok existing => some (.holding req existing, db)
  | .holding req existing =>
      some (finish (.update req) db (writeBack tenantID id conn db existing req now))
  | .deleting => some (finish .delete db (TemplateRepository.delete conn db tenantID id now))
  | .returned _ _ => none

def step (s : State) (label : Label) : Option State :=
  match s.threads[label.thread]? with
  | none => none
  | some thread =>
      match thread.advance tenantID id label.conn label.now s.db with
      | none => none
      | some (next, db) => some { db := db, threads := s.threads.set label.thread next }

def initial (db : Database) (calls : List Call) : State :=
  { db := db, threads := calls.map Call.thread }

/-- The row of the template. -/
def Stored (db : Database) (row : TemplateRow) : Prop :=
  db.templates.find? (templateAt id tenantID) = some row

/-- Every field that a finished call set has the value it gave, and the row is the
    one that the finished calls lead to one after the other, in any order. -/
def Kept (start : TemplateRow) (s : State) : Prop :=
  ∃ row, Stored tenantID id s.db row ∧
    (∀ call ∈ s.applied, ∀ field value, call.sets field = some value → content row field = value) ∧
    ∀ order, order.Perm s.applied → ∀ now,
      undated row = undated (sequential tenantID id now order start)

/-- When an update writes, what it carries over from its read is still in the row. -/
def Undisturbed (s : State) (label : Label) : Prop :=
  ∀ req existing row, s.threads[label.thread]? = some (.holding req existing) →
    Stored tenantID id s.db row → label.conn = .up → row.version + 1 < 2 ^ 31 →
    ∀ field value, (Call.update req).sets field = none → held existing field = some value →
      content row field = value

end

section Moves

variable {tenantID id : UUID} {s next : State} {label : Label}

theorem templateAt_set (update : Database.TemplateUpdate) (row : TemplateRow) :
    templateAt id tenantID (update.set row) = templateAt id tenantID row := by
  simp only [templateAt, update.id, update.tenantID]

theorem Stored.set {db : Database} {row : TemplateRow} (stored : Stored tenantID id db row)
    (update : Database.TemplateUpdate) :
    Stored tenantID id (db.setTemplates (templateAt id tenantID) update) (update.set row) := by
  have found : (Rows.updateWhere (templateAt id tenantID) update.set db.templates).find?
      (templateAt id tenantID) = (db.templates.find? (templateAt id tenantID)).map update.set :=
    Rows.find?_updateWhere (templateAt_set update)
  exact found.trans (congrArg (Option.map update.set) stored)

/-- What a step does, on a template that exists. -/
inductive Move (tenantID id : UUID) (s : State) (row : TemplateRow) (label : Label) : State → Prop where
  | read (req : UpdateTemplateRequest) (running : s.threads[label.thread]? = some (.updating req)) :
      Move tenantID id s row label
        { s with threads := s.threads.set label.thread (.holding req (dbTemplateToDomain row)) }
  | write (req : UpdateTemplateRequest) (existing : Template)
      (running : s.threads[label.thread]? = some (.holding req existing))
      (up : label.conn = .up) (fits : row.version + 1 < 2 ^ 31) (db : Database)
      (stored : Stored tenantID id db (overwrite tenantID id existing req label.now row))
      (result : Template) :
      Move tenantID id s row label
        { db := db
          threads := s.threads.set label.thread (.returned (.update req) (.ok result)) }
  | delete (running : s.threads[label.thread]? = some .deleting) (db : Database)
      (stored : Stored tenantID id db ((deactivate label.now).set row)) (result : Template) :
      Move tenantID id s row label
        { db := db, threads := s.threads.set label.thread (.returned .delete (.ok result)) }
  | fail (thread : Thread) (running : s.threads[label.thread]? = some thread)
      (unfinished : thread.applied = none) (e : AppError) :
      Move tenantID id s row label
        { s with threads := s.threads.set label.thread (.returned thread.call (.error e)) }

theorem advance_move {row : TemplateRow} {thread advanced : Thread} {db : Database}
    (stored : Stored tenantID id s.db row) (running : s.threads[label.thread]? = some thread)
    (advances : thread.advance tenantID id label.conn label.now s.db = some (advanced, db)) :
    Move tenantID id s row label { db := db, threads := s.threads.set label.thread advanced } := by
  have failed : ∀ e, thread.applied = none → advanced = .returned thread.call (.error e) →
      db = s.db →
      Move tenantID id s row label { db := db, threads := s.threads.set label.thread advanced } := by
    rintro e unfinished rfl rfl
    exact .fail thread running unfinished e
  unfold Stored at stored
  cases thread with
  | returned => simp [Thread.advance] at advances
  | updating req =>
      cases conn : label.conn with
      | down =>
          simp only [Thread.advance, getByID, conn, Conn.exec, Option.some.injEq,
            Prod.mk.injEq] at advances
          exact failed _ rfl advances.1.symm advances.2.symm
      | up =>
          simp only [Thread.advance, getByID, getTemplateByID, conn, Conn.exec, stored,
            Option.some.injEq, Prod.mk.injEq] at advances
          obtain ⟨rfl, rfl⟩ := advances
          exact .read req running
  | holding req existing =>
      cases conn : label.conn with
      | down =>
          simp only [Thread.advance, writeBack, conn, Conn.exec, finish, Option.some.injEq,
            Prod.mk.injEq] at advances
          exact failed _ rfl advances.1.symm advances.2.symm
      | up =>
          by_cases fits : row.version + 1 < 2 ^ 31
          · simp only [Thread.advance, writeBack, updateTemplate, updateParams, conn, Conn.exec,
              stored, if_pos fits, finish, Option.some.injEq, Prod.mk.injEq] at advances
            obtain ⟨rfl, rfl⟩ := advances
            exact .write req existing running conn fits _ (Stored.set stored _) _
          · simp only [Thread.advance, writeBack, updateTemplate, updateParams, conn, Conn.exec,
              stored, if_neg fits, finish, Option.some.injEq, Prod.mk.injEq] at advances
            exact failed _ rfl advances.1.symm advances.2.symm
  | deleting =>
      cases conn : label.conn with
      | down =>
          simp only [Thread.advance, TemplateRepository.delete, conn, Conn.exec, finish,
            Option.some.injEq, Prod.mk.injEq] at advances
          exact failed _ rfl advances.1.symm advances.2.symm
      | up =>
          simp only [Thread.advance, TemplateRepository.delete, deleteTemplate, conn, Conn.exec,
            stored, finish, Option.some.injEq, Prod.mk.injEq] at advances
          obtain ⟨rfl, rfl⟩ := advances
          exact .delete running _ (Stored.set stored _) _

theorem step_move {row : TemplateRow} (stored : Stored tenantID id s.db row)
    (taken : step tenantID id s label = some next) : Move tenantID id s row label next := by
  unfold step at taken
  split at taken
  · cases taken
  · rename_i thread running
    split at taken
    · cases taken
    · rename_i advanced db advances
      obtain rfl := Option.some.inj taken
      exact advance_move stored running advances

theorem step_write {row : TemplateRow} {req : UpdateTemplateRequest} {existing : Template}
    (running : s.threads[label.thread]? = some (.holding req existing))
    (stored : Stored tenantID id s.db row) (up : label.conn = .up)
    (fits : row.version + 1 < 2 ^ 31) :
    ∃ db result, step tenantID id s label = some
        { db := db
          threads := s.threads.set label.thread (.returned (.update req) (.ok result)) } ∧
      Stored tenantID id db (overwrite tenantID id existing req label.now row) := by
  have found : s.db.templates.find? (templateAt id tenantID) = some row := stored
  simp only [step, running, Thread.advance, writeBack, updateTemplate, updateParams, up, Conn.exec,
    found, if_pos fits, finish]
  exact ⟨_, _, rfl, Stored.set stored _⟩

end Moves

/-! ## What the calls keep -/

section Invariant

variable {tenantID id : UUID} {start row : TemplateRow} {s next : State} {label : Label}

/-- `row` is where the finished calls lead, and what an update has read it found at
    the start or was set by a finished call. -/
structure Coherent (tenantID id : UUID) (start : TemplateRow) (s : State) (row : TemplateRow) :
    Prop where
  stored : Stored tenantID id s.db row
  apart : ((s.threads.map Thread.call).map Call.sets).Pairwise Apart
  reached : Reached start s.applied row
  carried : ∀ req existing, .holding req existing ∈ s.threads →
    ∀ field value, held existing field = some value →
      content start field = value ∨ ∃ call ∈ s.applied, call.sets field = some value

theorem call_of_applied {thread : Thread} {call : Call} (applied : thread.applied = some call) :
    thread.call = call := by
  cases thread with
  | updating | holding | deleting => cases applied
  | returned call' result =>
      cases result with
      | error => cases applied
      | ok => exact Option.some.inj applied

theorem applied_sublist (threads : List Thread) :
    (threads.filterMap Thread.applied).Sublist (threads.map Thread.call) := by
  induction threads with
  | nil => exact List.Sublist.refl _
  | cons thread rest ih =>
      cases applied : thread.applied with
      | none =>
          rw [List.filterMap_cons_none applied, List.map_cons]
          exact ih.cons _
      | some call =>
          rw [List.filterMap_cons_some applied, List.map_cons, call_of_applied applied]
          exact ih.cons_cons _

theorem State.applied_apart (apart : ((s.threads.map Thread.call).map Call.sets).Pairwise Apart) :
    (s.applied.map Call.sets).Pairwise Apart :=
  apart.sublist ((applied_sublist s.threads).map _)

/-- Every value in the row was there at the start, or was set by a finished call. -/
theorem Coherent.cases (inv : Coherent tenantID id start s row) (field : Field) :
    (∃ call ∈ s.applied, call.sets field = some (content row field)) ∨
      content row field = content start field ∧ ∀ call ∈ s.applied, call.sets field = none := by
  have split := applyAll_cases (State.applied_apart inv.apart) (content start) field
  rw [← inv.reached.content] at split
  simpa only [List.mem_map, exists_exists_and_eq_and, forall_exists_index, and_imp,
    forall_apply_eq_imp_iff₂] using split

theorem coherent_initial {db : Database} {calls : List Call}
    (stored : Stored tenantID id db start) (apart : (calls.map Call.sets).Pairwise Apart) :
    Coherent tenantID id start (initial db calls) start := by
  have same : (calls.map Call.thread).map Thread.call = calls := by
    rw [List.map_map]
    apply List.map_id''
    intro call
    cases call with
    | update | delete => rfl
  have idle : ∀ thread ∈ calls.map Call.thread, thread.applied = none := by
    intro thread member
    obtain ⟨call, _, rfl⟩ := List.mem_map.mp member
    cases call with
    | update | delete => rfl
  have none_ : (initial db calls).applied = [] := List.filterMap_eq_nil_iff.mpr idle
  refine ⟨stored, ?_, ?_, ?_⟩
  · simpa only [initial, same] using apart
  · rw [none_]
    exact Reached.none_
  · intro req existing member
    obtain ⟨call, _, same⟩ := List.mem_map.mp member
    cases call with
    | update | delete => cases same

/-- A step that writes nothing. -/
theorem Coherent.quiet {thread advanced : Thread} (inv : Coherent tenantID id start s row)
    (running : s.threads[label.thread]? = some thread) (call : advanced.call = thread.call)
    (before : thread.applied = none) (after : advanced.applied = none)
    (carried : ∀ req existing, advanced = .holding req existing →
      existing = dbTemplateToDomain row) :
    Coherent tenantID id start { s with threads := s.threads.set label.thread advanced } row := by
  have same : (s.threads.set label.thread advanced).filterMap Thread.applied = s.applied :=
    Threads.filterMap_set running (after.trans before.symm)
  refine ⟨inv.stored, ?_, ?_, ?_⟩
  · rw [Threads.map_set running call]
    exact inv.apart
  · rw [State.applied, same]
    exact inv.reached
  · intro req existing member field value holds
    rw [State.applied, same]
    cases Threads.mem_set member with
    | inr old => exact inv.carried req existing old field value holds
    | inl new =>
        obtain rfl := carried req existing new.symm
        have found := held_row holds
        cases inv.cases field with
        | inl setter =>
            rw [found] at setter
            exact .inr setter
        | inr untouched => exact .inl (untouched.1.symm.trans found)

/-- A step that ends a call with a write. -/
theorem Coherent.write {thread : Thread} {db : Database} {row' : TemplateRow} {result : Template}
    (inv : Coherent tenantID id start s row)
    (running : s.threads[label.thread]? = some thread) (before : thread.applied = none)
    (stored : Stored tenantID id db row')
    (reached : Reached start (s.applied ++ [thread.call]) row') :
    Coherent tenantID id start
      { db := db, threads := s.threads.set label.thread (.returned thread.call (.ok result)) }
      row' := by
  have order : ((s.threads.set label.thread (.returned thread.call (.ok result))).filterMap
      Thread.applied).Perm (s.applied ++ [thread.call]) :=
    Threads.filterMap_set_perm running before rfl
  have apart : (((s.threads.set label.thread (.returned thread.call (.ok result))).map
      Thread.call).map Call.sets).Pairwise Apart := by
    have same : (Thread.returned thread.call (.ok result)).call = thread.call := rfl
    rw [Threads.map_set running same]
    exact inv.apart
  refine ⟨stored, apart, reached.perm ?_ order, ?_⟩
  · exact apart.sublist ((applied_sublist _).map _)
  · intro req existing member field value holds
    cases Threads.mem_set member with
    | inl new => cases new
    | inr old =>
        cases inv.carried req existing old field value holds with
        | inl first => exact .inl first
        | inr setter =>
            obtain ⟨call, done, sets⟩ := setter
            exact .inr ⟨call, order.mem_iff.mpr (List.mem_append_left _ done), sets⟩

/-- An undisturbed step keeps the row where the finished calls lead. -/
theorem Coherent.step (inv : Coherent tenantID id start s row)
    (undisturbed : Undisturbed tenantID id s label)
    (taken : step tenantID id s label = some next) :
    ∃ row', Coherent tenantID id start next row' := by
  cases step_move inv.stored taken with
  | read req running =>
      refine ⟨row, inv.quiet running rfl rfl rfl ?_⟩
      rintro _ _ ⟨⟩
      rfl
  | write req existing running up fits db stored result =>
      have there := undisturbed req existing row running inv.stored up fits
      exact ⟨_, inv.write running rfl stored (inv.reached.update there)⟩
  | delete running db stored result =>
      exact ⟨_, inv.write running rfl stored inv.reached.delete⟩
  | fail thread running unfinished e =>
      refine ⟨row, inv.quiet running rfl unfinished rfl ?_⟩
      rintro _ _ ⟨⟩

theorem Coherent.kept (inv : Coherent tenantID id start s row) : Kept tenantID id start s := by
  have apart := State.applied_apart inv.apart
  refine ⟨row, inv.stored, ?_, ?_⟩
  · intro call done field value sets
    rw [inv.reached.content]
    exact applyAll_of_mem apart (List.mem_map_of_mem done) sets
  · intro order perm now
    exact inv.reached.unique ((Reached.sequential start now order).perm apart perm.symm)

/-- A disturbed write undoes a finished call. -/
theorem Coherent.undisturbed (inv : Coherent tenantID id start s row)
    (keeps : ∀ next, TemplateUpdates.step tenantID id s label = some next →
      Kept tenantID id start next) :
    Undisturbed tenantID id s label := by
  intro req existing row' running stored up fits field value unset holds
  obtain rfl : row = row' := Option.some.inj (inv.stored.symm.trans stored)
  obtain ⟨db, result, taken, written⟩ := step_write running stored up fits
  obtain ⟨row', stored', set_, _⟩ := keeps _ taken
  obtain rfl := Option.some.inj (written.symm.trans stored')
  have now_ : content (overwrite tenantID id existing req label.now row) field = value := by
    rw [content_overwrite, Patch.apply_of_none unset, Patch.apply_of_some holds]
  cases inv.cases field with
  | inl setter =>
      obtain ⟨call, done, sets⟩ := setter
      have order : ((s.threads.set label.thread (.returned (.update req) (.ok result))).filterMap
          Thread.applied).Perm (s.applied ++ [.update req]) :=
        Threads.filterMap_set_perm running rfl rfl
      have still := order.mem_iff.mpr (List.mem_append_left _ done)
      exact (set_ call still field _ sets).symm.trans now_
  | inr untouched =>
      obtain ⟨same, skipped⟩ := untouched
      cases inv.carried req existing (List.mem_of_getElem? running) field value holds with
      | inl first => exact same.trans first
      | inr setter =>
          obtain ⟨call, done, sets⟩ := setter
          simp [skipped call done] at sets

end Invariant

/-- In all states of a run the finished calls are kept, exactly when no update writes
    back a field that has changed since it read it. -/
theorem updates_kept_iff_undisturbed (tenantID id : UUID) (db : Database) (start : TemplateRow)
    (calls : List Call) (labels : List Label) (stored : Stored tenantID id db start)
    (apart : (calls.map Call.sets).Pairwise Apart) :
    Transition.Guarded (step tenantID id)
        (fun s label => ∀ next, step tenantID id s label = some next → Kept tenantID id start next)
        (initial db calls) labels ↔
      Transition.Guarded (step tenantID id) (Undisturbed tenantID id) (initial db calls) labels := by
  have keeps : ∀ s label next, (∃ row, Coherent tenantID id start s row) → True →
      Undisturbed tenantID id s label → step tenantID id s label = some next →
      ∃ row, Coherent tenantID id start next row := by
    intro s label next coherent _ undisturbed taken
    obtain ⟨row, inv⟩ := coherent
    exact inv.step undisturbed taken
  have agree : ∀ s label, (∃ row, Coherent tenantID id start s row) → True →
      ((∀ next, step tenantID id s label = some next → Kept tenantID id start next) ↔
        Undisturbed tenantID id s label) := by
    intro s label coherent _
    obtain ⟨row, inv⟩ := coherent
    constructor
    · exact inv.undisturbed
    · intro undisturbed next taken
      obtain ⟨row', inv'⟩ := inv.step undisturbed taken
      exact inv'.kept
  exact Transition.guarded_congr_under keeps agree ⟨start, coherent_initial stored apart⟩
    (Transition.guarded_true labels _)

/-- The template of the samples below. -/
def welcome : TemplateRow :=
  { id := 7
    tenantID := some 1
    name := "welcome"
    channel := .email
    subjectTemplate := some "Hello"
    bodyTemplate := "Dear reader"
    metadata := none
    version := 1
    isActive := true
    createdAt := 0
    updatedAt := 0 }

def shelf : Database := (Database.ofTenants [1]).addTemplate welcome (by decide)

def setSubject : Call :=
  .update
    { subjectTemplate := some "Welcome", bodyTemplate := none, metadata := none, isActive := none }

def setBody : Call :=
  .update { subjectTemplate := none, bodyTemplate := some "Hi", metadata := none, isActive := none }

theorem setSubject_apart_setBody : Apart setSubject.sets setBody.sets := by
  intro field
  cases field with
  | subjectTemplate | metadata | isActive => exact .inr rfl
  | bodyTemplate => exact .inl rfl

theorem setBody_apart_delete : Apart setBody.sets Call.delete.sets := by
  intro field
  cases field with
  | subjectTemplate | metadata | bodyTemplate => exact .inr rfl
  | isActive => exact .inl rfl

/-- The next statements of the calls at these positions, one after the other. -/
def schedule (positions : List Nat) : List Label :=
  positions.map fun i => { thread := i, conn := .up, now := 10 }

theorem updates_kept_in_turn :
    Transition.Guarded (step 1 7)
        (fun s label => ∀ next, step 1 7 s label = some next → Kept 1 7 welcome next)
        (initial shelf [setSubject, setBody]) (schedule [0, 0, 1, 1]) ↔
      Transition.Guarded (step 1 7) (Undisturbed 1 7) (initial shelf [setSubject, setBody])
        (schedule [0, 0, 1, 1]) :=
  updates_kept_iff_undisturbed 1 7 shelf welcome [setSubject, setBody] (schedule [0, 0, 1, 1]) rfl
    (by simpa using setSubject_apart_setBody)

/-- Both updates read before either writes: the subject is back to what it was. An
    update that reads before a delete and writes after it makes the template active
    again. -/
theorem overlapping_update_undoes :
    ([setSubject, setBody].map Call.sets).Pairwise Apart ∧
      (Transition.run (step 1 7) (initial shelf [setSubject, setBody]) (schedule [0, 1, 0, 1])).map
          (fun s => (s.applied, s.db.templates.map (·.subjectTemplate))) =
        some ([setSubject, setBody], [some "Hello"]) ∧
      ([setBody, .delete].map Call.sets).Pairwise Apart ∧
      (Transition.run (step 1 7) (initial shelf [setBody, .delete]) (schedule [0, 1, 0])).map
          (fun s => (s.applied, s.db.templates.map (·.isActive))) =
        some ([setBody, .delete], [true]) := by
  refine ⟨by simpa using setSubject_apart_setBody, by decide +kernel,
    by simpa using setBody_apart_delete, by decide +kernel⟩

end NotifyHub.TemplateUpdates
