import NotifyHub.Lifecycle.Idempotency

/-! # Sends with an empty key

Send takes an empty idempotency key for no key and does not look it up. Create stores it all
the same, and the column is UNIQUE over all tenants: the first notification with the empty
key is stored, every later one is refused. Texts and payloads are taken to be without NUL, which
Postgres keeps in no column.
-/

namespace NotifyHub.Lifecycle

open Database NotificationRepository
open NotificationService hiding getByID list cancel

/-! ## Calls that are answered -/

/-- No key, or the empty one. -/
def Keyless (req : SendRequest) : Prop := req.idempotencyKey = none ∨ req.idempotencyKey = some ""

instance (req : SendRequest) : Decidable (Keyless req) := inferInstanceAs (Decidable (_ ∨ _))

/-- Sends without a key and their steps. Database and broker answer, and ids that the database
    generates are new. -/
def Working (s : State) : Label → Prop
  | .call _ req => Keyless req
  | .step _ a => a.fault = none ∧ a.id ∉ s.shared.db.notifications.map (·.id)
  | _ => False

instance (s : State) : ∀ label, Decidable (Working s label)
  | .call _ req => inferInstanceAs (Decidable (Keyless req))
  | .step _ _ => inferInstanceAs (Decidable (_ ∧ _))
  | .callBulk _ _ | .tick | .deliver _ | .cancel _ _ _ | .replay _ _ => .isFalse id

/-- The request can be stored by itself: its references exist and its texts fit their columns. -/
def Insertable (db : Database) (tenantID : UUID) (req : SendRequest) : Prop :=
  tenantID ∈ db.tenants ∧ (∀ id ∈ req.templateID, id ∈ db.templates.map (·.id)) ∧
    (varchar 100 req.type).isSome ∧ (varchar 255 req.recipientID).isSome ∧
      (varchar 500 req.recipientAddress).isSome

/-- No notification has the key if it is the empty one. -/
def EmptyKeyFree (db : Database) (req : SendRequest) : Prop :=
  req.idempotencyKey = some "" → ∀ row ∈ db.notifications, row.idempotencyKey ≠ some ""

/-- There is room for the row that the thread is about to insert. -/
def Thread.FindsRoom (db : Database) : Thread → Prop
  | .send tenantID req .create _ => Insertable db tenantID req ∧ EmptyKeyFree db req
  | _ => True

instance (db : Database) : ∀ t : Thread, Decidable (t.FindsRoom db)
  | .send _ _ .create _ =>
      inferInstanceAs (Decidable ((_ ∧ _ ∧ _ ∧ _ ∧ _) ∧ (_ → ∀ row ∈ db.notifications, _)))
  | .send _ _ .start _ | .send _ _ (.schedule _) _ | .send _ _ (.publish _) _
  | .send _ _ (.markQueued _) _ | .send _ _ (.returned _) _ | .tick _ | .process _ _ _ =>
      .isTrue trivial

/-- A Send that comes to its insert finds room for it. -/
def Room (s : State) : Label → Prop
  | .step i _ => ∀ t ∈ s.threads[i]?, t.FindsRoom s.shared.db
  | _ => True

instance (s : State) : ∀ label, Decidable (Room s label)
  | .step i _ => inferInstanceAs (Decidable (∀ t ∈ s.threads[i]?, _))
  | .call _ _ | .callBulk _ _ | .tick | .deliver _ | .cancel _ _ _ | .replay _ _ => .isTrue trivial

/-- A call that passed validation has failed. -/
def Thread.Failed : Thread → Prop
  | .send _ req (.returned (.error _)) _ => validateSend req = .ok ()
  | _ => False

instance : ∀ t : Thread, Decidable t.Failed
  | .send _ req (.returned (.error _)) _ =>
      match checked : validateSend req with
      | .ok () => .isTrue checked
      | .error _ => .isFalse fun passed => by simp [Thread.Failed, checked] at passed
  | .send _ _ (.returned (.ok _)) _ | .send _ _ .start _ | .send _ _ .create _
  | .send _ _ (.schedule _) _ | .send _ _ (.publish _) _ | .send _ _ (.markQueued _) _ | .tick _
  | .process _ _ _ => .isFalse id

/-- How many outside calls a Send may still make. -/
def SendPc.remaining : SendPc → Nat
  | .start => 5
  | .create => 4
  | .schedule _ => 3
  | .publish _ => 2
  | .markQueued _ => 1
  | .returned _ => 0

/-- Every call that passes validation gets on to its return and succeeds, with a notification of
    its tenant that no other call has. -/
structure OwnNotifications (cfg : Config) (s : State) : Prop where
  succeeds : ∀ t ∈ s.threads, ¬t.Failed
  returns : ∀ i tenantID req pc, s.threads[i]? = some (.send tenantID req pc []) →
    pc.remaining ≠ 0 → ∀ a, ∃ s' pc', step cfg s (.step i a) = some s' ∧
      s'.threads[i]? = some (.send tenantID req pc' []) ∧ pc'.remaining < pc.remaining
  own : ∀ tenantID req n rest, .send tenantID req (.returned (.ok n)) rest ∈ s.threads →
    Owned s.shared.db n.id tenantID
  apart : Threads.Exclusive (fun t id => t.success = some id) s.threads

/-! ## The insert -/

section Insert

variable {db : Database} {tenantID id : UUID} {req : SendRequest} {now : Time}

theorem row_isSome_iff (keyless : Keyless req) :
    ((insertParams tenantID req).row id now).isSome ↔
      (varchar 100 req.type).isSome ∧ (varchar 255 req.recipientID).isSome ∧
        (varchar 500 req.recipientAddress).isSome := by
  have key : varcharOpt 255 req.idempotencyKey = some req.idempotencyKey := by
    rcases keyless with none_ | empty
    · rw [none_]
      rfl
    · rw [empty]
      rfl
  have address : varcharOpt 500 (some req.recipientAddress) =
      (varchar 500 req.recipientAddress).map some := rfl
  simp only [InsertNotificationParams.row, insertParams, key, address]
  cases varchar 100 req.type with
  | none => simp
  | some type =>
      cases varchar 255 req.recipientID with
      | none => simp
      | some recipientID => cases varchar 500 req.recipientAddress <;> simp

theorem varcharOpt_keyless {stored : Option String} (keyless : Keyless req)
    (fits : varcharOpt 255 req.idempotencyKey = some stored) : stored = req.idempotencyKey := by
  rcases keyless with none_ | empty
  · rw [none_] at fits ⊢
    exact (Option.some.inj fits).symm
  · rw [empty] at fits ⊢
    exact (Option.some.inj fits).symm

theorem accepts_iff {row : NotificationRow} (keyless : Keyless req)
    (fresh : id ∉ db.notifications.map (·.id))
    (fits : (insertParams tenantID req).row id now = some row) :
    db.AcceptsNotification row ↔
      tenantID ∈ db.tenants ∧ (∀ x ∈ req.templateID, x ∈ db.templates.map (·.id)) ∧
        EmptyKeyFree db req := by
  obtain ⟨sameID, tenant, _, _, _, template, key⟩ := row_of_insertParams fits
  have free : (∀ k ∈ row.idempotencyKey, k ∉ db.notifications.filterMap (·.idempotencyKey)) ↔
      EmptyKeyFree db req := by
    rw [varcharOpt_keyless keyless key]
    rcases keyless with none_ | empty
    · simp [EmptyKeyFree, none_]
    · simp [EmptyKeyFree, empty]
  unfold Database.AcceptsNotification
  rw [free, sameID, tenant, template]
  simp only [fresh, not_false_eq_true, true_and, Option.mem_def, Option.some.injEq, forall_eq']
  exact and_rotate

/-- With a new id, the insert succeeds if and only if there is room for it. -/
theorem create_ok_iff (keyless : Keyless req) (fresh : id ∉ db.notifications.map (·.id)) :
    (∃ n db', create .up db tenantID req id now = .ok (n, db')) ↔
      Insertable db tenantID req ∧ EmptyKeyFree db req := by
  have fits : ((insertParams tenantID req).row id now).isSome ↔ _ := row_isSome_iff keyless
  constructor
  · rintro ⟨n, db', created⟩
    obtain ⟨_, row, taken, _, accepted, _⟩ := create_ok created
    obtain ⟨type, recipientID, address⟩ := fits.mp (by simp [taken])
    obtain ⟨tenant, template, free⟩ := (accepts_iff keyless fresh taken).mp accepted
    exact ⟨⟨tenant, template, type, recipientID, address⟩, free⟩
  · rintro ⟨⟨tenant, template, type, recipientID, address⟩, free⟩
    obtain ⟨row, taken⟩ := Option.isSome_iff_exists.mp (fits.mpr ⟨type, recipientID, address⟩)
    have accepted := (accepts_iff keyless fresh taken).mpr ⟨tenant, template, free⟩
    refine ⟨dbNotificationToDomain row, db.addNotification row accepted, ?_⟩
    simp only [create, Conn.exec, insertNotification, taken, dif_pos accepted]

end Insert

/-! ## Steps -/

/-- The steps of an answered Send without a key. -/
inductive Answered (cfg : Config) (i : Nat) (a : Answer) (tenantID : UUID) (req : SendRequest)
    (sh : Shared) : SendPc → Shared → SendPc → Prop where
  | invalid {e} (broken : validateSend req = .error e) :
      Answered cfg i a tenantID req sh .start sh (.returned (.error (.app e)))
  | valid (passed : validateSend req = .ok ()) :
      Answered cfg i a tenantID req sh .start sh .create
  | rejected {e} (refused : create .up sh.db tenantID req a.id a.now = .error e) :
      Answered cfg i a tenantID req sh .create sh (.returned (.error (.app e)))
  | created {n db} (inserted : create .up sh.db tenantID req a.id a.now = .ok (n, db)) :
      Answered cfg i a tenantID req sh .create { sh with db := db } (.schedule n)
  | later {n} : Answered cfg i a tenantID req sh (.schedule n) sh (.returned (.ok n))
  | due {n} : Answered cfg i a tenantID req sh (.schedule n) sh (.publish n)
  | published {n} :
      Answered cfg i a tenantID req sh (.publish n)
        (sh.publish (NotificationService.enqueue cfg.maxRetries tenantID n a.now) (some i))
        (.markQueued n)
  | queued {n result db}
      (updated : updateStatus .up sh.db n.id .queued a.now = .ok (result, db)) :
      Answered cfg i a tenantID req sh (.markQueued n) { sh with db := db } (.returned (.ok result))

/-- What a label does to a system of answered Sends. -/
inductive SendsOn (cfg : Config) (s : State) : Label → State → Prop where
  | called {tenantID req} (keyless : Keyless req) :
      SendsOn cfg s (.call tenantID req)
        { s with threads := s.threads ++ [.send tenantID req .start []] }
  | stepped {i a tenantID req pc sh pc'}
      (running : s.threads[i]? = some (.send tenantID req pc [])) (keyless : Keyless req)
      (fresh : a.id ∉ s.shared.db.notifications.map (·.id))
      (answered : Answered cfg i a tenantID req s.shared pc sh pc') :
      SendsOn cfg s (.step i a)
        { shared := sh, threads := s.threads.set i (.send tenantID req pc' []) }

/-- The calls that have been made and what they hold. -/
structure Calls (s : State) : Prop where
  sends : ∀ t ∈ s.threads, ∃ tenantID req pc, t = .send tenantID req pc [] ∧ Keyless req ∧
    (pc = .create → validateSend req = .ok ()) ∧ ∀ n ∈ t.copies, Owned s.shared.db n.id tenantID
  apart : Threads.Exclusive (fun t id => ∃ n ∈ t.copies, n.id = id) s.threads

section Run

variable {cfg : Config} {s s' : State} {label : Label} {i : Nat} {a : Answer} {tenantID : UUID}
  {req : SendRequest} {sh sh' : Shared} {pc pc' : SendPc}

theorem findExisting_keyless (keyless : Keyless req) (conn : Conn) (db : Database) :
    findExisting conn db tenantID req = .ok none := by
  rcases keyless with none_ | empty
  · simp [findExisting, none_]
  · simp [findExisting, empty]

theorem sendStep_answered (up : a.fault = none) (keyless : Keyless req)
    (held : ∀ n ∈ (Thread.send tenantID req pc []).copies, Owned sh.db n.id tenantID)
    (unfinished : pc.remaining ≠ 0) :
    Answered cfg i a tenantID req sh pc (sendStep cfg i a tenantID req sh pc).1
      (sendStep cfg i a tenantID req sh pc).2 := by
  have conn : a.conn = .up := by simp [Answer.conn, up]
  cases pc with
  | start =>
      simp only [sendStep, findExisting_keyless keyless]
      cases checked : validateSend req with
      | error e => exact .invalid checked
      | ok _ => exact .valid checked
  | create =>
      simp only [sendStep, conn]
      cases inserted : create .up sh.db tenantID req a.id a.now with
      | error e => exact .rejected inserted
      | ok result => exact .created inserted
  | schedule n =>
      simp only [sendStep]
      cases scheduledAfter req a.now with
      | true => exact .later
      | false => exact .due
  | publish n =>
      simp only [sendStep, up]
      exact .published
  | markQueued n =>
      obtain ⟨row, stored, same, _⟩ := held n (by simp [Thread.copies])
      obtain ⟨result, db, updated⟩ : ∃ result db,
          updateStatus .up sh.db n.id .queued a.now = .ok (result, db) := by
        rw [← same]
        exact ⟨_, _, updateStatus_of_mem stored⟩
      simp only [sendStep, conn, updated]
      exact .queued updated
  | returned result => exact absurd rfl unfinished

theorem returned_of_remaining (ended : pc.remaining = 0) : ∃ result, pc = .returned result := by
  cases pc with
  | returned result => exact ⟨result, rfl⟩
  | start | create | schedule | publish | markQueued => simp [SendPc.remaining] at ended

theorem thread_step_send (unfinished : pc.remaining ≠ 0) :
    (Thread.send tenantID req pc []).step cfg i a sh =
      some ((sendStep cfg i a tenantID req sh pc).1,
        .send tenantID req (sendStep cfg i a tenantID req sh pc).2 []) := by
  cases pc with
  | returned result => exact absurd rfl unfinished
  | start | create | schedule | publish | markQueued => rfl

theorem Calls.sendsOn (calls : Calls s) (working : Working s label)
    (taken : step cfg s label = some s') : SendsOn cfg s label s' := by
  cases label with
  | call tenantID req =>
      obtain rfl := Option.some.inj taken
      exact .called working
  | step i a =>
      simp only [step] at taken
      cases running : s.threads[i]? with
      | none => simp [running] at taken
      | some t =>
          obtain ⟨tenantID, req, pc, rfl, keyless, _, held⟩ :=
            calls.sends t (List.mem_of_getElem? running)
          by_cases ended : pc.remaining = 0
          · obtain ⟨result, rfl⟩ := returned_of_remaining ended
            simp [running, Thread.step] at taken
          · simp only [running, thread_step_send ended, Option.some.injEq] at taken
            exact taken ▸ .stepped running keyless working.2
              (sendStep_answered working.1 keyless held ended)
  | callBulk | tick | deliver | cancel | replay => exact working.elim

theorem sendStep_remaining (unfinished : pc.remaining ≠ 0) :
    (sendStep cfg i a tenantID req sh pc).2.remaining < pc.remaining := by
  cases pc with
  | start =>
      simp only [sendStep]
      cases validateSend req with
      | error e => simp [SendPc.remaining]
      | ok _ =>
          cases findExisting a.conn sh.db tenantID req with
          | error e => simp [SendPc.remaining]
          | ok found => cases found <;> simp [SendPc.remaining]
  | create =>
      simp only [sendStep]
      cases create a.conn sh.db tenantID req a.id a.now <;> simp [SendPc.remaining]
  | schedule n =>
      simp only [sendStep]
      cases scheduledAfter req a.now <;> simp [SendPc.remaining]
  | publish n =>
      simp only [sendStep]
      cases a.fault <;> simp [SendPc.remaining]
  | markQueued n =>
      simp only [sendStep]
      cases updateStatus a.conn sh.db n.id .queued a.now <;> simp [SendPc.remaining]
  | returned result => exact absurd rfl unfinished

/-- A call that has not returned can take its next step, and has fewer before it then. -/
theorem step_send (running : s.threads[i]? = some (.send tenantID req pc []))
    (unfinished : pc.remaining ≠ 0) (a : Answer) :
    ∃ s' pc', step cfg s (.step i a) = some s' ∧
      s'.threads[i]? = some (.send tenantID req pc' []) ∧ pc'.remaining < pc.remaining := by
  have onward : step cfg s (.step i a) =
      some
        { shared := (sendStep cfg i a tenantID req s.shared pc).1
          threads := s.threads.set i
            (.send tenantID req (sendStep cfg i a tenantID req s.shared pc).2 []) } := by
    simp only [step, running, thread_step_send unfinished]
  exact ⟨_, _, onward, Threads.set_self running, sendStep_remaining unfinished⟩

namespace Answered

theorem grows (answered : Answered cfg i a tenantID req sh pc sh' pc') : Grows sh sh' := by
  cases answered with
  | created inserted =>
      obtain ⟨_, row, _, _, accepted, rfl⟩ := create_ok inserted
      exact @Grows.of_add _ _ row accepted rfl rfl
  | published => exact .of_publish _ _
  | queued updated =>
      obtain ⟨_, _, _, _, rfl⟩ := updateStatus_ok updated
      exact .of_stamp rfl rfl
  | invalid | valid | rejected | later | due => exact .of_eq rfl rfl

/-- What a Send holds it held before, or it has just inserted it for its tenant. -/
theorem holds {n : Notification} (answered : Answered cfg i a tenantID req sh pc sh' pc')
    (held : n ∈ (Thread.send tenantID req pc' []).copies) :
    (∃ m ∈ (Thread.send tenantID req pc []).copies, m.id = n.id) ∨
      n.id = a.id ∧ Owned sh'.db n.id tenantID := by
  cases answered with
  | created inserted =>
      obtain ⟨_, row, fits, rfl, accepted, rfl⟩ := create_ok inserted
      obtain rfl := List.mem_singleton.mp held
      obtain ⟨sameID, tenant, _⟩ := row_of_insertParams fits
      exact .inr ⟨sameID, row, List.mem_append_right _ (List.mem_singleton_self _), rfl, tenant⟩
  | queued updated =>
      obtain ⟨row, _, same, rfl, _⟩ := updateStatus_ok updated
      obtain rfl := List.mem_singleton.mp held
      exact .inl ⟨_, List.mem_singleton_self _, same.symm⟩
  | later | due | published => exact .inl ⟨n, held, rfl⟩
  | invalid | valid | rejected => simp [Thread.copies] at held

theorem owned (answered : Answered cfg i a tenantID req sh pc sh' pc')
    (before : ∀ n ∈ (Thread.send tenantID req pc []).copies, Owned sh.db n.id tenantID) :
    ∀ n ∈ (Thread.send tenantID req pc' []).copies, Owned sh'.db n.id tenantID := by
  intro n held
  rcases answered.holds held with ⟨m, had, same⟩ | ⟨_, own⟩
  · exact same ▸ answered.grows.owned (before m had)
  · exact own

theorem validated (answered : Answered cfg i a tenantID req sh pc sh' pc') (next : pc' = .create) :
    validateSend req = .ok () := by
  cases answered with
  | valid passed => exact passed
  | invalid | rejected | created | later | due | published | queued => cases next

/-- A Send fails at its insert, if there is no room for it. -/
theorem not_failed_iff (answered : Answered cfg i a tenantID req sh pc sh' pc')
    (keyless : Keyless req) (fresh : a.id ∉ sh.db.notifications.map (·.id))
    (passed : pc = .create → validateSend req = .ok ()) :
    ¬(Thread.send tenantID req pc' []).Failed ↔
      (Thread.send tenantID req pc []).FindsRoom sh.db := by
  cases answered with
  | invalid broken => simp [Thread.Failed, Thread.FindsRoom, broken]
  | rejected refused =>
      have full : ¬(Insertable sh.db tenantID req ∧ EmptyKeyFree sh.db req) := by
        intro room
        obtain ⟨n, db, inserted⟩ : ∃ n db, create .up sh.db tenantID req a.id a.now = .ok (n, db) :=
          (create_ok_iff keyless fresh).mpr room
        simp [refused] at inserted
      simp [Thread.Failed, Thread.FindsRoom, passed rfl, full]
  | created inserted =>
      have room := (create_ok_iff keyless fresh).mp ⟨_, _, inserted⟩
      simp [Thread.Failed, Thread.FindsRoom, room]
  | valid | later | due | published | queued => simp [Thread.Failed, Thread.FindsRoom]

end Answered

namespace Calls

theorem initial (db : Database) : Calls (initial db) where
  sends := by simp [Lifecycle.initial]
  apart := .empty

theorem next (calls : Calls s) (on : SendsOn cfg s label s') : Calls s' := by
  cases on with
  | called keyless =>
      refine ⟨fun t member => ?_, calls.apart.append fun id held => ?_⟩
      · rcases List.mem_append.mp member with old | new
        · exact calls.sends t old
        · obtain rfl := List.mem_singleton.mp new
          exact ⟨_, _, _, rfl, keyless, nofun, by simp [Thread.copies]⟩
      · simp [Thread.copies] at held
  | stepped running keyless fresh answered =>
      obtain ⟨_, _, _, same, _, _, held⟩ := calls.sends _ (List.mem_of_getElem? running)
      cases same
      refine ⟨fun t member => ?_, calls.apart.set running ?_⟩
      · rcases Threads.mem_set member with rfl | old
        · exact ⟨_, _, _, rfl, keyless, answered.validated, answered.owned held⟩
        · obtain ⟨owner, req, pc, rfl, keyless, passed, held⟩ := calls.sends t old
          exact ⟨owner, req, pc, rfl, keyless, passed,
            fun n member => answered.grows.owned (held n member)⟩
      · rintro id ⟨n, gained, rfl⟩
        rcases answered.holds gained with had | ⟨new, _⟩
        · exact .inl had
        · -- the id is new, so no other call holds a stored notification with it
          refine .inr ?_
          rintro t member ⟨m, other, same⟩
          obtain ⟨_, _, _, rfl, _, _, held⟩ := calls.sends t member
          obtain ⟨row, stored, sameID, _⟩ := held m other
          exact fresh (List.mem_map.mpr ⟨row, stored, sameID.trans (same.trans new)⟩)

theorem step (calls : Calls s) (working : Working s label)
    (taken : Lifecycle.step cfg s label = some s') : Calls s' :=
  calls.next (calls.sendsOn working taken)

/-- With no failed call so far, a step makes one fail exactly if it lacks room. -/
theorem failed_iff (calls : Calls s) (free : ¬∃ t ∈ s.threads, t.Failed)
    (working : Working s label) (taken : Lifecycle.step cfg s label = some s') :
    (¬∃ t ∈ s'.threads, t.Failed) ↔ Room s label := by
  cases calls.sendsOn working taken with
  | called keyless =>
      refine iff_of_true ?_ trivial
      rintro ⟨t, member, failed⟩
      rcases List.mem_append.mp member with old | new
      · exact free ⟨t, old, failed⟩
      · obtain rfl := List.mem_singleton.mp new
        exact failed
  | stepped running keyless fresh answered =>
      obtain ⟨_, _, _, same, _, passed, _⟩ := calls.sends _ (List.mem_of_getElem? running)
      cases same
      have here := answered.not_failed_iff keyless fresh passed
      constructor
      · intro kept t found
        obtain rfl := Option.some.inj (running.symm.trans found)
        exact here.mp fun failed => kept ⟨_, Threads.mem_set_self running, failed⟩
      · rintro room ⟨t, member, failed⟩
        rcases Threads.mem_set member with rfl | old
        · exact here.mpr (room _ running) failed
        · exact free ⟨t, old, failed⟩

/-- A failed call has returned and takes no more steps. -/
theorem failed_stays (calls : Calls s) (failed : ∃ t ∈ s.threads, t.Failed)
    (working : Working s label) (taken : Lifecycle.step cfg s label = some s') :
    ∃ t ∈ s'.threads, t.Failed := by
  obtain ⟨t, member, bad⟩ := failed
  cases calls.sendsOn working taken with
  | called => exact ⟨t, List.mem_append_left _ member, bad⟩
  | stepped running keyless fresh answered =>
      refine ⟨t, Threads.mem_set_of_ne running member ?_, bad⟩
      rintro rfl
      cases answered <;> exact bad

theorem own {n : Notification} {rest : List SendRequest} (calls : Calls s)
    (returned : .send tenantID req (.returned (.ok n)) rest ∈ s.threads) :
    Owned s.shared.db n.id tenantID := by
  obtain ⟨_, _, _, same, _, _, held⟩ := calls.sends _ returned
  cases same
  exact held n (List.mem_singleton_self _)

end Calls

theorem holds_of_success {t : Thread} {id : UUID} (succeeded : t.success = some id) :
    ∃ n ∈ t.copies, n.id = id := by
  unfold Thread.success at succeeded
  split at succeeded
  · exact ⟨_, List.mem_singleton_self _, Option.some.inj succeeded⟩
  · cases succeeded

/-- Sends without a key all get notifications of their own if and only if each finds room for its
    insert. -/
theorem own_notifications_iff_room {db : Database} {labels : List Label}
    (working : Guarded cfg Working (initial db) labels)
    (finished : run cfg (initial db) labels = some s) :
    OwnNotifications cfg s ↔ Guarded cfg Room (initial db) labels := by
  have free : ¬∃ t ∈ (initial db).threads, t.Failed := by simp [initial]
  have none_iff : (¬∃ t ∈ s.threads, t.Failed) ↔ Guarded cfg Room (initial db) labels :=
    Transition.run_free_iff (fun _ _ _ inv allowed taken => Calls.step inv allowed taken)
      (fun _ _ _ inv failed allowed taken => Calls.failed_stays inv failed allowed taken)
      (fun _ _ _ inv free allowed taken => Calls.failed_iff inv free allowed taken)
      (Calls.initial db) free working finished
  rw [← none_iff]
  constructor
  · rintro own ⟨t, member, failed⟩
    exact own.succeeds t member failed
  · intro none_
    have calls : Calls s :=
      Transition.Guarded.invariant (fun _ _ _ inv allowed taken => Calls.step inv allowed taken)
        (Calls.initial db) working finished
    exact
      { succeeds := fun t member failed => none_ ⟨t, member, failed⟩
        returns := fun i tenantID req pc running unfinished a => step_send running unfinished a
        own := fun tenantID req n rest member => calls.own member
        apart := fun i j t u id here there one other =>
          calls.apart i j t u id here there (holds_of_success one) (holds_of_success other) }

end Run

/-- The request with an empty key. -/
def unkeyed : SendRequest := { welcome with idempotencyKey := some "" }

def globex : UUID := 2

/-- The Send of thread `i` up to its return, with its notification stored under the id. -/
def sendAs (i : Nat) (id : UUID) : List Label :=
  List.replicate 2 (.step i { id := id }) ++ List.replicate 3 (.step i { id := 9 })

/-- Two tenants send without a key, then one of them with an empty key. -/
def oneEmptyKey : List Label :=
  [.call acme welcome, .call globex welcome, .call acme unkeyed] ++ sendAs 1 0 ++ sendAs 0 1 ++
    sendAs 2 2

theorem own_notifications_of_one_empty_key :
    ∃ s, run plain (initial (.ofTenants [acme, globex])) oneEmptyKey = some s ∧
      OwnNotifications plain s := by
  obtain ⟨s, finished⟩ : ∃ s, run plain (initial (.ofTenants [acme, globex])) oneEmptyKey = some s :=
    Option.isSome_iff_exists.mp (by decide +kernel)
  exact ⟨s, finished, (own_notifications_iff_room (by decide +kernel) finished).mpr
    (by decide +kernel)⟩

/-- Two tenants each send with an empty key. -/
def twoEmptyKeys : List Label :=
  [.call acme unkeyed, .call globex unkeyed] ++ sendAs 0 0 ++ List.replicate 2 (.step 1 { id := 1 })

/-- The second Send finds the empty key taken and fails. -/
theorem second_empty_key_fails :
    Guarded plain Working (initial (.ofTenants [acme, globex])) twoEmptyKeys ∧
      ∃ s, run plain (initial (.ofTenants [acme, globex])) twoEmptyKeys = some s ∧
        ¬OwnNotifications plain s := by
  refine ⟨by decide +kernel, ?_⟩
  have failing : ∃ s ∈ run plain (initial (.ofTenants [acme, globex])) twoEmptyKeys,
      ∃ t ∈ s.threads, t.Failed := by
    decide +kernel
  obtain ⟨s, finished, t, member, failed⟩ := failing
  exact ⟨s, finished, fun own => own.succeeds t member failed⟩

end NotifyHub.Lifecycle
