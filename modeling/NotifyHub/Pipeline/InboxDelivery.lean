import NotifyHub.Pipeline.Course
import NotifyHub.Pipeline.Persistence
import NotifyHub.Providers
import NotifyHub.Realtime.Reconnect
import NotifyHub.Worker.Replay

/-! # Process and the in-app provider

A call of Process whose provider is the in-app one. The answers to its Sends are no longer
free: each is what `Provider.Send` returns on the inbox as it is by then, and the inbox goes
along with the call. The answers to the outside calls of Send, the Insert and the publish,
are as free as the others.
-/

namespace NotifyHub.Pipeline

open Lifecycle NotificationRepository
open NotifyHub.Stream (DeliveryError draft extractTitleBody persist)

/-! ## Send -/

/-- What becomes of a message that is stored. -/
inductive Broadcast where
  | unmarshalled
  | unpublished
  | published
  deriving Repr, DecidableEq

/-- `Provider.Send`. -/
def sendInApp (conn : Conn) (s : Storage) (n : Notification) (id : UUID) (now : Time)
    (broadcast : Broadcast) : Except DeliveryError Unit × Storage :=
  match persist conn s n id now with
  | (.returned result, s') => (result, s')
  | (.publishing _ _, s') =>
      -- what fails from here on is only logged
      match broadcast with
      | .unmarshalled => (.ok (), s')
      | .unpublished => (.ok (), s')
      | .published => (.ok (), s')

/-- The error as the retry loop sees it. -/
def faultOf : Except DeliveryError Unit → Option Fault
  | .ok () => none
  | .error (.temporary err) => some ⟨"temporary delivery error: " ++ err.text, false⟩
  | .error (.permanent err) => some ⟨"permanent delivery error: " ++ err.text, true⟩

/-- The row is a message for the notification. -/
structure Carries (n : Notification) (row : InAppRow) : Prop where
  tenantID : row.tenantID = n.tenantID
  recipientID : row.recipientID = n.recipientID
  notificationID : row.notificationID = some n.id
  title : row.title ≠ ""
  body : row.body ≠ ""

/-- A Send stores one message or returns an error. -/
theorem sendInApp_stores (conn : Conn) (s : Storage) (n : Notification) (id : UUID) (now : Time)
    (broadcast : Broadcast) :
    (∃ row s', sendInApp conn s n id now broadcast = (.ok (), s') ∧ Carries n row ∧
      s'.inapp.rows = s.inapp.rows ++ [row]) ∨
    ∃ err, sendInApp conn s n id now broadcast = (.error err, s) := by
  by_cases empty : (extractTitleBody n.payload).1 = "" ∨ (extractTitleBody n.payload).2 = ""
  · right
    refine ⟨.permanent (.plain "inapp notification requires title and body in payload"), ?_⟩
    simp only [sendInApp, persist, if_pos empty]
  · cases done : InAppRepository.insert conn s
        (draft n (extractTitleBody n.payload).1 (extractTitleBody n.payload).2) id now with
    | error e =>
        right
        refine ⟨.temporary (.wrap "persist inapp message" e), ?_⟩
        simp only [sendInApp, persist, if_neg empty, done]
    | ok answer =>
        left
        obtain ⟨saved, s'⟩ := answer
        obtain ⟨_, _, grown⟩ := InAppRepository.insert_stored done
        have sent : sendInApp conn s n id now broadcast = (.ok (), s') := by
          simp only [sendInApp, persist, if_neg empty, done]
          cases broadcast with
          | unmarshalled | unpublished | published => rfl
        rw [not_or] at empty
        exact ⟨_, s', sent, ⟨rfl, rfl, rfl, empty.1, empty.2⟩, grown⟩

/-! ## The call -/

structure InAppRun where
  progress : Progress
  storage : Storage

/-- The notification that `deliver` hands over; `texts` is what a template is rendered to. -/
def handedOver (texts : String × String) (n : Notification) : Notification :=
  { n with payload := Providers.payloadOf n.payload (n.templateID.map fun _ => texts) }

/-- The answer to a call, and what it leaves of the inbox. -/
def answerInApp (texts : String × String) (a : Answer) (broadcast : Broadcast) (s : Storage) :
    ProcessPc → Answer × Storage
  | .send n _ =>
      if n.channel = .inapp then
        ({ a with fault := faultOf (sendInApp a.conn s (handedOver texts n) a.id a.now broadcast).1 },
          (sendInApp a.conn s (handedOver texts n) a.id a.now broadcast).2)
      else (a, s)
  | _ => (a, s)

section Run

variable (cfg : Config) (msg : Message) (texts : String × String) (world : Nat → Answer)
  (broadcasts : Nat → Broadcast)

def InAppRun.answer (r : InAppRun) : Answer × Storage :=
  answerInApp texts (world r.progress.calls.length) (broadcasts r.progress.calls.length) r.storage
    r.progress.pc

def InAppRun.next (r : InAppRun) : InAppRun :=
  { progress := r.progress.next cfg msg (r.answer texts world broadcasts).1
    storage := (r.answer texts world broadcasts).2 }

def proceedInApp : Nat → InAppRun → InAppRun
  | 0, r => r
  | fuel + 1, r =>
      match r.progress.result with
      | some _ => r
      | none => proceedInApp fuel (r.next cfg msg texts world broadcasts)

/-- `Processor.Process` with the in-app provider. -/
def processInApp (sh : Shared) (s : Storage) : InAppRun :=
  proceedInApp cfg msg texts world broadcasts (callsLeft msg .fetch) ⟨begin sh, s⟩

end Run

section Refinement

variable {cfg : Config} {msg : Message} {texts : String × String} {world : Nat → Answer}
  {broadcasts : Nat → Broadcast}

/-- Process looks at no answer that it has already got. -/
theorem proceed_congr {other : Nat → Answer} {o : Progress}
    (same : ∀ k, o.calls.length ≤ k → world k = other k) (fuel : Nat) :
    proceed cfg msg world fuel o = proceed cfg msg other fuel o := by
  induction fuel generalizing o with
  | zero => rfl
  | succ fuel ih =>
      simp only [proceed]
      cases o.result with
      | some err => rfl
      | none =>
          simp only [same o.calls.length Nat.le.refl]
          apply ih
          intro k later
          simp only [Progress.next, List.length_append, List.length_singleton] at later
          exact same k (by omega)

theorem proceedInApp_refined (fuel : Nat) (r : InAppRun) :
    ∃ answers, (proceedInApp cfg msg texts world broadcasts fuel r).progress =
      proceed cfg msg answers fuel r.progress := by
  induction fuel generalizing r with
  | zero => exact ⟨world, rfl⟩
  | succ fuel ih =>
      cases finished : r.progress.result with
      | some err => exact ⟨world, by simp only [proceedInApp, proceed, finished]⟩
      | none =>
          obtain ⟨later, same⟩ := ih (r.next cfg msg texts world broadcasts)
          refine ⟨fun k => if k = r.progress.calls.length then (r.answer texts world broadcasts).1
            else later k, ?_⟩
          simp only [proceedInApp, proceed, finished, same, if_true]
          apply proceed_congr
          intro k after
          simp only [InAppRun.next, Progress.next, List.length_append,
            List.length_singleton] at after
          rw [if_neg (by omega)]

/-- It is a call of Process with some answers. -/
theorem processInApp_refined (cfg : Config) (msg : Message) (texts : String × String)
    (world : Nat → Answer) (broadcasts : Nat → Broadcast) (sh : Shared) (s : Storage) :
    ∃ answers, (processInApp cfg msg texts world broadcasts sh s).progress =
      process cfg msg answers sh :=
  proceedInApp_refined _ _

theorem processInApp_invariant {sh : Shared} {s : Storage} (Inv : InAppRun → Prop)
    (start : Inv ⟨begin sh, s⟩)
    (keeps : ∀ r, Inv r → r.progress.result = none → Inv (r.next cfg msg texts world broadcasts)) :
    Inv (processInApp cfg msg texts world broadcasts sh s) := by
  have along : ∀ (fuel : Nat) (r : InAppRun), Inv r →
      Inv (proceedInApp cfg msg texts world broadcasts fuel r) := by
    intro fuel
    induction fuel with
    | zero => exact fun r inv => inv
    | succ fuel ih =>
        intro r inv
        cases finished : r.progress.result with
        | some err => simpa only [proceedInApp, finished] using inv
        | none =>
            simp only [proceedInApp, finished]
            exact ih _ (keeps r inv finished)
  exact along _ _ start

end Refinement

/-! ## The inbox along the call -/

/-- What a terminal status says about the inbox. -/
structure Tells (n : Notification) (status : NotificationStatus) (old new : List InAppRow) : Prop where
  terminal : Terminal status
  delivered : status = .delivered → ∃ row, Carries n row ∧ new = old ++ [row]
  otherwise : status ≠ .delivered → new = old

/-- What one outside call of Process does to the inbox. -/
def Stores (a : Answer) (old new : List InAppRow) : ProcessPc → Prop
  | .send n _ => a.fault = none ∧ (∃ row, Carries n row ∧ new = old ++ [row]) ∨
      a.fault ≠ none ∧ new = old
  | _ => new = old

/-- The stored notification, and the inbox as it was. -/
structure Unfiled (msg : Message) (sh : Shared) (old : List InAppRow) (n : Notification)
    (shared : Shared) (rows : List InAppRow) : Prop where
  found : Found msg sh n
  stored : ∃ status, Holds shared.db n.id status
  rows : rows = old

/-- The status is to be written, or has been unless the write failed. -/
def Filing (n : Notification) (status : NotificationStatus) (db : Database) (calls : List Call)
    (todo : List Closing) : Prop :=
  (closingStatuses todo = [status] ∧ ∃ before, Holds db n.id before) ∨
    closingStatuses todo = [] ∧ (Persisted calls → Holds db n.id status)

/-- Where the call and the inbox stand. -/
def Filed (msg : Message) (sh : Shared) (old : List InAppRow) (shared : Shared) (calls : List Call)
    (rows : List InAppRow) : ProcessPc → Prop
  | .fetch => rows = old ∧ shared.db = sh.db
  | .markProcessing n => Unfiled msg sh old n shared rows
  | .preference n | .rateLimit n | .render n => Unfiled msg sh old n shared rows
  | .send n _ | .backoff n _ => Unfiled msg sh old n shared rows
  | .closing n todo =>
      Found msg sh n ∧ ∃ status, Tells n status old rows ∧ Filing n status shared.db calls todo
  | .returned none =>
      ∃ n status, Found msg sh n ∧ Tells n status old rows ∧
        (Persisted calls → Holds shared.db n.id status)
  | .returned (some _) => rows = old

section Step

variable {cfg : Config} {msg : Message} {sh shared shared' : Shared} {a : Answer} {n : Notification}
  {old rows : List InAppRow} {calls : List Call} {pc pc' : ProcessPc} {todo : List Closing}
  {status : NotificationStatus}

theorem Tells.unchanged (terminal : Terminal status) (undelivered : status ≠ .delivered)
    (same : rows = old) : Tells n status old rows :=
  ⟨terminal, fun delivered => absurd delivered undelivered, fun _ => same⟩

theorem Unfiled.dropped (unfiled : Unfiled msg sh old n shared rows) (reason : String) :
    Filed msg sh old shared calls rows (.closing n (dropClosing reason)) :=
  ⟨unfiled.found, .dropped, .unchanged (.inr (.inr rfl)) (by decide) unfiled.rows,
    .inl ⟨rfl, unfiled.stored⟩⟩

theorem Unfiled.failed (unfiled : Unfiled msg sh old n shared rows) (reason errMsg : String) :
    Filed msg sh old shared calls rows (.closing n (failClosing reason errMsg)) :=
  ⟨unfiled.found, .failed, .unchanged (.inr (.inl rfl)) (by decide) unfiled.rows,
    .inl ⟨rfl, unfiled.stored⟩⟩

/-- The write of the terminal status. -/
theorem Filing.settle {written : NotificationStatus}
    (filing : Filing n status shared.db calls (.updateStatus written :: todo)) :
    Filing n status (closingStep cfg a msg n shared (.updateStatus written)).db
      (calls ++ [⟨.closing n (.updateStatus written :: todo), a⟩]) todo := by
  rcases filing with ⟨writes, before, holds⟩ | ⟨writes, _⟩
  · obtain ⟨rfl, rest⟩ := List.cons.inj writes
    refine .inr ⟨rest, ?_⟩
    intro persisted
    have answered : a.conn = .up := conn_eq_up.mpr (((persisted_append _ _).mp persisted).2 rfl)
    obtain ⟨m, db, updated⟩ := holds.updateStatus written a.now
    simp only [closingStep, answered, updated]
    exact holds_of_updateStatus updated
  · cases writes

/-- Another closing call. -/
theorem Filing.close {act : Closing} (filing : Filing n status shared.db calls (act :: todo))
    (other : ∀ status, act ≠ .updateStatus status) :
    Filing n status (closingStep cfg a msg n shared act).db
      (calls ++ [⟨.closing n (act :: todo), a⟩]) todo := by
  have statuses : closingStatuses (act :: todo) = closingStatuses todo := by
    cases act with
    | updateStatus status => exact absurd rfl (other status)
    | logDelivery | deadLetter | dispatchWebhook => rfl
  have db : (closingStep cfg a msg n shared act).db = shared.db := closingStep_db_of_ne other
  have fewer : Persisted (calls ++ [⟨.closing n (act :: todo), a⟩]) → Persisted calls :=
    fun persisted => ((persisted_append _ _).mp persisted).1
  rw [Filing, ← statuses, db]
  rcases filing with pending | ⟨writes, written⟩
  · exact .inl pending
  · exact .inr ⟨writes, fun persisted => written (fewer persisted)⟩

/-- One outside call, with what it does to the inbox. -/
theorem filed_onward {rows' : List InAppRow} (onward : Onward cfg a msg shared pc shared' pc')
    (filed : Filed msg sh old shared calls rows pc) (stores : Stores a rows rows' pc) :
    Filed msg sh old shared' (calls ++ [⟨pc, a⟩]) rows' pc' := by
  cases onward with
  | unfetched => exact stores.trans filed.1
  | @fetched n found =>
      obtain ⟨row, stored, id, owner, rfl⟩ := getByID_ok found
      refine ⟨⟨row, filed.2 ▸ stored, id, owner, rfl⟩, ⟨row.status, row, stored, rfl, rfl⟩, ?_⟩
      exact stores.trans filed.1
  | unprocessed | unasked | uncounted => exact stores.trans filed.rows
  | processing updated =>
      exact ⟨filed.found, ⟨_, holds_of_updateStatus updated⟩, stores.trans filed.rows⟩
  | unwanted | limited =>
      exact Unfiled.dropped ⟨filed.found, filed.stored, stores.trans filed.rows⟩ _
  | wanted | unlimited | rendered | waited =>
      exact ⟨filed.found, filed.stored, stores.trans filed.rows⟩
  | unsendable | interrupted =>
      exact Unfiled.failed ⟨filed.found, filed.stored, stores.trans filed.rows⟩ _ _
  | sent accepted =>
      rcases stores with ⟨_, row, carries, grown⟩ | ⟨failed, _⟩
      · refine ⟨filed.found, .delivered, ⟨.inl rfl, fun _ => ⟨row, carries, ?_⟩, by simp⟩,
          .inl ⟨rfl, filed.stored⟩⟩
        rw [grown, filed.rows]
      · exact absurd accepted failed
  | gaveUp failed =>
      rcases stores with ⟨accepted, _⟩ | ⟨_, same⟩
      · simp [accepted] at failed
      · exact Unfiled.failed ⟨filed.found, filed.stored, same.trans filed.rows⟩ _ _
  | unsent failed =>
      rcases stores with ⟨accepted, _⟩ | ⟨_, same⟩
      · simp [accepted] at failed
      · exact ⟨filed.found, filed.stored, same.trans filed.rows⟩
  | closed =>
      obtain ⟨found, status, tells, ⟨writes, _⟩ | ⟨_, written⟩⟩ := filed
      · cases writes
      · refine ⟨_, status, found, stores ▸ tells, ?_⟩
        intro persisted
        exact written ((persisted_append _ _).mp persisted).1
  | @closing n act todo =>
      obtain ⟨found, status, tells, filing⟩ := filed
      refine ⟨found, status, stores ▸ tells, ?_⟩
      cases act with
      | updateStatus => exact filing.settle
      | logDelivery | deadLetter | dispatchWebhook => exact filing.close (by simp)

end Step

section Agreement

variable {texts : String × String} {world : Nat → Answer} {broadcasts : Nat → Broadcast}

theorem Carries.of_handedOver {n : Notification} {row : InAppRow}
    (carries : Carries (handedOver texts n) row) : Carries n row :=
  ⟨carries.tenantID, carries.recipientID, carries.notificationID, carries.title, carries.body⟩

theorem faultOf_error (err : DeliveryError) : faultOf (.error err) ≠ none := by
  cases err with
  | temporary | permanent => simp [faultOf]

theorem answerInApp_stores (texts : String × String) (a : Answer) (broadcast : Broadcast)
    (s : Storage) {pc : ProcessPc}
    (inapp : ∀ n attempt, pc = .send n attempt → n.channel = .inapp) :
    Stores (answerInApp texts a broadcast s pc).1 s.inapp.rows
      (answerInApp texts a broadcast s pc).2.inapp.rows pc := by
  cases pc with
  | send n attempt =>
      rw [answerInApp, if_pos (inapp n attempt rfl)]
      rcases sendInApp_stores a.conn s (handedOver texts n) a.id a.now broadcast with
        ⟨row, s', sent, carries, grown⟩ | ⟨err, sent⟩
      · rw [sent]
        exact .inl ⟨rfl, row, carries.of_handedOver, grown⟩
      · rw [sent]
        exact .inr ⟨faultOf_error err, rfl⟩
  | fetch | markProcessing | preference | rateLimit | render | backoff | closing | returned => rfl

theorem processInApp_filed {cfg : Config} {msg : Message} {sh : Shared} {s : Storage}
    (inapp : ∀ n, Found msg sh n → n.channel = .inapp) :
    Filed msg sh s.inapp.rows (processInApp cfg msg texts world broadcasts sh s).progress.shared
      (processInApp cfg msg texts world broadcasts sh s).progress.calls
      (processInApp cfg msg texts world broadcasts sh s).storage.inapp.rows
      (processInApp cfg msg texts world broadcasts sh s).progress.pc := by
  apply processInApp_invariant fun r =>
    Filed msg sh s.inapp.rows r.progress.shared r.progress.calls r.storage.inapp.rows r.progress.pc
  · exact ⟨rfl, rfl⟩
  · intro r filed running
    apply filed_onward (processStep_onward cfg _ msg _ (result_eq_none running)) filed
    apply answerInApp_stores
    intro n attempt pc
    rw [pc] at filed
    exact inapp n filed.found

end Agreement

/-- For every notification of the in-app channel, every payload and template, whatever the
    Inserts and the publishes answer: Process returns, and where the terminal status is written,
    a delivered notification has added one message of its own to the inbox, and a failed or
    dropped one none. Neither has a call that returns an error. -/
theorem inbox_agrees (cfg : Config) (msg : Message) (texts : String × String)
    (world : Nat → Answer) (broadcasts : Nat → Broadcast) (sh : Shared) (s : Storage)
    (inapp : ∀ n, Found msg sh n → n.channel = .inapp)
    (persisted : Persisted (processInApp cfg msg texts world broadcasts sh s).progress.calls) :
    let r := processInApp cfg msg texts world broadcasts sh s
    (r.progress.result = some none ∧ ∃ n status, Found msg sh n ∧
        statusOf r.progress.shared.db msg.notificationID = some status ∧
        Tells n status s.inapp.rows r.storage.inapp.rows) ∨
      (∃ e, r.progress.result = some (some e)) ∧ r.storage.inapp.rows = s.inapp.rows := by
  have filed : Filed msg sh s.inapp.rows
      (processInApp cfg msg texts world broadcasts sh s).progress.shared
      (processInApp cfg msg texts world broadcasts sh s).progress.calls
      (processInApp cfg msg texts world broadcasts sh s).storage.inapp.rows
      (processInApp cfg msg texts world broadcasts sh s).progress.pc := processInApp_filed inapp
  obtain ⟨answers, same⟩ := processInApp_refined cfg msg texts world broadcasts sh s
  obtain ⟨err, returned⟩ := process_returns cfg msg answers sh
  rw [← same] at returned
  generalize processInApp cfg msg texts world broadcasts sh s = r at *
  obtain ⟨⟨shared, pc, calls⟩, storage⟩ := r
  cases pc with
  | returned err =>
      cases err with
      | some e => exact .inr ⟨⟨e, rfl⟩, filed⟩
      | none =>
          obtain ⟨n, status, found, tells, written⟩ := filed
          refine .inl ⟨rfl, n, status, found, ?_, tells⟩
          obtain ⟨row, _, id, _, rfl⟩ := found
          rw [← id]
          exact (written persisted).statusOf
  | fetch | markProcessing | preference | rateLimit | render | send | backoff | closing =>
      simp [Progress.result] at returned

/-! ## A delivery at the second attempt -/

/-- The message of the order, and a database that is away for the first Insert. -/
def orderMessage : Message :=
  { envelope with
    notificationID := Stream.order.id
    tenantID := Stream.acme
    channel := .inapp
    recipientID := Stream.order.recipientID }

def secondInsert (call : Nat) : Answer :=
  if call = 5 then { fault := some ⟨"down", false⟩ } else { id := 50, now := call }

def ordering : Shared := { queued with db := Stream.shopFloor }

/-- The message is stored once, though the first Insert and the publish fail. -/
theorem secondInsert_agrees :
    let r := processInApp plain orderMessage ("", "") secondInsert (fun _ => .unpublished) ordering
      (.ofCore Stream.shopFloor)
    statusOf r.progress.shared.db Stream.order.id = some .delivered ∧
      ∃ row, Carries Stream.notice row ∧ r.storage.inapp.rows = [row] := by
  have inapp : ∀ n, Found orderMessage ordering n → n.channel = .inapp := by
    rintro _ ⟨row, stored, _, _, rfl⟩
    obtain rfl := List.mem_singleton.mp stored
    rfl
  have persisted : Persisted (processInApp plain orderMessage ("", "") secondInsert
      (fun _ => .unpublished) ordering (.ofCore Stream.shopFloor)).progress.calls := by
    decide +kernel
  have delivered : statusOf (processInApp plain orderMessage ("", "") secondInsert
      (fun _ => .unpublished) ordering (.ofCore Stream.shopFloor)).progress.shared.db
        Stream.order.id = some .delivered := by decide +kernel
  refine ⟨delivered, ?_⟩
  rcases inbox_agrees plain orderMessage ("", "") secondInsert (fun _ => .unpublished) ordering
      (.ofCore Stream.shopFloor) inapp persisted with
    ⟨_, n, status, found, stored, tells⟩ | ⟨⟨e, failed⟩, _⟩
  · obtain rfl := Option.some.inj (delivered.symm.trans stored)
    obtain ⟨row, carries, grown⟩ := tells.delivered rfl
    obtain ⟨_, here, _, _, rfl⟩ := found
    obtain rfl := List.mem_singleton.mp here
    exact ⟨row, carries, grown⟩
  · have returned : (processInApp plain orderMessage ("", "") secondInsert (fun _ => .unpublished)
        ordering (.ofCore Stream.shopFloor)).progress.result = some none := by decide +kernel
    exact absurd (returned.symm.trans failed) (by simp)

end NotifyHub.Pipeline
