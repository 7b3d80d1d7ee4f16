import NotifyHub.Lib.References
import NotifyHub.Lib.Threads
import NotifyHub.Lib.Transition
import NotifyHub.WebhookFanout
import NotifyHub.WebhookWorker

/-! # Messages that outlive their endpoint

Dispatches, changes to the endpoints and the worker run side by side on one storage. A message
names its delivery by id. The delivery goes with its endpoint, the message does not: the update
that the worker makes at the end then finds no row, and the repository reports that like a
database that failed. Texts are taken to be without NUL, which Postgres keeps in no column.
-/

namespace NotifyHub

open Rows Transition References

/-! ## Dispatch, one call at a time -/

/-- What the next call of a dispatch meets; the id is that of a new row. -/
structure DispatchAnswer where
  conn : Conn := .up
  id : UUID := 0
  now : Time := 0
  broker : Option String := none

inductive DispatchPc where
  | list
  | loop (payload : JSONMap) (endpoints : List WebhookEndpoint)
  | publish (payload : JSONMap) (ep : WebhookEndpoint) (deliveryID : UUID)
      (rest : List WebhookEndpoint)
  | returned (err : Option Err)

namespace WebhookService

/-- Where dispatch is after its next call, the storage then, and what was published. -/
def advance (svc : WebhookService) (n : Notification) (event : String) (s : Storage)
    (a : DispatchAnswer) :
    DispatchPc → Option (DispatchPc × Storage × List (Publication WebhookMessage))
  | .list =>
      match WebhookRepository.listActiveForEvent a.conn s n.tenantID event with
      | .error e => some (.returned (some (.wrap "list active webhook endpoints" (.app e))), s, [])
      | .ok endpoints => some (.loop (svc.buildEventPayload n event a.now) endpoints, s, [])
  | .loop _ [] => some (.returned none, s, [])
  | .loop payload (ep :: rest) =>
      match WebhookRepository.createDelivery a.conn s (newDelivery n event payload ep) a.id a.now with
      | .error _ => some (.loop payload rest, s, [])
      | .ok (deliveryID, s') => some (.publish payload ep deliveryID rest, s', [])
  | .publish payload ep deliveryID rest =>
      match a.broker with
      | some _ => some (.loop payload rest, s, [])
      | none =>
          some (.loop payload rest, s, [svc.publication n event payload ep deliveryID a.now])
  | .returned _ => none

/-- The same for a dispatch with nobody beside it, which collects what it publishes. -/
def alone (svc : WebhookService) (n : Notification) (event : String)
    (at_ : DispatchPc × Storage × List (Publication WebhookMessage)) (a : DispatchAnswer) :
    Option (DispatchPc × Storage × List (Publication WebhookMessage)) :=
  (svc.advance n event at_.2.1 a at_.1).map fun after =>
    (after.1, after.2.1, at_.2.2 ++ after.2.2)

section Alone

variable {svc : WebhookService} {n : Notification} {event : String} {payload : JSONMap}
  {s s' : Storage} {published : List (Publication WebhookMessage)}

theorem alone_dispatchTo (each : Nat → EndpointCalls) (i : Nat) (endpoints : List WebhookEndpoint)
    (s : Storage) (sent : List (Publication WebhookMessage)) :
    ∃ answers, run (svc.alone n event) (.loop payload endpoints, s, sent) answers =
      some (.returned none, (dispatchTo svc each n event payload i endpoints s).2,
        sent ++ (dispatchTo svc each n event payload i endpoints s).1) := by
  induction endpoints generalizing i s sent with
  | nil => exact ⟨[{}], by simp [run, alone, advance, dispatchTo]⟩
  | cons ep rest ih =>
      cases inserted : WebhookRepository.createDelivery (each i).insert s
          (newDelivery n event payload ep) (each i).id (each i).insertedAt with
      | error e =>
          obtain ⟨answers, done⟩ := ih (i + 1) s sent
          refine ⟨{ conn := (each i).insert, id := (each i).id, now := (each i).insertedAt } ::
            answers, ?_⟩
          rw [dispatchTo_failed inserted, ← done]
          exact run_cons (by simp [alone, advance, inserted]) answers
      | ok answer =>
          obtain ⟨deliveryID, s'⟩ := answer
          obtain rfl := (WebhookRepository.createDelivery_ok inserted).1
          have create : svc.alone n event (.loop payload (ep :: rest), s, sent)
              { conn := (each i).insert, id := (each i).id, now := (each i).insertedAt } =
                some (.publish payload ep (each i).id rest, s', sent) := by
            simp [alone, advance, inserted]
          have publish : svc.alone n event (.publish payload ep (each i).id rest, s', sent)
              { now := (each i).enqueuedAt, broker := (each i).broker } =
                some (.loop payload rest, s', sent ++ if (each i).broker = none then
                  [svc.publication n event payload ep (each i).id (each i).enqueuedAt]
                else []) := by
            cases broker : (each i).broker <;> simp [alone, advance]
          obtain ⟨answers, done⟩ := ih (i + 1) s' _
          refine ⟨_, (run_cons create _).trans ((run_cons publish answers).trans ?_)⟩
          rw [done, dispatchTo_inserted inserted, List.append_assoc]

/-- A dispatch that nobody interrupts does what `dispatch` does. -/
theorem alone_dispatch {calls : DispatchCalls}
    (done : svc.dispatch calls s n event = .ok (published, s')) :
    ∃ answers, run (svc.alone n event) (.list, s, []) answers =
      some (.returned none, s', published) := by
  unfold dispatch at done
  split at done
  · cases done
  · rename_i endpoints listed
    have lookup : svc.alone n event (.list, s, []) { conn := calls.list, now := calls.builtAt } =
        some (.loop (svc.buildEventPayload n event calls.builtAt) endpoints, s, []) := by
      simp [alone, advance, listed]
    obtain ⟨answers, looped⟩ := alone_dispatchTo calls.each 0 endpoints s []
    refine ⟨_, (run_cons lookup answers).trans ?_⟩
    rw [looped, Except.ok.inj done]
    rfl

end Alone

end WebhookService

/-! ## The rows that messages refer to -/

def Storage.endpointIDs (s : Storage) : List UUID := s.endpoints.rows.map (·.id)

/-- Every delivery with its endpoint. -/
def Storage.links (s : Storage) : List (UUID × UUID) :=
  s.deliveries.rows.map fun d => (d.id, d.endpointID)

theorem Storage.links_fst (s : Storage) : s.links.map Prod.fst = s.deliveries.rows.map (·.id) := by
  simp [Storage.links]

theorem Storage.links_valid (s : Storage) : ∀ l ∈ s.links, l.2 ∈ s.endpointIDs := by
  intro l member
  obtain ⟨d, stored, rfl⟩ := List.mem_map.mp member
  exact (s.deliveries.valid d stored).1

namespace WebhookWorker

section Process

variable {w : WebhookWorker} {calls : WebhookCalls} {s : Storage} {msg : WebhookMessage}
  {body : String}

theorem sendLoop_uncancelled (steady : ∀ i, calls.waits i = none) (i : Nat) (attempt : Int)
    (err : String) : (w.sendLoop calls msg body i attempt).2 ≠ .cancelled err := by
  fun_induction sendLoop w calls msg body i attempt <;> simp_all

/-- Without a cancelled context every exit of process is an update of the message's delivery. -/
theorem process_marks (w : WebhookWorker) (s : Storage) (msg : WebhookMessage)
    (steady : ∀ i, calls.waits i = none) :
    ∃ made context d, d.id = msg.deliveryID ∧
      w.process calls s msg = mark calls s made context d := by
  unfold process
  split
  · exact ⟨_, _, _, rfl, rfl⟩
  · split
    · exact ⟨_, _, _, rfl, rfl⟩
    · exact ⟨_, _, _, rfl, rfl⟩
    · rename_i left
      exact absurd (congrArg Prod.snd left) (sendLoop_uncancelled steady 0 msg.attempt _)

/-- With the database reachable, process succeeds if and only if the delivery is stored. -/
theorem process_err_iff (up : calls.update = .up) (steady : ∀ i, calls.waits i = none) :
    (w.process calls s msg).err = none ↔ msg.deliveryID ∈ s.links.map Prod.fst := by
  obtain ⟨made, context, d, same, marked⟩ := process_marks w s msg steady
  have stored : (∃ s', WebhookRepository.updateDelivery .up s d calls.now = .ok s') ↔
      d.id ∈ s.deliveries.rows.map (·.id) := WebhookRepository.updateDelivery_up
  rw [s.links_fst, ← same, ← stored, marked, mark, up]
  split <;> rename_i result <;> simp [result]

theorem process_frame (steady : ∀ i, calls.waits i = none) :
    (w.process calls s msg).storage.endpointIDs = s.endpointIDs ∧
      (w.process calls s msg).storage.links = s.links := by
  obtain ⟨made, context, d, _, marked⟩ := process_marks w s msg steady
  rw [marked, mark]
  split
  · exact ⟨rfl, rfl⟩
  · rename_i updated
    obtain ⟨_, endpoints, deliveries⟩ := WebhookRepository.updateDelivery_ok updated
    refine ⟨congrArg (·.map (·.id)) endpoints, ?_⟩
    rw [Storage.links, deliveries]
    exact map_updateWhere fun _ => rfl

end Process

end WebhookWorker

namespace EndpointCall

/-- The id that the database generates for the call. -/
def newID : EndpointCall → Option UUID
  | .create _ _ _ id _ => some id
  | .update .. => none
  | .delete .. => none

/-- A delivery whose endpoint stays is not deleted. -/
theorem mem_links_delete {s : Storage} {id tenantID : UUID} {l : UUID × UUID} (stored : l ∈ s.links)
    (stays : l.2 ∈ (deleteWebhookEndpoint s id tenantID).endpointIDs) :
    l ∈ (deleteWebhookEndpoint s id tenantID).links := by
  obtain ⟨d, member, rfl⟩ := List.mem_map.mp stored
  obtain ⟨e, left, same⟩ := List.mem_map.mp stays
  obtain ⟨inRows, spared⟩ := List.mem_filter.mp left
  refine List.mem_map.mpr ⟨d, List.mem_filter.mpr ⟨member, ?_⟩, rfl⟩
  cases gone : cascades id tenantID s.endpoints.rows d with
  | false => rfl
  | true =>
      simp only [cascades, Bool.and_eq_true, beq_iff_eq, List.any_eq_true] at gone
      obtain ⟨own, other, otherMem, hit⟩ := gone
      have sameID : other.id = id := by
        simp only [endpointAt, Bool.and_eq_true, beq_iff_eq] at hit
        exact hit.1
      obtain rfl : e = other := s.endpoints.pkey.eq_of_mem inRows otherMem rfl
        (congrArg some (sameID.trans (own.symm.trans same.symm)))
      simp [hit] at spared

/-- Calls that write endpoints leave references backed, unless they reuse an id. -/
theorem Effect.backed {s s' : Storage} {call : EndpointCall} {r : UUID × UUID}
    (effect : Effect s call s') (new : r.2 ∉ call.newID)
    (backed : Backed s.endpointIDs s.links r) : Backed s'.endpointIDs s'.links r := by
  cases effect with
  | failed => exact backed
  | created known rows named events deliveries =>
      simp only [Storage.endpointIDs, Storage.links, rows, deliveries, List.map_append,
        List.map_singleton]
      exact backed.insertParent fun same => new (by simp [newID, same, named])
  | updated known rows ids deliveries =>
      simp only [Storage.endpointIDs, Storage.links, ids, deliveries]
      exact backed
  | deleted =>
      refine backed.cascade ?_ ?_ fun l => mem_links_delete
      · exact (List.filter_sublist.map _).subset
      · exact (List.filter_sublist.map _).subset

end EndpointCall

/-! ## Side by side -/

structure WebhookSetup where
  service : WebhookService
  worker : WebhookWorker
  isURL : String → Bool

structure DispatchThread where
  n : Notification
  event : String
  pc : DispatchPc

/-- How a call of process ended for the message at the offset, and whether the broker takes a
    commit then. -/
structure Outcome where
  offset : Nat
  err : Option Err
  acked : Bool
  deriving Repr, DecidableEq

/-- `Run` commits after a call that returned nil. -/
def Outcome.committed (o : Outcome) : Bool := o.err.isNone && o.acked

structure WebhookSystem where
  storage : Storage
  topic : List WebhookMessage
  dispatches : List DispatchThread
  outcomes : List Outcome

inductive WebhookLabel where
  | dispatch (n : Notification) (event : String)
  | advance (i : Nat) (a : DispatchAnswer)
  | write (call : EndpointCall)
  | process (offset : Nat) (calls : WebhookCalls) (acked : Bool)

namespace WebhookSystem

def start (storage : Storage) : WebhookSystem :=
  { storage := storage
    topic := []
    dispatches := []
    outcomes := [] }

/-- The calls and waits of process touch nothing that is shared but its last one, so it is one
    step, at the time of its update. A message that is committed is not fetched again. -/
def step (cfg : WebhookSetup) (s : WebhookSystem) : WebhookLabel → Option WebhookSystem
  | .dispatch n event => some { s with dispatches := s.dispatches ++ [⟨n, event, .list⟩] }
  | .advance i a =>
      match s.dispatches[i]? with
      | none => none
      | some t =>
          match cfg.service.advance t.n t.event s.storage a t.pc with
          | none => none
          | some (pc, storage, sent) =>
              some { s with
                storage := storage
                topic := s.topic ++ sent.map (·.value)
                dispatches := s.dispatches.set i { t with pc := pc } }
  | .write call => some { s with storage := call.perform cfg.isURL s.storage }
  | .process offset calls acked =>
      match s.topic[offset]? with
      | none => none
      | some msg =>
          if s.outcomes.any fun o => o.offset == offset && o.committed then none
          else
            some { s with
              storage := (cfg.worker.process calls s.storage msg).storage
              outcomes := s.outcomes ++
                [⟨offset, (cfg.worker.process calls s.storage msg).err, acked⟩] }

/-! ## References -/

end WebhookSystem

def WebhookMessage.ref (msg : WebhookMessage) : UUID × UUID := (msg.deliveryID, msg.endpointID)

/-- The delivery that is stored and not published yet. -/
def DispatchPc.refs : DispatchPc → List (UUID × UUID)
  | .publish _ ep deliveryID _ => [(deliveryID, ep.id)]
  | .list => []
  | .loop _ _ => []
  | .returned _ => []

/-- A call of dispatch passes a reference on or drops it, or it inserts the row of a new one. -/
theorem WebhookService.advance_refs {svc : WebhookService} {n : Notification} {event : String}
    {s s' : Storage} {a : DispatchAnswer} {pc pc' : DispatchPc}
    {sent : List (Publication WebhookMessage)}
    (taken : svc.advance n event s a pc = some (pc', s', sent)) :
    s' = s ∧ (∀ r ∈ sent.map (·.value.ref) ++ pc'.refs, r ∈ pc.refs) ∨
      sent = [] ∧ ∃ endpointID, pc'.refs = [(a.id, endpointID)] ∧
        s'.endpointIDs = s.endpointIDs ∧ s'.links = s.links ++ [(a.id, endpointID)] ∧
        a.id ∉ s.links.map Prod.fst := by
  unfold advance at taken
  split at taken
  · split at taken <;> cases taken <;> exact .inl ⟨rfl, by simp [DispatchPc.refs]⟩
  · cases taken
    exact .inl ⟨rfl, by simp [DispatchPc.refs]⟩
  · split at taken
    · cases taken
      exact .inl ⟨rfl, by simp [DispatchPc.refs]⟩
    · rename_i inserted
      cases taken
      obtain ⟨rfl, _, endpoints, deliveries⟩ := WebhookRepository.createDelivery_ok inserted
      refine .inr ⟨rfl, _, rfl, congrArg (·.map (·.id)) endpoints, ?_, ?_⟩
      · rw [Storage.links, deliveries, List.map_append]
        rfl
      · have ids := uniqueOn_some.mp s'.deliveries.pkey
        rw [deliveries, List.map_append, List.nodup_append] at ids
        rw [s.links_fst]
        exact fun old => ids.2.2 _ old _ (List.mem_singleton_self _) rfl
  · split at taken <;> cases taken <;>
      exact .inl ⟨rfl, by simp [DispatchPc.refs, publication, WebhookMessage.ref]⟩
  · cases taken

namespace WebhookSystem

/-- The references that messages and dispatches keep. -/
def refs (s : WebhookSystem) : List (UUID × UUID) :=
  s.topic.map (·.ref) ++ s.dispatches.flatMap (·.pc.refs)

/-- The database is reachable and no context is cancelled. -/
def Reachable : WebhookLabel → Prop
  | .dispatch _ _ => True
  | .advance _ a => a.conn = .up
  | .write (.create conn ..) => conn = .up
  | .write (.update conn ..) => conn = .up
  | .write (.delete conn ..) => conn = .up
  | .process _ calls _ => calls.update = .up ∧ ∀ i, calls.waits i = none

/-- The ids that the database generates were not in use before. -/
def NewIDs (s : WebhookSystem) : WebhookLabel → Prop
  | .dispatch _ _ => True
  | .advance _ a => a.id ∉ s.refs.map Prod.fst
  | .write call => ∀ id ∈ call.newID, id ∉ s.refs.map Prod.snd
  | .process .. => True

/-- When process writes the outcome, the endpoint of the message is still registered. -/
def StillRegistered (s : WebhookSystem) : WebhookLabel → Prop
  | .dispatch _ _ => True
  | .advance _ _ => True
  | .write _ => True
  | .process offset _ _ => ∀ msg ∈ s.topic[offset]?, msg.endpointID ∈ s.storage.endpointIDs

/-- Every call of process returned nil, and a message whose commit was taken was not fetched
    again. -/
structure Handled (s : WebhookSystem) : Prop where
  nil : ∀ o ∈ s.outcomes, o.err = none
  once : s.outcomes.Pairwise fun earlier later =>
    earlier.acked = true → later.offset ≠ earlier.offset

/-! ## Runs -/

section Runs

variable {cfg : WebhookSetup} {s next : WebhookSystem} {label : WebhookLabel}

def AllBacked (s : WebhookSystem) : Prop :=
  ∀ r ∈ s.refs, Backed s.storage.endpointIDs s.storage.links r

theorem advance_backed {i : Nat} {a : DispatchAnswer} (backed : s.AllBacked)
    (new : s.NewIDs (.advance i a)) (taken : step cfg s (.advance i a) = some next) :
    next.AllBacked := by
  simp only [step] at taken
  split at taken
  · cases taken
  · rename_i t running
    split at taken
    · cases taken
    · rename_i pc storage sent advanced
      cases taken
      intro r member
      -- a reference after the step was there before, or it is one of the thread's own
      have origin : r ∈ s.refs ∨ r ∈ sent.map (·.value.ref) ++ pc.refs := by
        simp only [refs, List.map_append, List.map_map, List.mem_append] at member ⊢
        rcases member with (old | published) | held
        · exact .inl (.inl old)
        · exact .inr (.inl published)
        · rcases Threads.mem_flatMap_set held with own | other
          · exact .inr (.inr own)
          · exact .inl (.inr other)
      have known : ∀ r ∈ t.pc.refs, r ∈ s.refs := fun r held =>
        List.mem_append_right _ (List.mem_flatMap.mpr ⟨t, List.mem_of_getElem? running, held⟩)
      rcases WebhookService.advance_refs advanced with ⟨rfl, passed⟩ | inserted
      · exact backed r (origin.elim id fun own => known r (passed r own))
      · obtain ⟨rfl, endpointID, held, endpoints, links, fresh⟩ := inserted
        rw [endpoints, links]
        rcases origin with old | own
        · exact (backed r old).insert fun same => new (same ▸ List.mem_map_of_mem old)
        · rw [held] at own
          obtain rfl : r = (a.id, endpointID) := by simpa using own
          exact backed_inserted s.storage.endpointIDs endpointID fresh

theorem step_backed (backed : s.AllBacked) (reachable : Reachable label) (new : s.NewIDs label)
    (taken : step cfg s label = some next) : next.AllBacked := by
  cases label with
  | dispatch n event =>
      cases taken
      intro r member
      exact backed r (by simpa [refs, DispatchPc.refs] using member)
  | advance i a => exact advance_backed backed new taken
  | write call =>
      cases taken
      intro r member
      exact (call.perform_effect cfg.isURL s.storage).backed
        (fun same => new _ same (List.mem_map_of_mem member)) (backed r member)
  | process offset calls acked =>
      simp only [step] at taken
      split at taken
      · cases taken
      · split at taken
        · cases taken
        · cases taken
          intro r member
          obtain ⟨endpoints, links⟩ := WebhookWorker.process_frame (w := cfg.worker) reachable.2
          rw [endpoints, links]
          exact backed r member

/-- Some call of process failed. -/
def Failed (s : WebhookSystem) : Prop := ∃ o ∈ s.outcomes, o.err ≠ none

/-- A step leaves the outcomes alone, or it is a call of process on a message that is not
    committed. -/
theorem step_outcomes (taken : step cfg s label = some next) :
    next.outcomes = s.outcomes ∧ s.StillRegistered label ∨
      ∃ offset calls acked msg, label = .process offset calls acked ∧
        s.topic[offset]? = some msg ∧
        (∀ o ∈ s.outcomes, o.committed = true → o.offset ≠ offset) ∧
        next.outcomes = s.outcomes ++
          [⟨offset, (cfg.worker.process calls s.storage msg).err, acked⟩] := by
  cases label with
  | dispatch n event =>
      cases taken
      exact .inl ⟨rfl, trivial⟩
  | advance i a =>
      simp only [step] at taken
      split at taken
      · cases taken
      · split at taken <;> cases taken
        exact .inl ⟨rfl, trivial⟩
  | write call =>
      cases taken
      exact .inl ⟨rfl, trivial⟩
  | process offset calls acked =>
      simp only [step] at taken
      split at taken
      · cases taken
      · rename_i msg queued
        split at taken
        · cases taken
        · rename_i uncommitted
          cases taken
          refine .inr ⟨offset, calls, acked, msg, rfl, queued, ?_, rfl⟩
          intro o member committed same
          exact uncommitted (List.any_eq_true.mpr ⟨o, member, by simp [same, committed]⟩)

/-- A message is not fetched again once it is committed. -/
def Once (s : WebhookSystem) : Prop :=
  s.outcomes.Pairwise fun earlier later => earlier.committed = true → later.offset ≠ earlier.offset

theorem step_once (once : s.Once) (taken : step cfg s label = some next) : next.Once := by
  rcases step_outcomes taken with ⟨same, _⟩ | ⟨offset, calls, acked, msg, _, _, uncommitted, added⟩
  · rw [Once, same]
    exact once
  · rw [Once, added, List.pairwise_append]
    refine ⟨once, List.pairwise_singleton _ _, fun earlier member later own committed => ?_⟩
    obtain rfl := List.mem_singleton.mp own
    exact (uncommitted earlier member committed).symm

theorem step_stays_failed (failed : s.Failed) (taken : step cfg s label = some next) :
    next.Failed := by
  obtain ⟨o, member, err⟩ := failed
  rcases step_outcomes taken with ⟨same, _⟩ | ⟨offset, calls, acked, msg, _, _, _, added⟩
  · exact ⟨o, same ▸ member, err⟩
  · exact ⟨o, added ▸ List.mem_append_left _ member, err⟩

/-- A call of process fails if and only if the endpoint is gone. -/
theorem step_failed_iff (backed : s.AllBacked) (free : ¬s.Failed) (reachable : Reachable label)
    (taken : step cfg s label = some next) : ¬next.Failed ↔ s.StillRegistered label := by
  rcases step_outcomes taken with
    ⟨same, trivially⟩ | ⟨offset, calls, acked, msg, rfl, queued, _, added⟩
  · rw [Failed, same]
    exact iff_of_true free trivially
  · have ref : msg.ref ∈ s.refs :=
      List.mem_append_left _ (List.mem_map_of_mem (List.mem_of_getElem? queued))
    have stored : msg.deliveryID ∈ s.storage.links.map Prod.fst ↔
        msg.endpointID ∈ s.storage.endpointIDs :=
      (backed _ ref).stored_iff s.storage.links_valid
    have succeeds : (cfg.worker.process calls s.storage msg).err = none ↔
        msg.deliveryID ∈ s.storage.links.map Prod.fst :=
      WebhookWorker.process_err_iff reachable.1 reachable.2
    have last : ¬next.Failed ↔ (cfg.worker.process calls s.storage msg).err = none := by
      constructor
      · intro unfailed
        by_contra err
        exact unfailed ⟨_, added ▸ List.mem_append_right _ (List.mem_singleton_self _), err⟩
      · rintro nil ⟨o, member, err⟩
        rw [added] at member
        rcases List.mem_append.mp member with old | own
        · exact free ⟨o, old, err⟩
        · obtain rfl := List.mem_singleton.mp own
          exact err nil
    rw [last, succeeds, stored]
    simp [StillRegistered, queued]

/-- In every run, all calls of process return nil if and only if no endpoint is deleted before
    the outcomes of its messages are written. -/
theorem handled_iff_registered (cfg : WebhookSetup) (storage : Storage)
    {labels : List WebhookLabel} {last : WebhookSystem}
    (reachable : ∀ label ∈ labels, Reachable label)
    (new : Guarded (step cfg) NewIDs (start storage) labels)
    (finished : run (step cfg) (start storage) labels = some last) :
    last.Handled ↔ Guarded (step cfg) StillRegistered (start storage) labels := by
  have keeps : ∀ s label next, AllBacked s → Reachable label ∧ s.NewIDs label →
      step cfg s label = some next → AllBacked next :=
    fun s label next backed base taken => step_backed backed base.1 base.2 taken
  have initial : AllBacked (start storage) := by simp [AllBacked, refs, start]
  have free : ¬last.Failed ↔ Guarded (step cfg) StillRegistered (start storage) labels :=
    run_free_iff keeps (fun s label next _ failed _ taken => step_stays_failed failed taken)
      (fun s label next backed free base taken => step_failed_iff backed free base.1 taken)
      initial (by simp [Failed, start]) (new.and_labels reachable) finished
  rw [← free]
  constructor
  · rintro handled ⟨o, member, err⟩
    exact err (handled.nil o member)
  · intro unfailed
    have nil : ∀ o ∈ last.outcomes, o.err = none := by
      intro o member
      by_contra err
      exact unfailed ⟨o, member, err⟩
    have unfetched : (start storage).Once := List.Pairwise.nil
    have once : last.Once := run_invariant (fun s label next => step_once) unfetched finished
    refine ⟨nil, once.imp_of_mem ?_⟩
    intro earlier later member _ apart acked
    exact apart (by simp [Outcome.committed, nil earlier member, acked])

end Runs

/-! ## One endpoint -/

instance decidableNewIDs (s : WebhookSystem) : ∀ label, Decidable (s.NewIDs label)
  | .dispatch _ _ => .isTrue trivial
  | .advance _ _ => inferInstanceAs (Decidable (_ ∉ _))
  | .write _ => inferInstanceAs (Decidable (∀ id ∈ _, id ∉ _))
  | .process .. => .isTrue trivial

instance decidableStillRegistered (s : WebhookSystem) : ∀ label, Decidable (s.StillRegistered label)
  | .dispatch _ _ => .isTrue trivial
  | .advance _ _ => .isTrue trivial
  | .write _ => .isTrue trivial
  | .process .. => inferInstanceAs (Decidable (∀ msg ∈ _, _ ∈ _))

def plainSetup : WebhookSetup :=
  { service := { maxAttempts := 3, rfc3339 := fun _ => "" }
    worker := WebhookWorker.plainWorker
    isURL := fun _ => true }

def oneEndpoint : Storage :=
  registered (fun _ => true) WebhookService.receiptStored
    [WebhookService.subscribe "a.shop" "0123456789abcdef" 1]

/-- A dispatch up to its message: the lookup, the insert and the publish. -/
def queueing : List WebhookLabel :=
  [.dispatch WebhookService.receipt "notification.delivered", .advance 0 { id := 10 },
    .advance 0 { id := 10 }, .advance 0 { id := 11 }]

def deletion : WebhookLabel := .write (.delete .up 7 1)

/-- The endpoint answers 200. -/
def delivery : WebhookLabel := .process 0 { replies := fun _ _ => .response 200 .absent } true

theorem reachable_queued {labels : List WebhookLabel}
    (rest : ∀ label ∈ labels, label = deletion ∨ label = delivery) :
    ∀ label ∈ queueing ++ labels, Reachable label := by
  intro label member
  rcases List.mem_append.mp member with first | later
  · simp only [queueing, List.mem_cons, List.not_mem_nil, or_false] at first
    rcases first with rfl | rfl | rfl | rfl
    · trivial
    · rfl
    · rfl
    · rfl
  · rcases rest label later with rfl | rfl
    · rfl
    · exact ⟨rfl, fun _ => rfl⟩

/-- Deleted after the outcome is written, the endpoint is no trouble. -/
theorem handled_before_deletion :
    ∃ last, run (step plainSetup) (start oneEndpoint) (queueing ++ [delivery, deletion]) = some last ∧
      last.outcomes.map (·.err) = [none] ∧ last.Handled := by
  have done : (run (step plainSetup) (start oneEndpoint)
      (queueing ++ [delivery, deletion])).map (·.outcomes.map (·.err)) = some [none] := by
    decide +kernel
  obtain ⟨last, finished, outcomes⟩ := Option.map_eq_some_iff.mp done
  refine ⟨last, finished, outcomes, ?_⟩
  exact (handled_iff_registered plainSetup oneEndpoint (reachable_queued (by simp))
    (by decide +kernel) finished).mpr (by decide +kernel)

/-- The endpoint is deleted first: the call is posted, answered with a 200 and not committed, and
    it is posted again. -/
theorem deletion_fails_process :
    ∃ last, (∀ label ∈ queueing ++ [deletion, delivery, delivery], Reachable label) ∧
      Guarded (step plainSetup) NewIDs (start oneEndpoint)
        (queueing ++ [deletion, delivery, delivery]) ∧
      run (step plainSetup) (start oneEndpoint) (queueing ++ [deletion, delivery, delivery]) =
        some last ∧
      last.outcomes.map (fun o => (o.offset, o.err)) = List.replicate 2
        (0, some (.wrap "mark delivery delivered"
          (.app (newInternalError "update webhook delivery")))) ∧
      ¬last.Handled := by
  have done : (run (step plainSetup) (start oneEndpoint)
      (queueing ++ [deletion, delivery, delivery])).map
        (·.outcomes.map fun o => (o.offset, o.err)) = some (List.replicate 2
          (0, some (.wrap "mark delivery delivered"
            (.app (newInternalError "update webhook delivery"))))) := by
    decide +kernel
  obtain ⟨last, finished, outcomes⟩ := Option.map_eq_some_iff.mp done
  refine ⟨last, reachable_queued (by simp), by decide +kernel, finished, outcomes, fun handled => ?_⟩
  have failed : (0, some (Err.wrap "mark delivery delivered"
      (.app (newInternalError "update webhook delivery")))) ∈
        last.outcomes.map fun o => (o.offset, o.err) := by
    simp [outcomes]
  obtain ⟨o, member, same⟩ := List.mem_map.mp failed
  have nil := handled.nil o member
  simp [nil] at same

end WebhookSystem

end NotifyHub
