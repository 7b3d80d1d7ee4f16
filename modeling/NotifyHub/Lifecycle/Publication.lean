import NotifyHub.Lifecycle.Coherence

/-! # Queued means published

A status other than pending and dropped is written only after a publish: by the thread
that made it, or by a worker that has the message in hand. So it tells that a message
for the notification has reached the topic of its channel, whatever has failed or
interleaved since.
-/

namespace NotifyHub.Lifecycle

open Database NotificationRepository

/-- The statuses of a notification that has been handed to the queue. -/
def handedOver : List NotificationStatus := [.queued, .processing, .delivered, .failed]

def Traceable (sh : Shared) : Prop :=
  ∀ row ∈ sh.db.notifications, row.status ∈ handedOver → Published sh row.id row.channel

section Step

variable {cfg : Config} {i : Nat} {a : Answer} {s : State} {sh sh' : Shared} {t t' : Thread}

/-- Nothing is stored or written. -/
theorem Traceable.keep (inv : Traceable sh) (grows : Grows sh sh') (db : sh'.db = sh.db) :
    Traceable sh' := by
  intro row stored moved
  rw [db] at stored
  exact grows.published (inv row stored moved)

theorem Traceable.stamp {cond : NotificationRow → Bool} {status : NotificationStatus} {time : Time}
    (inv : Traceable sh) (grows : Grows sh sh') (db : sh'.db = sh.db.stampWhere cond status time)
    (reason : status ∈ handedOver → ∀ row ∈ sh.db.notifications, cond row = true →
      Published sh row.id row.channel) : Traceable sh' := by
  intro row stored moved
  rw [db] at stored
  obtain ⟨old, before, rfl⟩ := Rows.mem_updateWhere.mp stored
  apply grows.published
  by_cases hit : cond old = true
  · simp only [hit, if_true] at moved ⊢
    exact reason moved old before hit
  · simp only [hit, Bool.false_eq_true, if_false] at moved ⊢
    exact inv old before moved

/-- A status written by id, for a notification that has been published. -/
theorem Traceable.mark {conn : Conn} {id : UUID} {status : NotificationStatus} {time : Time}
    {result : Notification} {db : Database} (inv : Traceable sh)
    (updated : updateStatus conn sh.db id status time = .ok (result, db))
    (sent : ∀ row ∈ sh.db.notifications, row.id = id → Published sh row.id row.channel) :
    Traceable { sh with db := db } := by
  obtain ⟨_, _, _, _, rfl⟩ := updateStatus_ok updated
  refine inv.stamp (.of_stamp rfl rfl) rfl ?_
  intro _ row stored hit
  exact sent row stored (beq_iff_eq.mp hit)

theorem Traceable.moved (inv : Traceable s.shared) (coherent : Coherent s)
    (running : s.threads[i]? = some t) (move : Move cfg i a s.shared t sh t') : Traceable sh := by
  have before := coherent.threads t (List.mem_of_getElem? running)
  have grows := move.grows
  cases move with
  | created inserted =>
      obtain ⟨_, row, fits, _, accepted, rfl⟩ := create_ok inserted
      obtain ⟨_, _, pending, _⟩ := row_of_insertParams fits
      intro other stored moved
      rcases List.mem_append.mp stored with old | new
      · exact grows.published (inv other old moved)
      · obtain rfl := List.mem_singleton.mp new
        simp [pending, handedOver] at moved
  | queued updated =>
      exact inv.mark updated
        ((before.copies _ (List.mem_singleton_self _)).published (before.marking _ rfl))
  | itemQueued updated =>
      exact inv.mark updated
        ((before.copies _ List.mem_cons_self).published (before.marking _ rfl))
  | processing updated | settled updated =>
      obtain ⟨⟨record, at_, value⟩, same, _⟩ := before.message _ _ _ rfl
      refine inv.mark updated ?_
      intro row stored hit
      refine coherent.consumed (List.mem_of_getElem? at_) row stored ?_
      rw [hit, value]
      exact (same _ (List.mem_singleton_self _)).1
  | working quiet => exact inv.keep grows quiet.db
  | published | itemPublished => exact inv.keep grows rfl
  | refused | hit | miss | later | due | unpublished | unmarked | nextRecipient | unlisted | listed
  | itemUnpublished | itemUnmarked | unfetched | fetched | unprocessed => exact inv

theorem traceable_step {s' : State} {label : Label} (coherent : Coherent s)
    (inv : Traceable s.shared) (taken : step cfg s label = some s') : Traceable s'.shared := by
  cases step_steps taken with
  | stay | start | deliver => exact inv
  | cancelled updated =>
      obtain ⟨row, stored, hit, _, rfl⟩ := cancel_ok updated
      exact inv.stamp (.of_stamp rfl rfl) rfl (fun sent => by simp [handedOver] at sent)
  | replayed stored => exact inv.keep (.of_publish _ _) rfl
  | moved running move => exact inv.moved coherent running move

end Step

/-- In every reachable state, a notification that is queued, processing, delivered or
    failed has had a message on its channel's topic. -/
theorem queued_means_published (cfg : Config) (db : Database) (labels : List Label) (s : State)
    (finished : run cfg (initial db) labels = some s) :
    ∀ row ∈ s.shared.db.notifications,
      row.status ∈ [.queued, .processing, .delivered, .failed] →
        Published s.shared row.id row.channel := by
  have keeps : ∀ s label next, Coherent s ∧ Traceable s.shared → step cfg s label = some next →
      Coherent next ∧ Traceable next.shared :=
    fun _ _ _ inv taken => ⟨coherent_step inv.1 taken, traceable_step inv.1 inv.2 taken⟩
  have start : Traceable (initial db).shared := by
    simp [Traceable, initial, withoutNotifications]
  have inv := Transition.run_invariant keeps ⟨coherent_initial db, start⟩ finished
  exact inv.2

/-- A Send whose message a worker has fetched: the row is in processing, and published. -/
theorem processing_published :
    ∃ s, run plain deployed ([.call acme welcome] ++ steps 0 5 ++ [.deliver 0] ++ steps 1 2) =
        some s ∧ statusOf s.shared.db 0 = some .processing ∧
      ∀ row ∈ s.shared.db.notifications,
        row.status ∈ [.queued, .processing, .delivered, .failed] →
          Published s.shared row.id row.channel := by
  have reached : (run plain deployed
      ([.call acme welcome] ++ steps 0 5 ++ [.deliver 0] ++ steps 1 2)).map
        (fun s => statusOf s.shared.db 0) = some (some .processing) := by
    decide +kernel
  obtain ⟨s, finished, status⟩ := Option.map_eq_some_iff.mp reached
  exact ⟨s, finished, status, queued_means_published _ _ _ s finished⟩

end NotifyHub.Lifecycle
