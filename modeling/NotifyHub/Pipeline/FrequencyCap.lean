import Mathlib.Data.List.Dedup
import NotifyHub.Pipeline.Process
import NotifyHub.PreferenceService

/-! # The frequency cap of a user

Calls of Process one after the other, with the answer of IsAllowed to their preference
check. IsAllowed reads of a preference whether it is enabled and its quiet hours; the
cap and its window are stored and never read, so nothing limits what an enabled user
gets.
-/

namespace NotifyHub.Pipeline

open Lifecycle NotificationRepository

/-! ## Histories -/

/-- A message delivered to Process, and what its outside calls answer. -/
structure Delivery where
  msg : Message
  world : Nat → Answer

/-- Each call starts where the last one ended. -/
def history (cfg : Config) : Shared → List Delivery → List (Message × Progress)
  | _, [] => []
  | sh, d :: rest =>
      (d.msg, process cfg d.msg d.world sh) ::
        history cfg (process cfg d.msg d.world sh).shared rest

/-- A user's channel. -/
structure Addressee where
  tenantID : UUID
  userID : String
  channel : Channel

def Addressee.Gets (u : Addressee) (msg : Message) (n : Notification) : Prop :=
  msg.tenantID = u.tenantID ∧ n.recipientID = u.userID ∧ n.channel.text = u.channel.text

instance (u : Addressee) (msg : Message) (n : Notification) : Decidable (u.Gets msg n) :=
  inferInstanceAs (Decidable (_ ∧ _ ∧ _))

/-- The call is a Send that the provider accepts, to this user. -/
def Call.accepted (u : Addressee) (msg : Message) (call : Call) : Option (UUID × Time) :=
  match call.pc, call.answer.fault with
  | .send n _, none => if u.Gets msg n then some (n.id, call.answer.now) else none
  | _, _ => none

def acceptedFor (u : Addressee) (calls : List (Message × Progress)) : List (UUID × Time) :=
  calls.flatMap fun entry => entry.2.calls.filterMap (Call.accepted u entry.1)

/-- The notifications accepted from `from_` on, for `w` minutes. -/
def acceptedWithin (from_ : Time) (w : Int) (accepted : List (UUID × Time)) : List UUID :=
  ((accepted.filter fun entry =>
    decide (from_ ≤ entry.2) && decide (entry.2 < from_ + w * minute)).map (·.1)).dedup

/-- The preference check is answered by IsAllowed. -/
def Call.Checked (zones : Zones) (s : Storage) (msg : Message) (call : Call) : Prop :=
  match call.pc with
  | .preference n =>
      match PreferenceService.isAllowed zones call.answer.conn s msg.tenantID n.recipientID n.channel
          call.answer.now with
      | .ok (true, _) => call.answer.block = none
      | .ok (false, reason) => call.answer.block = some reason
      | .error _ => True
  | _ => True

def Checked (zones : Zones) (s : Storage) (calls : List (Message × Progress)) : Prop :=
  ∀ entry ∈ calls, ∀ call ∈ entry.2.calls, call.Checked zones s entry.1

/-- Where this preference is stored, and whatever else is the case, no window sees more
    notifications accepted than the cap. -/
def CapHonoured (u : Addressee) (row : PreferenceRow) : Prop :=
  ∀ s : Storage, getPreference s.preferences.rows u.tenantID u.userID u.channel = .ok row →
    ∀ c ∈ row.frequencyCap, ∀ w ∈ row.frequencyWindowMinutes,
      ∀ zones cfg sh deliveries, sh.db = s.core → Checked zones s (history cfg sh deliveries) →
        ∀ from_,
          ((acceptedWithin from_ w (acceptedFor u (history cfg sh deliveries))).length : Int) ≤ c

/-! ## Who is disabled gets nothing -/

/-- The preference check of the notification said yes. -/
def Asked (calls : List Call) (n : Notification) : Prop :=
  ∃ call ∈ calls, call.pc = .preference n ∧ call.answer.fault = none ∧ call.answer.block = none

/-- From the check to the last Send. -/
def Cleared (calls : List Call) : ProcessPc → Prop
  | .rateLimit n | .render n | .send n _ | .backoff n _ => Asked calls n
  | .fetch | .markProcessing _ | .preference _ | .closing .. | .returned _ => True

theorem Asked.more {calls : List Call} {n : Notification} (asked : Asked calls n) (call : Call) :
    Asked (calls ++ [call]) n := by
  obtain ⟨earlier, member, rest⟩ := asked
  exact ⟨earlier, List.mem_append_left _ member, rest⟩

theorem cleared_onward {cfg : Config} {a : Answer} {msg : Message} {sh sh' : Shared}
    {calls : List Call} {pc pc' : ProcessPc} (onward : Onward cfg a msg sh pc sh' pc')
    (cleared : Cleared calls pc) : Cleared (calls ++ [⟨pc, a⟩]) pc' := by
  cases onward with
  | unfetched | fetched | unprocessed | processing | unasked | unwanted | uncounted | limited
  | unsendable | sent | gaveUp | interrupted | closed | closing => trivial
  | @wanted n answered free => exact ⟨⟨.preference n, a⟩, by simp, rfl, answered, free⟩
  | unlimited | rendered | unsent | waited => exact Asked.more cleared _

/-- Nothing is sent that the preference check has not let through. -/
theorem sent_asked (cfg : Config) (msg : Message) (world : Nat → Answer) (sh : Shared) {call : Call}
    {n : Notification} {attempt : Int} (made : call ∈ (process cfg msg world sh).calls)
    (sends : call.pc = .send n attempt) : Asked (process cfg msg world sh).calls n := by
  have inv : Cleared (process cfg msg world sh).calls (process cfg msg world sh).pc ∧
      ∀ call ∈ (process cfg msg world sh).calls, ∀ n attempt, call.pc = .send n attempt →
        Asked (process cfg msg world sh).calls n := by
    apply process_invariant (fun o => Cleared o.calls o.pc ∧
      ∀ call ∈ o.calls, ∀ n attempt, call.pc = .send n attempt → Asked o.calls n)
    · exact ⟨trivial, by simp [begin]⟩
    · rintro o a ⟨cleared, sent⟩ running
      refine ⟨cleared_onward (processStep_onward _ _ _ _ (result_eq_none running)) cleared, ?_⟩
      intro call member n attempt sends
      cases List.mem_append.mp member with
      | inl old => exact (sent call old n attempt sends).more _
      | inr new =>
          obtain rfl := List.mem_singleton.mp new
          have here : Cleared o.calls (.send n attempt) := sends ▸ cleared
          have asked : Asked o.calls n := here
          exact asked.more _
  exact inv.2 call made n attempt sends

theorem mem_history {cfg : Config} {sh : Shared} {deliveries : List Delivery}
    {entry : Message × Progress} (member : entry ∈ history cfg sh deliveries) :
    ∃ msg world sh', entry = (msg, process cfg msg world sh') := by
  induction deliveries generalizing sh with
  | nil => simp [history] at member
  | cons d rest ih =>
      cases List.mem_cons.mp member with
      | inl first => exact ⟨d.msg, d.world, sh, first⟩
      | inr later => exact ih later

/-- A preference is found by the text of its channel. -/
theorem getPreference_text {rows : List PreferenceRow} {tenantID : UUID} {userID : String}
    {channel other : Channel} (same : channel.text = other.text) :
    getPreference rows tenantID userID channel = getPreference rows tenantID userID other := by
  have found : preferenceAt tenantID userID channel = preferenceAt tenantID userID other := by
    funext row
    simp only [preferenceAt, same]
  simp only [getPreference, found]

theorem Addressee.Gets.preference {u : Addressee} {msg : Message} {n : Notification} {s : Storage}
    {row : PreferenceRow} (gets : u.Gets msg n)
    (stored : getPreference s.preferences.rows u.tenantID u.userID u.channel = .ok row) :
    getPreference s.preferences.rows msg.tenantID n.recipientID n.channel = .ok row := by
  rw [gets.1, gets.2.1, getPreference_text gets.2.2]
  exact stored

theorem conn_of_fault {a : Answer} (fine : a.fault = none) : a.conn = .up := by
  simp [Answer.conn, fine]

/-- Nothing is accepted for a user who has switched the channel off. -/
theorem acceptedFor_disabled {zones : Zones} {cfg : Config} {sh : Shared}
    {deliveries : List Delivery} {u : Addressee} {s : Storage} {row : PreferenceRow}
    (stored : getPreference s.preferences.rows u.tenantID u.userID u.channel = .ok row)
    (disabled : row.enabled = false) (checked : Checked zones s (history cfg sh deliveries)) :
    acceptedFor u (history cfg sh deliveries) = [] := by
  rw [acceptedFor, List.flatMap_eq_nil_iff]
  intro entry member
  rw [List.filterMap_eq_nil_iff]
  intro call made
  by_contra accepted
  obtain ⟨msg, world, sh', rfl⟩ := mem_history member
  cases sends : call.pc with
  | send n attempt =>
      obtain ⟨asking, before, asks, fine, free⟩ := sent_asked cfg msg world sh' made sends
      have gets : u.Gets msg n := by
        by_contra other
        apply accepted
        simp only [Call.accepted, sends]
        cases call.answer.fault with
        | none => exact if_neg other
        | some fault => rfl
      have answered := checked _ member asking before
      simp only [Call.Checked, asks, conn_of_fault fine,
        isAllowed_of_disabled (gets.preference stored) disabled, free] at answered
      cases answered
  | fetch | markProcessing | preference | rateLimit | render | backoff | closing | returned =>
      simp [Call.accepted, sends] at accepted

theorem acceptedWithin_empty {w : Int} (none_ : w ≤ 0) (from_ : Time)
    (accepted : List (UUID × Time)) : acceptedWithin from_ w accepted = [] := by
  have nothing : (accepted.filter fun entry =>
      decide (from_ ≤ entry.2) && decide (entry.2 < from_ + w * minute)) = [] := by
    rw [List.filter_eq_nil_iff]
    intro entry _
    have late : ∀ start at_ : Int, start ≤ at_ → ¬at_ < start + w * minute := by
      intro start at_ after
      simp only [minute, second]
      omega
    have here := late from_ entry.2
    simp only [Bool.and_eq_true, decide_eq_true_eq, not_and]
    exact here
  simp [acceptedWithin, nothing]

/-! ## Who is enabled gets everything -/

def numbered (k : Nat) : UUID := BitVec.ofNat 128 k

def invitation (u : Addressee) (k : Nat) : NotificationRow :=
  { id := numbered k
    tenantID := some u.tenantID
    idempotencyKey := none
    type := "invitation"
    channel := u.channel
    recipientID := u.userID
    recipientAddress := none
    templateID := none
    payload := []
    priority := 5
    status := .queued
    scheduledAt := none
    createdAt := 0
    updatedAt := 0 }

/-- `n` notifications to the user are queued. -/
def queuedFor (u : Addressee) (n : Nat) (small : n ≤ 2 ^ 128) : Database :=
  { Database.ofTenants [u.tenantID] with
    notifications := (List.range n).map (invitation u)
    notifications_pkey := by
      rw [Rows.uniqueOn_some, List.map_map]
      exact UUID.nodup_numbered small
    notifications_idempotency_key_key := .of_null (by simp [invitation])
    notifications_tenant_id_fkey := by
      intro row member x owner
      obtain ⟨k, _, rfl⟩ := List.mem_map.mp member
      obtain rfl := Option.some.inj owner
      exact List.mem_singleton.mpr rfl
    notifications_template_id_fkey := by
      intro row member x template
      obtain ⟨k, _, rfl⟩ := List.mem_map.mp member
      cases template }

/-- The user's notifications are there, and no others. -/
structure Staffed (u : Addressee) (n : Nat) (db : Database) : Prop where
  present : ∀ k < n, ∃ row ∈ db.notifications, row.id = numbered k ∧
    row.tenantID = some u.tenantID
  addressed : ∀ row ∈ db.notifications, row.recipientID = u.userID ∧ row.channel = u.channel

section Staffed

variable {u : Addressee} {n : Nat} {db : Database}

theorem staffed_queuedFor (u : Addressee) {n : Nat} (small : n ≤ 2 ^ 128) :
    Staffed u n (queuedFor u n small) := by
  constructor
  · intro k bound
    exact ⟨invitation u k, List.mem_map.mpr ⟨k, List.mem_range.mpr bound, rfl⟩, rfl, rfl⟩
  · intro row member
    obtain ⟨k, _, rfl⟩ := List.mem_map.mp member
    exact ⟨rfl, rfl⟩

theorem Staffed.stampWhere (staffed : Staffed u n db) (cond : NotificationRow → Bool)
    (status : NotificationStatus) (now : Time) : Staffed u n (db.stampWhere cond status now) := by
  have kept : ∀ row : NotificationRow,
      let new := if cond row then Database.stamp status now row else row
      new.id = row.id ∧ new.tenantID = row.tenantID ∧ new.recipientID = row.recipientID ∧
        new.channel = row.channel := by
    intro row
    cases hit : cond row <;> simp [Database.stamp]
  constructor
  · intro k bound
    obtain ⟨row, member, named, owner⟩ := staffed.present k bound
    refine ⟨_, Rows.mem_updateWhere.mpr ⟨row, member, rfl⟩, ?_, ?_⟩
    · exact (kept row).1.trans named
    · exact (kept row).2.1.trans owner
  · intro row member
    obtain ⟨old, there, rfl⟩ := Rows.mem_updateWhere.mp member
    have before := staffed.addressed old there
    exact ⟨(kept old).2.2.1.trans before.1, (kept old).2.2.2.trans before.2⟩

theorem Staffed.of_updateStatus (staffed : Staffed u n db) {conn : Conn} {id : UUID}
    {status : NotificationStatus} {now : Time} {result : Notification} {db' : Database}
    (updated : updateStatus conn db id status now = .ok (result, db')) :
    Staffed u n db' := by
  obtain ⟨_, _, _, _, rfl⟩ := updateStatus_ok updated
  exact staffed.stampWhere _ _ _

theorem Staffed.closingStep {cfg : Config} {a : Answer} {msg : Message} {note : Notification}
    {sh : Shared} (staffed : Staffed u n sh.db) (act : Closing) :
    Staffed u n (closingStep cfg a msg note sh act).db := by
  rcases closingStep_db cfg a msg note sh act with same | ⟨status, result, _, updated⟩
  · rwa [same]
  · exact staffed.of_updateStatus updated

end Staffed

/-- The message of the `k`-th notification. -/
def letterTo (u : Addressee) (k : Nat) : Message :=
  { notificationID := numbered k
    tenantID := u.tenantID
    channel := u.channel
    recipientID := u.userID
    recipientAddress := ""
    templateID := none
    payload := []
    priority := 5
    attempt := 1
    maxAttempts := 3
    enqueuedAt := 0 }

/-- The outside call succeeds at the instant. -/
def fineAt (now : Time) : Answer := { now := now }

/-- The notification is the `k`-th of the user. -/
def Addressee.Expects (u : Addressee) (k : Nat) (n : Notification) : Prop :=
  n.id = numbered k ∧ n.recipientID = u.userID ∧ n.channel = u.channel

theorem Addressee.Expects.gets {u : Addressee} {k : Nat} {n : Notification}
    (expects : u.Expects k n) : u.Gets (letterTo u k) n :=
  ⟨rfl, expects.2.1, congrArg Channel.text expects.2.2⟩

/-- Nothing stops a call on its way to the provider, who accepts. -/
def Unstopped (u : Addressee) (k : Nat) (now : Time) (calls : List Call) : ProcessPc → Prop
  | .fetch => True
  | .markProcessing n | .preference n | .rateLimit n | .render n | .send n _ => u.Expects k n
  | .backoff .. => False
  | .closing .. | .returned _ =>
      (numbered k, now) ∈ calls.filterMap (Call.accepted u (letterTo u k))

section Unstopped

variable {u : Addressee} {n k : Nat} {now : Time} {sh : Shared} {calls : List Call}
  {pc : ProcessPc}

theorem Staffed.fetched (staffed : Staffed u n sh.db) (bound : k < n) :
    ∃ note, getByID .up sh.db u.tenantID (numbered k) = .ok note ∧ u.Expects k note := by
  obtain ⟨row, stored, named, owner⟩ := staffed.present k bound
  refine ⟨dbNotificationToDomain row, named ▸ getByID_of_mem stored owner, named, ?_⟩
  exact staffed.addressed row stored

theorem Staffed.marked (staffed : Staffed u n sh.db) (bound : k < n) (status : NotificationStatus)
    (now : Time) :
    ∃ result db', updateStatus .up sh.db (numbered k) status now = .ok (result, db') := by
  obtain ⟨row, stored, named, _⟩ := staffed.present k bound
  exact ⟨_, _, named ▸ updateStatus_of_mem stored⟩

theorem mem_accepted_more {msg : Message} {entry : UUID × Time}
    (accepted : entry ∈ calls.filterMap (Call.accepted u msg)) (call : Call) :
    entry ∈ (calls ++ [call]).filterMap (Call.accepted u msg) := by
  rw [List.filterMap_append]
  exact List.mem_append_left _ accepted

theorem unstopped_onward {sh' : Shared} {pc' : ProcessPc}
    (onward : Onward plain (fineAt now) (letterTo u k) sh pc sh' pc') (staffed : Staffed u n sh.db)
    (bound : k < n) (unstopped : Unstopped u k now calls pc) :
    Staffed u n sh'.db ∧ Unstopped u k now (calls ++ [⟨pc, fineAt now⟩]) pc' := by
  cases onward with
  | unfetched failed =>
      obtain ⟨note, found, _⟩ := staffed.fetched bound
      cases failed.symm.trans found
  | fetched found =>
      obtain ⟨note, there, expects⟩ := staffed.fetched bound
      cases found.symm.trans there
      exact ⟨staffed, expects⟩
  | unprocessed failed =>
      obtain ⟨result, db', marked⟩ := staffed.marked bound .processing now
      have named : _ = numbered k := unstopped.1
      rw [named] at failed
      cases failed.symm.trans marked
  | processing updated => exact ⟨staffed.of_updateStatus updated, unstopped⟩
  | wanted | unlimited | rendered => exact ⟨staffed, unstopped⟩
  | @sent note attempt =>
      have expects : u.Expects k note := unstopped
      have accepted : Call.accepted u (letterTo u k) ⟨.send note attempt, fineAt now⟩ =
          some (numbered k, now) := by
        simp only [Call.accepted, fineAt, expects.gets, if_true, expects.1]
      exact ⟨staffed, List.mem_filterMap.mpr ⟨_, by simp, accepted⟩⟩
  | closed => exact ⟨staffed, mem_accepted_more unstopped _⟩
  | closing => exact ⟨staffed.closingStep _, mem_accepted_more unstopped _⟩
  -- no call fails, nothing is blocked or capped, and every channel has a provider
  | unasked failed | gaveUp failed | unsent failed | interrupted failed => cases failed
  | unwanted _ blocked => cases blocked
  | uncounted _ capped | limited capped => cases capped
  | unsendable stuck => simp [fineAt, plain] at stuck
  | waited => exact unstopped.elim

end Unstopped

/-- The notifications are processed one after the other, all at once. -/
def rush (u : Addressee) (now : Time) (ks : List Nat) : List Delivery :=
  ks.map fun k => ⟨letterTo u k, fun _ => fineAt now⟩

section Rush

variable {u : Addressee} {n k : Nat} {sh : Shared} {s : Storage} {row : PreferenceRow}

theorem checked_fineAt
    (stored : getPreference s.preferences.rows u.tenantID u.userID u.channel = .ok row)
    (enabled : row.enabled = true) {calls : List Call} {pc : ProcessPc}
    (unstopped : Unstopped u k (wake row) calls pc) :
    Call.Checked (fun _ => none) s (letterTo u k) ⟨pc, fineAt (wake row)⟩ := by
  cases pc with
  | preference note =>
      have expects : u.Expects k note := unstopped
      have allowed := isAllowed_at_wake (expects.gets.preference stored) enabled
      have answered : PreferenceService.isAllowed (fun _ => none) (fineAt (wake row)).conn s
          (letterTo u k).tenantID note.recipientID note.channel (fineAt (wake row)).now =
            .ok (true, "") := allowed
      simp only [Call.Checked, answered]
      rfl
  | fetch | markProcessing | rateLimit | render | send | backoff | closing | returned => trivial

/-- An enabled user's notification goes through. -/
theorem process_accepts
    (stored : getPreference s.preferences.rows u.tenantID u.userID u.channel = .ok row)
    (enabled : row.enabled = true) (staffed : Staffed u n sh.db) (bound : k < n) :
    let o := process plain (letterTo u k) (fun _ => fineAt (wake row)) sh
    Staffed u n o.shared.db ∧
      (numbered k, wake row) ∈ o.calls.filterMap (Call.accepted u (letterTo u k)) ∧
      ∀ call ∈ o.calls, call.Checked (fun _ => none) s (letterTo u k) := by
  intro o
  have inv : Staffed u n o.shared.db ∧ Unstopped u k (wake row) o.calls o.pc ∧
      ∀ call ∈ o.calls, call.Checked (fun _ => none) s (letterTo u k) := by
    apply process_along fun o => Staffed u n o.shared.db ∧ Unstopped u k (wake row) o.calls o.pc ∧
      ∀ call ∈ o.calls, call.Checked (fun _ => none) s (letterTo u k)
    · exact ⟨staffed, trivial, by simp [begin]⟩
    · rintro o ⟨staffed, unstopped, checked⟩ running
      have next := unstopped_onward (processStep_onward _ _ _ _ (result_eq_none running)) staffed bound
        unstopped
      refine ⟨next.1, next.2, ?_⟩
      intro call member
      cases List.mem_append.mp member with
      | inl old => exact checked call old
      | inr new =>
          obtain rfl := List.mem_singleton.mp new
          exact checked_fineAt stored enabled unstopped
  obtain ⟨err, result⟩ := process_returns plain (letterTo u k) (fun _ => fineAt (wake row)) sh
  obtain ⟨staffed', unstopped, checked⟩ := inv
  refine ⟨staffed', ?_, checked⟩
  have finished : o.pc = .returned err := by
    have said : o.result = some err := result
    unfold Progress.result at said
    split at said
    · rename_i pc
      rw [pc, Option.some.inj said]
    · cases said
  rw [finished] at unstopped
  exact unstopped

theorem rush_accepted
    (stored : getPreference s.preferences.rows u.tenantID u.userID u.channel = .ok row)
    (enabled : row.enabled = true) (staffed : Staffed u n sh.db) {ks : List Nat}
    (inside : ∀ k ∈ ks, k < n) :
    Checked (fun _ => none) s (history plain sh (rush u (wake row) ks)) ∧
      ∀ k ∈ ks, (numbered k, wake row) ∈
        acceptedFor u (history plain sh (rush u (wake row) ks)) := by
  induction ks generalizing sh with
  | nil => simp [rush, history, Checked]
  | cons k ks ih =>
      obtain ⟨staffed', accepted, checked⟩ :=
        process_accepts stored enabled staffed (inside k (by simp))
      obtain ⟨checkedRest, acceptedRest⟩ := ih staffed' fun k' later => inside k' (by simp [later])
      constructor
      · intro entry member
        cases List.mem_cons.mp member with
        | inl first => exact first ▸ checked
        | inr later => exact checkedRest entry later
      · intro k' member
        simp only [rush, List.map_cons, history, acceptedFor, List.flatMap_cons]
        cases List.mem_cons.mp member with
        | inl first => exact List.mem_append_left _ (first ▸ accepted)
        | inr later => exact List.mem_append_right _ (acceptedRest k' later)

end Rush

/-- As many notifications as are accepted at one instant lie in a window from it. -/
theorem length_acceptedWithin {w : Int} (positive : 0 < w) {n : Nat} (small : n ≤ 2 ^ 128)
    {now : Time} {accepted : List (UUID × Time)}
    (all : ∀ k ∈ List.range n, (numbered k, now) ∈ accepted) :
    n ≤ (acceptedWithin now w accepted).length := by
  have inWindow : ∀ at_ : Int, at_ < at_ + w * minute := by
    intro at_
    simp only [minute, second]
    omega
  have included : (List.range n).map numbered ⊆ acceptedWithin now w accepted := by
    intro id member
    obtain ⟨k, inside, rfl⟩ := List.mem_map.mp member
    have within : (decide (now ≤ now) && decide (now < now + w * minute)) = true := by
      simp only [Bool.and_eq_true, decide_eq_true_eq]
      exact ⟨Int.le_refl _, inWindow now⟩
    rw [acceptedWithin, List.mem_dedup]
    exact List.mem_map.mpr ⟨_, List.mem_filter.mpr ⟨all k inside, within⟩, rfl⟩
  have count := (List.subperm_of_subset (UUID.nodup_numbered small) included).length_le
  rwa [List.length_map, List.length_range] at count

/-! ## The cap -/

/-- The user's preference is stored and `n` notifications are queued. -/
def crowded (u : Addressee) (row : PreferenceRow) (n : Nat) (small : n ≤ 2 ^ 128)
    (owner : preferenceAt u.tenantID u.userID u.channel row = true) : Storage :=
  { Storage.ofCore (queuedFor u n small) with
    preferences :=
      { rows := [row]
        pkey := List.nodup_singleton _
        unique := by
          cases key : row.key <;> simp [Rows.UniqueOn, key]
        valid := by
          intro stored member x tenant
          obtain rfl := List.mem_singleton.mp member
          simp only [preferenceAt, Bool.and_eq_true, beq_iff_eq] at owner
          obtain rfl := Option.some.inj (tenant.symm.trans owner.1.1)
          exact List.mem_singleton.mpr rfl } }

theorem getPreference_crowded {u : Addressee} {row : PreferenceRow} {n : Nat}
    {small : n ≤ 2 ^ 128} (owner : preferenceAt u.tenantID u.userID u.channel row = true) :
    getPreference (crowded u row n small owner).preferences.rows u.tenantID u.userID u.channel =
      .ok row := by
  simp [crowded, getPreference, owner]

def idle (db : Database) : Shared := { (initial db).shared with db := db }

/-- `n` notifications are accepted in one window of an enabled user. -/
theorem crowded_accepted {u : Addressee} {row : PreferenceRow} {w : Int} {n : Nat}
    (small : n ≤ 2 ^ 128) (owner : preferenceAt u.tenantID u.userID u.channel row = true)
    (enabled : row.enabled = true) (positive : 0 < w) :
    let calls := history plain (idle (queuedFor u n small)) (rush u (wake row) (List.range n))
    Checked (fun _ => none) (crowded u row n small owner) calls ∧
      n ≤ (acceptedWithin (wake row) w (acceptedFor u calls)).length := by
  have stored : getPreference (crowded u row n small owner).preferences.rows u.tenantID u.userID
      u.channel = .ok row := getPreference_crowded owner
  have staffed : Staffed u n (idle (queuedFor u n small)).db := staffed_queuedFor u small
  obtain ⟨checked, accepted⟩ := rush_accepted stored enabled staffed
    (fun k member => List.mem_range.mp member)
  exact ⟨checked, length_acceptedWithin positive small accepted⟩

def subscriber : Addressee := ⟨acme, "u1", .email⟩

def onePerHour (enabled : Bool) : PreferenceRow :=
  { id := 7
    tenantID := some acme
    userID := "u1"
    channel := .email
    enabled := enabled
    quietHoursStart := none
    quietHoursEnd := none
    frequencyCap := some 1
    frequencyWindowMinutes := some 60
    timezone := some "UTC"
    createdAt := 0
    updatedAt := 0 }

theorem hourly_owner (enabled : Bool) :
    preferenceAt subscriber.tenantID subscriber.userID subscriber.channel (onePerHour enabled) =
      true := by
  cases enabled <;> decide +kernel

/-- The cap of a stored preference limits what its user gets exactly when the user gets
    nothing anyway: the channel is switched off, or the window is empty. The column is
    an INTEGER. -/
theorem frequency_cap_iff (u : Addressee) (row : PreferenceRow) (c w : Int)
    (owner : preferenceAt u.tenantID u.userID u.channel row = true)
    (cap : row.frequencyCap = some c) (window : row.frequencyWindowMinutes = some w)
    (integer : c < 2 ^ 31) :
    CapHonoured u row ↔ 0 ≤ c ∧ (row.enabled = false ∨ w ≤ 0) := by
  constructor
  · intro honoured
    have nonneg : 0 ≤ c := by
      have quiet := honoured (crowded u row 0 (Nat.zero_le _) owner) (getPreference_crowded owner)
        c cap w window (fun _ => none) plain (idle (queuedFor u 0 (Nat.zero_le _))) [] rfl
        (by simp [Checked, history]) 0
      simpa [history, acceptedFor, acceptedWithin] using quiet
    refine ⟨nonneg, ?_⟩
    by_contra open_
    simp only [not_or, Bool.not_eq_false, Int.not_le] at open_
    have small : c.toNat + 1 ≤ 2 ^ 128 := by omega
    obtain ⟨checked, many⟩ := crowded_accepted small owner open_.1 open_.2
    have limit := honoured _ (getPreference_crowded owner) c cap w window _ _ _ _ rfl checked
      (wake row)
    omega
  · rintro ⟨nonneg, closed⟩ s found c' cap' w' window' zones cfg sh deliveries _ checked from_
    obtain rfl : c = c' := Option.some.inj (cap.symm.trans cap')
    obtain rfl : w = w' := Option.some.inj (window.symm.trans window')
    cases closed with
    | inl disabled =>
        rw [acceptedFor_disabled found disabled checked]
        simpa [acceptedWithin] using nonneg
    | inr empty =>
        rw [acceptedWithin_empty empty]
        exact nonneg

theorem disabled_cap_honoured : CapHonoured subscriber (onePerHour false) :=
  (frequency_cap_iff subscriber (onePerHour false) 1 60 (hourly_owner false) rfl rfl (by decide)).mpr
    ⟨by decide, .inl rfl⟩

/-- Two notifications within an hour are both accepted, where the user asked for one. -/
theorem second_of_hour_accepted :
    let s := crowded subscriber (onePerHour true) 2 (by decide) (hourly_owner true)
    let calls := history plain (idle s.core) (rush subscriber 0 [0, 1])
    getPreference s.preferences.rows acme "u1" .email = .ok (onePerHour true) ∧
      Checked (fun _ => none) s calls ∧
      acceptedWithin 0 60 (acceptedFor subscriber calls) = [numbered 0, numbered 1] := by
  refine ⟨getPreference_crowded (hourly_owner true), ?_, by decide +kernel⟩
  exact (crowded_accepted (w := 60) (by decide) (hourly_owner true) rfl (by decide)).1

end NotifyHub.Pipeline
