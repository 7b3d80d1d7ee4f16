import NotifyHub.Lib.Glob
import NotifyHub.Realtime.Reconnect
import NotifyHub.Realtime.Subscribers

/-! # Routing

From a Send of the in-app provider through Redis to the channels of the hub. Redis gives
Run every message whose channel matches the pattern Run subscribes to; Run splits the
name of the channel and hands the message to Publish.
-/

namespace NotifyHub.Realtime

open NotifyHub.Stream (redisChannel channelParts channelParts_redisChannel persist)

/-! ## The names -/

/-- How Redis reads a pattern. Character classes are left out. -/
def globTokens : List Char → List (Glob.Token Char)
  | [] => []
  | '*' :: rest => .many :: globTokens rest
  | '?' :: rest => .any :: globTokens rest
  | '\\' :: c :: rest => .lit c :: globTokens rest
  | c :: rest => .lit c :: globTokens rest

/-- Run's PSUBSCRIBE. -/
def subscribedTo (channel : String) : Bool :=
  Glob.accepts (globTokens "inapp:*:*".toList) channel.toList

theorem subscribedTo_redisChannel (tenantID recipientID : String) :
    subscribedTo (redisChannel tenantID recipientID) = true := by
  have tokens : globTokens "inapp:*:*".toList =
      "inapp:".toList.map .lit ++ .many :: ([':'].map .lit ++ [.many]) := by decide
  have chars : (redisChannel tenantID recipientID).toList =
      "inapp:".toList ++ (tenantID.toList ++ ([':'] ++ recipientID.toList)) := by
    simp [redisChannel]
  rw [subscribedTo, tokens, chars, Glob.accepts_lits, Glob.accepts_many]
  -- the first star is the tenant, the second the recipient
  refine ⟨tenantID.toList, _, rfl, ?_⟩
  rw [Glob.accepts_lits, Glob.accepts_many]
  exact ⟨recipientID.toList, [], (List.append_nil _).symm, rfl⟩

/-- All tenants' texts have one length, so the key is cut at one place. -/
theorem hubKey_injective {tenantID tenantID' : UUID} {recipientID recipientID' : String}
    (same : hubKey tenantID.text recipientID = hubKey tenantID'.text recipientID') :
    tenantID = tenantID' ∧ recipientID = recipientID' := by
  have chars := congrArg String.toList same
  simp only [hubKey, String.toList_append, List.append_assoc] at chars
  have width : tenantID.text.toList.length = tenantID'.text.toList.length := by
    rw [String.length_toList, String.length_toList, UUID.length_text, UUID.length_text]
  obtain ⟨tenant, rest⟩ := List.append_inj chars width
  exact ⟨UUID.text_injective (String.toList_injective tenant),
    String.toList_injective (List.append_cancel_left rest)⟩

/-! ## The subscriptions -/

section Subscriptions

variable {α : Type}

def Record.pair (rec : Record α) : String × String := (rec.tenantID, rec.recipientID)

/-- The pair a Subscribe is for. -/
def Operation.opens : Operation α → List (String × String)
  | .subscribe tenantID recipientID => [(tenantID, recipientID)]
  | _ => []

theorem modify_pairs (records : List (Record α)) (ch : Nat) {f : Record α → Record α}
    (kept : ∀ rec, (f rec).pair = rec.pair) :
    (records.modify ch f).map Record.pair = records.map Record.pair := by
  apply List.ext_getElem?
  intro other
  rw [List.getElem?_map, List.getElem?_map, List.getElem?_modify, Option.map_eq_map,
    Option.map_map]
  congr 1
  funext rec
  by_cases same : ch = other
  · simp only [Function.comp_apply, if_pos same, kept]
  · simp only [Function.comp_apply, if_neg same]

/-- A record keeps its pair. -/
theorem recordsBy_pairs (j : Journal α) (op : Operation α) :
    (j.recordsBy op).map Record.pair = j.records.map Record.pair ++ op.opens := by
  cases op with
  | subscribe tenantID recipientID =>
      simp only [Journal.recordsBy, List.map_append, Operation.opens]
      rfl
  | cancel ch =>
      simp only [Operation.opens, List.append_nil]
      exact modify_pairs j.records ch fun _ => rfl
  | publish tenantID recipientID msg order =>
      simp only [Journal.recordsBy, Operation.opens, List.append_nil]
      apply List.ext_getElem?
      intro ch
      rw [List.getElem?_map, List.getElem?_map, List.getElem?_mapIdx, Option.map_map]
      congr 1
      funext rec
      simp only [Function.comp_apply]
      split
      · rfl
      · rfl
  | receive ch =>
      simp only [Operation.opens, List.append_nil]
      exact modify_pairs j.records ch fun _ => rfl

/-- The channels' records are the Subscribes of the history, in order. -/
theorem run_pairs {j last : Journal α} {ops : List (Operation α)}
    (finished : j.run ops = some last) :
    last.records.map Record.pair = j.records.map Record.pair ++ ops.flatMap Operation.opens := by
  induction ops generalizing j with
  | nil =>
      obtain rfl := Option.some.inj finished
      simp
  | cons op rest ih =>
      obtain ⟨next, taken, onward⟩ := Transition.run_cons_inv finished
      obtain ⟨hub, _, rfl⟩ := Option.map_eq_some_iff.mp taken
      rw [ih onward, recordsBy_pairs, List.append_assoc, List.flatMap_cons]

/-- Every Subscribe is for a tenant's id. -/
def ByTenants (ops : List (Operation α)) : Prop :=
  ∀ tenantID recipientID, .subscribe tenantID recipientID ∈ ops → ∃ id : UUID, tenantID = id.text

theorem ByTenants.record {bufSize : Int} {ops : List (Operation α)} {j : Journal α} {ch : Nat}
    {rec : Record α} (tenants : ByTenants ops)
    (finished : (Journal.start bufSize : Journal α).run ops = some j)
    (noted : j.records[ch]? = some rec) : ∃ id : UUID, rec.tenantID = id.text := by
  have pairs := run_pairs finished
  have member : rec.pair ∈ ops.flatMap Operation.opens := by
    have listed := List.mem_map_of_mem (f := Record.pair) (List.mem_of_getElem? noted)
    rw [pairs] at listed
    exact listed
  obtain ⟨op, called, opened⟩ := List.mem_flatMap.mp member
  cases op with
  | subscribe tenantID recipientID =>
      have same : rec.pair = (tenantID, recipientID) := List.mem_singleton.mp opened
      obtain ⟨id, rfl⟩ := tenants tenantID recipientID called
      exact ⟨id, congrArg Prod.fst same⟩
  | cancel | publish | receive => cases opened

/-- The key of a tenant's pair lists the subscriptions for that pair. -/
theorem ByTenants.mem_listed_iff {bufSize : Int} {ops : List (Operation α)} {j : Journal α}
    {ch : Nat} (tenants : ByTenants ops)
    (finished : (Journal.start bufSize : Journal α).run ops = some j) (tenantID : UUID)
    (recipientID : String) :
    ch ∈ j.hub.listed (j.hub.conns (hubKey tenantID.text recipientID)) ↔
      ∃ rec, j.records[ch]? = some rec ∧ rec.ended = none ∧
        rec.tenantID = tenantID.text ∧ rec.recipientID = recipientID := by
  rw [((Journal.Inv.start bufSize).run finished).mem_listed_iff]
  constructor
  · rintro ⟨rec, noted, going, same⟩
    obtain ⟨id, tenant⟩ := tenants.record finished noted
    rw [tenant] at same
    obtain ⟨rfl, recipient⟩ := hubKey_injective same
    exact ⟨rec, noted, going, tenant, recipient⟩
  · rintro ⟨rec, noted, going, tenant, recipient⟩
    exact ⟨rec, noted, going, by rw [tenant, recipient]⟩

/-! ## From Send to the channels -/

/-- A message on the wire. Redis passes on what Run subscribes to, and Run skips a name it
    cannot split. -/
def Journal.forward (j : Journal α) (channel : String) (msg : α) (order : List Nat) :
    Option (Journal α) :=
  if subscribedTo channel then
    match channelParts channel with
    | none => some j
    | some (tenantID, recipientID) => j.step (.publish tenantID recipientID msg order)
  else some j

theorem forward_redisChannel (j : Journal α) (tenantID : UUID) (recipientID : String) (msg : α)
    (order : List Nat) :
    j.forward (redisChannel tenantID.text recipientID) msg order =
      j.step (.publish tenantID.text recipientID msg order) := by
  rw [Journal.forward, if_pos (subscribedTo_redisChannel _ _), channelParts_redisChannel]

theorem publish_enabled (j : Journal α) (tenantID recipientID : String) (msg : α) :
    ∃ order next, j.step (.publish tenantID recipientID msg order) = some next := by
  let order := j.hub.listed (j.hub.conns (hubKey tenantID recipientID))
  have done : atomic j.hub (.publish tenantID recipientID msg order) =
      some (j.hub.publish msg order) := if_pos (List.Perm.refl order)
  exact ⟨order, _, by rw [Journal.step, done, Option.map_some]⟩

end Subscriptions

/-- The name a Send publishes under. -/
theorem persist_channel {conn : Conn} {s s' : Storage} {n : Notification} {id : UUID} {now : Time}
    {channel : String} {saved : InAppMessage}
    (sent : persist conn s n id now = (.publishing channel saved, s')) :
    channel = redisChannel n.tenantID.text n.recipientID := by
  unfold persist at sent
  simp only at sent
  split at sent
  · cases sent
  · split at sent
    · cases sent
    · cases sent
      rfl

/-- The pattern and the split of Run undo the naming of a channel, and no two pairs share a
    key. So what Send publishes is offered to the subscriptions for its pair that are not
    cancelled, to each once and to no others. -/
theorem routed_exactly :
    (∀ (tenantID : UUID) (recipientID : String),
      subscribedTo (redisChannel tenantID.text recipientID) = true ∧
      channelParts (redisChannel tenantID.text recipientID) =
        some (tenantID.text, recipientID)) ∧
    (∀ (tenantID tenantID' : UUID) (recipientID recipientID' : String),
      (tenantID, recipientID) ≠ (tenantID', recipientID') →
        hubKey tenantID.text recipientID ≠ hubKey tenantID'.text recipientID') ∧
    ∀ (bufSize : Int) (ops : List (Operation InAppMessage)) (j : Journal InAppMessage),
      ByTenants ops → (Journal.start bufSize : Journal InAppMessage).run ops = some j →
      ∀ conn s n id now channel saved s',
        persist conn s n id now = (.publishing channel saved, s') →
          (∃ order next, j.forward channel saved order = some next) ∧
          ∀ order next, j.forward channel saved order = some next →
            Offered j.hub saved order next.hub ∧ order.Nodup ∧
            ∀ ch : Nat, ch ∈ order ↔ ∃ rec, j.records[ch]? = some rec ∧ rec.ended = none ∧
              rec.tenantID = n.tenantID.text ∧ rec.recipientID = n.recipientID := by
  refine ⟨?_, ?_, ?_⟩
  · intro tenantID recipientID
    exact ⟨subscribedTo_redisChannel _ _, channelParts_redisChannel _ _⟩
  · intro tenantID tenantID' recipientID recipientID' differ same
    obtain ⟨rfl, rfl⟩ := hubKey_injective same
    exact differ rfl
  · intro bufSize ops j tenants finished conn s n id now channel saved s' sent
    have inv : j.Inv := (Journal.Inv.start bufSize).run finished
    rw [persist_channel sent]
    simp only [forward_redisChannel]
    constructor
    · exact publish_enabled j n.tenantID.text n.recipientID saved
    · intro order next taken
      obtain ⟨hub, done, rfl⟩ := Option.map_eq_some_iff.mp taken
      obtain ⟨all, rfl⟩ := atomic_publish done
      refine ⟨publish_offered inv.registered all,
        all.nodup_iff.mpr (inv.registered.nodup_listed _), ?_⟩
      intro ch
      rw [all.mem_iff]
      exact tenants.mem_listed_iff finished n.tenantID n.recipientID

/-- Three visitors, whose pairs look alike. -/
def lookalikes : List (Operation InAppMessage) :=
  [.subscribe Stream.acme.text "a:*", .subscribe (UUID.text 9) "a:*",
    .subscribe Stream.acme.text "a"]

theorem lookalikes_routed :
    ∃ j, (Journal.start 4 : Journal InAppMessage).run lookalikes = some j ∧
      ∃ channel saved s', persist .up (.ofCore Stream.shopFloor)
        { Stream.notice with recipientID := "a:*" } 50 10 = (.publishing channel saved, s') ∧
        ∃ order next, j.forward channel saved order = some next ∧
          Offered j.hub saved order next.hub ∧ 0 ∈ order ∧ 1 ∉ order ∧ 2 ∉ order := by
  have ends : ((Journal.start 4 : Journal InAppMessage).run lookalikes).map (·.records) =
      some [⟨Stream.acme.text, "a:*", 0, none, [], []⟩, ⟨UUID.text 9, "a:*", 0, none, [], []⟩,
        ⟨Stream.acme.text, "a", 0, none, [], []⟩] := rfl
  obtain ⟨j, finished, records⟩ := Option.map_eq_some_iff.mp ends
  have tenants : ByTenants lookalikes := by
    intro tenantID recipientID called
    simp only [lookalikes, List.mem_cons, Operation.subscribe.injEq, List.not_mem_nil,
      or_false] at called
    rcases called with ⟨rfl, _⟩ | ⟨rfl, _⟩ | ⟨rfl, _⟩
    · exact ⟨_, rfl⟩
    · exact ⟨_, rfl⟩
    · exact ⟨_, rfl⟩
  have sent : ∃ channel saved s', persist .up (.ofCore Stream.shopFloor)
      { Stream.notice with recipientID := "a:*" } 50 10 = (.publishing channel saved, s') :=
    ⟨_, _, _, rfl⟩
  obtain ⟨channel, saved, s', sent⟩ := sent
  obtain ⟨⟨order, next, taken⟩, offers⟩ :=
    routed_exactly.2.2 4 lookalikes j tenants finished _ _ _ _ _ channel saved s' sent
  obtain ⟨offered, _, member⟩ := offers order next taken
  refine ⟨j, finished, channel, saved, s', sent, order, next, taken, offered, ?_, ?_, ?_⟩
  · rw [member, records]
    exact ⟨_, rfl, rfl, rfl, rfl⟩
  · rw [member, records]
    rintro ⟨rec, noted, _, tenant, _⟩
    obtain rfl := Option.some.inj noted
    exact absurd tenant (by decide +kernel)
  · rw [member, records]
    rintro ⟨rec, noted, _, _, recipient⟩
    obtain rfl := Option.some.inj noted
    exact absurd recipient (by decide)

end NotifyHub.Realtime
