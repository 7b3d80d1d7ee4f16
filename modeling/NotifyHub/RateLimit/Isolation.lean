import NotifyHub.Lib.Separator
import NotifyHub.RateLimit.Service

/-! # The limits of one tenant, seen from another

The key of a worker's limit is made of the recipient and the channel. Neither names
the tenant, so tenants that use one recipient id share its limit. The keys of the
HTTP middleware are never among the workers'.
-/

namespace NotifyHub.RateLimit

open Rounding

/-- The RateCaps that cmd/worker sets from its configuration. -/
structure RateCaps where
  email : Int
  push : Int
  sms : Int
  inapp : Int
  deriving Repr, DecidableEq

/-- A lookup in the Go map: a channel that is not in it has cap 0. -/
def RateCaps.cap (caps : RateCaps) : Channel → Int
  | .email => caps.email
  | .push => caps.push
  | .sms => caps.sms
  | .inapp => caps.inapp
  | .other _ => 0

/-- A call of Allow by Process, which makes one for a channel with a positive cap. -/
structure Attempt (caps : RateCaps) where
  tenantID : UUID
  recipientID : String
  channel : Channel
  link : Link
  now : Int
  capped : 0 < caps.cap channel
  deriving DecidableEq

/-- Whoever calls AllowKey: a worker, or the middleware for an API client. -/
inductive Event (caps : RateCaps) where
  | worker (attempt : Attempt caps)
  | api (clientID : UUID) (rpm : Int) (link : Link) (now : Int)
  deriving DecidableEq

section

variable {caps : RateCaps}

def Attempt.key (attempt : Attempt caps) : String :=
  allowKeyName attempt.recipientID attempt.channel

def Event.request : Event caps → Request
  | .worker attempt =>
      { link := attempt.link
        key := attempt.key
        window := hour
        cap := caps.cap attempt.channel
        now := attempt.now }
  | .api clientID rpm link now =>
      { link := link, key := apiKeyName clientID, window := minute, cap := rpm, now := now }

/-- Whether this is an Allow call for a recipient of the tenant. -/
def Event.of (tenantID : UUID) : Event caps → Bool
  | .worker attempt => attempt.tenantID = tenantID
  | .api .. => false

/-- The tenant's Allow calls of a history, with their answers. -/
def decisions (tenantID : UUID) (rdb : Redis) (history : List (Event caps)) :
    List (Event caps × Except Err Bool) :=
  (serve Event.request rdb history).filter (·.1.of tenantID)

/-! ## Keys -/

theorem colon_notMem_of_capped {channel : Channel} (capped : 0 < caps.cap channel) :
    ':' ∉ channel.text.toList := by
  cases channel with
  | email | push | sms | inapp => decide
  | other name => exact absurd capped (Int.lt_irrefl 0)

theorem length_text_of_capped {channel : Channel} (capped : 0 < caps.cap channel) :
    channel.text.length ≤ 5 := by
  cases channel with
  | email | push | sms | inapp => decide
  | other name => exact absurd capped (Int.lt_irrefl 0)

theorem text_inj_of_capped {first second : Channel} (left : 0 < caps.cap first)
    (right : 0 < caps.cap second) (same : first.text = second.text) : first = second := by
  cases first with
  | other name => exact absurd left (Int.lt_irrefl 0)
  | email | push | sms | inapp =>
      cases second with
      | other name => exact absurd right (Int.lt_irrefl 0)
      | email | push | sms | inapp => first | rfl | exact absurd same (by decide)

theorem toList_allowKeyName (userID : String) (channel : Channel) :
    (allowKeyName userID channel).toList =
      ("ratelimit:" ++ userID).toList ++ ':' :: channel.text.toList := by
  simp only [allowKeyName, String.toList_append, List.append_assoc]
  rfl

theorem toList_apiKeyName (clientID : UUID) :
    (apiKeyName clientID).toList = "ratelimit:api".toList ++ ':' :: clientID.text.toList := by
  simp only [apiKeyName, String.toList_append]
  rfl

/-- Recipient and channel are read back from the key, also when the recipient id
    contains colons. -/
theorem Attempt.key_inj {first second : Attempt caps} (same : first.key = second.key) :
    first.recipientID = second.recipientID ∧ first.channel = second.channel := by
  have joined := congrArg String.toList same
  simp only [Attempt.key, toList_allowKeyName] at joined
  obtain ⟨front, last⟩ := Separator.last_field (colon_notMem_of_capped first.capped)
    (colon_notMem_of_capped second.capped) joined
  constructor
  · simp only [String.toList_append, List.append_cancel_left_eq] at front
    exact String.toList_inj.mp front
  · exact text_inj_of_capped first.capped second.capped (String.toList_inj.mp last)

theorem Attempt.key_ne_api (attempt : Attempt caps) (clientID : UUID) :
    attempt.key ≠ apiKeyName clientID := by
  intro same
  have joined := congrArg String.toList same
  simp only [Attempt.key, toList_allowKeyName, toList_apiKeyName] at joined
  have last := (Separator.last_field (colon_notMem_of_capped attempt.capped)
    clientID.colon_notMem_text joined).2
  have long := clientID.length_text
  have short := length_text_of_capped attempt.capped
  rw [String.toList_inj.mp last] at short
  omega

/-! ## Isolation -/

/-- A history in which the tenant's calls are for pairs in `own`, and those of the
    other tenants for pairs in `foreign`. -/
def Admitted (tenantID : UUID) (own foreign : String → Channel → Prop)
    (history : List (Event caps)) : Prop :=
  ∀ attempt, .worker attempt ∈ history →
    if attempt.tenantID = tenantID then own attempt.recipientID attempt.channel
    else foreign attempt.recipientID attempt.channel

variable {tenantID : UUID} {own foreign : String → Channel → Prop} {rdb : Redis}
  {history : List (Event caps)}

/-- Without shared pairs, the tenant's keys are used by its own calls only, and its
    decisions are those of a history with its calls alone. -/
theorem decisions_eq_serve
    (apart : ∀ recipientID channel, 0 < caps.cap channel →
      ¬ (own recipientID channel ∧ foreign recipientID channel))
    (admitted : Admitted tenantID own foreign history) :
    decisions tenantID rdb history =
      serve Event.request rdb (history.filter (Event.of tenantID)) := by
  let used : String → Bool := fun key =>
    decide (key ∈ (history.filter (Event.of tenantID)).map (·.request.key))
  have keys : ∀ e ∈ history, used e.request.key = e.of tenantID := by
    intro e member
    rw [Bool.eq_iff_iff, decide_eq_true_iff]
    constructor
    · intro among
      obtain ⟨mine, inside, same⟩ := List.mem_map.mp among
      obtain ⟨mineIn, mineOf⟩ := List.mem_filter.mp inside
      cases mine with
      | api => cases mineOf
      | worker attempt =>
          cases e with
          | api clientID rpm link now => exact absurd same (attempt.key_ne_api clientID)
          | worker other =>
              have ours : attempt.tenantID = tenantID := of_decide_eq_true mineOf
              have ownPair := admitted attempt mineIn
              rw [if_pos ours] at ownPair
              obtain ⟨sameRecipient, sameChannel⟩ := Attempt.key_inj same
              apply decide_eq_true
              by_contra theirs
              have foreignPair := admitted other member
              rw [if_neg theirs, ← sameRecipient, ← sameChannel] at foreignPair
              exact apart _ _ attempt.capped ⟨ownPair, foreignPair⟩
    · intro ours
      exact List.mem_map_of_mem (List.mem_filter.mpr ⟨member, ours⟩)
  have onKeys : (serve Event.request rdb history).filter (fun answer => used answer.1.request.key) =
      serve Event.request rdb (history.filter fun e => used e.request.key) :=
    serve_filter used history (fun _ _ => rfl)
  calc decisions tenantID rdb history
      = (serve Event.request rdb history).filter (fun answer => used answer.1.request.key) := by
        apply List.filter_congr
        intro answer member
        exact (keys answer.1 (mem_of_serve member)).symm
    _ = serve Event.request rdb (history.filter fun e => used e.request.key) := onKeys
    _ = serve Event.request rdb (history.filter (Event.of tenantID)) := by
        rw [List.filter_congr keys]

theorem exists_other (tenantID : UUID) : ∃ otherID : UUID, otherID ≠ tenantID := by
  by_cases zero : tenantID = UUID.zero
  · exact ⟨1, fun same => absurd (same.trans zero) (by decide)⟩
  · exact ⟨UUID.zero, Ne.symm zero⟩

/-- `count` entries on the key that every call not later than `bound` finds. -/
def Crowd (rdb : Redis) (key : String) (bound : Int) (count : Nat) : Prop :=
  ∃ scores : List Int, scores.length = count ∧ (∀ score ∈ scores, bound < score) ∧
    ∀ now : Int, now ≤ bound → members rdb key now = scores

theorem crowd_kept {key : String} {bound now : Int} {count : Nat} (crowd : Crowd rdb key bound count)
    (before : now ≤ bound) (start : float64 (now - hour) ≤ bound) :
    ∃ scores : List Int, scores.length = count ∧ (∀ score ∈ scores, bound < score) ∧
      kept rdb key hour now = scores := by
  obtain ⟨scores, size, above, found⟩ := crowd
  refine ⟨scores, size, above, ?_⟩
  unfold kept
  rw [found now before, List.filter_eq_self]
  intro score member
  have late := above score member
  simp only [decide_eq_true_eq]
  omega

/-- A call at a power of two adds one to the crowd. -/
theorem crowd_record {key : String} {k count : Nat} (crowd : Crowd rdb key (2 ^ (k + 1)) count) :
    Crowd (record rdb key hour (2 ^ (k + 1))) key (2 ^ k) (count + 1) := by
  have lower : (2 : Int) ^ k < 2 ^ (k + 1) := by
    have positive : (0 : Int) < 2 ^ k := Int.pow_pos (by decide)
    rw [Int.pow_succ]
    omega
  have start : float64 (2 ^ (k + 1) - hour) ≤ 2 ^ (k + 1) := by
    apply float64_le_two_pow
    exact Int.sub_le_self _ (by decide)
  obtain ⟨scores, size, above, same⟩ := crowd_kept crowd (Int.le_refl _) start
  have new : (2 : Int) ^ (k + 1) ∉ scores := fun member => Int.lt_irrefl _ (above _ member)
  refine ⟨2 ^ (k + 1) :: scores, by simp [size], ?_, ?_⟩
  · intro score member
    cases List.mem_cons.mp member with
    | inl here => exact here ▸ lower
    | inr earlier => exact Int.lt_trans lower (above score earlier)
  · intro now before
    have alive : ¬ ((2 : Int) ^ (k + 1) + expire (hour + second) ≤ now) := by
      have positive : 0 < expire (hour + second) := by decide
      omega
    simp only [members, record, Function.update_self, same, float64_two_pow, if_neg alive]
    exact List.insert_of_not_mem new

/-- Calls at descending powers of two, by workers whose clocks are ahead. -/
def flood (attempt : Attempt caps) : Nat → List (Event caps)
  | 0 => []
  | k + 1 => .worker { attempt with link := .up, now := 2 ^ (k + 1) } :: flood attempt k

theorem crowd_flood {attempt : Attempt caps} {k count : Nat}
    (crowd : Crowd rdb attempt.key (2 ^ k) count) :
    Crowd (after Event.request rdb (flood attempt k)) attempt.key (2 ^ 0) (count + k) := by
  induction k generalizing rdb count with
  | zero => exact crowd
  | succ k ih =>
      have onward := ih (crowd_record crowd)
      rwa [Nat.add_right_comm] at onward

theorem mem_flood {attempt : Attempt caps} {k : Nat} {e : Event caps} (member : e ∈ flood attempt k) :
    ∃ now, e = .worker { attempt with link := .up, now := now } := by
  induction k with
  | zero => cases member
  | succ k ih =>
      cases List.mem_cons.mp member with
      | inl here => exact ⟨_, here⟩
      | inr later => exact ih later

theorem filter_flood {attempt : Attempt caps} {k : Nat} (theirs : attempt.tenantID ≠ tenantID) :
    (flood attempt k).filter (Event.of tenantID) = [] := by
  rw [List.filter_eq_nil_iff]
  intro e member
  obtain ⟨now, rfl⟩ := mem_flood member
  simpa [Event.of] using theirs

/-- A history that ends with a call of the tenant, the only one of its. -/
theorem decisions_after {attempt : Attempt caps} (before : List (Event caps))
    (ours : attempt.tenantID = tenantID) (others : before.filter (Event.of tenantID) = []) :
    decisions tenantID rdb (before ++ [.worker attempt]) =
      [(.worker attempt,
        (allowKey (after Event.request rdb before) (Event.worker attempt).request).1)] := by
  unfold decisions
  have none_ : (serve Event.request rdb before).filter (·.1.of tenantID) = [] := by
    rw [List.filter_eq_nil_iff] at others ⊢
    intro answer member
    exact others answer.1 (mem_of_serve member)
  rw [serve_append, List.filter_append, none_]
  simp [serve, Event.of, ours]

/-- As many foreign calls as the cap, and the tenant's first call is refused. -/
theorem flood_refuses {attempt other : Attempt caps} (up : attempt.link = .up)
    (early : attempt.now = 0) (same : other.key = attempt.key) :
    (allowKey (after Event.request empty (flood other (caps.cap attempt.channel).toNat))
      (Event.worker attempt).request).1 = .ok false := by
  have quiet : Crowd empty other.key (2 ^ (caps.cap attempt.channel).toNat) 0 :=
    ⟨[], rfl, by simp, fun _ _ => rfl⟩
  have start : float64 (0 - hour) ≤ 2 ^ 0 := by
    apply float64_le_two_pow
    decide
  obtain ⟨scores, size, _, found⟩ := crowd_kept (crowd_flood quiet) (by decide) start
  rw [same] at found
  have cap := attempt.capped
  simp only [allowKey, Event.request, up, early, found]
  congr 1
  simp only [decide_eq_false_iff_not]
  omega

theorem empty_allows {attempt : Attempt caps} (up : attempt.link = .up) :
    (allowKey empty (Event.worker attempt).request).1 = .ok true := by
  have cap := attempt.capped
  simp only [allowKey, Event.request, up, kept, members, empty, List.filter_nil, List.length_nil]
  congr 1
  simpa using cap

end

/-- The tenant's decisions do not depend on the other tenants' calls and on those of
    the middleware exactly if no other tenant uses a recipient and channel that the
    tenant uses. -/
theorem decisions_isolated_iff (caps : RateCaps) (tenantID : UUID)
    (own foreign : String → Channel → Prop) :
    (∀ (rdb : Redis) (first second : List (Event caps)),
      Admitted tenantID own foreign first → Admitted tenantID own foreign second →
      first.filter (Event.of tenantID) = second.filter (Event.of tenantID) →
      decisions tenantID rdb first = decisions tenantID rdb second) ↔
    ∀ recipientID channel, 0 < caps.cap channel →
      ¬ (own recipientID channel ∧ foreign recipientID channel) := by
  constructor
  · intro isolated recipientID channel capped shared
    obtain ⟨otherID, theirs⟩ := exists_other tenantID
    let mine : Attempt caps :=
      { tenantID, recipientID, channel, link := .up, now := 0, capped }
    let other : Attempt caps := { mine with tenantID := otherID }
    let crowd := flood other (caps.cap channel).toNat
    have alone : Admitted tenantID own foreign [.worker mine] := by
      intro attempt member
      obtain rfl : attempt = mine := by simpa using member
      rw [if_pos rfl]
      exact shared.1
    have crowded : Admitted tenantID own foreign (crowd ++ [.worker mine]) := by
      intro attempt member
      cases List.mem_append.mp member with
      | inr last => exact alone attempt last
      | inl early =>
          obtain ⟨now, same⟩ := mem_flood early
          obtain rfl := Event.worker.inj same
          rw [if_neg theirs]
          exact shared.2
    have others : crowd.filter (Event.of tenantID) = [] := filter_flood theirs
    have passes : decisions tenantID empty [.worker mine] = [(.worker mine, .ok true)] := by
      have answer : (allowKey empty (Event.worker mine).request).1 = .ok true := empty_allows rfl
      rw [← answer]
      exact decisions_after [] rfl rfl
    have refused : decisions tenantID empty (crowd ++ [.worker mine]) =
        [(.worker mine, .ok false)] := by
      have answer : (allowKey (after Event.request empty crowd) (Event.worker mine).request).1 =
          .ok false := flood_refuses rfl rfl rfl
      rw [← answer]
      exact decisions_after crowd rfl others
    have equal := isolated empty [.worker mine] (crowd ++ [.worker mine]) alone crowded (by
      rw [List.filter_append, others, List.nil_append])
    rw [passes, refused] at equal
    simp at equal
  · intro apart rdb first second admitted admitted' agree
    rw [decisions_eq_serve apart admitted, decisions_eq_serve apart admitted', agree]

/-- One message an hour by SMS. -/
def scarce : RateCaps := { email := 100, push := 100, sms := 1, inapp := 100 }

/-- A text to "alice", by tenant 1 or by tenant 2. -/
def textAlice (tenantID : UUID) (now : Int) : Event scarce :=
  .worker
    { tenantID, recipientID := "alice", channel := .sms, link := .up, now, capped := by decide }

/-- Tenant 2 has an "alice" too: one text to them, and tenant 1's is refused. -/
theorem shared_recipient_refused :
    decisions 1 empty [textAlice 1 1700000000000000000] =
        [(textAlice 1 1700000000000000000, .ok true)] ∧
      decisions 1 empty [textAlice 2 1699999999000000000, textAlice 1 1700000000000000000] =
        [(textAlice 1 1700000000000000000, .ok false)] := by
  decide +kernel

end NotifyHub.RateLimit
