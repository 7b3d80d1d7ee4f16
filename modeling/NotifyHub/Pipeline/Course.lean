import NotifyHub.Lib.Retry
import NotifyHub.Pipeline.Outcome

/-! # The course of a call of Process

Process makes its outside calls in a fixed order: the fetch, the processing mark, the
preference check, the rate limit and the template are calls 0 to 4, the provider is
tried with calls 5, 7, 9, ... and waited for with those in between. So the answers and
the database say by which exit a call leaves, without running it. `process_course` is
that specification of the whole call; what the later modules say about retries,
metrics and webhooks is read off it.
-/

namespace NotifyHub.Pipeline

open Lifecycle NotificationRepository

/-! ## Conditions on the answers -/

section Conditions

variable (cfg : Config) (msg : Message) (world : Nat → Answer) (sh : Shared)

/-- The notification is there, for the tenant of the message. -/
def Found (n : Notification) : Prop :=
  ∃ row ∈ sh.db.notifications, row.id = msg.notificationID ∧ row.tenantID = some msg.tenantID ∧
    n = dbNotificationToDomain row

/-- It gets through the fetch and the processing mark, ... -/
structure Marked (n : Notification) : Prop where
  found : Found msg sh n
  fetched : (world 0).fault = none
  marked : (world 1).fault = none

/-- ... the preference check, ... -/
structure Wanted (n : Notification) : Prop extends Marked msg world sh n where
  asked : (world 2).fault = none
  free : (world 2).block = none

/-- ... the rate limit ... -/
structure Unlimited (n : Notification) : Prop extends Wanted msg world sh n where
  counted : 0 < cfg.rateCap n.channel → (world 3).fault = none ∧ (world 3).block = none

/-- ... and the template, to a provider. -/
structure Sendable (n : Notification) : Prop extends Unlimited cfg msg world sh n where
  rendered : n.templateID.isSome = true → (world 4).fault = none
  provider : (cfg.registry n.channel).isSome = true

/-- The calls whose errors Process returns have none. -/
def Answered : Prop :=
  ∃ n, Marked msg world sh n ∧ (world 2).fault = none ∧
    ((world 2).block = none → 0 < cfg.rateCap n.channel → (world 3).fault = none)

/-- `sendWithRetry` as a loop. -/
def sendLoop : Retry.Loop :=
  { tries := fun i => (world (5 + 2 * i)).fault.map (·.permanent)
    waits := fun i => (world (6 + 2 * i)).fault.isNone
    budget := (msg.maxAttempts - msg.attempt).toNat }

/-- The exits with a nil result. -/
inductive Exit where
  | unwanted (reason : String)
  | limited
  | unrendered (errMsg : String)
  | unregistered
  | tried (j : Nat) (v : Retry.Verdict)
  deriving Repr, DecidableEq

def Reaches (n : Notification) : Exit → Prop
  | .unwanted reason =>
      Marked msg world sh n ∧ (world 2).fault = none ∧ (world 2).block = some reason
  | .limited =>
      Wanted msg world sh n ∧ 0 < cfg.rateCap n.channel ∧ (world 3).fault = none ∧
        (world 3).block ≠ none
  | .unrendered errMsg =>
      Unlimited cfg msg world sh n ∧ n.templateID.isSome = true ∧
        (world 4).fault.map (·.text) = some errMsg
  | .unregistered =>
      Unlimited cfg msg world sh n ∧ (n.templateID.isSome = true → (world 4).fault = none) ∧
        cfg.registry n.channel = none
  | .tried j v => Sendable cfg msg world sh n ∧ (sendLoop msg world).Ends j v

end Conditions

/-! ## What each exit does -/

def Answer.text (a : Answer) : String := (a.fault.map (·.text)).getD ""

def Exit.closings (world : Nat → Answer) (n : Notification) : Exit → List Closing
  | .unwanted reason => dropClosing reason
  | .limited => dropClosing "rate limit exceeded"
  | .unrendered errMsg => failClosing dlqReasonTemplateRender errMsg
  | .unregistered =>
      failClosing dlqReasonNoProvider ("no provider registered for channel: " ++ n.channel.text)
  | .tried j .accepted => deliverClosing (world (5 + 2 * j)).now
  | .tried j .permanent => failClosing dlqReasonPermanent (Answer.text (world (5 + 2 * j)))
  | .tried j .exhausted => failClosing dlqReasonRetriesExhausted (Answer.text (world (5 + 2 * j)))
  | .tried j .interrupted =>
      failClosing dlqReasonRetriesExhausted
        ("context cancelled during retry: " ++ Answer.text (world (6 + 2 * j)))

def Exit.status : Exit → NotificationStatus
  | .unwanted _ | .limited => .dropped
  | .unrendered _ | .unregistered => .failed
  | .tried _ .accepted => .delivered
  | .tried _ .permanent | .tried _ .exhausted | .tried _ .interrupted => .failed

/-- How many calls were made before those of the exit. -/
def Exit.before : Exit → Nat
  | .unwanted _ => 3
  | .limited => 4
  | .unrendered _ | .unregistered => 5
  | .tried j .interrupted => 7 + 2 * j
  | .tried j .accepted | .tried j .permanent | .tried j .exhausted => 6 + 2 * j

/-- How often the provider was called. -/
def Exit.sends : Exit → Nat
  | .unwanted _ | .limited | .unrendered _ | .unregistered => 0
  | .tried j _ => j + 1

def Exit.cancelled : Exit → Bool
  | .tried _ .interrupted => true
  | _ => false

/-- The provider's first `k` answers. -/
def answersTo (world : Nat → Answer) (k : Nat) : List (Option Fault) :=
  (List.range k).map fun i => (world (5 + 2 * i)).fault

/-! ## What the calls of a run tell -/

/-- A wait that the context cut short. -/
def Call.cancelled (call : Call) : Bool :=
  match call.pc with
  | .backoff .. => call.answer.fault.isSome
  | _ => false

def Call.closing (call : Call) : Option (Notification × Closing) :=
  match call.pc with
  | .closing n (act :: _) => some (n, act)
  | _ => none

structure Made (calls : List Call) (sends : List (Option Fault)) (cancelled : Bool)
    (done : List (Notification × Closing)) : Prop where
  sends : sendResults calls = sends
  cancelled : calls.any Call.cancelled = cancelled
  done : calls.filterMap Call.closing = done

theorem Made.nil : Made [] [] false [] := ⟨rfl, rfl, rfl⟩

section Made

variable {calls : List Call} {sends : List (Option Fault)} {cancelled : Bool}
  {done : List (Notification × Closing)}

theorem Made.append (made : Made calls sends cancelled done) (call : Call) :
    Made (calls ++ [call]) (sends ++ call.sendResult.toList) (cancelled || call.cancelled)
      (done ++ call.closing.toList) := by
  refine ⟨?_, ?_, ?_⟩
  · rw [sendResults_append, made.sends]
  · simp [made.cancelled]
  · rw [List.filterMap_append, made.done]
    cases closing : call.closing <;> simp [closing]

/-- A call that is neither a send nor a wait nor a closing call. -/
theorem Made.other {call : Call} (made : Made calls sends cancelled done) (unsent : call.sendResult = none)
    (running : call.cancelled = false) (before : call.closing = none) :
    Made (calls ++ [call]) sends cancelled done := by
  have more := made.append call
  simpa [unsent, running, before] using more

end Made

/-! ## The specification -/

section Course

variable (cfg : Config) (msg : Message) (world : Nat → Answer) (sh : Shared)

/-- Before the provider: `k` calls, and none of them a send or a closing call. -/
structure Early (k : Nat) (calls : List Call) : Prop where
  length : calls.length = k
  made : Made calls [] false []

/-- Where a call stands, by what has been answered. -/
def Course (o : Progress) : Prop :=
  match o.pc with
  | .fetch => Early 0 o.calls ∧ o.shared.db = sh.db
  | .markProcessing n =>
      Early 1 o.calls ∧ o.shared.db = sh.db ∧ Found msg sh n ∧ (world 0).fault = none
  | .preference n => Early 2 o.calls ∧ Marked msg world sh n
  | .rateLimit n => Early 3 o.calls ∧ Wanted msg world sh n
  | .render n => Early 4 o.calls ∧ Unlimited cfg msg world sh n
  | .send n attempt =>
      Sendable cfg msg world sh n ∧ ∃ j : Nat, attempt = msg.attempt + j ∧
        o.calls.length = 5 + 2 * j ∧ Made o.calls (answersTo world j) false [] ∧
        (sendLoop msg world).Going j
  | .backoff n attempt =>
      Sendable cfg msg world sh n ∧ ∃ j : Nat, attempt = msg.attempt + j ∧
        o.calls.length = 6 + 2 * j ∧ Made o.calls (answersTo world (j + 1)) false [] ∧
        (sendLoop msg world).Going j ∧ (sendLoop msg world).tries j = some false ∧
        j < (sendLoop msg world).budget
  | .closing n todo =>
      ∃ exit done, Reaches cfg msg world sh n exit ∧ done ++ todo = exit.closings world n ∧
        Made o.calls (answersTo world exit.sends) exit.cancelled (done.map (n, ·)) ∧
        o.calls.length = exit.before + done.length
  | .returned none =>
      ∃ n exit, Reaches cfg msg world sh n exit ∧
        Made o.calls (answersTo world exit.sends) exit.cancelled
          ((exit.closings world n).map (n, ·))
  | .returned (some _) => ¬Answered cfg msg world sh ∧ Made o.calls [] false []

end Course

section Step

variable {cfg : Config} {msg : Message} {world : Nat → Answer} {sh : Shared} {o : Progress}
  {n m : Notification}

theorem conn_eq_up {a : Answer} : a.conn = .up ↔ a.fault = none := by
  unfold Answer.conn
  cases a.fault <;> simp

theorem up_of_getByID {conn : Conn} {db : Database} {tenantID id : UUID}
    (found : getByID conn db tenantID id = .ok n) : conn = .up := by
  cases conn with
  | up => rfl
  | down => simp [getByID, Conn.exec] at found

theorem up_of_updateStatus {conn : Conn} {db : Database} {id : UUID} {status : NotificationStatus}
    {now : Time} {result : Notification × Database}
    (updated : updateStatus conn db id status now = .ok result) : conn = .up := by
  cases conn with
  | up => rfl
  | down => simp [updateStatus, Conn.exec] at updated

/-- Ids are unique. -/
theorem Found.unique (first : Found msg sh n) (second : Found msg sh m) : n = m := by
  obtain ⟨row, stored, same, _, rfl⟩ := first
  obtain ⟨other, stored', same', _, rfl⟩ := second
  rw [Database.notification_ext stored stored' (same.trans same'.symm)]

theorem Early.next {k : Nat} {calls : List Call} (early : Early k calls) (call : Call)
    (unsent : call.sendResult = none) (running : call.cancelled = false)
    (before : call.closing = none) : Early (k + 1) (calls ++ [call]) :=
  ⟨by simp [early.length], early.made.other unsent running before⟩

/-- An exit without a provider. -/
theorem course_exit {k : Nat} {calls : List Call} {shared : Shared} (exit : Exit)
    (early : Early k calls) (reaches : Reaches cfg msg world sh n exit) (unsent : exit.sends = 0)
    (running : exit.cancelled = false) (after : exit.before = k) :
    Course cfg msg world sh ⟨shared, .closing n (exit.closings world n), calls⟩ := by
  refine ⟨exit, [], reaches, rfl, ?_, early.length.trans after.symm⟩
  rw [unsent, running]
  exact early.made

variable {shared : Shared} {calls : List Call}

theorem course_fetch (early : Early 0 calls) (same : shared.db = sh.db) :
    Course cfg msg world sh (Progress.next cfg msg (world 0) ⟨shared, .fetch, calls⟩) := by
  have more := early.next ⟨.fetch, world 0⟩ rfl rfl rfl
  simp only [Progress.next, processStep]
  cases found : getByID (world 0).conn shared.db msg.tenantID msg.notificationID with
  | error e =>
      refine ⟨?_, more.made⟩
      rintro ⟨n, marked, _⟩
      obtain ⟨row, stored, rowID, owner, _⟩ := marked.found
      have up : (world 0).conn = .up := conn_eq_up.mpr marked.fetched
      rw [up, ← rowID, same, getByID_of_mem stored owner] at found
      cases found
  | ok n =>
      obtain ⟨row, stored, rest⟩ := getByID_ok found
      exact ⟨more, same, ⟨row, same ▸ stored, rest⟩, conn_eq_up.mp (up_of_getByID found)⟩

theorem course_markProcessing (early : Early 1 calls) (same : shared.db = sh.db)
    (found : Found msg sh n) (fetched : (world 0).fault = none) :
    Course cfg msg world sh (Progress.next cfg msg (world 1) ⟨shared, .markProcessing n, calls⟩) := by
  have more := early.next ⟨.markProcessing n, world 1⟩ rfl rfl rfl
  simp only [Progress.next, processStep]
  cases updated : updateStatus (world 1).conn shared.db n.id .processing (world 1).now with
  | error e =>
      refine ⟨?_, more.made⟩
      rintro ⟨m, marked, _⟩
      obtain ⟨row, stored, _, _, rfl⟩ := found
      have up : (world 1).conn = .up := conn_eq_up.mpr marked.marked
      rw [up, same] at updated
      have answered := updated.symm.trans (updateStatus_of_mem stored)
      cases answered
  | ok result => exact ⟨more, found, fetched, conn_eq_up.mp (up_of_updateStatus updated)⟩

theorem course_preference (early : Early 2 calls) (marked : Marked msg world sh n) :
    Course cfg msg world sh (Progress.next cfg msg (world 2) ⟨shared, .preference n, calls⟩) := by
  have more := early.next ⟨.preference n, world 2⟩ rfl rfl rfl
  simp only [Progress.next, processStep]
  cases asked : (world 2).fault with
  | some f =>
      refine ⟨?_, more.made⟩
      rintro ⟨_, _, answered, _⟩
      simp [asked] at answered
  | none =>
      cases block : (world 2).block with
      | some reason => exact course_exit (.unwanted reason) more ⟨marked, asked, block⟩ rfl rfl rfl
      | none => exact ⟨more, marked, asked, block⟩

theorem course_rateLimit (early : Early 3 calls) (wanted : Wanted msg world sh n) :
    Course cfg msg world sh (Progress.next cfg msg (world 3) ⟨shared, .rateLimit n, calls⟩) := by
  have more := early.next ⟨.rateLimit n, world 3⟩ rfl rfl rfl
  simp only [Progress.next, processStep]
  by_cases capped : 0 < cfg.rateCap n.channel
  · simp only [capped, if_true]
    cases counted : (world 3).fault with
    | some f =>
        refine ⟨?_, more.made⟩
        rintro ⟨m, marked, _, answered⟩
        obtain rfl := wanted.found.unique marked.found
        have fine := answered wanted.free capped
        simp [counted] at fine
    | none =>
        cases block : (world 3).block with
        | some reason =>
            exact course_exit .limited more ⟨wanted, capped, counted, by simp [block]⟩ rfl rfl rfl
        | none => exact ⟨more, wanted, fun _ => ⟨counted, block⟩⟩
  · simp only [capped, if_false]
    exact ⟨more, wanted, fun capped' => absurd capped' capped⟩

theorem course_render (early : Early 4 calls) (unlimited : Unlimited cfg msg world sh n) :
    Course cfg msg world sh (Progress.next cfg msg (world 4) ⟨shared, .render n, calls⟩) := by
  have more := early.next ⟨.render n, world 4⟩ rfl rfl rfl
  simp only [Progress.next, processStep]
  split
  · rename_i template failed
    refine course_exit (.unrendered _) more ⟨unlimited, ?_, ?_⟩ rfl rfl rfl
    · simp [template]
    · simp [failed]
  · rename_i fine
    have rendered : n.templateID.isSome = true → (world 4).fault = none := by
      intro templated
      obtain ⟨id, template⟩ := Option.isSome_iff_exists.mp templated
      cases failed : (world 4).fault with
      | none => rfl
      | some f => exact absurd failed (fine id f template)
    cases provider : cfg.registry n.channel with
    | some name =>
        refine ⟨⟨unlimited, rendered, by simp [provider]⟩, 0, by simp, more.length, more.made, ?_⟩
        exact Retry.Loop.going_zero _
    | none => exact course_exit .unregistered more ⟨unlimited, rendered, provider⟩ rfl rfl rfl

theorem answersTo_succ (k : Nat) :
    answersTo world (k + 1) = answersTo world k ++ [(world (5 + 2 * k)).fault] := by
  simp [answersTo, List.range_succ]

theorem course_send {j : Nat} (sendable : Sendable cfg msg world sh n)
    (length : calls.length = 5 + 2 * j) (made : Made calls (answersTo world j) false [])
    (going : (sendLoop msg world).Going j) :
    Course cfg msg world sh
      (Progress.next cfg msg (world (5 + 2 * j)) ⟨shared, .send n (msg.attempt + j), calls⟩) := by
  have more : Made (calls ++ [⟨.send n (msg.attempt + j), world (5 + 2 * j)⟩])
      (answersTo world (j + 1)) false [] := by
    rw [answersTo_succ]
    exact made.append _
  have longer : (calls ++ [(⟨.send n (msg.attempt + j), world (5 + 2 * j)⟩ : Call)]).length =
      6 + 2 * j + 0 := by
    rw [List.length_append, length, List.length_singleton]
    omega
  simp only [Progress.next, processStep]
  cases result : (world (5 + 2 * j)).fault with
  | none =>
      exact ⟨.tried j .accepted, [], ⟨sendable, going, by simp [sendLoop, result]⟩, rfl, more, longer⟩
  | some f =>
      have text : Answer.text (world (5 + 2 * j)) = f.text := by simp [Answer.text, result]
      simp only
      split
      · rename_i permanent
        refine ⟨.tried j .permanent, [], ⟨sendable, going, ?_⟩, ?_, more, longer⟩
        · simp [sendLoop, result, permanent]
        · simp [Exit.closings, text]
      · rename_i passing
        have tries : (sendLoop msg world).tries j = some false := by
          simp [sendLoop, result, passing]
        have bound : j ≤ (msg.maxAttempts - msg.attempt).toNat := going.1
        split
        · rename_i last
          have spent : j = (msg.maxAttempts - msg.attempt).toNat := by omega
          refine ⟨.tried j .exhausted, [], ⟨sendable, going, tries, spent⟩, ?_, more, longer⟩
          simp [Exit.closings, text]
        · rename_i notLast
          have left : j < (msg.maxAttempts - msg.attempt).toNat := by omega
          exact ⟨sendable, j, rfl, longer, more, going, tries, left⟩

theorem course_backoff {j : Nat} (sendable : Sendable cfg msg world sh n)
    (length : calls.length = 6 + 2 * j) (made : Made calls (answersTo world (j + 1)) false [])
    (going : (sendLoop msg world).Going j) (tries : (sendLoop msg world).tries j = some false)
    (left : j < (sendLoop msg world).budget) :
    Course cfg msg world sh
      (Progress.next cfg msg (world (6 + 2 * j)) ⟨shared, .backoff n (msg.attempt + j), calls⟩) := by
  have more := made.append ⟨.backoff n (msg.attempt + j), world (6 + 2 * j)⟩
  simp only [Progress.next, processStep]
  cases slept : (world (6 + 2 * j)).fault with
  | some f =>
      refine ⟨.tried j .interrupted, [], ⟨sendable, going, tries, left, ?_⟩, ?_, ?_, ?_⟩
      · simp [sendLoop, slept]
      · simp [Exit.closings, Answer.text, slept]
      · simpa [Exit.sends, Exit.cancelled, Call.sendResult, Call.cancelled, Call.closing, slept] using more
      · simp only [List.length_append, length, List.length_singleton, List.length_nil, Exit.before]
        omega
  | none =>
      refine ⟨sendable, j + 1, ?_, ?_, ?_, going.succ tries left ?_⟩
      · push_cast
        omega
      · simp [length]
        omega
      · simpa [Call.sendResult, Call.cancelled, Call.closing, slept] using more
      · simp [sendLoop, slept]

theorem course_closing {todo : List Closing} {a : Answer}
    (course : Course cfg msg world sh ⟨shared, .closing n todo, calls⟩) :
    Course cfg msg world sh (Progress.next cfg msg a ⟨shared, .closing n todo, calls⟩) := by
  obtain ⟨exit, done, reaches, split, made, length⟩ := course
  cases todo with
  | nil =>
      simp only [Progress.next, processStep]
      rw [List.append_nil] at split
      exact ⟨n, exit, reaches, split ▸ made.other rfl rfl rfl⟩
  | cons act todo =>
      simp only [Progress.next, processStep]
      refine ⟨exit, done ++ [act], reaches, by simpa using split, ?_, ?_⟩
      · have more := made.append ⟨.closing n (act :: todo), a⟩
        simpa [Call.sendResult, Call.cancelled, Call.closing] using more
      · simp only [List.length_append, length, List.length_singleton]
        omega

theorem course_next (course : Course cfg msg world sh o) (running : o.result = none) :
    Course cfg msg world sh (o.next cfg msg (world o.calls.length)) := by
  obtain ⟨shared, pc, calls⟩ := o
  cases pc with
  | fetch =>
      obtain ⟨early, same⟩ := course
      rw [early.length]
      exact course_fetch early same
  | markProcessing n =>
      obtain ⟨early, same, found, fetched⟩ := course
      rw [early.length]
      exact course_markProcessing early same found fetched
  | preference n =>
      obtain ⟨early, marked⟩ := course
      rw [early.length]
      exact course_preference early marked
  | rateLimit n =>
      obtain ⟨early, wanted⟩ := course
      rw [early.length]
      exact course_rateLimit early wanted
  | render n =>
      obtain ⟨early, unlimited⟩ := course
      rw [early.length]
      exact course_render early unlimited
  | send n attempt =>
      obtain ⟨sendable, j, rfl, length, made, going⟩ := course
      rw [length]
      exact course_send sendable length made going
  | backoff n attempt =>
      obtain ⟨sendable, j, rfl, length, made, going, tries, left⟩ := course
      rw [length]
      exact course_backoff sendable length made going tries left
  | closing n todo => exact course_closing course
  | returned err => simp [Progress.result] at running

end Step

/-! ## The exit that is taken -/

section Exits

variable {cfg : Config} {msg : Message} {world : Nat → Answer} {sh : Shared}
  {n m : Notification} {exit other : Exit}

theorem Reaches.found (reaches : Reaches cfg msg world sh n exit) : Found msg sh n := by
  cases exit with
  | unwanted | limited | unrendered | unregistered | tried => exact reaches.1.found

theorem Unlimited.answered (unlimited : Unlimited cfg msg world sh n) :
    Answered cfg msg world sh :=
  ⟨n, unlimited.toMarked, unlimited.asked, fun _ capped => (unlimited.counted capped).1⟩

theorem Reaches.answered (reaches : Reaches cfg msg world sh n exit) :
    Answered cfg msg world sh := by
  cases exit with
  | unwanted reason =>
      obtain ⟨marked, asked, block⟩ := reaches
      exact ⟨n, marked, asked, fun free => by simp [block] at free⟩
  | limited =>
      obtain ⟨wanted, _, counted, _⟩ := reaches
      exact ⟨n, wanted.toMarked, wanted.asked, fun _ _ => counted⟩
  | unrendered | unregistered => exact reaches.1.answered
  | tried => exact reaches.1.toUnlimited.answered

theorem Wanted.not_unwanted {reason : String} (wanted : Wanted msg world sh n) :
    ¬Reaches cfg msg world sh m (.unwanted reason) := by
  rintro ⟨_, _, blocked⟩
  simp [wanted.free] at blocked

theorem Unlimited.not_limited (unlimited : Unlimited cfg msg world sh n) :
    ¬Reaches cfg msg world sh n .limited := by
  rintro ⟨_, capped, _, blocked⟩
  exact blocked (unlimited.counted capped).2

theorem Sendable.not_unrendered {errMsg : String} (sendable : Sendable cfg msg world sh n) :
    ¬Reaches cfg msg world sh n (.unrendered errMsg) := by
  rintro ⟨_, templated, failed⟩
  simp [sendable.rendered templated] at failed

theorem Sendable.not_unregistered (sendable : Sendable cfg msg world sh n) :
    ¬Reaches cfg msg world sh n .unregistered := by
  rintro ⟨_, _, missing⟩
  have provider := sendable.provider
  simp [missing] at provider

/-- The answers determine the exit. -/
theorem Reaches.unique (first : Reaches cfg msg world sh n exit)
    (second : Reaches cfg msg world sh m other) : n = m ∧ exit = other := by
  obtain rfl := first.found.unique second.found
  refine ⟨rfl, ?_⟩
  cases exit with
  | unwanted reason =>
      cases other with
      | unwanted reason' =>
          exact congrArg Exit.unwanted (Option.some.inj (first.2.2.symm.trans second.2.2))
      | limited => exact absurd first second.1.not_unwanted
      | unrendered | unregistered | tried => exact absurd first second.1.toWanted.not_unwanted
  | limited =>
      cases other with
      | unwanted => exact absurd second first.1.not_unwanted
      | limited => rfl
      | unrendered | unregistered => exact absurd first second.1.not_limited
      | tried => exact absurd first second.1.toUnlimited.not_limited
  | unrendered errMsg =>
      cases other with
      | unwanted => exact absurd second first.1.toWanted.not_unwanted
      | limited => exact absurd second first.1.not_limited
      | unrendered errMsg' =>
          exact congrArg Exit.unrendered (Option.some.inj (first.2.2.symm.trans second.2.2))
      | unregistered =>
          have failed := first.2.2
          simp [second.2.1 first.2.1] at failed
      | tried => exact absurd first second.1.not_unrendered
  | unregistered =>
      cases other with
      | unwanted => exact absurd second first.1.toWanted.not_unwanted
      | limited => exact absurd second first.1.not_limited
      | unrendered =>
          have failed := second.2.2
          simp [first.2.1 second.2.1] at failed
      | unregistered => rfl
      | tried => exact absurd first second.1.not_unregistered
  | tried j v =>
      cases other with
      | unwanted => exact absurd second first.1.toWanted.not_unwanted
      | limited => exact absurd second first.1.toUnlimited.not_limited
      | unrendered => exact absurd second first.1.not_unrendered
      | unregistered => exact absurd second first.1.not_unregistered
      | tried j' v' =>
          obtain ⟨rfl, rfl⟩ := first.2.unique second.2
          rfl

end Exits

theorem course_at (cfg : Config) (msg : Message) (world : Nat → Answer) (sh : Shared) (k : Nat) :
    Course cfg msg world sh (proceed cfg msg world k (begin sh)) :=
  proceed_along (Course cfg msg world sh) (fun _ course running => course_next course running) k
    ⟨⟨rfl, .nil⟩, rfl⟩

theorem course_process (cfg : Config) (msg : Message) (world : Nat → Answer) (sh : Shared) :
    Course cfg msg world sh (process cfg msg world sh) :=
  process_along (Course cfg msg world sh) ⟨⟨rfl, .nil⟩, rfl⟩ fun _ course running =>
    course_next course running

/-- Process returns an error if one of its first calls has no answer, and else leaves by the
    exit that the answers lead to. -/
theorem process_course (cfg : Config) (msg : Message) (world : Nat → Answer) (sh : Shared) :
    (∃ e, (process cfg msg world sh).result = some (some e)) ∧ ¬Answered cfg msg world sh ∧
        Made (process cfg msg world sh).calls [] false [] ∨
      (process cfg msg world sh).result = some none ∧
        ∃ n exit, Reaches cfg msg world sh n exit ∧
          Made (process cfg msg world sh).calls (answersTo world exit.sends) exit.cancelled
            ((exit.closings world n).map (n, ·)) := by
  have course := course_process cfg msg world sh
  obtain ⟨err, returned⟩ := process_returns cfg msg world sh
  generalize process cfg msg world sh = o at course returned ⊢
  obtain ⟨shared, pc, calls⟩ := o
  cases pc with
  | returned err =>
      cases err with
      | some e => exact .inl ⟨⟨e, rfl⟩, course⟩
      | none => exact .inr ⟨rfl, course⟩
  | fetch | markProcessing | preference | rateLimit | render | send | backoff | closing =>
      simp [Progress.result] at returned

theorem returns_nil_iff (cfg : Config) (msg : Message) (world : Nat → Answer) (sh : Shared) :
    (process cfg msg world sh).result = some none ↔ Answered cfg msg world sh := by
  rcases process_course cfg msg world sh with ⟨⟨e, failed⟩, unanswered, _⟩ | ⟨fine, n, exit, reaches, _⟩
  · simp [failed, unanswered]
  · simp [fine, reaches.answered]

end NotifyHub.Pipeline
