import NotifyHub.Lib.HTTPClient
import NotifyHub.Lib.Retry
import NotifyHub.Queue
import NotifyHub.Stores.WebhookRepository

/-! # `WebhookWorker.process`

One message is one webhook call. Its request is handed to the client, again after a wait as long
as what comes back is not a 2xx and attempts are left, and the outcome is written to the delivery.
The client follows redirects, so a call of `Do` may be several POSTs, and the response it gives is
the last one. The attempt that a failure records is `MaxAttempts` of the message, whatever was
tried.
-/

namespace NotifyHub

/-- The request that `httpClient.Do` is called with. -/
structure Post where
  url : String
  contentType : String
  signature : String
  event : String
  deliveryID : String
  body : String
  deriving Repr, DecidableEq

/-- A call of `httpClient.Do`, with the requests that go out for it. -/
structure Exchange where
  request : Post
  hops : List HTTP.Hop
  deriving Repr, DecidableEq

/-- `marshal` is `json.Marshal`, `newRequest` the error of `http.NewRequestWithContext` for a URL,
    `computeHMAC` the signature of a body with a secret. -/
structure WebhookWorker where
  marshal : JSONMap → Except String String
  newRequest : String → Option String
  computeHMAC : String → String → String

/-- What the calls for one message meet: what comes of the requests that go out for the `i`-th call
    of `Do`, the error of the context if it is cancelled in the wait after it, and the update of the
    delivery. -/
structure WebhookCalls where
  replies : Nat → Nat → HTTP.Reply
  waits : Nat → Option String := fun _ => none
  update : Conn := .up
  now : Time := 0

/-- What process did and returned, and the storage after it. -/
structure Processed where
  exchanges : List Exchange
  updates : List WebhookDeliveryUpdate
  storage : Storage
  err : Option Err

/-- The POSTs that went out, those after a redirect included. -/
def Processed.posts (o : Processed) : List HTTP.Hop :=
  (o.exchanges.flatMap (·.hops)).filter (·.method = .post)

/-- How the retry loop is left. -/
inductive LoopEnd where
  | delivered (attempt statusCode : Int)
  | failed (statusCode : Int) (err : String)
  | cancelled (err : String)
  deriving Repr, DecidableEq

namespace WebhookWorker

def request (w : WebhookWorker) (msg : WebhookMessage) (body : String) : Post :=
  { url := msg.endpointURL
    contentType := "application/json"
    signature := "sha256=" ++ w.computeHMAC body msg.secret
    event := msg.event
    deliveryID := msg.deliveryID.text
    body := body }

/-- The calls of `Do` made, the status code (0 without a response) and the error. -/
def send (w : WebhookWorker) (msg : WebhookMessage) (body : String) (replies : Nat → HTTP.Reply) :
    List Exchange × Int × Option String :=
  match w.newRequest msg.endpointURL with
  | some err => ([], 0, some ("build request: " ++ err))
  | none =>
      let (hops, result) := HTTP.clientDo replies .post msg.endpointURL
      match result with
      | .failed err => ([⟨w.request msg body, hops⟩], 0, some ("http post: " ++ err))
      | .response statusCode =>
          if statusCode < 200 ∨ 300 ≤ statusCode then
            ([⟨w.request msg body, hops⟩], statusCode,
              some ("non-2xx response: " ++ toString statusCode))
          else ([⟨w.request msg body, hops⟩], statusCode, none)

/-- The loop, from the `i`-th send on. -/
def sendLoop (w : WebhookWorker) (calls : WebhookCalls) (msg : WebhookMessage) (body : String)
    (i : Nat) (attempt : Int) : List Exchange × LoopEnd :=
  match w.send msg body (calls.replies i) with
  | (made, statusCode, none) => (made, .delivered attempt statusCode)
  | (made, statusCode, some err) =>
      if msg.maxAttempts ≤ attempt then (made, .failed statusCode err)
      else
        match calls.waits i with
        | some err => (made, .cancelled err)
        | none =>
            let (later, last) := sendLoop w calls msg body (i + 1) (attempt + 1)
            (made ++ later, last)
  termination_by (msg.maxAttempts - attempt).toNat

/-- The one write of markDelivered and markFailed. -/
def mark (calls : WebhookCalls) (s : Storage) (made : List Exchange) (context : String)
    (d : WebhookDeliveryUpdate) : Processed :=
  match WebhookRepository.updateDelivery calls.update s d calls.now with
  | .error e => ⟨made, [d], s, some (.wrap context (.app e))⟩
  | .ok s' => ⟨made, [d], s', none⟩

def markDelivered (calls : WebhookCalls) (s : Storage) (made : List Exchange) (msg : WebhookMessage)
    (attempt statusCode : Int) : Processed :=
  mark calls s made "mark delivery delivered"
    { id := msg.deliveryID
      status := .delivered
      attempt := attempt
      responseStatus := some statusCode }

def markFailed (calls : WebhookCalls) (s : Storage) (made : List Exchange) (msg : WebhookMessage)
    (statusCode : Int) (errMsg : String) : Processed :=
  mark calls s made "mark delivery failed"
    { id := msg.deliveryID
      status := .failed
      attempt := msg.maxAttempts
      lastError := some errMsg
      responseStatus := if statusCode ≠ 0 then some statusCode else none }

def process (w : WebhookWorker) (calls : WebhookCalls) (s : Storage) (msg : WebhookMessage) :
    Processed :=
  match w.marshal msg.payload with
  | .error err => markFailed calls s [] msg 0 ("marshal payload: " ++ err)
  | .ok body =>
      match w.sendLoop calls msg body 0 msg.attempt with
      | (made, .delivered attempt statusCode) =>
          markDelivered calls s made msg attempt statusCode
      | (made, .failed statusCode err) => markFailed calls s made msg statusCode err
      | (made, .cancelled err) =>
          ⟨made, [], s, some (.wrap "context cancelled during webhook retry" (.plain err))⟩

/-! ## The loop -/

section Loop

variable {w : WebhookWorker} {calls : WebhookCalls} {s : Storage} {msg : WebhookMessage}
  {body : String} {i j : Nat} {last : LoopEnd}

/-- What the `i`-th call of `Do` gives. -/
def result (calls : WebhookCalls) (msg : WebhookMessage) (i : Nat) : HTTP.Result :=
  (HTTP.clientDo (calls.replies i) .post msg.endpointURL).2

def exchange (w : WebhookWorker) (calls : WebhookCalls) (msg : WebhookMessage) (body : String)
    (i : Nat) : Exchange :=
  ⟨w.request msg body, (HTTP.clientDo (calls.replies i) .post msg.endpointURL).1⟩

/-- The retry loop in terms of the answers to it. No error is permanent. -/
def retries (calls : WebhookCalls) (msg : WebhookMessage) : Retry.Loop :=
  { tries := fun i => if (result calls msg i).success then none else some false
    waits := fun i => (calls.waits i).isNone
    budget := (msg.maxAttempts - msg.attempt).toNat }

/-- The status code that send returns with a result. -/
def code : HTTP.Result → Int
  | .failed _ => 0
  | .response statusCode => statusCode

/-- One call of `Do`, and an error unless it gives a 2xx. -/
theorem send_built (calls : WebhookCalls) (body : String) (i : Nat)
    (builds : w.newRequest msg.endpointURL = none) :
    ∃ err, w.send msg body (calls.replies i) =
        ([w.exchange calls msg body i], code (result calls msg i), err) ∧
      (err = none ↔ (result calls msg i).success = true) := by
  simp only [result, exchange, send, builds]
  cases (HTTP.clientDo (calls.replies i) .post msg.endpointURL).2 with
  | failed err => exact ⟨_, rfl, by simp [HTTP.Result.success]⟩
  | response statusCode =>
      simp only [HTTP.Result.success, Bool.and_eq_true, decide_eq_true_eq]
      split
      · exact ⟨_, rfl, by simp; omega⟩
      · exact ⟨_, rfl, by simp; omega⟩

/-- The loop is left after the `j`-th send by this exit. -/
def LeftBy (calls : WebhookCalls) (msg : WebhookMessage) (j : Nat) : Retry.Verdict → LoopEnd → Prop
  | .accepted, last => last = .delivered (msg.attempt + j) (code (result calls msg j))
  | .exhausted, last => ∃ err, last = .failed (code (result calls msg j)) err
  | .interrupted, last => ∃ err, last = .cancelled err
  | .permanent, _ => False

/-- The loop hands the client the same request until it ends as its answers say. -/
theorem sendLoop_ends (builds : w.newRequest msg.endpointURL = none)
    (going : (retries calls msg).Going i) :
    ∃ j v last, i ≤ j ∧ (retries calls msg).Ends j v ∧ LeftBy calls msg j v last ∧
      w.sendLoop calls msg body i (msg.attempt + i) =
        ((List.range' i (j + 1 - i)).map (w.exchange calls msg body), last) := by
  -- induction on the attempts that are left
  induction left : (retries calls msg).budget - i using Nat.strongRecOn generalizing i with
  | ind more ih =>
      have bound : i ≤ (msg.maxAttempts - msg.attempt).toNat := going.1
      have once : i + 1 - i = 1 := by omega
      obtain ⟨answer, sent, good⟩ := send_built calls body i builds
      cases answer with
      | none =>
          refine ⟨i, .accepted, _, le_rfl, ⟨going, if_pos (good.mp rfl)⟩, rfl, ?_⟩
          rw [sendLoop, sent, once]
          rfl
      | some err =>
          have failed : (retries calls msg).tries i = some false :=
            if_neg fun success => Option.some_ne_none err (good.mpr success)
          by_cases spent : msg.maxAttempts ≤ msg.attempt + i
          · have end_ : i = (retries calls msg).budget := by
              simp only [retries]
              omega
            refine ⟨i, .exhausted, _, le_rfl, ⟨going, failed, end_⟩, ⟨err, rfl⟩, ?_⟩
            rw [sendLoop, sent, once]
            simp only [if_pos spent]
            rfl
          · have before : i < (retries calls msg).budget := by
              simp only [retries]
              omega
            cases wait : calls.waits i with
            | some cancelled =>
                refine ⟨i, .interrupted, _, le_rfl, ⟨going, failed, before, ?_⟩, ⟨cancelled, rfl⟩, ?_⟩
                · simp [retries, wait]
                · rw [sendLoop, sent, once]
                  simp only [if_neg spent, wait]
                  rfl
            | none =>
                have next := going.succ failed before (by simp [retries, wait])
                obtain ⟨j, v, last, later, ends, leftBy, rest⟩ := ih _ (by omega) next rfl
                have more : j + 1 - i = j + 1 - (i + 1) + 1 := by omega
                have attempt : msg.attempt + i + 1 = msg.attempt + (i + 1 : Nat) := by omega
                refine ⟨j, v, last, by omega, ends, leftBy, ?_⟩
                rw [sendLoop, sent]
                simp only [if_neg spent, wait, attempt, rest, more, List.range'_succ, List.map_cons]
                rfl

/-! ## What is recorded -/

@[simp]
theorem exchanges_mark (made : List Exchange) (context : String) (d : WebhookDeliveryUpdate) :
    (mark calls s made context d).exchanges = made := by
  unfold mark
  split <;> rfl

@[simp]
theorem updates_mark (made : List Exchange) (context : String) (d : WebhookDeliveryUpdate) :
    (mark calls s made context d).updates = [d] := by
  unfold mark
  split <;> rfl

/-- The update after `n` calls of `Do`, the last of them with this result. A status code 0 is taken for
    no response. -/
structure Reports (msg : WebhookMessage) (n : Nat) (last : HTTP.Result) (d : WebhookDeliveryUpdate) :
    Prop where
  id : d.id = msg.deliveryID
  status : d.status = if last.success then .delivered else .failed
  responseStatus : d.responseStatus = if last.status = some 0 then none else last.status
  lastError : d.lastError.isSome ↔ last.success = false
  attempt : 1 ≤ msg.maxAttempts → d.attempt = n

/-- The client is called until a final response is a 2xx, at most `max 1 MaxAttempts` times, and
    there is one update, which reports the outcome. A call is a POST to the endpoint, with nine
    redirected requests at most, and none where the answer to the POST does not redirect. -/
structure Retried (w : WebhookWorker) (msg : WebhookMessage) (body : String) (calls : WebhookCalls)
    (o : Processed) : Prop where
  untilSuccess : ∀ k : Nat, (k : Int) < max 1 msg.maxAttempts →
    (result calls msg k).success = true →
    (∀ j < k, (result calls msg j).success = false) → o.exchanges.length = k + 1
  exhausted : (∀ k : Nat, (k : Int) < max 1 msg.maxAttempts →
    (result calls msg k).success = false) → (o.exchanges.length : Int) = max 1 msg.maxAttempts
  request : ∀ made ∈ o.exchanges, made.request = w.request msg body ∧
    ∃ redirected, made.hops = ⟨.post, msg.endpointURL⟩ :: redirected ∧ redirected.length ≤ 9
  direct : (∀ k < o.exchanges.length, (calls.replies k 0).redirects = false) →
    o.posts = List.replicate o.exchanges.length ⟨.post, msg.endpointURL⟩ ∧
      ∀ k < o.exchanges.length, (result calls msg k).status = (calls.replies k 0).status
  update : ∃ d, o.updates = [d] ∧
    Reports msg o.exchanges.length (result calls msg (o.exchanges.length - 1)) d

theorem ends_accepted {k : Nat} (first : msg.attempt = 1) (steady : ∀ i, calls.waits i = none)
    (within : (k : Int) < max 1 msg.maxAttempts) (good : (result calls msg k).success = true)
    (before : ∀ j < k, (result calls msg j).success = false) :
    (retries calls msg).Ends k .accepted := by
  refine ⟨⟨?_, fun j earlier => ⟨?_, ?_⟩⟩, if_pos good⟩
  · simp only [retries, first]
    omega
  · simp [retries, before j earlier]
  · simp [retries, steady j]

theorem ends_exhausted (first : msg.attempt = 1) (steady : ∀ i, calls.waits i = none)
    (bad : ∀ k : Nat, (k : Int) < max 1 msg.maxAttempts → (result calls msg k).success = false) :
    (retries calls msg).Ends (retries calls msg).budget .exhausted := by
  have failed : ∀ k ≤ (retries calls msg).budget, (retries calls msg).tries k = some false := by
    intro k within
    simp only [retries, first] at within ⊢
    rw [bad k (by omega)]
    rfl
  refine ⟨⟨le_rfl, fun j earlier => ⟨failed j (by omega), ?_⟩⟩, failed _ le_rfl, rfl⟩
  simp [retries, steady j]

theorem success_of_accepted (ends : (retries calls msg).Ends j .accepted) :
    (result calls msg j).success = true := by
  simpa [retries] using ends.2

theorem failure_of_exhausted (ends : (retries calls msg).Ends j .exhausted) :
    (result calls msg j).success = false := by
  simpa [retries] using ends.2.1

theorem reports_delivered (first : msg.attempt = 1) (good : (result calls msg j).success = true) :
    Reports msg (j + 1) (result calls msg j)
      { id := msg.deliveryID
        status := .delivered
        attempt := msg.attempt + j
        responseStatus := some (code (result calls msg j)) } := by
  cases last : result calls msg j with
  | failed err => simp [last, HTTP.Result.success] at good
  | response statusCode =>
      rw [last] at good
      have positive : statusCode ≠ 0 := by
        simp only [HTTP.Result.success, Bool.and_eq_true, decide_eq_true_eq] at good
        omega
      exact
        { id := rfl
          status := by simp [good]
          responseStatus := by simp [code, HTTP.Result.status, positive]
          lastError := by simp [good]
          attempt := fun _ => by simp only [first]; omega }

theorem reports_failed (err : String) (bad : (result calls msg j).success = false)
    (tries : 1 ≤ msg.maxAttempts → msg.maxAttempts = (j + 1 : Nat)) :
    Reports msg (j + 1) (result calls msg j)
      { id := msg.deliveryID
        status := .failed
        attempt := msg.maxAttempts
        lastError := some err
        responseStatus :=
          if code (result calls msg j) ≠ 0 then some (code (result calls msg j)) else none } where
  id := rfl
  status := by simp [bad]
  responseStatus := by
    cases result calls msg j with
    | failed err => rfl
    | response statusCode => by_cases zero : statusCode = 0 <;> simp [code, HTTP.Result.status, zero]
  lastError := by simp [bad]
  attempt := tries

/-- The loop ends, and what it came to is recorded. -/
theorem process_ends (encoded : w.marshal msg.payload = .ok body)
    (builds : w.newRequest msg.endpointURL = none) (first : msg.attempt = 1)
    (steady : ∀ i, calls.waits i = none) :
    ∃ j v d, (retries calls msg).Ends j v ∧
      (w.process calls s msg).exchanges =
        (List.range (j + 1)).map (w.exchange calls msg body) ∧
      (w.process calls s msg).updates = [d] ∧ Reports msg (j + 1) (result calls msg j) d := by
  obtain ⟨j, v, last, _, ends, leftBy, looped⟩ : ∃ j v last, 0 ≤ j ∧ (retries calls msg).Ends j v ∧
      LeftBy calls msg j v last ∧ w.sendLoop calls msg body 0 (msg.attempt + (0 : Nat)) =
        ((List.range' 0 (j + 1 - 0)).map (w.exchange calls msg body), last) :=
    sendLoop_ends builds (Retry.Loop.going_zero (retries calls msg))
  have start : msg.attempt + (0 : Nat) = msg.attempt := Int.add_zero _
  rw [start, Nat.sub_zero, ← List.range_eq_range'] at looped
  cases v with
  | accepted =>
      obtain rfl := leftBy
      refine ⟨j, .accepted, _, ends, ?_, ?_, reports_delivered first (success_of_accepted ends)⟩
      · simp only [process, encoded, looped, markDelivered, exchanges_mark]
      · simp only [process, encoded, looped, markDelivered, updates_mark]
  | exhausted =>
      obtain ⟨err, rfl⟩ := leftBy
      have spent : 1 ≤ msg.maxAttempts → msg.maxAttempts = (j + 1 : Nat) := by
        have all := ends.2.2
        simp only [retries, first] at all
        omega
      refine ⟨j, .exhausted, _, ends, ?_, ?_,
        reports_failed err (failure_of_exhausted ends) spent⟩
      · simp only [process, encoded, looped, markFailed, exchanges_mark]
      · simp only [process, encoded, looped, markFailed, updates_mark]
  | interrupted =>
      have cancelled := ends.2.2.2
      simp [retries, steady j] at cancelled
  | permanent => exact leftBy.elim

/-- No request can be made for the URL, so none goes out. -/
structure Unsent (msg : WebhookMessage) (o : Processed) : Prop where
  exchanges : o.exchanges = []
  update : ∃ err, o.updates =
    [{ id := msg.deliveryID, status := .failed, attempt := msg.maxAttempts, lastError := some err }]

theorem sendLoop_unsent {err : String} (refused : w.newRequest msg.endpointURL = some err)
    (steady : ∀ i, calls.waits i = none) (i : Nat) (attempt : Int) :
    w.sendLoop calls msg body i attempt = ([], .failed 0 ("build request: " ++ err)) := by
  fun_induction sendLoop w calls msg body i attempt <;> simp_all [send]

theorem process_unsent (encoded : w.marshal msg.payload = .ok body)
    (steady : ∀ i, calls.waits i = none) {err : String}
    (refused : w.newRequest msg.endpointURL = some err) :
    Unsent msg (w.process calls s msg) := by
  simp only [process, encoded, sendLoop_unsent refused steady, markFailed]
  exact ⟨exchanges_mark _ _ _, _, updates_mark _ _ _⟩

theorem posts_of_direct {o : Processed} {n : Nat}
    (made : o.exchanges = (List.range n).map (w.exchange calls msg body))
    (direct : ∀ k < n, (calls.replies k 0).redirects = false) :
    o.posts = List.replicate n ⟨.post, msg.endpointURL⟩ := by
  have hops : ∀ k ∈ List.range n, (w.exchange calls msg body k).hops = [⟨.post, msg.endpointURL⟩] :=
    fun k within => (HTTP.clientDo_of_direct (direct k (List.mem_range.mp within))).1
  rw [Processed.posts, made, List.flatMap_map, List.flatMap_congr hops, ← List.map_eq_flatMap,
    List.map_const', List.length_range]
  exact List.filter_replicate_of_pos rfl

/-- Every message of a Dispatch is tried and recorded like this, for every `MaxAttempts` and all
    answers to its requests, unless the context is cancelled. Where its URL is refused, nothing goes
    out. -/
theorem process_retried (encoded : w.marshal msg.payload = .ok body) (first : msg.attempt = 1)
    (steady : ∀ i, calls.waits i = none) :
    (w.newRequest msg.endpointURL = none → Retried w msg body calls (w.process calls s msg)) ∧
      ∀ err, w.newRequest msg.endpointURL = some err → Unsent msg (w.process calls s msg) := by
  refine ⟨fun builds => ?_, fun err refused => process_unsent encoded steady refused⟩
  obtain ⟨j, v, d, ends, made, updates, reports⟩ :=
    process_ends (s := s) encoded builds first steady
  have count : (w.process calls s msg).exchanges.length = j + 1 := by simp [made]
  refine ⟨?_, ?_, ?_, ?_, ⟨d, updates, ?_⟩⟩
  · intro k within good before
    rw [count, ((ends_accepted first steady within good before).unique ends).1]
  · intro bad
    rw [count, ← ((ends_exhausted first steady bad).unique ends).1]
    simp only [retries, first]
    omega
  · intro call member
    rw [made] at member
    obtain ⟨k, _, rfl⟩ := List.mem_map.mp member
    exact ⟨rfl, HTTP.clientDo_hops (calls.replies k) .post msg.endpointURL⟩
  · intro direct
    rw [count] at direct ⊢
    exact ⟨posts_of_direct made direct, fun k within => (HTTP.clientDo_of_direct (direct k within)).2⟩
  · rw [count]
    exact reports

end Loop

/-! ## One message -/

def plainWorker : WebhookWorker :=
  { marshal := fun _ => .ok "\x7b\x7d"
    newRequest := fun _ => none
    computeHMAC := fun _ _ => "" }

/-- A message with two attempts, for a delivery that is not stored. -/
def queuedCall : WebhookMessage :=
  { tenantID := 7
    endpointID := 1
    deliveryID := 2
    notificationID := none
    event := "notification.delivered"
    payload := []
    endpointURL := ""
    secret := ""
    attempt := 1
    maxAttempts := 2
    enqueuedAt := 0 }

/-- No connection first, then a 204. -/
def secondTime : WebhookCalls :=
  { replies := fun i _ => if i = 0 then .failed "connection refused" else .response 204 .absent }

theorem queuedCall_retried :
    plainWorker.marshal queuedCall.payload = .ok "\x7b\x7d" ∧
      plainWorker.newRequest queuedCall.endpointURL = none ∧ queuedCall.attempt = 1 ∧
      (∀ i, secondTime.waits i = none) ∧
      Retried plainWorker queuedCall "\x7b\x7d" secondTime
        (plainWorker.process secondTime (.ofCore (.ofTenants [7])) queuedCall) :=
  ⟨rfl, rfl, rfl, fun _ => rfl, (process_retried rfl rfl fun _ => rfl).1 rfl⟩

/-- The endpoint has moved, which it says with this status code. -/
def moved (statusCode : Int) : WebhookCalls :=
  { replies := fun _ hop =>
      if hop = 0 then .response statusCode (.found "https://b/" "https://b/")
      else .response 200 .absent }

/-- Every POST is answered with the status line `HTTP/1.1 000`. -/
def zeroStatus : WebhookCalls := { replies := fun _ _ => .response 0 .absent }

/-- A 307 makes two POSTs of one attempt. After a 303 the delivery is recorded with the answer to a
    GET. The last POST had a response with a status 000, but the update reports none. -/
theorem answers_unrecorded :
    let once := { queuedCall with maxAttempts := 1 }
    (plainWorker.process (moved 307) (.ofCore (.ofTenants [7])) once).posts.length = 2 ∧
      (plainWorker.process (moved 303) (.ofCore (.ofTenants [7])) once).posts.length = 1 ∧
      ((moved 303).replies 0 0).status = some 303 ∧
      (plainWorker.process (moved 303) (.ofCore (.ofTenants [7])) once).updates.map
        (fun d => (d.status, d.responseStatus)) = [(.delivered, some 200)] ∧
      (plainWorker.process zeroStatus (.ofCore (.ofTenants [7])) queuedCall).posts.length = 2 ∧
      (zeroStatus.replies 1 0).status = some 0 ∧
      (plainWorker.process zeroStatus (.ofCore (.ofTenants [7])) queuedCall).updates.map
        (·.responseStatus) = [none] := by
  decide +kernel

end WebhookWorker

end NotifyHub
