import Mathlib.Tactic.SplitIfs

/-! # `http.Client.Do`

A client with the default policy follows redirects, with ten requests at most. After a 301, 302 or
303 it goes on with a GET without the body, after a 307 or 308 it posts the body again. What Do
returns is the last answer. So a call that posts may post several times, and the status it
returns need not be that of a POST.

A request that the transport repeats because the server did not take it counts once.
-/

namespace HTTP

inductive Method where
  | get
  | head
  | post
  deriving Repr, DecidableEq

/-- The method as the errors of the client name it. -/
def Method.op : Method → String
  | .get => "Get"
  | .head => "Head"
  | .post => "Post"

/-- A request that goes out, with the headers of the one that Do was called with. -/
structure Hop where
  method : Method
  url : String
  deriving Repr, DecidableEq

/-- The Location header: none, one that is no URL, or one with what it comes to against the URL of
    the request. -/
inductive Location where
  | absent
  | malformed (err : String)
  | found (header url : String)
  deriving Repr, DecidableEq

/-- What comes of one request. -/
inductive Reply where
  | failed (err : String)
  | response (statusCode : Int) (location : Location)
  deriving Repr, DecidableEq

/-- What Do gives: an error, or a response with a status code. -/
inductive Result where
  | failed (err : String)
  | response (statusCode : Int)
  deriving Repr, DecidableEq

def Result.success : Result → Bool
  | .failed _ => false
  | .response statusCode => 200 ≤ statusCode && statusCode < 300

/-- The status of the response, if there is one. -/
def Result.status : Result → Option Int
  | .failed _ => none
  | .response statusCode => some statusCode

/-- The method to go on with, if the status is one of a redirect. -/
def redirectBehavior (method : Method) (statusCode : Int) : Option Method :=
  if statusCode = 301 ∨ statusCode = 302 ∨ statusCode = 303 then
    some (if method = .get ∨ method = .head then method else .get)
  else if statusCode = 307 ∨ statusCode = 308 then some method
  else none

/-- The text of a `url.Error`, for a URL without a password in which `%q` has nothing to escape. -/
def urlError (op : Method) (url err : String) : String :=
  op.op ++ " \"" ++ url ++ "\": " ++ err

/-- Where an answer leaves the call: at its end, or with a request to another URL. -/
inductive Next where
  | done (result : Result)
  | redirected (header : String) (hop : Hop)
  deriving Repr, DecidableEq

def Reply.next (op : Method) (hop : Hop) : Reply → Next
  | .failed err => .done (.failed (urlError op hop.url err))
  | .response statusCode location =>
      match redirectBehavior hop.method statusCode, location with
      | none, _ => .done (.response statusCode)
      | some _, .absent => .done (.response statusCode)
      | some _, .malformed err => .done (.failed (urlError op hop.url err))
      | some method, .found header url => .redirected header ⟨method, url⟩

/-- From the `i`-th request of a call on, with so many redirects left. -/
def follow (op : Method) (replies : Nat → Reply) : (left i : Nat) → Hop → List Hop × Result
  | 0, i, hop =>
      match (replies i).next op hop with
      | .done result => ([hop], result)
      | .redirected header _ => ([hop], .failed (urlError op header "stopped after 10 redirects"))
  | left + 1, i, hop =>
      match (replies i).next op hop with
      | .done result => ([hop], result)
      | .redirected _ target =>
          let (hops, result) := follow op replies left (i + 1) target
          (hop :: hops, result)

/-- The requests that go out for one, and what comes of it in the end. `replies i` is what comes of
    the `i`-th of them. `defaultCheckRedirect` refuses one more when ten have been made. -/
def clientDo (replies : Nat → Reply) (method : Method) (url : String) : List Hop × Result :=
  follow method replies 9 0 ⟨method, url⟩

/-- The answer sends the client elsewhere. -/
def Reply.redirects : Reply → Bool
  | .failed _ => false
  | .response statusCode location =>
      (redirectBehavior .get statusCode).isSome && location ≠ .absent

/-- The status of the answer to one request. -/
def Reply.status : Reply → Option Int
  | .failed _ => none
  | .response statusCode _ => some statusCode

section Do

variable {replies : Nat → Reply} {method : Method} {url : String}

/-- The request itself goes out first. -/
theorem follow_hops (op : Method) (replies : Nat → Reply) (left i : Nat) (hop : Hop) :
    ∃ redirected, (follow op replies left i hop).1 = hop :: redirected ∧
      redirected.length ≤ left := by
  -- every redirect takes one of those that are left
  induction left generalizing i hop with
  | zero =>
      unfold follow
      split <;> exact ⟨[], rfl, Nat.le_refl _⟩
  | succ left ih =>
      unfold follow
      split
      · exact ⟨[], rfl, Nat.zero_le _⟩
      · rename_i target _
        obtain ⟨redirected, same, short⟩ := ih (i + 1) target
        refine ⟨(follow op replies left (i + 1) target).1, rfl, ?_⟩
        rw [same, List.length_cons]
        exact Nat.succ_le_succ short

theorem clientDo_hops (replies : Nat → Reply) (method : Method) (url : String) :
    ∃ redirected, (clientDo replies method url).1 = ⟨method, url⟩ :: redirected ∧
      redirected.length ≤ 9 :=
  follow_hops method replies 9 0 ⟨method, url⟩

theorem Reply.next_of_direct (op : Method) (hop : Hop) {reply : Reply}
    (direct : reply.redirects = false) :
    ∃ result, reply.next op hop = .done result ∧ result.status = reply.status := by
  cases reply with
  | failed err => exact ⟨_, rfl, rfl⟩
  | response statusCode location =>
      cases location with
      | absent =>
          refine ⟨.response statusCode, ?_, rfl⟩
          cases onward : redirectBehavior hop.method statusCode <;> simp only [next, onward]
      | malformed | found =>
          have none_ : redirectBehavior hop.method statusCode = none := by
            simp only [redirects, redirectBehavior] at direct ⊢
            split_ifs at direct ⊢ <;> simp_all
          refine ⟨.response statusCode, ?_, rfl⟩
          simp only [next, none_]

/-- An answer that does not redirect is what Do returns. -/
theorem clientDo_of_direct (direct : (replies 0).redirects = false) :
    (clientDo replies method url).1 = [⟨method, url⟩] ∧
      (clientDo replies method url).2.status = (replies 0).status := by
  obtain ⟨result, done, status⟩ := Reply.next_of_direct method ⟨method, url⟩ direct
  unfold clientDo follow
  rw [done]
  exact ⟨rfl, status⟩

end Do

end HTTP
