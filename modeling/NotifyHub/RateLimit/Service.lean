import Mathlib.Logic.Function.Basic
import NotifyHub.Domain
import NotifyHub.Lib.Rounding

/-! # `rateLimitService`

AllowKey on a Redis that executes each pipeline atomically. Member and score of an
entry are both the clock reading as a float64, so an entry is its score, and two
readings that round to one number are one entry. The bounds of ZREMRANGEBYSCORE are
parsed as float64 too.

Redis and its callers are taken to read one clock for the expiry of keys.
-/

namespace NotifyHub.RateLimit

open Rounding

structure SortedSet where
  members : List Int
  expiresAt : Time
  deriving Repr, DecidableEq

abbrev Redis := String → Option SortedSet

def empty : Redis := fun _ => none

/-- Whether the pipeline reaches Redis, and whether its answer comes back; if not, the
    text of the error. -/
inductive Link where
  | up
  | lost (text : String)
  | down (text : String)
  deriving Repr, DecidableEq

/-- EXPIRE counts whole seconds: the client cuts a duration down, to no less than one. -/
def expire (ttl : Int) : Int :=
  if 0 < ttl ∧ ttl < second then second else ttl.tdiv second * second

def members (rdb : Redis) (key : String) (now : Time) : List Int :=
  match rdb key with
  | none => []
  | some set => if set.expiresAt ≤ now then [] else set.members

/-- What ZREMRANGEBYSCORE leaves, and ZCARD counts. -/
def kept (rdb : Redis) (key : String) (window : Int) (now : Time) : List Int :=
  (members rdb key now).filter (float64 (now - window) < ·)

/-- The state after the pipeline. ZADD of a member that is there changes nothing. -/
def record (rdb : Redis) (key : String) (window : Int) (now : Time) : Redis :=
  Function.update rdb key
    (some
      { members := (kept rdb key window now).insert (float64 now)
        expiresAt := now + expire (window + second) })

/-- A call of AllowKey with the reading of its clock. -/
structure Request where
  link : Link
  key : String
  window : Int
  cap : Int
  now : Time
  deriving Repr, DecidableEq

def allowKey (rdb : Redis) (r : Request) : Except Err Bool × Redis :=
  match r.link with
  | .up =>
      (.ok (decide (((kept rdb r.key r.window r.now).length : Int) < r.cap)),
        record rdb r.key r.window r.now)
  | .lost text =>
      (.error (.wrap "ratelimit pipeline" (.plain text)), record rdb r.key r.window r.now)
  | .down text => (.error (.wrap "ratelimit pipeline" (.plain text)), rdb)

/-- The key of Allow. -/
def allowKeyName (userID : String) (channel : Channel) : String :=
  "ratelimit:" ++ userID ++ ":" ++ channel.text

/-- The key of the HTTP middleware. -/
def apiKeyName (clientID : UUID) : String := "ratelimit:api:" ++ clientID.text

/-! ## Histories

A history is a list of whatever makes the calls, in the order in which Redis
executes them; `request` says which call each of them makes. -/

section Histories

variable {ε : Type} (request : ε → Request)

/-- The history with the answers. -/
def serve : Redis → List ε → List (ε × Except Err Bool)
  | _, [] => []
  | rdb, e :: rest => (e, (allowKey rdb (request e)).1) :: serve (allowKey rdb (request e)).2 rest

def after : Redis → List ε → Redis
  | rdb, [] => rdb
  | rdb, e :: rest => after (allowKey rdb (request e)).2 rest

variable {request}

theorem serve_append (rdb : Redis) (first second : List ε) :
    serve request rdb (first ++ second) =
      serve request rdb first ++ serve request (after request rdb first) second := by
  induction first generalizing rdb with
  | nil => rfl
  | cons e rest ih => simp only [List.cons_append, serve, after, ih]

theorem after_append (rdb : Redis) (first second : List ε) :
    after request rdb (first ++ second) = after request (after request rdb first) second := by
  induction first generalizing rdb with
  | nil => rfl
  | cons e rest ih => simp only [List.cons_append, after, ih]

theorem mem_of_serve {rdb : Redis} {calls : List ε} {answer : ε × Except Err Bool}
    (member : answer ∈ serve request rdb calls) : answer.1 ∈ calls := by
  induction calls generalizing rdb with
  | nil => simp [serve] at member
  | cons e rest ih =>
      cases List.mem_cons.mp member with
      | inl here =>
          subst here
          exact List.mem_cons_self
      | inr later => exact List.mem_cons_of_mem _ (ih later)

/-! ## Keys do not interfere -/

variable {rdb other : Redis}

theorem allowKey_other {r : Request} {key : String} (ne : key ≠ r.key) :
    (allowKey rdb r).2 key = rdb key := by
  unfold allowKey
  split
  · exact Function.update_of_ne ne _ _
  · exact Function.update_of_ne ne _ _
  · rfl

theorem allowKey_congr {r : Request} (same : rdb r.key = other r.key) :
    (allowKey rdb r).1 = (allowKey other r).1 ∧
      (allowKey rdb r).2 r.key = (allowKey other r).2 r.key := by
  have left : kept rdb r.key r.window r.now = kept other r.key r.window r.now := by
    unfold kept members
    rw [same]
  unfold allowKey
  cases r.link with
  | up | lost => simp only [record, Function.update_self, left, and_self]
  | down => exact ⟨rfl, same⟩

/-- The answers on a set of keys depend on the calls on those keys alone. -/
theorem serve_filter (keys : String → Bool) (calls : List ε)
    (same : ∀ key, keys key = true → rdb key = other key) :
    (serve request rdb calls).filter (fun answer => keys (request answer.1).key) =
      serve request other (calls.filter fun e => keys (request e).key) := by
  induction calls generalizing rdb other with
  | nil => rfl
  | cons e rest ih =>
      cases here : keys (request e).key with
      | true =>
          have step := allowKey_congr (same _ here)
          have onward : ∀ key, keys key = true →
              (allowKey rdb (request e)).2 key = (allowKey other (request e)).2 key := by
            intro key among
            by_cases own : key = (request e).key
            · rw [own]
              exact step.2
            · rw [allowKey_other own, allowKey_other own]
              exact same key among
          simp only [serve, List.filter_cons, here, if_true, step.1, ih onward]
      | false =>
          have onward : ∀ key, keys key = true → (allowKey rdb (request e)).2 key = other key := by
            intro key among
            have ne : key ≠ (request e).key := by
              rintro rfl
              simp [here] at among
            exact (allowKey_other ne).trans (same key among)
          simp only [serve, List.filter_cons, here, Bool.false_eq_true, if_false, ih onward]

end Histories

end NotifyHub.RateLimit
