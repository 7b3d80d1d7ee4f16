import Mathlib.Data.BitVec
import Mathlib.Data.List.Basic

/-! # Domain types

The records and errors that pass between the layers, as `internal/domain` has
them. JSON tags and the wrapped cause of an `AppError` (only logged) are left out.
-/

namespace NotifyHub

/-- `uuid.UUID`, sixteen bytes. -/
def UUID := BitVec 128
  deriving Repr, DecidableEq

instance (k : Nat) : OfNat UUID k := ⟨BitVec.ofNat 128 k⟩

/-- The zero value of `uuid.UUID`, which is what a struct literal that omits the
    field carries. -/
def UUID.zero : UUID := 0#128

/-- The last `k` hexadecimal digits of `n`. -/
def hexDigits (n : Nat) : Nat → List Char
  | 0 => []
  | k + 1 => hexDigits (n / 16) k ++ [Nat.digitChar (n % 16)]

/-- `uuid.String()`, in groups of 8-4-4-4-12 digits. -/
def UUID.text (id : UUID) : String :=
  let n := BitVec.toNat id
  String.ofList
    (hexDigits (n / 16 ^ 24) 8 ++ '-' :: hexDigits (n / 16 ^ 20) 4 ++
      '-' :: hexDigits (n / 16 ^ 16) 4 ++ '-' :: hexDigits (n / 16 ^ 12) 4 ++
      '-' :: hexDigits n 12)

theorem length_hexDigits (n k : Nat) : (hexDigits n k).length = k := by
  induction k generalizing n with
  | zero => rfl
  | succ k ih => simp only [hexDigits, List.length_append, ih, List.length_singleton]

theorem digitChar_ne_colon : ∀ d < 16, Nat.digitChar d ≠ ':' := by
  decide

theorem colon_notMem_hexDigits (n k : Nat) : ':' ∉ hexDigits n k := by
  induction k generalizing n with
  | zero => simp [hexDigits]
  | succ k ih =>
      have digit := digitChar_ne_colon (n % 16) (Nat.mod_lt _ (by decide))
      simp only [hexDigits, List.mem_append, List.mem_singleton, not_or]
      exact ⟨ih _, digit.symm⟩

theorem UUID.length_text (id : UUID) : id.text.length = 36 := by
  simp only [UUID.text, String.length_ofList, List.length_append, List.length_cons,
    length_hexDigits]

theorem UUID.colon_notMem_text (id : UUID) : ':' ∉ id.text.toList := by
  have dash : ':' ≠ '-' := by decide
  simp only [UUID.text, String.toList_ofList, List.mem_append, List.mem_cons, dash,
    colon_notMem_hexDigits, or_self, not_false_eq_true]

theorem digitChar_injective : ∀ d < 16, ∀ d' < 16, Nat.digitChar d = Nat.digitChar d' → d = d' := by
  decide

theorem mod_eq_of_hexDigits {n n' k : Nat} (same : hexDigits n k = hexDigits n' k) :
    n % 16 ^ k = n' % 16 ^ k := by
  induction k generalizing n n' with
  | zero => simp [Nat.mod_one]
  | succ k ih =>
      obtain ⟨front, last⟩ := List.append_inj' same rfl
      have digit : n % 16 = n' % 16 :=
        digitChar_injective _ (Nat.mod_lt _ (by decide)) _ (Nat.mod_lt _ (by decide))
          (List.singleton_inj.mp last)
      rw [Nat.pow_succ', Nat.mod_mul, Nat.mod_mul, digit, ih front]

/-- The five groups have every digit. -/
theorem UUID.text_injective {id id' : UUID} (same : id.text = id'.text) : id = id' := by
  have width : ∀ n n' k, ('-' :: hexDigits n k).length = ('-' :: hexDigits n' k).length := by
    intro n n' k
    simp only [List.length_cons, length_hexDigits]
  have digits := String.ofList_injective same
  obtain ⟨digits, fifth⟩ := List.append_inj' digits (width _ _ _)
  obtain ⟨digits, fourth⟩ := List.append_inj' digits (width _ _ _)
  obtain ⟨digits, third⟩ := List.append_inj' digits (width _ _ _)
  obtain ⟨first, second⟩ := List.append_inj' digits (width _ _ _)
  have first := mod_eq_of_hexDigits first
  have second := mod_eq_of_hexDigits (List.cons.inj second).2
  have third := mod_eq_of_hexDigits (List.cons.inj third).2
  have fourth := mod_eq_of_hexDigits (List.cons.inj fourth).2
  have fifth := mod_eq_of_hexDigits (List.cons.inj fifth).2
  have bound := BitVec.isLt id
  have bound' := BitVec.isLt id'
  apply BitVec.eq_of_toNat_eq
  omega

/-- Ids with different numbers. -/
theorem UUID.nodup_numbered {n : Nat} (small : n ≤ 2 ^ 128) :
    ((List.range n).map fun k => (BitVec.ofNat 128 k : UUID)).Nodup := by
  apply List.Nodup.map_on _ List.nodup_range
  intro a inside b inside' same
  have bound : a < 2 ^ 128 := Nat.lt_of_lt_of_le (List.mem_range.mp inside) small
  have bound' : b < 2 ^ 128 := Nat.lt_of_lt_of_le (List.mem_range.mp inside') small
  have numbers : a % 2 ^ 128 = b % 2 ^ 128 := congrArg BitVec.toNat same
  rwa [Nat.mod_eq_of_lt bound, Nat.mod_eq_of_lt bound'] at numbers

/-- An instant in nanoseconds since the epoch. -/
abbrev Time := Int

def second : Int := 1000000000

def minute : Int := 60 * second

def hour : Int := 60 * minute

/-- A decoded JSON value held as `any`. The program only ever asks whether it is
    a string, so every other value is kept as its JSON text. -/
inductive Value where
  | str (s : String)
  | other (json : String)
  deriving Repr, DecidableEq

/-- `map[string]any`. -/
abbrev JSONMap := List (String × Value)

/-- `type Channel string`. The Go type is open: `other` is any text beside the
    four constants. -/
inductive Channel where
  | email
  | push
  | sms
  | inapp
  | other (name : String)
  deriving Repr, DecidableEq

namespace Channel

def text : Channel → String
  | .email => "email"
  | .push => "push"
  | .sms => "sms"
  | .inapp => "inapp"
  | .other name => name

/-- `domain.Channel(text)`. -/
def ofText (name : String) : Channel :=
  if name = "email" then .email
  else if name = "push" then .push
  else if name = "sms" then .sms
  else if name = "inapp" then .inapp
  else .other name

theorem text_ofText (name : String) : (ofText name).text = name := by
  unfold ofText
  split_ifs <;> simp_all [text]

def isValid : Channel → Bool
  | .email | .push | .sms | .inapp => true
  | .other _ => false

end Channel

/-- Lifecycle of a notification, as the `status` column documents it:
    pending -> queued -> processing -> delivered / failed / dropped. -/
inductive NotificationStatus where
  | pending
  | queued
  | processing
  | delivered
  | failed
  | dropped
  deriving Repr, DecidableEq

namespace NotificationStatus

def text : NotificationStatus → String
  | .pending => "pending"
  | .queued => "queued"
  | .processing => "processing"
  | .delivered => "delivered"
  | .failed => "failed"
  | .dropped => "dropped"

end NotificationStatus

/-- `priorityNormal`, stored when a request leaves the priority at zero. -/
def priorityNormal : Int := 5

structure Notification where
  id : UUID
  tenantID : UUID
  idempotencyKey : Option String
  type : String
  channel : Channel
  recipientID : String
  recipientAddress : String
  templateID : Option UUID
  payload : JSONMap
  priority : Int
  status : NotificationStatus
  scheduledAt : Option Time
  createdAt : Time
  updatedAt : Time
  deriving Repr, DecidableEq

/-- The inbound request for a single notification. A `nil` payload map is `none`. -/
structure SendRequest where
  type : String
  channel : Channel
  recipientID : String
  recipientAddress : String
  templateID : Option UUID
  payload : Option JSONMap
  priority : Int
  idempotencyKey : Option String
  scheduledAt : Option Time
  deriving Repr, DecidableEq

structure Recipient where
  recipientID : String
  recipientAddress : String
  payload : Option JSONMap
  deriving Repr, DecidableEq

/-- Several recipients in one call. An absent `recipients` array is `none`. -/
structure BulkSendRequest where
  type : String
  channel : Channel
  templateID : Option UUID
  payload : Option JSONMap
  priority : Int
  recipients : Option (List Recipient)
  deriving Repr, DecidableEq

/-- Query parameters of the list endpoint; the empty text means no filter. -/
structure ListNotificationsFilter where
  recipientID : String
  channel : String
  status : String
  page : Int
  perPage : Int
  deriving Repr, DecidableEq

structure Template where
  id : UUID
  name : String
  channel : Channel
  subjectTemplate : Option String
  bodyTemplate : String
  metadata : Option JSONMap
  version : Int
  isActive : Bool
  createdAt : Time
  updatedAt : Time
  deriving Repr, DecidableEq

structure CreateTemplateRequest where
  name : String
  channel : Channel
  subjectTemplate : Option String
  bodyTemplate : String
  metadata : Option JSONMap
  deriving Repr, DecidableEq

structure UpdateTemplateRequest where
  subjectTemplate : Option String
  bodyTemplate : Option String
  metadata : Option JSONMap
  isActive : Option Bool
  deriving Repr, DecidableEq

/-- Error codes, which the handlers map to HTTP statuses. -/
inductive ErrCode where
  | notFound
  | conflict
  | validation
  | unauthorized
  | forbidden
  | rateLimited
  | internal
  deriving Repr, DecidableEq

structure AppError where
  code : ErrCode
  message : String
  details : List (String × String)
  deriving Repr, DecidableEq

def newNotFoundError (msg : String) : AppError := ⟨.notFound, msg, []⟩

def newValidationError (msg : String) (details : List (String × String)) : AppError :=
  ⟨.validation, msg, details⟩

def newUnauthorizedError (msg : String) : AppError := ⟨.unauthorized, msg, []⟩

def newForbiddenError (msg : String) : AppError := ⟨.forbidden, msg, []⟩

def newRateLimitedError (msg : String) : AppError := ⟨.rateLimited, msg, []⟩

def newInternalError (msg : String) : AppError := ⟨.internal, msg, []⟩

/-- A Go `error`: an `AppError`, a plain text, or `fmt.Errorf("...: %w", err)`. -/
inductive Err where
  | app (e : AppError)
  | plain (msg : String)
  | wrap (context : String) (inner : Err)
  deriving Repr, DecidableEq

end NotifyHub
