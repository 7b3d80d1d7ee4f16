import Mathlib.Algebra.Ring.Nat
import Mathlib.Data.List.Basic
import Mathlib.Tactic.Common

/-! # Numerals of a fixed width

The last `k` digits of a number in a base up to sixteen, and the number that a list of
digits stands for. Capital letters are read but never written.
-/

namespace Digits

def digitValue (c : Char) : Option Nat :=
  if '0' ≤ c ∧ c ≤ '9' then some (c.toNat - '0'.toNat)
  else if 'a' ≤ c ∧ c ≤ 'f' then some (c.toNat - 'a'.toNat + 10)
  else if 'A' ≤ c ∧ c ≤ 'F' then some (c.toNat - 'A'.toNat + 10)
  else none

/-- Horner's rule: one more digit at the end. -/
def push (base n : Nat) (c : Char) : Option Nat :=
  match digitValue c with
  | some d => if d < base then some (n * base + d) else none
  | none => none

def number (base : Nat) (digits : List Char) : Option Nat := digits.foldlM (push base) 0

def fixed (base n : Nat) : Nat → List Char
  | 0 => []
  | k + 1 => fixed base (n / base) k ++ [Nat.digitChar (n % base)]

theorem digitValue_digitChar : ∀ d < 16, digitValue (Nat.digitChar d) = some d := by
  decide

@[simp]
theorem length_fixed (base n k : Nat) : (fixed base n k).length = k := by
  induction k generalizing n with
  | zero => rfl
  | succ k ih => simp only [fixed, List.length_append, ih, List.length_singleton]

variable {base : Nat}

theorem push_digitChar {d : Nat} (small : base ≤ 16) (digit : d < base) (n : Nat) :
    push base n (Nat.digitChar d) = some (n * base + d) := by
  simp only [push, digitValue_digitChar d (Nat.lt_of_lt_of_le digit small), digit, if_true]

theorem number_fixed (positive : 0 < base) (small : base ≤ 16) (n k : Nat) :
    number base (fixed base n k) = some (n % base ^ k) := by
  induction k generalizing n with
  | zero => simp [number, fixed, Nat.mod_one]
  | succ k ih =>
      have digit : n % base < base := Nat.mod_lt _ positive
      have front := ih (n / base)
      simp only [number] at front
      simp only [number, fixed, List.foldlM_append, front, List.foldlM_cons, List.foldlM_nil,
        Option.bind_eq_bind, Option.bind_some, push_digitChar small digit, Option.pure_def]
      rw [Nat.pow_succ', Nat.mod_mul, Nat.mul_comm, Nat.add_comm]

/-- A number with no more than `k` digits is read back. -/
theorem number_fixed_of_lt (positive : 0 < base) (small : base ≤ 16) {n k : Nat}
    (fits : n < base ^ k) : number base (fixed base n k) = some n := by
  rw [number_fixed positive small, Nat.mod_eq_of_lt fits]

/-! ## At the beginning of a text -/

/-- Exactly `k` digits. -/
def read (base k : Nat) (cs : List Char) : Option (Nat × List Char) :=
  if (cs.take k).length = k then (number base (cs.take k)).map fun n => (n, cs.drop k) else none

/-- One of these characters. -/
def expect (allowed : List Char) (cs : List Char) : Option (List Char) :=
  match cs with
  | c :: rest => if c ∈ allowed then some rest else none
  | [] => none

theorem read_fixed (positive : 0 < base) (small : base ≤ 16) (n k : Nat) (left : List Char) :
    read base k (fixed base n k ++ left) = some (n % base ^ k, left) := by
  have taken : (fixed base n k ++ left).take k = fixed base n k :=
    List.take_left' (length_fixed base n k)
  have dropped : (fixed base n k ++ left).drop k = left := List.drop_left' (length_fixed base n k)
  simp only [read, taken, dropped, length_fixed, if_true, number_fixed positive small,
    Option.map_some]

theorem expect_cons {allowed : List Char} {c : Char} (member : c ∈ allowed) (left : List Char) :
    expect allowed (c :: left) = some left := by
  simp [expect, member]

theorem expect_eq_some {allowed cs left : List Char} (found : expect allowed cs = some left) :
    ∃ c ∈ allowed, cs = c :: left := by
  cases cs with
  | nil => cases found
  | cons c rest =>
      simp only [expect, Option.ite_none_right_eq_some, Option.some.injEq] at found
      exact ⟨c, found.1, by rw [found.2]⟩

theorem read_eq_some {k n : Nat} {cs left : List Char} (found : read base k cs = some (n, left)) :
    (cs.take k).length = k ∧ number base (cs.take k) = some n ∧ left = cs.drop k := by
  simp only [read, Option.ite_none_right_eq_some, Option.map_eq_some_iff, Prod.mk.injEq] at found
  obtain ⟨long, _, value, rfl, rfl⟩ := found
  exact ⟨long, value, rfl⟩

theorem digitChar_of_digitValue {c : Char} {d : Nat} (value : digitValue c = some d)
    (small : d < 10) : c = Nat.digitChar d := by
  have ten : ∀ d < 10, Nat.digitChar d = Char.ofNat (d + 48) := by decide
  have zero : '0'.toNat = 48 := rfl
  unfold digitValue at value
  split at value
  · rename_i range
    have low : 48 ≤ c.toNat := range.1
    obtain rfl := Option.some.inj value
    rw [ten _ small, zero, Nat.sub_add_cancel low, Char.ofNat_toNat]
  · split at value
    · have := Option.some.inj value
      omega
    · split at value
      · have := Option.some.inj value
        omega
      · cases value

/-- Two digits spell a number in one way. -/
theorem number_two {a b : Char} {n : Nat} (value : number 10 [a, b] = some n) :
    [a, b] = [Nat.digitChar (n / 10), Nat.digitChar (n % 10)] := by
  simp only [number, List.foldlM_cons, List.foldlM_nil, push, Option.bind_eq_bind,
    Option.pure_def] at value
  cases first : digitValue a with
  | none => simp [first] at value
  | some x =>
      cases second : digitValue b with
      | none => simp [second] at value
      | some y =>
          simp only [first, second, Nat.zero_mul, Nat.zero_add, Option.bind_eq_some_iff,
            Option.ite_none_right_eq_some, Option.some.injEq] at value
          obtain ⟨_, ⟨high, rfl⟩, _, ⟨low, rfl⟩, rfl⟩ := value
          rw [digitChar_of_digitValue first high, digitChar_of_digitValue second low,
            show (x * 10 + y) / 10 = x by omega, show (x * 10 + y) % 10 = y by omega]

theorem digitChar_isDigit : ∀ d < 10, (Nat.digitChar d).isDigit = true := by
  decide

theorem isDigit_of_mem_fixed {n k : Nat} {c : Char} (member : c ∈ fixed 10 n k) :
    c.isDigit = true := by
  induction k generalizing n with
  | zero => simp [fixed] at member
  | succ k ih =>
      rcases List.mem_append.mp member with front | last
      · exact ih front
      · rw [List.mem_singleton.mp last]
        exact digitChar_isDigit _ (Nat.mod_lt _ (by decide))

end Digits
