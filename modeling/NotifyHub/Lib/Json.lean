import Mathlib.Algebra.Ring.Int.Defs
import Mathlib.Data.List.TakeWhile
import NotifyHub.Lib.Digits

/-! # JSON documents and their texts

A document keeps its numbers as they are written and its members in the order they are
written in. Writers differ in the blanks they leave and in the characters they escape; what
any of them writes, the reader reads back. The reader has a budget of calls, and the length
of the text is always enough.
-/

/-- Sign, digits before and after the point, and exponent. -/
structure JsonNumber.Parts where
  negative : Bool
  whole : List Char
  fraction : List Char
  exponent : Int
  deriving Repr, DecidableEq

namespace JsonNumber

def decimal (digits : List Char) : Nat := Nat.ofDigitChars 10 digits 0

def signed (cs : List Char) : Bool × List Char :=
  match cs with
  | '-' :: rest => (true, rest)
  | _ => (false, cs)

def fractionPart (cs : List Char) : Option (List Char × List Char) :=
  match cs with
  | '.' :: rest =>
      let digits := rest.takeWhile Char.isDigit
      if digits.isEmpty then none else some (digits, rest.dropWhile Char.isDigit)
  | _ => some ([], cs)

def exponentPart (cs : List Char) : Option Int :=
  match cs with
  | [] => some 0
  | e :: rest =>
      if e = 'e' ∨ e = 'E' then
        let (negative, digits) :=
          match rest with
          | '+' :: digits => (false, digits)
          | '-' :: digits => (true, digits)
          | _ => (false, rest)
        if digits.isEmpty || !digits.all Char.isDigit then none
        else some (if negative then -(decimal digits : Int) else decimal digits)
      else none

/-- The grammar of numbers. -/
def parts (cs : List Char) : Option Parts :=
  let (negative, rest) := signed cs
  let whole := rest.takeWhile Char.isDigit
  if whole.isEmpty || (whole.head? == some '0' && 1 < whole.length) then none
  else
    match fractionPart (rest.dropWhile Char.isDigit) with
    | none => none
    | some (fraction, rest) =>
        match exponentPart rest with
        | none => none
        | some exponent => some ⟨negative, whole, fraction, exponent⟩

def isNumeral (c : Char) : Bool :=
  c.isDigit || c == '-' || c == '+' || c == '.' || c == 'e' || c == 'E'

end JsonNumber

structure JsonNumber where
  chars : List Char
  numerals : chars.all JsonNumber.isNumeral = true
  wellFormed : (JsonNumber.parts chars).isSome = true
  deriving Repr, DecidableEq

namespace JsonNumber

/-- The value of a literal without fraction and exponent. -/
def asInt (n : JsonNumber) : Option Int :=
  let (negative, digits) := signed n.chars
  if digits.all Char.isDigit then some (if negative then -(decimal digits : Int) else decimal digits)
  else none

/-- The literal stands for this integer, `5.0` and `50e-1` for 5. -/
def Equals (n : JsonNumber) (i : Int) : Prop :=
  match parts n.chars with
  | none => False
  | some p =>
      let digits := decimal (p.whole ++ p.fraction)
      let value : Int := if p.negative then -digits else digits
      let exponent := p.exponent - p.fraction.length
      if 0 ≤ exponent then value * 10 ^ exponent.toNat = i else value = i * 10 ^ (-exponent).toNat

theorem equals_of_asInt {n : JsonNumber} {i j : Int} (plain : n.asInt = some j) :
    n.Equals i ↔ i = j := by
  have formed := n.wellFormed
  unfold asInt at plain
  split at plain
  rename_i negative digits sign
  split at plain
  · rename_i all
    have taken : digits.takeWhile Char.isDigit = digits :=
      List.takeWhile_eq_self_iff.mpr (List.all_eq_true.mp all)
    have dropped : digits.dropWhile Char.isDigit = [] :=
      List.dropWhile_eq_nil_iff.mpr (List.all_eq_true.mp all)
    have read : parts n.chars = some ⟨negative, digits, [], 0⟩ := by
      simp only [parts, sign, taken, dropped, fractionPart, exponentPart] at formed ⊢
      split at formed
      · cases formed
      · rename_i number
        rw [if_neg number]
    simp only [Equals, read, List.append_nil, List.length_nil]
    obtain rfl := Option.some.inj plain
    simp [eq_comm]
  · cases plain

/-- Beyond the largest float64, and so far that it is not rounded to it. -/
def overflows (n : JsonNumber) : Bool :=
  match parts n.chars with
  | none => false
  | some p =>
      let digits := decimal (p.whole ++ p.fraction)
      let exponent := p.exponent - p.fraction.length
      if 0 ≤ exponent then 2 ^ 1024 - 2 ^ 970 ≤ digits * 10 ^ exponent.toNat
      else (2 ^ 1024 - 2 ^ 970) * 10 ^ (-exponent).toNat ≤ digits

theorem all_toDigits (n : Nat) : (Nat.toDigits 10 n).all Char.isDigit = true :=
  List.all_eq_true.mpr fun _ member => Nat.isDigit_of_mem_toDigits (by decide) (by decide) member

theorem eq_zero_of_head {n : Nat} (zero : (Nat.toDigits 10 n).head? = some '0') : n = 0 := by
  induction n using Nat.strongRecOn with
  | ind n ih =>
      rw [Nat.toDigits_eq_if (by decide)] at zero
      split at zero
      · rename_i small
        have digit : ∀ d < 10, Nat.digitChar d = '0' → d = 0 := by decide
        exact digit n small (Option.some.inj zero)
      · rename_i large
        rw [List.head?_append_of_ne_nil _ Nat.toDigits_ne_nil] at zero
        have front := ih (n / 10) (by omega) zero
        omega

theorem signed_digits {ds : List Char} (plain : ds.all Char.isDigit = true) :
    signed ds = (false, ds) := by
  unfold signed
  split
  · exact absurd plain (by simp [show Char.isDigit '-' = false by decide])
  · rfl

theorem parts_digits (negative : Bool) (n : Nat) :
    (parts ((if negative then ['-'] else []) ++ Nat.toDigits 10 n)).isSome = true := by
  have plain := all_toDigits n
  have sign : signed ((if negative then ['-'] else []) ++ Nat.toDigits 10 n) =
      (negative, Nat.toDigits 10 n) := by
    cases negative with
    | true => rfl
    | false => exact signed_digits plain
  have taken : (Nat.toDigits 10 n).takeWhile Char.isDigit = Nat.toDigits 10 n :=
    List.takeWhile_eq_self_iff.mpr (List.all_eq_true.mp plain)
  have dropped : (Nat.toDigits 10 n).dropWhile Char.isDigit = [] :=
    List.dropWhile_eq_nil_iff.mpr (List.all_eq_true.mp plain)
  have leading : ((Nat.toDigits 10 n).head? == some '0' &&
      decide (1 < (Nat.toDigits 10 n).length)) = false := by
    by_cases zero : (Nat.toDigits 10 n).head? = some '0'
    · obtain rfl := eq_zero_of_head zero
      decide
    · simp [zero]
  have some_ : (Nat.toDigits 10 n).isEmpty = false := by simp [Nat.toDigits_ne_nil]
  simp only [parts, sign, taken, dropped, leading, some_, Bool.or_self, Bool.false_eq_true, if_false]
  rfl

def ofInt (i : Int) : JsonNumber where
  chars := (if decide (i < 0) then ['-'] else []) ++ Nat.toDigits 10 i.natAbs
  numerals := by
    have digits : (Nat.toDigits 10 i.natAbs).all isNumeral = true :=
      List.all_eq_true.mpr fun c member => by
        simp [isNumeral, Nat.isDigit_of_mem_toDigits (by decide) (by decide) member]
    by_cases negative : i < 0 <;> simp [negative, digits, show isNumeral '-' = true by decide]
  wellFormed := parts_digits _ _

theorem asInt_ofInt (i : Int) : (ofInt i).asInt = some i := by
  have plain := all_toDigits i.natAbs
  have value : decimal (Nat.toDigits 10 i.natAbs) = i.natAbs := Nat.ofDigitChars_ten_toDigits
  by_cases negative : i < 0
  · simp only [asInt, ofInt, negative, decide_true, if_true, List.singleton_append, signed, plain, value]
    congr 1
    omega
  · simp only [asInt, ofInt, negative, decide_false, Bool.false_eq_true, if_false, List.nil_append,
      signed_digits plain, plain, if_true, value]
    congr 1
    omega

end JsonNumber

inductive Json where
  | null
  | bool (b : Bool)
  | num (literal : JsonNumber)
  | str (s : String)
  | arr (items : List Json)
  | obj (members : List (String × Json))
  deriving Repr

namespace Json

open JsonNumber (isNumeral)

/-! ## Reading -/

def isBlank (c : Char) : Bool := c == ' ' || c == '\t' || c == '\n' || c == '\r'

def skip (cs : List Char) : List Char := cs.dropWhile isBlank

/-- The next character that is not blank, if it is this one. -/
def next (c : Char) (cs : List Char) : Option (List Char) :=
  match skip cs with
  | [] => none
  | d :: rest => if d = c then some rest else none

/-- The escapes of one letter. -/
def unescape (c : Char) : Option Nat :=
  if c = '"' ∨ c = '\\' ∨ c = '/' then some c.toNat
  else if c = 'b' then some 8
  else if c = 'f' then some 12
  else if c = 'n' then some 10
  else if c = 'r' then some 13
  else if c = 't' then some 9
  else none

/-- The code points of a string up to its closing quote. Those of escapes may be halves of
    surrogate pairs. -/
def units : List Char → Option (List Nat × List Char)
  | [] => none
  | c :: rest =>
      if c = '"' then some ([], rest)
      else if c = '\\' then
        match rest with
        | 'u' :: h :: i :: j :: k :: rest =>
            match Digits.number 16 [h, i, j, k] with
            | some unit => (units rest).map fun (us, left) => (unit :: us, left)
            | none => none
        | e :: rest =>
            match unescape e with
            | some unit => (units rest).map fun (us, left) => (unit :: us, left)
            | none => none
        | [] => none
      else if c < ' ' then none
      else (units rest).map fun (us, left) => (c.toNat :: us, left)

def isHigh (u : Nat) : Bool := 0xd800 ≤ u && u < 0xdc00

def isLow (u : Nat) : Bool := 0xdc00 ≤ u && u < 0xe000

/-- A half on its own is replaced. -/
def scalar (u : Nat) : Char := if isHigh u || isLow u then '\uFFFD' else Char.ofNat u

def combine : List Nat → List Char
  | [] => []
  | [u] => [scalar u]
  | u :: v :: rest =>
      if isHigh u && isLow v then
        Char.ofNat (0x10000 + (u - 0xd800) * 0x400 + (v - 0xdc00)) :: combine rest
      else scalar u :: combine (v :: rest)

/-- What follows an opening quote. -/
def string (cs : List Char) : Option (String × List Char) :=
  (units cs).map fun (us, left) => (String.ofList (combine us), left)

def number (cs : List Char) : Option (Json × List Char) :=
  if wellFormed : (JsonNumber.parts (cs.takeWhile isNumeral)).isSome = true then
    some (.num ⟨cs.takeWhile isNumeral, List.all_takeWhile, wellFormed⟩, cs.dropWhile isNumeral)
  else none

def word (w : List Char) (j : Json) (cs : List Char) : Option (Json × List Char) :=
  if w.isPrefixOf cs then some (j, cs.drop w.length) else none

mutual

def value : Nat → List Char → Option (Json × List Char)
  | 0, _ => none
  | fuel + 1, cs =>
      match skip cs with
      | [] => none
      | c :: rest =>
          if c = '"' then (string rest).map fun (s, left) => (.str s, left)
          else if c = '[' then
            match next ']' rest with
            | some left => some (.arr [], left)
            | none => (items fuel rest).map fun (js, left) => (.arr js, left)
          else if c = '\x7b' then
            match next '\x7d' rest with
            | some left => some (.obj [], left)
            | none => (members fuel rest).map fun (ms, left) => (.obj ms, left)
          else if c = 'n' then word ['u', 'l', 'l'] .null rest
          else if c = 't' then word ['r', 'u', 'e'] (.bool true) rest
          else if c = 'f' then word ['a', 'l', 's', 'e'] (.bool false) rest
          else number (c :: rest)

/-- The items of an array that is not empty. -/
def items : Nat → List Char → Option (List Json × List Char)
  | 0, _ => none
  | fuel + 1, cs => do
      let (j, left) ← value fuel cs
      match next ',' left with
      | some more => do
          let (js, left) ← items fuel more
          return (j :: js, left)
      | none => do
          let left ← next ']' left
          return ([j], left)

def members : Nat → List Char → Option (List (String × Json) × List Char)
  | 0, _ => none
  | fuel + 1, cs => do
      let quoted ← next '"' cs
      let (k, left) ← string quoted
      let left ← next ':' left
      let (j, left) ← value fuel left
      match next ',' left with
      | some more => do
          let (ms, left) ← members fuel more
          return ((k, j) :: ms, left)
      | none => do
          let left ← next '\x7d' left
          return ([(k, j)], left)

end

def parse (text : String) : Option Json :=
  match value (text.toList.length + 1) text.toList with
  | some (j, left) => if (skip left).isEmpty then some j else none
  | none => none

/-! ## Writing -/

/-- How a writer spells: the blanks after a comma or colon, and each character of a string. -/
structure Style where
  gap : List Char
  escape : Char → List Char
  blank : gap.all isBlank = true
  reads : ∀ c left, units (escape c ++ left) =
    (units left).map fun (us, left) => (c.toNat :: us, left)

namespace Style

variable (st : Style)

def quote (s : String) : List Char := '"' :: s.toList.flatMap st.escape ++ ['"']

mutual

def write : Json → List Char
  | .null => ['n', 'u', 'l', 'l']
  | .bool true => ['t', 'r', 'u', 'e']
  | .bool false => ['f', 'a', 'l', 's', 'e']
  | .num literal => literal.chars
  | .str s => st.quote s
  | .arr [] => ['[', ']']
  | .arr (j :: js) => '[' :: (write j ++ moreItems js)
  | .obj [] => ['\x7b', '\x7d']
  | .obj ((k, j) :: ms) => '\x7b' :: (st.quote k ++ ':' :: (st.gap ++ (write j ++ moreMembers ms)))

def moreItems : List Json → List Char
  | [] => [']']
  | j :: js => ',' :: (st.gap ++ (write j ++ moreItems js))

def moreMembers : List (String × Json) → List Char
  | [] => ['\x7d']
  | (k, j) :: ms =>
      ',' :: (st.gap ++ (st.quote k ++ ':' :: (st.gap ++ (write j ++ moreMembers ms))))

end

def text (j : Json) : String := String.ofList (st.write j)

end Style

/-! ## What is written is read back -/

section Strings

theorem scalar_toNat (c : Char) : scalar c.toNat = c := by
  have valid : c.toNat < 0xd800 ∨ 0xdfff < c.toNat ∧ c.toNat < 0x110000 := c.valid
  have whole : (isHigh c.toNat || isLow c.toNat) = false := by
    simp only [isHigh, isLow, Bool.or_eq_false_iff, Bool.and_eq_false_iff, decide_eq_false_iff_not]
    omega
  rw [scalar, whole, if_neg Bool.false_ne_true, Char.ofNat_toNat]

theorem combine_map_toNat (cs : List Char) : combine (cs.map Char.toNat) = cs := by
  induction cs with
  | nil => rfl
  | cons c rest ih =>
      have valid : c.toNat < 0xd800 ∨ 0xdfff < c.toNat ∧ c.toNat < 0x110000 := c.valid
      have whole : isHigh c.toNat = false := by
        simp only [isHigh, Bool.and_eq_false_iff, decide_eq_false_iff_not]
        omega
      cases rest with
      | nil => simp [combine, scalar_toNat]
      | cons d rest =>
          simp only [List.map_cons] at ih ⊢
          simp only [combine, whole, Bool.false_and, Bool.false_eq_true, if_false, scalar_toNat, ih]

variable (st : Style)

theorem units_quote (left : List Char) : units ('"' :: left) = some ([], left) := by
  unfold units
  rfl

theorem units_escaped (cs left : List Char) :
    units (cs.flatMap st.escape ++ '"' :: left) = some (cs.map Char.toNat, left) := by
  induction cs with
  | nil => exact units_quote left
  | cons c rest ih =>
      rw [List.flatMap_cons, List.append_assoc, st.reads, ih]
      rfl

theorem string_quote (s : String) (left : List Char) :
    string (s.toList.flatMap st.escape ++ '"' :: left) = some (s, left) := by
  rw [string, units_escaped]
  simp [combine_map_toNat]

end Strings

section Tokens

variable {st : Style} {c d : Char} {cs left : List Char} {fuel : Nat}

theorem skip_gap (st : Style) (cs : List Char) : skip (st.gap ++ cs) = skip cs := by
  rw [skip, List.dropWhile_append_of_pos (List.all_eq_true.mp st.blank)]
  rfl

theorem skip_cons (full : isBlank c = false) : skip (c :: cs) = c :: cs := by
  simp [skip, full]

theorem next_cons (full : isBlank c = false) :
    next d (c :: cs) = if c = d then some cs else none := by
  rw [next, skip_cons full]

theorem next_gap (st : Style) : next d (st.gap ++ cs) = next d cs := by
  rw [next, next, skip_gap]

theorem value_gap (st : Style) : value fuel (st.gap ++ cs) = value fuel cs := by
  cases fuel with
  | zero => rw [value, value]
  | succ fuel => rw [value, value, skip_gap]

theorem items_gap (st : Style) : items fuel (st.gap ++ cs) = items fuel cs := by
  cases fuel with
  | zero => rw [items, items]
  | succ fuel => rw [items, items, value_gap]

theorem members_gap (st : Style) : members fuel (st.gap ++ cs) = members fuel cs := by
  cases fuel with
  | zero => rw [members, members]
  | succ fuel => rw [members, members, next_gap]

/-- A text that does not go on with a number. -/
def Ends (cs : List Char) : Prop := ∀ c ∈ cs.head?, isNumeral c = false

/-- No numeral begins another kind of value, or ends one. -/
theorem isNumeral_apart (numeral : isNumeral c = true) :
    isBlank c = false ∧ c ≠ '"' ∧ c ≠ '[' ∧ c ≠ ']' ∧ c ≠ '\x7b' ∧ c ≠ '\x7d' ∧ c ≠ 'n' ∧ c ≠ 't' ∧
      c ≠ 'f' := by
  refine ⟨?_, ?_, ?_, ?_, ?_, ?_, ?_, ?_, ?_⟩
  · simp only [isBlank, Bool.or_eq_false_iff, beq_eq_false_iff_ne]
    refine ⟨⟨⟨?_, ?_⟩, ?_⟩, ?_⟩ <;> rintro rfl <;> exact absurd numeral (by decide)
  all_goals
    rintro rfl
    exact absurd numeral (by decide)

theorem JsonNumber.chars_eq_cons (n : JsonNumber) :
    ∃ c rest, n.chars = c :: rest ∧ isNumeral c = true := by
  cases spelled : n.chars with
  | nil =>
      have wellFormed := n.wellFormed
      rw [spelled] at wellFormed
      exact absurd wellFormed (by decide)
  | cons c rest =>
      have numerals := n.numerals
      rw [spelled, List.all_cons, Bool.and_eq_true] at numerals
      exact ⟨c, rest, rfl, numerals.1⟩

theorem takeWhile_numeral (n : JsonNumber) (ends : Ends left) :
    (n.chars ++ left).takeWhile isNumeral = n.chars ∧
      (n.chars ++ left).dropWhile isNumeral = left := by
  have numerals := List.all_eq_true.mp n.numerals
  rw [List.takeWhile_append_of_pos numerals, List.dropWhile_append_of_pos numerals]
  cases left with
  | nil => simp
  | cons c rest => simp [ends c rfl]

theorem number_chars (n : JsonNumber) (ends : Ends left) :
    number (n.chars ++ left) = some (.num n, left) := by
  obtain ⟨taken, dropped⟩ := takeWhile_numeral n ends
  simp only [number, taken, dropped, n.wellFormed, dif_pos]

theorem value_num (n : JsonNumber) (ends : Ends left) :
    value (fuel + 1) (n.chars ++ left) = some (.num n, left) := by
  have read := number_chars n ends
  obtain ⟨c, rest, spelled, numeral⟩ := JsonNumber.chars_eq_cons n
  obtain ⟨full, quote, bracket, _, brace, _, n', t', f'⟩ := isNumeral_apart numeral
  rw [spelled, List.cons_append] at read ⊢
  simp only [value, skip_cons full, quote, bracket, brace, n', t', f', if_false, read]

/-- What a value begins with. -/
theorem write_eq_cons (st : Style) (j : Json) :
    ∃ c rest, st.write j = c :: rest ∧ isBlank c = false ∧ c ≠ ']' := by
  cases j with
  | null => exact ⟨_, _, by rw [Style.write], by decide, by decide⟩
  | bool b => cases b <;> exact ⟨_, _, by rw [Style.write], by decide, by decide⟩
  | num n =>
      obtain ⟨c, rest, spelled, numeral⟩ := JsonNumber.chars_eq_cons n
      obtain ⟨full, _, _, bracket, _⟩ := isNumeral_apart numeral
      exact ⟨c, rest, by rw [Style.write, spelled], full, bracket⟩
  | str s => exact ⟨_, _, by rw [Style.write, Style.quote, List.cons_append], by decide, by decide⟩
  | arr js => cases js <;> exact ⟨_, _, by rw [Style.write], by decide, by decide⟩
  | obj ms =>
      cases ms with
      | nil => exact ⟨_, _, by rw [Style.write], by decide, by decide⟩
      | cons m ms => exact ⟨_, _, by rw [Style.write], by decide, by decide⟩

end Tokens

section Documents

/-! The calls that reading a document takes. -/

mutual

def size : Json → Nat
  | .null | .bool _ | .num _ | .str _ => 1
  | .arr js => 1 + itemsSize js
  | .obj ms => 1 + membersSize ms

def itemsSize : List Json → Nat
  | [] => 0
  | j :: js => 1 + size j + itemsSize js

def membersSize : List (String × Json) → Nat
  | [] => 0
  | (_, j) :: ms => 1 + size j + membersSize ms

end

theorem one_le_size (j : Json) : 1 ≤ j.size := by
  cases j <;> simp only [size] <;> omega

variable (st : Style)

/-- The document is read, with whatever follows it. -/
def Read (j : Json) : Prop :=
  ∀ fuel left, j.size ≤ fuel → Ends left → value fuel (st.write j ++ left) = some (j, left)

variable {st}

theorem ends_of_apart {c : Char} {cs : List Char} (apart : isNumeral c = false) : Ends (c :: cs) := by
  intro d head
  obtain rfl := Option.some.inj head
  exact apart

theorem ends_moreItems (js : List Json) (left : List Char) : Ends (st.moreItems js ++ left) := by
  cases js <;> rw [Style.moreItems] <;> exact ends_of_apart (by decide)

theorem ends_moreMembers (ms : List (String × Json)) (left : List Char) :
    Ends (st.moreMembers ms ++ left) := by
  cases ms <;> rw [Style.moreMembers] <;> exact ends_of_apart (by decide)

theorem read_arr {j : Json} {js : List Json}
    (read : ∀ fuel left, 1 + j.size + itemsSize js ≤ fuel →
      items fuel (st.write j ++ (st.moreItems js ++ left)) = some (j :: js, left)) :
    Read st (.arr (j :: js)) := by
  intro fuel left enough ends
  obtain ⟨fuel, rfl⟩ : ∃ k, fuel = k + 1 := Nat.exists_eq_add_one.mpr (Nat.lt_of_lt_of_le
    (Nat.lt_of_lt_of_le Nat.zero_lt_one (one_le_size _)) enough)
  simp only [size, itemsSize] at enough
  have within := read fuel left (by omega)
  obtain ⟨c, rest, spelled, full, other⟩ := write_eq_cons st j
  rw [Style.write, List.cons_append, List.append_assoc, value, skip_cons (by decide)]
  rw [spelled] at within ⊢
  simp only [List.cons_append] at within ⊢
  simp [next_cons full, other, within]

theorem items_write {js : List Json} : ∀ {j : Json}, Read st j → (∀ i ∈ js, Read st i) →
    ∀ fuel left, 1 + j.size + itemsSize js ≤ fuel →
      items fuel (st.write j ++ (st.moreItems js ++ left)) = some (j :: js, left) := by
  induction js with
  | nil =>
      intro j read _ fuel left enough
      obtain ⟨fuel, rfl⟩ : ∃ k, fuel = k + 1 := ⟨fuel - 1, by omega⟩
      simp only [itemsSize] at enough
      rw [items, read fuel _ (by omega) (ends_moreItems [] left)]
      simp [Style.moreItems, next_cons (show isBlank ']' = false by decide)]
  | cons i js ih =>
      intro j read reads fuel left enough
      obtain ⟨fuel, rfl⟩ : ∃ k, fuel = k + 1 := ⟨fuel - 1, by omega⟩
      simp only [itemsSize] at enough
      have more := ih (reads i List.mem_cons_self) (fun k later => reads k (.tail _ later)) fuel left
        (by omega)
      rw [items, read fuel _ (by omega) (ends_moreItems (i :: js) left)]
      simp [Style.moreItems, next_cons (show isBlank ',' = false by decide), items_gap,
        List.append_assoc, more]

theorem members_cons {k : String} {j : Json} {fuel : Nat} {tail : List Char} (read : Read st j)
    (enough : j.size ≤ fuel) (ends : Ends tail) :
    members (fuel + 1) (st.quote k ++ ':' :: (st.gap ++ (st.write j ++ tail))) =
      match next ',' tail with
      | some more => (members fuel more).map fun (ms, left) => ((k, j) :: ms, left)
      | none => (next '\x7d' tail).map fun left => ([(k, j)], left) := by
  have inner := read fuel tail enough ends
  rw [members, Style.quote, List.cons_append, List.cons_append, next_cons (by decide)]
  simp only [if_true, List.append_assoc, List.cons_append, List.nil_append, string_quote,
    Option.bind_eq_bind, Option.bind_some, next_cons (show isBlank ':' = false by decide), value_gap,
    inner]
  cases next ',' tail with
  | none => cases next '\x7d' tail <;> rfl
  | some more =>
      dsimp only
      cases members fuel more <;> rfl

theorem members_write {ms : List (String × Json)} : ∀ {k : String} {j : Json}, Read st j →
    (∀ m ∈ ms, Read st m.2) → ∀ fuel left, 1 + j.size + membersSize ms ≤ fuel →
      members fuel (st.quote k ++ ':' :: (st.gap ++ (st.write j ++ (st.moreMembers ms ++ left)))) =
        some ((k, j) :: ms, left) := by
  induction ms with
  | nil =>
      intro k j read _ fuel left enough
      obtain ⟨fuel, rfl⟩ : ∃ n, fuel = n + 1 := ⟨fuel - 1, by omega⟩
      rw [members_cons read (by omega) (ends_moreMembers [] left), Style.moreMembers,
        List.singleton_append, next_cons (by decide), next_cons (by decide)]
      rfl
  | cons m ms ih =>
      obtain ⟨k', i⟩ := m
      intro k j read reads fuel left enough
      obtain ⟨fuel, rfl⟩ : ∃ n, fuel = n + 1 := ⟨fuel - 1, by omega⟩
      simp only [membersSize] at enough
      have first : Read st i := reads (k', i) List.mem_cons_self
      have more := ih (k := k') first (fun n later => reads n (.tail _ later)) fuel left (by omega)
      rw [members_cons read (by omega) (ends_moreMembers ((k', i) :: ms) left), Style.moreMembers,
        List.cons_append, next_cons (by decide)]
      simp only [if_true, List.append_assoc, List.cons_append, members_gap, more, Option.map_some]

/-- Objects as arrays, with a name before each document. -/
theorem read_obj {k : String} {j : Json} {ms : List (String × Json)} (read : Read st j)
    (reads : ∀ m ∈ ms, Read st m.2) : Read st (.obj ((k, j) :: ms)) := by
  intro fuel left enough ends
  obtain ⟨fuel, rfl⟩ : ∃ n, fuel = n + 1 := Nat.exists_eq_add_one.mpr (Nat.lt_of_lt_of_le
    (Nat.lt_of_lt_of_le Nat.zero_lt_one (one_le_size _)) enough)
  simp only [size, membersSize] at enough
  have within := members_write (k := k) read reads fuel left (by omega)
  have quoted : next '\x7d' (st.quote k ++ ':' :: (st.gap ++ (st.write j ++
      (st.moreMembers ms ++ left)))) = none := by
    rw [Style.quote, List.cons_append, List.cons_append, next_cons (by decide)]
    rfl
  rw [Style.write, List.cons_append, value, skip_cons (by decide)]
  simp [quoted, within]

theorem read_leaf {j : Json} (leaf : j.size = 1)
    (read : ∀ fuel left, Ends left → value (fuel + 1) (st.write j ++ left) = some (j, left)) :
    Read st j := by
  intro fuel left enough ends
  obtain ⟨fuel, rfl⟩ : ∃ n, fuel = n + 1 := ⟨fuel - 1, by omega⟩
  exact read fuel left ends

mutual

theorem read_write (st : Style) : ∀ j, Read st j
  | .null => read_leaf rfl fun fuel left _ => by rw [Style.write]; rfl
  | .bool true => read_leaf rfl fun fuel left _ => by rw [Style.write]; rfl
  | .bool false => read_leaf rfl fun fuel left _ => by rw [Style.write]; rfl
  | .num n => read_leaf rfl fun fuel left ends => by rw [Style.write, value_num n ends]
  | .str s => read_leaf rfl fun fuel left _ => by
      rw [Style.write, Style.quote, value, List.cons_append, List.cons_append, skip_cons (by decide)]
      simp [string_quote]
  | .arr [] => by
      intro fuel left enough _
      obtain ⟨fuel, rfl⟩ : ∃ n, fuel = n + 1 := ⟨fuel - 1, by simp only [size, itemsSize] at enough; omega⟩
      rw [Style.write]
      rfl
  | .arr (j :: js) => read_arr (items_write (read_write st j) (read_items st js))
  | .obj [] => by
      intro fuel left enough _
      obtain ⟨fuel, rfl⟩ : ∃ n, fuel = n + 1 := ⟨fuel - 1, by simp only [size, membersSize] at enough; omega⟩
      rw [Style.write]
      rfl
  | .obj ((_, j) :: ms) => read_obj (read_write st j) (read_members st ms)

theorem read_items (st : Style) : ∀ js : List Json, ∀ i ∈ js, Read st i
  | j :: _, _, .head _ => read_write st j
  | _ :: js, i, .tail _ later => read_items st js i later

theorem read_members (st : Style) : ∀ ms : List (String × Json), ∀ m ∈ ms, Read st m.2
  | (_, j) :: _, _, .head _ => read_write st j
  | _ :: ms, m, .tail _ later => read_members st ms m later

end

/-! The text of a document is long enough to read it. -/

mutual

theorem size_le_length (st : Style) : ∀ j : Json, j.size ≤ (st.write j).length
  | .null => by simp [size, Style.write]
  | .bool true => by simp [size, Style.write]
  | .bool false => by simp [size, Style.write]
  | .num n => by
      obtain ⟨c, rest, spelled, _⟩ := JsonNumber.chars_eq_cons n
      simp [size, Style.write, spelled]
  | .str s => by simp [size, Style.write, Style.quote]
  | .arr [] => by simp [size, itemsSize, Style.write]
  | .arr (j :: js) => by
      have first := size_le_length st j
      have others := itemsSize_lt_length st js
      simp only [size, itemsSize, Style.write, List.length_cons, List.length_append]
      omega
  | .obj [] => by simp [size, membersSize, Style.write]
  | .obj ((k, j) :: ms) => by
      have first := size_le_length st j
      have others := membersSize_lt_length st ms
      simp only [size, membersSize, Style.write, List.length_cons, List.length_append]
      omega

theorem itemsSize_lt_length (st : Style) :
    ∀ js : List Json, itemsSize js < (st.moreItems js).length
  | [] => by simp [itemsSize, Style.moreItems]
  | j :: js => by
      have first := size_le_length st j
      have others := itemsSize_lt_length st js
      simp only [itemsSize, Style.moreItems, List.length_cons, List.length_append]
      omega

theorem membersSize_lt_length (st : Style) :
    ∀ ms : List (String × Json), membersSize ms < (st.moreMembers ms).length
  | [] => by simp [membersSize, Style.moreMembers]
  | (k, j) :: ms => by
      have first := size_le_length st j
      have others := membersSize_lt_length st ms
      simp only [membersSize, Style.moreMembers, List.length_cons, List.length_append]
      omega

end

theorem parse_text (st : Style) (j : Json) : parse (st.text j) = some j := by
  have enough : j.size ≤ (st.write j).length + 1 := Nat.le_succ_of_le (size_le_length st j)
  have read := read_write st j _ [] enough (by simp [Ends])
  rw [List.append_nil] at read
  simp [parse, Style.text, read, skip]

end Documents

/-! ## Two writers -/

theorem units_letter {e : Char} {u : Nat} (escape : unescape e = some u) (left : List Char) :
    units ('\\' :: e :: left) = (units left).map fun (us, left) => (u :: us, left) := by
  have letter : e ≠ 'u' := by
    rintro rfl
    simp [unescape] at escape
  rw [units.eq_def]
  simp [letter, escape]

theorem units_plain {c : Char} (quote : c ≠ '"') (backslash : c ≠ '\\') (printed : ¬c < ' ')
    (left : List Char) :
    units (c :: left) = (units left).map fun (us, left) => (c.toNat :: us, left) := by
  rw [units.eq_def]
  simp [quote, backslash, printed]

theorem units_unicode {n : Nat} (fits : n < 16 ^ 4) (left : List Char) :
    units ('\\' :: 'u' :: Digits.fixed 16 n 4 ++ left) =
      (units left).map fun (us, left) => (n :: us, left) := by
  have read := Digits.number_fixed_of_lt (by decide) (by decide) fits
  have digits : ∃ h i j k, Digits.fixed 16 n 4 = [h, i, j, k] := ⟨_, _, _, _, rfl⟩
  obtain ⟨h, i, j, k, spelled⟩ := digits
  rw [spelled] at read ⊢
  rw [List.cons_append, List.cons_append, units.eq_def]
  simp [read]

/-- The two characters that have to be escaped, and those that have an escape of one letter. -/
def shortEscape (c : Char) : Option Char :=
  if c = '"' ∨ c = '\\' then some c
  else if c = '\n' then some 'n'
  else if c = '\r' then some 'r'
  else if c = '\t' then some 't'
  else if c.toNat = 8 then some 'b'
  else if c.toNat = 12 then some 'f'
  else none

/-- An escape of one letter, or of four digits where `masked` asks for it, or none. -/
def escapeWith (masked : Char → Bool) (c : Char) : List Char :=
  match shortEscape c with
  | some e => ['\\', e]
  | none =>
      if (c < ' ' || masked c) && c.toNat < 16 ^ 4 then '\\' :: 'u' :: Digits.fixed 16 c.toNat 4
      else [c]

theorem unescape_shortEscape {c e : Char} (short : shortEscape c = some e) :
    unescape e = some c.toNat := by
  unfold shortEscape at short
  split_ifs at short with own newline ret tab back feed
  · obtain rfl := Option.some.inj short
    rcases own with rfl | rfl <;> rfl
  · obtain rfl := Option.some.inj short
    subst newline
    rfl
  · obtain rfl := Option.some.inj short
    subst ret
    rfl
  · obtain rfl := Option.some.inj short
    subst tab
    rfl
  · obtain rfl := Option.some.inj short
    rw [back]
    rfl
  · obtain rfl := Option.some.inj short
    rw [feed]
    rfl

theorem units_escapeWith (masked : Char → Bool) (c : Char) (left : List Char) :
    units (escapeWith masked c ++ left) =
      (units left).map fun (us, left) => (c.toNat :: us, left) := by
  unfold escapeWith
  cases short : shortEscape c with
  | some e => exact units_letter (unescape_shortEscape short) left
  | none =>
      by_cases digits : ((c < ' ' || masked c) && c.toNat < 16 ^ 4) = true
      · simp only [digits, if_true]
        simp only [Bool.and_eq_true, decide_eq_true_eq] at digits
        exact units_unicode digits.2 left
      · rw [if_neg digits]
        have plain : c ≠ '"' ∧ c ≠ '\\' := by
          constructor <;> rintro rfl <;> exact absurd short (by decide)
        refine units_plain plain.1 plain.2 ?_ left
        intro control
        -- a control character is small enough for the four digits
        have small : c.toNat < 32 := control
        simp [control] at digits
        omega

/-- `encoding/json`: no blanks, and what HTML or JavaScript would take for its own is masked. -/
def goStyle : Style where
  gap := []
  escape := escapeWith fun c =>
    c == '<' || c == '>' || c == '&' || c.toNat == 0x2028 || c.toNat == 0x2029
  blank := rfl
  reads := units_escapeWith _

/-- The texts that Postgres gives for JSONB values. -/
def postgresStyle : Style where
  gap := [' ']
  escape := escapeWith fun _ => false
  blank := rfl
  reads := units_escapeWith _

example : goStyle.text (.obj [("a", .arr [.null, .bool true]), ("b", .str "<\n\"")]) =
    "\x7b\"a\":[null,true],\"b\":\"\\u003c\\n\\\"\"\x7d" := by
  decide +kernel

end Json
