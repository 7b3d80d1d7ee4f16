import Mathlib.Tactic.Common
import NotifyHub.Lib.Digits

/-! # Dates and their RFC 3339 texts

Days are counted from 1970-01-01 in the Gregorian calendar; years are taken to begin in March,
so that the leap day is the last one. An instant is a number of nanoseconds, written in UTC
and read in any offset.
-/

namespace Calendar

open Digits (expect expect_cons)

/-- The day number of a date. A day beyond the end of its month is one of the next month. -/
def days (year month day : Int) : Int :=
  let (y, m) := if month ≤ 2 then (year - 1, month + 9) else (year, month - 3)
  365 * y + y / 4 - y / 100 + y / 400 + (153 * m + 2) / 5 + day - 719469

/-- Year, month and day of a day number. -/
def civil (z : Int) : Int × Int × Int :=
  let day := z + 719468
  let inEra := day % 146097
  let century := min 3 (inEra / 36524)
  let inCentury := inEra - 36524 * century
  let quad := inCentury / 1461
  let inQuad := inCentury - 1461 * quad
  let year := min 3 (inQuad / 365)
  let inYear := inQuad - 365 * year
  let y := 400 * (day / 146097) + 100 * century + 4 * quad + year
  let m := (5 * inYear + 2) / 153
  let d := inYear - (153 * m + 2) / 5 + 1
  if m < 10 then (y, m + 3, d) else (y + 1, m - 9, d)

theorem civil_spec (z : Int) : ∃ y m d : Int, 0 ≤ m ∧ m ≤ 11 ∧ 1 ≤ d ∧ d ≤ 31 ∧
    z = 365 * y + y / 4 - y / 100 + y / 400 + (153 * m + 2) / 5 + d - 719469 ∧
    civil z = if m < 10 then (y, m + 3, d) else (y + 1, m - 9, d) := by
  unfold civil
  extract_lets day inEra century inCentury quad inQuad year inYear y m d
  have era : 0 ≤ inEra ∧ inEra < 146097 := by omega
  have centuries : 0 ≤ century ∧ century ≤ 3 ∧ 0 ≤ inCentury ∧ inCentury ≤ 36524 := by omega
  have quads : 0 ≤ quad ∧ quad ≤ 24 ∧ 0 ≤ inQuad ∧ inQuad ≤ 1460 := by omega
  have years : 0 ≤ year ∧ year ≤ 3 ∧ 0 ≤ inYear ∧ inYear ≤ 365 := by omega
  have total : day = 146097 * (day / 146097) + 36524 * century + 1461 * quad + 365 * year + inYear := by
    omega
  have leaps : y / 4 = 100 * (day / 146097) + 25 * century + quad := by omega
  have skipped : y / 100 = 4 * (day / 146097) + century := by omega
  have kept : y / 400 = day / 146097 := by omega
  exact ⟨y, m, d, by omega, by omega, by omega, by omega, by omega, rfl⟩

theorem days_civil (z : Int) : days (civil z).1 (civil z).2.1 (civil z).2.2 = z := by
  obtain ⟨y, m, d, _, _, _, _, total, same⟩ := civil_spec z
  rw [same]
  by_cases early : m < 10
  · simp only [early, if_true, days, if_neg (show ¬m + 3 ≤ 2 by omega), Int.add_sub_cancel]
    omega
  · simp only [early, if_false, days, if_pos (show m - 9 ≤ 2 by omega), Int.add_sub_cancel,
      Int.sub_add_cancel]
    omega

theorem civil_bounds (z : Int) :
    0 ≤ (civil z).2.1 ∧ (civil z).2.1 < 100 ∧ 0 ≤ (civil z).2.2 ∧ (civil z).2.2 < 100 := by
  obtain ⟨y, m, d, _, _, _, _, _, same⟩ := civil_spec z
  rw [same]
  split <;> dsimp only <;> omega

example : civil 11016 = (2000, 2, 29) ∧ civil (-1) = (1969, 12, 31) := by decide

/-! ## Texts -/

def digits (k : Nat) : List Char → Option (Nat × List Char) := Digits.read 10 k

/-- Nanoseconds; further digits are dropped. -/
def fraction (cs : List Char) : Option (Nat × List Char) :=
  match cs with
  | '.' :: rest =>
      let ds := rest.takeWhile Char.isDigit
      if ds.isEmpty then none
      else (Digits.number 10 ((ds ++ List.replicate 9 '0').take 9)).map fun n =>
        (n, rest.dropWhile Char.isDigit)
  | _ => some (0, cs)

/-- How strictly a text is read: the letters for `T` and `Z`, and the last second of a minute. -/
structure Strictness where
  timeLetters : List Char
  zoneLetters : List Char
  lastSecond : Nat

/-- The grammar of RFC 3339, with small letters and leap seconds. -/
def rfc3339 : Strictness := ⟨['T', 't'], ['Z', 'z'], 60⟩

/-- Go's `time.Time.UnmarshalJSON`; the hours of one digit and the decimal commas that it also
    takes are left out. -/
def goTime : Strictness := ⟨['T'], ['Z'], 59⟩

/-- The offset from UTC in seconds, up to the end of the text. -/
def zone (strict : Strictness) (cs : List Char) : Option Int :=
  match cs with
  | [c] => if c ∈ strict.zoneLetters then some 0 else none
  | sign :: rest =>
      if sign ≠ '+' ∧ sign ≠ '-' then none
      else do
        let (h, rest) ← digits 2 rest
        let rest ← expect [':'] rest
        let (m, rest) ← digits 2 rest
        if h < 24 ∧ m < 60 ∧ rest = [] then
          some (if sign = '-' then -(3600 * h + 60 * m : Int) else 3600 * h + 60 * m)
        else none
  | [] => none

/-- A clock reading as an instant. A date is one that its day number gives back. -/
def instant (strict : Strictness) (year month day hour minute second nanos : Nat) (offset : Int) :
    Option Int :=
  if civil (days year month day) = ((year : Int), (month : Int), (day : Int)) ∧ hour < 24 ∧
      minute < 60 ∧ second ≤ strict.lastSecond then
    some ((days year month day * 86400 + 3600 * hour + 60 * minute + second - offset) * 1000000000 +
      nanos)
  else none

def read (strict : Strictness) (cs : List Char) : Option Int := do
  let (year, cs) ← digits 4 cs
  let cs ← expect ['-'] cs
  let (month, cs) ← digits 2 cs
  let cs ← expect ['-'] cs
  let (day, cs) ← digits 2 cs
  let cs ← expect strict.timeLetters cs
  let (hour, cs) ← digits 2 cs
  let cs ← expect [':'] cs
  let (minute, cs) ← digits 2 cs
  let cs ← expect [':'] cs
  let (second, cs) ← digits 2 cs
  let (nanos, cs) ← fraction cs
  let offset ← zone strict cs
  instant strict year month day hour minute second nanos offset

/-- Without the zeros at the end. -/
def trim (ds : List Char) : List Char := (ds.reverse.dropWhile (· == '0')).reverse

/-- In UTC, with as many decimals as it takes; only the years 0 to 9999 have a text. -/
def write (t : Int) : Option (List Char) :=
  let second := t / 1000000000
  let nanos := (t % 1000000000).toNat
  let (year, month, day) := civil (second / 86400)
  let inDay := (second % 86400).toNat
  if 0 ≤ year ∧ year < 10000 then
    some (Digits.fixed 10 year.toNat 4 ++ ['-'] ++ Digits.fixed 10 month.toNat 2 ++ ['-'] ++
      Digits.fixed 10 day.toNat 2 ++ ['T'] ++ Digits.fixed 10 (inDay / 3600) 2 ++ [':'] ++
      Digits.fixed 10 (inDay / 60 % 60) 2 ++ [':'] ++ Digits.fixed 10 (inDay % 60) 2 ++
      (if nanos = 0 then [] else '.' :: trim (Digits.fixed 10 nanos 9)) ++ ['Z'])
  else none

example : (write 1698539400000000120).map String.ofList = some "2023-10-29T00:30:00.00000012Z" := by
  decide +kernel

/-! ## What is written is read back -/

theorem digits_fixed {n k : Nat} (fits : n < 10 ^ k) (left : List Char) :
    digits k (Digits.fixed 10 n k ++ left) = some (n, left) := by
  rw [digits, Digits.read_fixed (by decide) (by decide), Nat.mod_eq_of_lt fits]

theorem trim_append_zeros (ds : List Char) : ∃ k, trim ds ++ List.replicate k '0' = ds := by
  refine ⟨(ds.reverse.takeWhile (· == '0')).length, ?_⟩
  have zeros : ds.reverse.takeWhile (· == '0') =
      List.replicate (ds.reverse.takeWhile (· == '0')).length '0' := by
    refine List.eq_replicate_of_mem ?_
    intro c member
    simpa using List.all_eq_true.mp List.all_takeWhile c member
  have split := congrArg List.reverse (List.takeWhile_append_dropWhile (p := (· == '0')) (l := ds.reverse))
  rw [List.reverse_append, List.reverse_reverse, zeros, List.reverse_replicate] at split
  exact split

theorem fraction_trim {n : Nat} (positive : n ≠ 0) (fits : n < 10 ^ 9) (left : List Char)
    (ends : ∀ c ∈ left.head?, c.isDigit = false) :
    fraction ('.' :: trim (Digits.fixed 10 n 9) ++ left) = some (n, left) := by
  obtain ⟨k, same⟩ := trim_append_zeros (Digits.fixed 10 n 9)
  have size := congrArg List.length same
  simp only [List.length_append, List.length_replicate, Digits.length_fixed] at size
  have padded : (trim (Digits.fixed 10 n 9) ++ List.replicate 9 '0').take 9 = Digits.fixed 10 n 9 := by
    have zeros : List.replicate 9 '0' = List.replicate k '0' ++ List.replicate (9 - k) '0' := by
      rw [List.replicate_append_replicate]
      congr 1
      omega
    rw [zeros, ← List.append_assoc, same, List.take_left' (Digits.length_fixed 10 n 9)]
  have value := Digits.number_fixed_of_lt (by decide) (by decide) fits
  have plain : ∀ c ∈ trim (Digits.fixed 10 n 9), c.isDigit = true := fun c member =>
    Digits.isDigit_of_mem_fixed (same ▸ List.mem_append_left _ member)
  have some_ : trim (Digits.fixed 10 n 9) ≠ [] := by
    intro nothing
    -- nine zeros would stand for zero
    rw [nothing, List.nil_append] at same
    obtain rfl : k = 9 := by simpa [nothing] using size
    rw [← same] at value
    exact positive (Option.some.inj value).symm
  have taken : (trim (Digits.fixed 10 n 9) ++ left).takeWhile Char.isDigit =
      trim (Digits.fixed 10 n 9) := by
    rw [List.takeWhile_append_of_pos plain]
    cases left with
    | nil => simp
    | cons c rest => simp [ends c rfl]
  have dropped : (trim (Digits.fixed 10 n 9) ++ left).dropWhile Char.isDigit = left := by
    rw [List.dropWhile_append_of_pos plain]
    cases left with
    | nil => rfl
    | cons c rest => simp [ends c rfl]
  simp only [fraction, List.cons_append, taken, dropped, List.isEmpty_iff, some_, if_false, padded,
    value, Option.map_some]

theorem fraction_written {n : Nat} (fits : n < 10 ^ 9) :
    fraction ((if n = 0 then [] else '.' :: trim (Digits.fixed 10 n 9)) ++ ['Z']) =
      some (n, ['Z']) := by
  by_cases whole : n = 0
  · subst whole
    rfl
  · rw [if_neg whole]
    exact fraction_trim whole fits ['Z'] (by simp)

/-- The instant of the reading of an instant. -/
theorem instant_civil {strict : Strictness} (sixty : 59 ≤ strict.lastSecond) {t : Int} {y m d : Nat}
    (date : civil (t / 1000000000 / 86400) = ((y : Int), (m : Int), (d : Int))) {inDay nanos : Nat}
    (rest : (inDay : Int) = t / 1000000000 % 86400) (left : (nanos : Int) = t % 1000000000) :
    instant strict y m d (inDay / 3600) (inDay / 60 % 60) (inDay % 60) nanos 0 = some t := by
  have day := days_civil (t / 1000000000 / 86400)
  rw [date] at day
  have within : inDay < 86400 := by omega
  rw [instant, day, if_pos ⟨date, by omega, by omega, by omega⟩]
  congr 1
  omega

theorem read_write (strict : Strictness) (time : 'T' ∈ strict.timeLetters)
    (zulu : 'Z' ∈ strict.zoneLetters) (sixty : 59 ≤ strict.lastSecond) {t : Int} {cs : List Char}
    (written : write t = some cs) : read strict cs = some t := by
  obtain ⟨y, m, d, date⟩ : ∃ y m d, civil (t / 1000000000 / 86400) = (y, m, d) := ⟨_, _, _, rfl⟩
  have bounds := civil_bounds (t / 1000000000 / 86400)
  simp only [write, date] at written bounds
  by_cases years : 0 ≤ y ∧ y < 10000
  · rw [if_pos years] at written
    obtain rfl := Option.some.inj written
    have nanos : (t % 1000000000).toNat < 10 ^ 9 := by omega
    simp only [read, List.append_assoc, List.cons_append, List.nil_append]
    rw [digits_fixed (by omega)]
    simp only [Option.bind_eq_bind, Option.bind_some, expect_cons (List.mem_singleton.mpr rfl),
      digits_fixed (show m.toNat < 10 ^ 2 by omega), digits_fixed (show d.toNat < 10 ^ 2 by omega),
      expect_cons time,
      digits_fixed (show (t / 1000000000 % 86400).toNat / 3600 < 10 ^ 2 by omega),
      digits_fixed (show (t / 1000000000 % 86400).toNat / 60 % 60 < 10 ^ 2 by omega),
      digits_fixed (show (t / 1000000000 % 86400).toNat % 60 < 10 ^ 2 by omega),
      fraction_written nanos, zone, zulu, if_true]
    refine instant_civil sixty ?_ (by omega) (by omega)
    rw [date, Int.toNat_of_nonneg years.1, Int.toNat_of_nonneg bounds.1,
      Int.toNat_of_nonneg bounds.2.2.1]
  · rw [if_neg years] at written
    cases written

/-! ## What the stricter reader refuses -/

section Refused

variable {cs left : List Char} {n k v : Nat}

theorem digits_drop (found : digits k (cs.drop n) = some (v, left)) :
    left = cs.drop (n + k) ∧ ((cs.drop n).take k).length = k ∧
      Digits.number 10 ((cs.drop n).take k) = some v := by
  obtain ⟨long, value, rest⟩ := Digits.read_eq_some found
  exact ⟨by rw [rest, List.drop_drop], long, value⟩

theorem expect_drop {allowed : List Char} (found : expect allowed (cs.drop n) = some left) :
    left = cs.drop (n + 1) ∧ ∃ c ∈ allowed, cs.drop n = c :: left ∧ cs[n]? = some c := by
  obtain ⟨c, member, here⟩ := Digits.expect_eq_some found
  refine ⟨?_, c, member, here, ?_⟩
  · rw [← List.drop_drop, here]
    rfl
  · have first := congrArg List.head? here
    rwa [List.head?_drop] at first

theorem fraction_suffix (found : fraction cs = some (v, left)) : left <:+ cs := by
  unfold fraction at found
  split at found
  · dsimp only at found
    split at found
    · cases found
    · obtain ⟨_, _, same⟩ := Option.map_eq_some_iff.mp found
      obtain ⟨rfl, rfl⟩ := Prod.mk.inj same
      exact (List.dropWhile_suffix _).trans (List.suffix_cons _ _)
  · obtain ⟨rfl, rfl⟩ := Prod.mk.inj (Option.some.inj found)
    exact List.suffix_rfl

theorem getLast?_of_suffix (part : left <:+ cs) (some_ : left ≠ []) :
    cs.getLast? = left.getLast? := by
  obtain ⟨front, rfl⟩ := part
  exact List.getLast?_append_of_ne_nil _ some_

/-- A text that ends with two digits. -/
theorem getLast?_of_digits (found : digits 2 cs = some (v, [])) : cs.getLast? ≠ some 'z' := by
  obtain ⟨long, value, rest⟩ := Digits.read_eq_some found
  have whole : cs.take 2 = cs := List.take_of_length_le (List.drop_eq_nil_iff.mp rest.symm)
  rw [whole] at long value
  obtain ⟨x, y, rfl⟩ := List.length_eq_two.mp long
  have digit : ∀ d < 10, Nat.digitChar d ≠ 'z' := by decide
  rw [Digits.number_two value]
  simp [digit (v % 10) (by omega)]

/-- Offsets in digits are read alike. -/
theorem zone_goTime {offset : Int} (found : zone rfc3339 cs = some offset) :
    zone goTime cs = if cs.getLast? = some 'z' then none else some offset := by
  cases cs with
  | nil => cases found
  | cons sign rest =>
      cases rest with
      | nil =>
          simp only [zone] at found
          split at found
          · rename_i letter
            obtain rfl := Option.some.inj found
            rcases List.mem_pair.mp letter with rfl | rfl <;> rfl
          · cases found
      | cons c rest =>
          have last : (sign :: c :: rest).getLast? ≠ some 'z' := by
            simp only [zone, Option.bind_eq_bind, Option.ite_none_left_eq_some,
              Option.bind_eq_some_iff, Prod.exists, Option.ite_none_right_eq_some] at found
            obtain ⟨_, h, _, hours, left, colon, m, _, minutes, ⟨_, _, rfl⟩, _⟩ := found
            obtain ⟨_, _, rfl⟩ := Digits.read_eq_some hours
            obtain ⟨separator, _, here⟩ := Digits.expect_eq_some colon
            have part : left <:+ sign :: c :: rest := by
              refine (List.suffix_cons separator left).trans ?_
              rw [← here]
              exact (List.drop_suffix 2 _).trans (List.suffix_cons _ _)
            have some_ : left ≠ [] := by
              rintro rfl
              cases minutes
            rw [getLast?_of_suffix part some_]
            exact getLast?_of_digits minutes
          rw [if_neg last, ← found]
          rfl

theorem instant_goTime {year month day hour minute second nanos : Nat} {offset t : Int}
    (found : instant rfc3339 year month day hour minute second nanos offset = some t) :
    (instant goTime year month day hour minute second nanos offset).isSome ↔ second ≠ 60 := by
  unfold instant at found ⊢
  split at found
  · rename_i valid
    have upTo : second ≤ 60 := valid.2.2.2
    by_cases leap : second = 60
    · have late : ¬second ≤ goTime.lastSecond := by
        rw [leap]
        decide
      rw [if_neg fun all => late all.2.2.2]
      simp [leap]
    · have early : second ≤ goTime.lastSecond := Nat.le_of_lt_succ (Nat.lt_of_le_of_ne upTo leap)
      rw [if_pos ⟨valid.1, valid.2.1, valid.2.2.1, early⟩]
      simp [leap]
  · cases found

/-- Go does not read small letters, and no leap seconds. -/
theorem isSome_read_goTime {t : Int} (conforms : read rfc3339 cs = some t) :
    (read goTime cs).isSome ↔
      cs[10]? = some 'T' ∧ cs.getLast? ≠ some 'z' ∧ (cs.drop 17).take 2 ≠ ['6', '0'] := by
  simp only [read, Option.bind_eq_bind, Option.bind_eq_some_iff, Prod.exists] at conforms
  obtain ⟨year, _, y, _, dash, month, _, m, _, dash', day, _, d, _, letter, hour, _, h, _, colon,
    minute, _, mi, _, colon', second, _, s, nanos, left, f, offset, z, i⟩ := conforms
  obtain rfl := (Digits.read_eq_some y).2.2
  obtain rfl := (expect_drop dash).1
  obtain rfl := (digits_drop m).1
  obtain rfl := (expect_drop dash').1
  obtain rfl := (digits_drop d).1
  obtain ⟨rfl, c, either, here, tenth⟩ := expect_drop letter
  obtain rfl := (digits_drop h).1
  obtain rfl := (expect_drop colon).1
  obtain rfl := (digits_drop mi).1
  obtain rfl := (expect_drop colon').1
  obtain ⟨rfl, long, value⟩ := digits_drop s
  have last : cs.getLast? = left.getLast? := by
    refine getLast?_of_suffix ((fraction_suffix f).trans (List.drop_suffix _ _)) ?_
    rintro rfl
    cases z
  have leap : second = 60 ↔ (cs.drop 17).take 2 = ['6', '0'] := by
    obtain ⟨a, b, two⟩ := List.length_eq_two.mp long
    rw [two] at value ⊢
    constructor
    · rintro rfl
      exact Digits.number_two value
    · intro same
      rw [same] at value
      exact (Option.some.inj value).symm
  rcases List.mem_pair.mp either with rfl | rfl
  · have time : expect goTime.timeLetters (cs.drop 10) = some (cs.drop 11) := by
      rw [here]
      rfl
    simp only [read, Option.bind_eq_bind, y, dash, m, dash', d, time, h, colon, mi, colon', s, f,
      Option.bind_some, zone_goTime z, tenth, true_and, last, ← leap, Ne]
    split
    · simp_all
    · simp_all [instant_goTime i]
  · have none_ : expect goTime.timeLetters (cs.drop 10) = none := by
      rw [here]
      rfl
    simp [read, y, dash, m, dash', d, none_, tenth]

end Refused

end Calendar
