import Mathlib.Data.List.Basic
import Mathlib.Data.List.DropRight

/-! # Texts made of lines

A text is a list of characters; lines end with a separator. `index` looks for a pattern
anywhere. A pattern that ends with the separator, and has no other one, can only be found at
the end of a line, so the place where it is found first is given by the first line that ends
with it.
-/

namespace Lines

variable {α : Type}

/-! ## Surrounding space -/

section Trim

variable {space : α → Bool} {c : α} {xs : List α}

/-- The text without the spaces at its ends. -/
def trim (space : α → Bool) (xs : List α) : List α := (xs.dropWhile space).rdropWhile space

/-- The text neither begins nor ends with a space. -/
def Trimmed (space : α → Bool) (xs : List α) : Prop :=
  (∀ c ∈ xs.head?, space c = false) ∧ ∀ c ∈ xs.getLast?, space c = false

instance : Decidable (Trimmed space xs) := inferInstanceAs (Decidable (_ ∧ _))

@[simp]
theorem trim_nil : trim space [] = [] := by
  simp [trim]

@[simp]
theorem trim_cons_space (blank : space c = true) : trim space (c :: xs) = trim space xs := by
  simp [trim, blank]

theorem Trimmed.rdropWhile_eq (trimmed : Trimmed space xs) : xs.rdropWhile space = xs := by
  rw [List.rdropWhile_eq_self_iff]
  intro nonempty
  simp [trimmed.2 _ (List.getLast?_eq_some_getLast nonempty)]

theorem Trimmed.rdropWhile_append (trimmed : Trimmed space xs) (ys : List α) :
    (xs ++ ys).rdropWhile space = xs ++ ys.rdropWhile space := by
  induction ys using List.reverseRecOn with
  | nil => simpa using trimmed.rdropWhile_eq
  | append_singleton ys y ih =>
      rw [← List.append_assoc, List.rdropWhile_concat, List.rdropWhile_concat, ih]
      split
      · rfl
      · exact List.append_assoc xs ys [y]

/-- Behind a trimmed text only the end is trimmed. -/
theorem Trimmed.trim_append (trimmed : Trimmed space xs) (some_ : xs ≠ []) (ys : List α) :
    trim space (xs ++ ys) = xs ++ ys.rdropWhile space := by
  have start : (xs ++ ys).dropWhile space = xs ++ ys := by
    cases xs with
    | nil => exact absurd rfl some_
    | cons c rest =>
        have first : space c = false := trimmed.1 c rfl
        rw [List.cons_append, List.dropWhile_cons_of_neg (by simp [first])]
  rw [trim, start, trimmed.rdropWhile_append]

theorem Trimmed.trim_eq (trimmed : Trimmed space xs) : trim space xs = xs := by
  cases xs with
  | nil => exact trim_nil
  | cons c rest => simpa using trimmed.trim_append (List.cons_ne_nil c rest) []

theorem Trimmed.rdropWhile_cons (trimmed : Trimmed space xs) (some_ : xs ≠ []) (c : α) :
    (c :: xs).rdropWhile space = c :: xs := by
  rw [List.rdropWhile_eq_self_iff]
  intro nonempty
  rw [List.getLast_cons some_]
  simp [trimmed.2 _ (List.getLast?_eq_some_getLast some_)]

end Trim

/-- A text that lacks a character ends another one behind that character. -/
theorem suffix_behind {c : α} {mark : List α} (without : c ∉ mark) (front rest : List α) :
    mark <:+ front ++ c :: rest ↔ mark <:+ rest := by
  constructor
  · intro ends
    rcases List.suffix_or_suffix_of_suffix ends (List.suffix_append front (c :: rest)) with
      inside | beyond
    · rcases List.suffix_cons_iff.mp inside with rfl | behind
      · exact absurd List.mem_cons_self without
      · exact behind
    · exact absurd (beyond.subset List.mem_cons_self) without
  · intro ends
    exact ends.trans ((List.suffix_cons c rest).trans (List.suffix_append front _))

variable [DecidableEq α] {sep : α}

/-! ## Fields -/

/-- What stands before and after the first separator. -/
def cut (sep : α) (xs : List α) : Option (List α × List α) :=
  match xs.dropWhile (· != sep) with
  | [] => none
  | _ :: rest => some (xs.takeWhile (· != sep), rest)

theorem cut_append {front : List α} (clean : sep ∉ front) (rest : List α) :
    cut sep (front ++ sep :: rest) = some (front, rest) := by
  have before : ∀ c ∈ front, (c != sep) = true := by
    intro c member
    simp only [bne_iff_ne]
    rintro rfl
    exact clean member
  simp [cut, List.dropWhile_append_of_pos before, List.takeWhile_append_of_pos before]

/-! ## Lines -/

def unlines (sep : α) (lines : List (List α)) : List α := lines.flatMap (· ++ [sep])

theorem splitOn_unlines {lines : List (List α)} {last : List α} (clean : ∀ line ∈ lines, sep ∉ line)
    (cleanLast : sep ∉ last) : (unlines sep lines ++ last).splitOn sep = lines ++ [last] := by
  have joined : unlines sep lines ++ last = [sep].intercalate (lines ++ [last]) := by
    clear clean cleanLast
    induction lines with
    | nil => simp [unlines]
    | cons line rest ih =>
        have more : rest ++ [last] ≠ [] := by simp
        rw [List.cons_append, List.intercalate_cons_of_ne_nil more, ← ih]
        simp [unlines]
  rw [joined]
  refine List.splitOn_intercalate sep (fun line member => ?_) (by simp)
  rcases List.mem_append.mp member with before | same
  · exact clean line before
  · exact List.mem_singleton.mp same ▸ cleanLast

/-! ## Marks at the ends of lines -/

/-- The position at which the pattern is found first. -/
def index (pattern : List α) : List α → Option Nat
  | [] => if pattern = [] then some 0 else none
  | c :: rest =>
      if pattern.isPrefixOf (c :: rest) then some 0 else (index pattern rest).map (· + 1)

variable {c : α} {pattern mark line rest : List α}

theorem index_cons :
    index pattern (c :: rest) =
      if pattern <+: c :: rest then some 0 else (index pattern rest).map (· + 1) := by
  simp only [index, List.isPrefixOf_iff_prefix]

omit [DecidableEq α] in
/-- The mark with its separator stands at the beginning of a line that is the mark. -/
theorem prefix_line_iff (cleanMark : sep ∉ mark) (clean : sep ∉ line) :
    mark ++ [sep] <+: line ++ sep :: rest ↔ mark = line := by
  induction mark generalizing line with
  | nil =>
      cases line with
      | nil => simp
      | cons c line =>
          have other : sep ≠ c := fun same => clean (same ▸ List.mem_cons_self)
          simp [other]
  | cons m mark ih =>
      have notSep : m ≠ sep := fun same => cleanMark (same ▸ List.mem_cons_self)
      cases line with
      | nil => simp [notSep]
      | cons c line =>
          rw [List.cons_append, List.cons_append, List.cons_prefix_cons, List.cons.injEq,
            ih (fun member => cleanMark (List.mem_cons_of_mem _ member))
              (fun member => clean (List.mem_cons_of_mem _ member))]

theorem index_line (cleanMark : sep ∉ mark) (clean : sep ∉ line) :
    index (mark ++ [sep]) (line ++ sep :: rest) =
      if mark <:+ line then some (line.length - mark.length)
      else (index (mark ++ [sep]) rest).map (· + (line.length + 1)) := by
  induction line with
  | nil =>
      have here : mark ++ [sep] <+: sep :: rest ↔ mark = [] := prefix_line_iff cleanMark clean
      rw [List.nil_append, index_cons]
      simp only [here, List.suffix_nil]
      by_cases empty : mark = []
      · simp [empty]
      · simp [empty]
  | cons c line ih =>
      have cleanLine : sep ∉ line := fun member => clean (List.mem_cons_of_mem _ member)
      have here : mark ++ [sep] <+: c :: (line ++ sep :: rest) ↔ mark = c :: line :=
        prefix_line_iff cleanMark clean
      rw [List.cons_append, index_cons, ih cleanLine]
      simp only [here, List.suffix_cons_iff]
      by_cases whole : mark = c :: line
      · simp [whole]
      · by_cases ends : mark <:+ line
        · have shorter := ends.length_le
          simp only [whole, ends, if_true, if_false, or_true, Option.map_some, List.length_cons]
          congr 1
          omega
        · simp only [whole, ends, if_false, or_false, Option.map_map, List.length_cons]
          rfl

/-- The pattern is found in the first line that ends with the mark. -/
theorem index_unlines {lines : List (List α)} {front : List α} (cleanMark : sep ∉ mark)
    (clean : ∀ line ∈ lines, sep ∉ line) (unmarked : ∀ line ∈ lines, ¬mark <:+ line)
    (cleanFront : sep ∉ front) (rest : List α) :
    index (mark ++ [sep]) (unlines sep lines ++ front ++ (mark ++ [sep]) ++ rest) =
      some (unlines sep lines ++ front).length := by
  induction lines with
  | nil =>
      have text : unlines sep [] ++ front ++ (mark ++ [sep]) ++ rest =
          (front ++ mark) ++ sep :: rest := by simp [unlines]
      have cleanLine : sep ∉ front ++ mark := by simp [cleanFront, cleanMark]
      rw [text, index_line cleanMark cleanLine, if_pos (List.suffix_append front mark)]
      simp [unlines]
  | cons line lines ih =>
      have text : unlines sep (line :: lines) ++ front ++ (mark ++ [sep]) ++ rest =
          line ++ sep :: (unlines sep lines ++ front ++ (mark ++ [sep]) ++ rest) := by
        simp [unlines]
      have later := ih (fun other member => clean other (List.mem_cons_of_mem _ member))
        fun other member => unmarked other (List.mem_cons_of_mem _ member)
      rw [text, index_line cleanMark (clean line List.mem_cons_self),
        if_neg (unmarked line List.mem_cons_self), later]
      simp only [unlines, Option.map_some, List.flatMap_cons, List.length_append,
        List.length_singleton, Option.some.injEq]
      omega

end Lines
