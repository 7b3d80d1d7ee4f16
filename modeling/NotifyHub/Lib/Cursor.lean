import Mathlib.Data.List.Sort
import Mathlib.Logic.Equiv.Basic

/-! # Reading a list by cursor

The elements are read greatest first and in pages. A page holds the elements below a
cursor, in order and up to a limit, and the last element of a page is the cursor of the
next one. From a cursor on this gives every element below it once.

The first page has no cursor. Where it is taken from a list that is sorted by less than
the cursor compares, elements around its end can be lost or come twice. This happens in
some of these orders exactly if two elements are tied there.

The rows may change between two pages. From a cursor on, the pages together are still
descending, and an element that is there for every page is read.
-/

namespace Cursor

variable {α τ : Type}

/-- `lt` compares by a rank, in which the elements of the list differ. -/
structure Ranked (lt : α → α → Prop) (rows : List α) : Prop where
  asymm : ∀ {a b}, lt a b → ¬lt b a
  negTrans : ∀ {a b c}, ¬lt a b → ¬lt b c → ¬lt a c
  distinct : ∀ a ∈ rows, ∀ b ∈ rows, ¬lt a b → ¬lt b a → a = b
  nodup : rows.Nodup

/-- The elements below the cursor, greatest first. -/
def below (lt : α → α → Prop) [DecidableRel lt] (rows : List α) (cursor : α) : List α :=
  (rows.filter fun x => decide (lt x cursor)).insertionSort fun a b => ¬lt a b

/-- With `page` read, going on until a page is empty gives `all`. -/
inductive Follows (lt : α → α → Prop) [DecidableRel lt] (rows : List α) (limit : Nat) :
    List α → List α → Prop where
  | done : Follows lt rows limit [] []
  | more {page all last} (ends : page.getLast? = some last)
      (rest : Follows lt rows limit ((below lt rows last).take limit) all) :
      Follows lt rows limit page (page ++ all)

/-- Going on from the first page gives every element once. -/
def Complete (lt : α → α → Prop) [DecidableRel lt] (rows : List α) (limit : Nat)
    (first : List α) : Prop :=
  ∃ all, Follows lt rows limit first all ∧ all.Perm rows

/-! ## From a cursor on -/

section Below

variable {lt : α → α → Prop} [DecidableRel lt] {rows before rest page all : List α} {limit : Nat}
  {last : α}

omit [DecidableRel lt] in
theorem Ranked.irrefl (ranked : Ranked lt rows) (a : α) : ¬lt a a :=
  fun less => ranked.asymm less less

omit [DecidableRel lt] in
theorem Ranked.trans (ranked : Ranked lt rows) {a b c : α} (first : lt a b) (second : lt b c) :
    lt a c := by
  by_contra neither
  exact ranked.negTrans neither (ranked.asymm second) first

theorem below_perm (cursor : α) :
    (below lt rows cursor).Perm (rows.filter fun x => decide (lt x cursor)) :=
  List.perm_insertionSort _ _

theorem mem_below {x cursor : α} : x ∈ below lt rows cursor ↔ x ∈ rows ∧ lt x cursor := by
  rw [(below_perm cursor).mem_iff, List.mem_filter, decide_eq_true_eq]

theorem Ranked.sorted_below (ranked : Ranked lt rows) (cursor : α) :
    (below lt rows cursor).Pairwise fun a b => ¬lt a b := by
  have total : Std.Total fun a b => ¬lt a b := by
    refine ⟨fun a b => ?_⟩
    by_cases less : lt a b
    · exact .inr (ranked.asymm less)
    · exact .inl less
  have trans : IsTrans α fun a b => ¬lt a b := ⟨fun _ _ _ => ranked.negTrans⟩
  exact List.pairwise_insertionSort _ _

/-- A list that has nothing below `last` before it, and only such elements after it. -/
theorem Ranked.filter_split (ranked : Ranked lt rows) (above : ∀ x ∈ before, ¬lt x last)
    (under : ∀ x ∈ rest, lt x last) :
    (before ++ last :: rest).filter (fun x => decide (lt x last)) = rest := by
  have none_ : before.filter (fun x => decide (lt x last)) = [] :=
    List.filter_eq_nil_iff.mpr fun x member => by simp [above x member]
  have all_ : rest.filter (fun x => decide (lt x last)) = rest :=
    List.filter_eq_self.mpr fun x member => by simp [under x member]
  rw [List.filter_append, none_, List.filter_cons_of_neg (by simp [ranked.irrefl]), all_,
    List.nil_append]

theorem Ranked.filter_narrow (ranked : Ranked lt rows) {cursor : α} (under : lt last cursor)
    (table : List α) :
    table.filter (fun x => decide (lt x last)) =
      (table.filter fun x => decide (lt x cursor)).filter fun x => decide (lt x last) := by
  rw [List.filter_filter]
  refine List.filter_congr fun x _ => ?_
  by_cases less : lt x last
  · simp [less, ranked.trans less under]
  · simp [less]

/-- Below an element that was read is what comes after it. -/
theorem Ranked.below_rest (ranked : Ranked lt rows) {cursor : α}
    (split : below lt rows cursor = before ++ last :: rest) : below lt rows last = rest := by
  have sorted := ranked.sorted_below cursor
  have once : (below lt rows cursor).Nodup :=
    (below_perm cursor).nodup_iff.mpr (ranked.nodup.filter _)
  have known : ∀ x ∈ before ++ last :: rest, x ∈ rows ∧ lt x cursor :=
    fun x member => mem_below.mp (split ▸ member)
  rw [split] at sorted once
  obtain ⟨_, tail, across⟩ := List.pairwise_append.mp sorted
  obtain ⟨after, ordered⟩ := List.pairwise_cons.mp tail
  obtain ⟨here, under⟩ := known last (by simp)
  have above : ∀ x ∈ before, ¬lt x last := fun x member => across x member last List.mem_cons_self
  have smaller : ∀ x ∈ rest, lt x last := by
    intro x member
    by_contra notLess
    have same := ranked.distinct last here x (known x (by simp [member])).1 (after x member) notLess
    have fresh := (List.nodup_cons.mp (List.nodup_append.mp once).2.1).1
    exact fresh (same ▸ member)
  have perm : (below lt rows last).Perm rest := by
    refine (below_perm last).trans ?_
    rw [ranked.filter_narrow under, ← ranked.filter_split above smaller, ← split]
    exact ((below_perm cursor).filter _).symm
  refine perm.eq_of_pairwise ?_ (ranked.sorted_below last) ordered
  intro a b first second
  exact ranked.distinct a (mem_below.mp first).1 b (known b (by simp [second])).1

/-- Page by page, everything below the cursor. -/
theorem Ranked.follows_below (ranked : Ranked lt rows) (positive : 0 < limit) (cursor : α) :
    Follows lt rows limit ((below lt rows cursor).take limit) (below lt rows cursor) := by
  generalize size : (below lt rows cursor).length = n
  induction n using Nat.strongRecOn generalizing cursor with
  | ind n ih =>
      rcases List.eq_nil_or_concat ((below lt rows cursor).take limit) with
        none_ | ⟨before, last, page⟩
      · have empty : below lt rows cursor = [] := by
          rcases List.take_eq_nil_iff.mp none_ with zero | empty
          · omega
          · exact empty
        rw [empty, List.take_nil]
        exact .done
      · rw [List.concat_eq_append] at page
        have split : below lt rows cursor =
            before ++ last :: (below lt rows cursor).drop limit := by
          conv_lhs => rw [← List.take_append_drop limit (below lt rows cursor), page]
          simp
        have rest := ranked.below_rest split
        have shorter : (below lt rows last).length < n := by
          rw [rest, ← size, split]
          simp
          omega
        have next := ih _ shorter last rfl
        have ends : ((below lt rows cursor).take limit).getLast? = some last := by simp [page]
        have all := Follows.more ends next
        rwa [rest, List.take_append_drop] at all

theorem Follows.unique {first second : List α} (one : Follows lt rows limit page first)
    (other : Follows lt rows limit page second) : first = second := by
  induction one generalizing second with
  | done =>
      cases other with
      | done => rfl
      | more ends => simp at ends
  | more ends _ ih =>
      cases other with
      | done => simp at ends
      | more ends' rest' =>
          obtain rfl := Option.some.inj (ends.symm.trans ends')
          rw [ih rest']

theorem Ranked.follows_iff (ranked : Ranked lt rows) (positive : 0 < limit) :
    Follows lt rows limit (before ++ [last]) all ↔ all = before ++ last :: below lt rows last := by
  have ends : (before ++ [last]).getLast? = some last := by simp
  have read := Follows.more ends (ranked.follows_below positive last)
  rw [List.append_assoc, List.singleton_append] at read
  constructor
  · exact fun follows => follows.unique read
  · rintro rfl
    exact read

end Below

/-! ## A first page in a coarser order -/

section Coarse

variable [LinearOrder τ]

/-- The rank compares by `coarse` first. -/
structure Coarsens (lt : α → α → Prop) (coarse : α → τ) : Prop where
  less : ∀ {a b}, coarse a < coarse b → lt a b
  le : ∀ {a b}, lt a b → coarse a ≤ coarse b

/-- The elements in some order of descending `coarse`. -/
structure Sorting (coarse : α → τ) (rows ordered : List α) : Prop where
  perm : ordered.Perm rows
  sorted : ordered.Pairwise fun a b => coarse b ≤ coarse a

/-- The `k`-th greatest `coarse` is that of the element. -/
def AtRank (coarse : α → τ) (rows : List α) (k : Nat) (a : α) : Prop :=
  rows.countP (fun x => decide (coarse a < coarse x)) < k ∧
    k ≤ rows.countP fun x => decide (coarse a ≤ coarse x)

/-- Only one element has the `k`-th greatest `coarse`. -/
def Untied (coarse : α → τ) (rows : List α) (k : Nat) : Prop :=
  ∀ a ∈ rows, ∀ b ∈ rows, AtRank coarse rows k a → coarse a = coarse b → a = b

instance (coarse : α → τ) (rows : List α) (k : Nat) : DecidablePred (AtRank coarse rows k) :=
  fun _ => inferInstanceAs (Decidable (_ ∧ _))

instance [DecidableEq α] (coarse : α → τ) (rows : List α) (k : Nat) :
    Decidable (Untied coarse rows k) :=
  inferInstanceAs (Decidable (∀ a ∈ rows, ∀ b ∈ rows, AtRank coarse rows k a →
    coarse a = coarse b → a = b))

variable {lt : α → α → Prop} [DecidableRel lt] {coarse : α → τ}
  {rows ordered before rest : List α} {limit : Nat} {last : α}

theorem sorting_exists (coarse : α → τ) (rows : List α) : ∃ ordered, Sorting coarse rows ordered := by
  have total : Std.Total fun a b : α => coarse b ≤ coarse a := ⟨fun a b => le_total _ _⟩
  have trans : IsTrans α fun a b : α => coarse b ≤ coarse a :=
    ⟨fun _ _ _ first second => le_trans second first⟩
  exact ⟨_, List.perm_insertionSort _ _, List.pairwise_insertionSort (fun a b => coarse b ≤ coarse a) rows⟩

theorem Sorting.split (sorting : Sorting coarse rows (before ++ last :: rest)) :
    (∀ x ∈ before, coarse last ≤ coarse x) ∧ ∀ x ∈ rest, coarse x ≤ coarse last := by
  obtain ⟨_, tail, across⟩ := List.pairwise_append.mp sorting.sorted
  exact ⟨fun x member => across x member last List.mem_cons_self, (List.pairwise_cons.mp tail).1⟩

/-- The element in position `k` decides what the `k`-th greatest `coarse` is. -/
theorem Sorting.atRank_iff (sorting : Sorting coarse rows (before ++ last :: rest)) (a : α) :
    AtRank coarse rows (before.length + 1) a ↔ coarse a = coarse last := by
  obtain ⟨above, under⟩ := sorting.split
  have newer : ∀ p : α → Bool, rows.countP p =
      before.countP p + (rest.countP p + if p last then 1 else 0) := by
    intro p
    rw [← sorting.perm.countP_eq, List.countP_append, List.countP_cons]
  unfold AtRank
  rw [newer, newer]
  have bound : ∀ p : α → Bool, before.countP p ≤ before.length := fun _ => List.countP_le_length
  rcases lt_trichotomy (coarse a) (coarse last) with less | same | more
  · have full : before.countP (fun x => decide (coarse a < coarse x)) = before.length :=
      List.countP_eq_length.mpr fun x member => by simp [lt_of_lt_of_le less (above x member)]
    refine iff_of_false ?_ less.ne
    rintro ⟨fewer, _⟩
    simp only [full, less, decide_true, if_true] at fewer
    omega
  · have none_ : rest.countP (fun x => decide (coarse a < coarse x)) = 0 :=
      List.countP_eq_zero.mpr fun x member => by simp [same, under x member]
    have full : before.countP (fun x => decide (coarse a ≤ coarse x)) = before.length :=
      List.countP_eq_length.mpr fun x member => by simp [same, above x member]
    have most := bound fun x => decide (coarse a < coarse x)
    refine iff_of_true ⟨?_, ?_⟩ same
    · simp only [none_, same.not_lt, decide_false, Bool.false_eq_true, if_false]
      omega
    · simp only [full, same.le, decide_true, if_true]
      omega
  · have none_ : rest.countP (fun x => decide (coarse a ≤ coarse x)) = 0 :=
      List.countP_eq_zero.mpr fun x member => by simp [lt_of_le_of_lt (under x member) more]
    have most := bound fun x => decide (coarse a ≤ coarse x)
    refine iff_of_false ?_ more.ne'
    rintro ⟨_, enough⟩
    simp only [none_, more.not_ge, decide_false, Bool.false_eq_true, if_false] at enough
    omega

/-- A first page ends in the position that the limit or the number of elements gives. -/
theorem Sorting.first_page (sorting : Sorting coarse rows ordered) (positive : 0 < limit)
    (some_ : rows ≠ []) :
    ∃ before last rest, ordered = before ++ last :: rest ∧
      ordered.take limit = before ++ [last] ∧ before.length + 1 = min limit rows.length := by
  rcases List.eq_nil_or_concat (ordered.take limit) with none_ | ⟨before, last, page⟩
  · rcases List.take_eq_nil_iff.mp none_ with zero | empty
    · omega
    · rw [empty] at sorting
      exact absurd (List.nil_perm.mp sorting.perm) some_
  · rw [List.concat_eq_append] at page
    refine ⟨before, last, ordered.drop limit, ?_, page, ?_⟩
    · conv_lhs => rw [← List.take_append_drop limit ordered, page]
      simp
    · rw [← sorting.perm.length_eq, ← List.length_take, page]
      simp

/-- The reading is complete if the cursor has all that was read above it and all that was not
    below it. -/
theorem Ranked.complete_iff_split (ranked : Ranked lt rows)
    (perm : (before ++ last :: rest).Perm rows) (positive : 0 < limit) :
    Complete lt rows limit (before ++ [last]) ↔
      (∀ x ∈ before, ¬lt x last) ∧ ∀ x ∈ rest, lt x last := by
  have member : ∀ x, x ∈ before ++ last :: rest ↔ x ∈ rows := fun x => perm.mem_iff
  have once : (before ++ last :: rest).Nodup := perm.nodup_iff.mpr ranked.nodup
  have same : Complete lt rows limit (before ++ [last]) ↔ (below lt rows last).Perm rest := by
    unfold Complete
    simp only [ranked.follows_iff positive, exists_eq_left]
    constructor
    · intro all
      exact (List.perm_cons last).mp ((List.perm_append_left_iff before).mp (all.trans perm.symm))
    · intro all
      exact ((List.perm_append_left_iff before).mpr ((List.perm_cons last).mpr all)).trans perm
  rw [same]
  constructor
  · intro below_
    refine ⟨?_, ?_⟩
    · intro x first less
      have again : x ∈ rest :=
        below_.mem_iff.mp (mem_below.mpr ⟨(member x).mp (by simp [first]), less⟩)
      exact (List.nodup_append.mp once).2.2 x first x (List.mem_cons_of_mem _ again) rfl
    · intro x later
      exact (mem_below.mp (below_.mem_iff.mpr later)).2
  · rintro ⟨above, under⟩
    refine (below_perm last).trans ?_
    rw [← ranked.filter_split above under]
    exact (perm.filter _).symm

/-- Two tied elements change places. -/
theorem Sorting.swap [DecidableEq α] (sorting : Sorting coarse rows ordered) (nodup : rows.Nodup)
    {a b : α} (here : a ∈ rows) (there : b ∈ rows) (tied : coarse a = coarse b) :
    Sorting coarse rows (ordered.map (Equiv.swap a b)) := by
  have kept : ∀ x, coarse (Equiv.swap a b x) = coarse x := by
    intro x
    rcases eq_or_ne x a with rfl | notA
    · rw [Equiv.swap_apply_left, tied]
    · rcases eq_or_ne x b with rfl | notB
      · rw [Equiv.swap_apply_right, tied]
      · rw [Equiv.swap_apply_of_ne_of_ne notA notB]
  have inside : ∀ x ∈ rows, Equiv.swap a b x ∈ rows := by
    intro x member
    rcases eq_or_ne x a with rfl | notA
    · rwa [Equiv.swap_apply_left]
    · rcases eq_or_ne x b with rfl | notB
      · rwa [Equiv.swap_apply_right]
      · rwa [Equiv.swap_apply_of_ne_of_ne notA notB]
  have once : ordered.Nodup := sorting.perm.nodup_iff.mpr nodup
  refine ⟨?_, ?_⟩
  · rw [List.perm_ext_iff_of_nodup (once.map (Equiv.swap a b).injective) nodup]
    intro x
    constructor
    · intro member
      obtain ⟨y, listed, rfl⟩ := List.mem_map.mp member
      exact inside y (sorting.perm.mem_iff.mp listed)
    · intro member
      refine List.mem_map.mpr ⟨Equiv.swap a b x, sorting.perm.mem_iff.mpr (inside x member), ?_⟩
      exact Equiv.swap_apply_self a b x
  · rw [List.pairwise_map]
    simpa only [kept] using sorting.sorted

/-- With a tie at the end of the first page, one of two orders goes wrong. -/
theorem Ranked.not_tied [DecidableEq α] (ranked : Ranked lt rows) (positive : 0 < limit)
    (complete : ∀ ordered, Sorting coarse rows ordered → Complete lt rows limit (ordered.take limit))
    (sorting : Sorting coarse rows (before ++ last :: rest))
    (page : (before ++ last :: rest).take limit = before ++ [last]) {t : α} (member : t ∈ rows)
    (tied : coarse t = coarse last) : t = last := by
  by_contra other
  have here : last ∈ rows := sorting.perm.mem_iff.mp (by simp)
  obtain ⟨above, under⟩ := (ranked.complete_iff_split sorting.perm positive).mp
    (page ▸ complete _ sorting)
  have swapped := sorting.swap ranked.nodup here member tied.symm
  have page' : ((before ++ last :: rest).map (Equiv.swap last t)).take limit =
      before.map (Equiv.swap last t) ++ [t] := by
    rw [← List.map_take, page]
    simp
  have whole : (before ++ last :: rest).map (Equiv.swap last t) =
      before.map (Equiv.swap last t) ++ t :: rest.map (Equiv.swap last t) := by
    simp
  have again := complete _ swapped
  rw [page'] at again
  rw [whole] at swapped
  obtain ⟨above', under'⟩ := (ranked.complete_iff_split swapped.perm positive).mp again
  have placed : t ∈ before ++ last :: rest := sorting.perm.mem_iff.mpr member
  have taken : ∀ {l : List α}, t ∈ l → last ∈ l.map (Equiv.swap last t) :=
    fun listed => List.mem_map.mpr ⟨t, listed, Equiv.swap_apply_right last t⟩
  rcases List.mem_append.mp placed with first | later
  · exact other (ranked.distinct t member last here (above t first) (above' last (taken first)))
  · rcases List.mem_cons.mp later with same | later
    · exact other same
    · exact ranked.asymm (under t later) (under' last (taken later))

/-- Without a tie at its end the first page has everything above the cursor, and only that. -/
theorem Ranked.complete_of_untied (ranked : Ranked lt rows) (coarsens : Coarsens lt coarse)
    (positive : 0 < limit) (untied : Untied coarse rows (min limit rows.length)) (some_ : rows ≠ [])
    (sorting : Sorting coarse rows ordered) : Complete lt rows limit (ordered.take limit) := by
  obtain ⟨before, last, rest, rfl, page, position⟩ := sorting.first_page positive some_
  obtain ⟨above, under⟩ := sorting.split
  have once := sorting.perm.nodup_iff.mpr ranked.nodup
  have member : ∀ x ∈ before ++ last :: rest, x ∈ rows := fun x => sorting.perm.mem_iff.mp
  have alone : ∀ x ∈ rows, coarse x = coarse last → x = last := by
    intro x listed tied
    refine untied x listed last (member last (by simp)) ?_ tied
    rwa [← position, sorting.atRank_iff]
  rw [page, ranked.complete_iff_split sorting.perm positive]
  refine ⟨?_, ?_⟩
  · intro x first less
    have tied := le_antisymm (coarsens.le less) (above x first)
    obtain rfl := alone x (member x (by simp [first])) tied
    exact ranked.irrefl _ less
  · intro x later
    refine coarsens.less (lt_of_le_of_ne (under x later) ?_)
    intro tied
    obtain rfl := alone x (member x (by simp [later])) tied
    exact (List.nodup_cons.mp (List.nodup_append.mp once).2.1).1 later

theorem Ranked.untied_of_complete [DecidableEq α] (ranked : Ranked lt rows)
    (complete : ∀ ordered, Sorting coarse rows ordered → Complete lt rows limit (ordered.take limit))
    (some_ : rows ≠ []) : 0 < limit ∧ Untied coarse rows (min limit rows.length) := by
  obtain ⟨ordered, sorting⟩ := sorting_exists coarse rows
  have positive : 0 < limit := by
    by_contra zero
    obtain ⟨all, follows, perm⟩ := complete ordered sorting
    rw [Nat.eq_zero_of_not_pos zero, List.take_zero] at follows
    cases follows with
    | done => exact some_ (List.nil_perm.mp perm)
    | more ends => simp at ends
  obtain ⟨before, last, rest, rfl, page, position⟩ := sorting.first_page positive some_
  refine ⟨positive, ?_⟩
  intro a here b there rank tied
  rw [← position, sorting.atRank_iff] at rank
  have isLast := ranked.not_tied positive complete sorting page here rank
  have isLast' := ranked.not_tied positive complete sorting page there (tied.symm.trans rank)
  exact isLast.trans isLast'.symm

/-- In whatever order of descending `coarse` the first page is taken, the reading is complete, if
    and only if there is nothing to read or no tie at the end of that page. -/
theorem Ranked.complete_iff [DecidableEq α] (ranked : Ranked lt rows)
    (coarsens : Coarsens lt coarse) :
    (∀ ordered, Sorting coarse rows ordered → Complete lt rows limit (ordered.take limit)) ↔
      rows = [] ∨ 0 < limit ∧ Untied coarse rows (min limit rows.length) := by
  rcases eq_or_ne rows [] with rfl | some_
  · refine iff_of_true ?_ (.inl rfl)
    intro ordered sorting
    rw [List.perm_nil.mp sorting.perm, List.take_nil]
    exact ⟨[], .done, .nil⟩
  · simp only [some_, false_or]
    constructor
    · exact fun complete => ranked.untied_of_complete complete some_
    · rintro ⟨positive, untied⟩ ordered sorting
      exact ranked.complete_of_untied coarsens positive untied some_ sorting

end Coarse

/-! ## Rows that change between the pages -/

section Changing

/-- Page `n` and those after it, each taken from the rows as they are by then, until page `m` is
    empty. -/
inductive Walks (lt : α → α → Prop) [DecidableRel lt] (rows : Nat → List α) (limit : Nat) :
    Nat → α → List α → Nat → Prop where
  | done {n cursor} (empty : (below lt (rows n) cursor).take limit = []) :
      Walks lt rows limit n cursor [] n
  | more {n m cursor last all} (ends : ((below lt (rows n) cursor).take limit).getLast? = some last)
      (rest : Walks lt rows limit (n + 1) last all m) :
      Walks lt rows limit n cursor ((below lt (rows n) cursor).take limit ++ all) m

variable {lt : α → α → Prop} [DecidableRel lt] {rows : Nat → List α} {limit n m : Nat} {cursor : α}
  {all : List α}

/-- Neither comes before the other. -/
def Tied (lt : α → α → Prop) (a b : α) : Prop := ¬lt a b ∧ ¬lt b a

omit [DecidableRel lt] in
theorem Ranked.lt_of_tied {table : List α} (ranked : Ranked lt table) {a b c : α}
    (tied : Tied lt a b) (less : lt b c) : lt a c := by
  by_contra notLess
  exact ranked.negTrans tied.2 notLess less

omit [DecidableRel lt] in
theorem Ranked.lt_tied {table : List α} (ranked : Ranked lt table) {a b c : α} (less : lt a b)
    (tied : Tied lt b c) : lt a c := by
  by_contra notLess
  exact ranked.negTrans notLess tied.2 less

/-- The elements below the cursor depend on its rank only. -/
theorem Ranked.below_tied {table : List α} (ranked : Ranked lt table) {a b : α}
    (tied : Tied lt a b) : below lt table a = below lt table b := by
  have same : ∀ x, lt x a ↔ lt x b :=
    fun x => ⟨fun less => ranked.lt_tied less tied, fun less => ranked.lt_tied less ⟨tied.2, tied.1⟩⟩
  unfold below
  simp only [same]

theorem Ranked.descending_below {table : List α} (ranked : Ranked lt table) (cursor : α) :
    (below lt table cursor).Pairwise fun a b => lt b a := by
  have once : (below lt table cursor).Nodup :=
    (below_perm cursor).nodup_iff.mpr (ranked.nodup.filter _)
  refine ((ranked.sorted_below cursor).and once).imp_of_mem ?_
  rintro a b here there ⟨notLess, apart⟩
  by_contra notMore
  exact apart (ranked.distinct a (mem_below.mp here).1 b (mem_below.mp there).1 notLess notMore)

/-- What is below the cursor is on the page or below the last element of the page. -/
theorem Ranked.on_page_or_after {table : List α} (ranked : Ranked lt table) {x last : α}
    (listed : x ∈ below lt table cursor)
    (ends : ((below lt table cursor).take limit).getLast? = some last) :
    x ∈ (below lt table cursor).take limit ∨ lt x last := by
  have sorted := ranked.descending_below cursor
  rw [← List.take_append_drop limit (below lt table cursor)] at sorted listed
  rcases List.mem_append.mp listed with onPage | after
  · exact .inl onPage
  · exact .inr ((List.pairwise_append.mp sorted).2.2 last (List.mem_of_getLast? ends) x after)

theorem lt_of_mem_page {table : List α} {x : α} (listed : x ∈ (below lt table cursor).take limit) :
    x ∈ table ∧ lt x cursor :=
  mem_below.mp (List.mem_of_mem_take listed)

theorem Walks.le (walks : Walks lt rows limit n cursor all m) : n ≤ m := by
  induction walks with
  | done => exact le_rfl
  | more _ _ ih => omega

theorem Walks.unique {m' : Nat} {all' : List α} (one : Walks lt rows limit n cursor all m)
    (other : Walks lt rows limit n cursor all' m') : all' = all ∧ m' = m := by
  induction one generalizing all' m' with
  | done empty =>
      cases other with
      | done => exact ⟨rfl, rfl⟩
      | more ends => simp [empty] at ends
  | more ends _ ih =>
      cases other with
      | done empty => simp [empty] at ends
      | more ends' rest' =>
          obtain rfl := Option.some.inj (ends.symm.trans ends')
          obtain ⟨rfl, rfl⟩ := ih rest'
          exact ⟨rfl, rfl⟩

/-- Each page is below the one before it. -/
theorem Walks.descending (ranked : ∀ i, Ranked lt (rows i))
    (walks : Walks lt rows limit n cursor all m) :
    (∀ x ∈ all, lt x cursor) ∧ all.Pairwise fun a b => lt b a := by
  induction walks with
  | done => exact ⟨by simp, .nil⟩
  | @more n m cursor last all ends _ ih =>
      obtain ⟨under, sorted⟩ := ih
      have lastUnder := (lt_of_mem_page (List.mem_of_getLast? ends)).2
      have page := ((ranked n).descending_below cursor).sublist (List.take_sublist limit _)
      refine ⟨?_, List.pairwise_append.mpr ⟨page, sorted, ?_⟩⟩
      · intro x listed
        rcases List.mem_append.mp listed with here | later
        · exact (lt_of_mem_page here).2
        · exact (ranked n).trans (under x later) lastUnder
      · intro x here y later
        obtain ⟨before, split⟩ := List.getLast?_eq_some_iff.mp ends
        rw [split] at here page
        rcases List.mem_append.mp here with earlier | same
        · have above := (List.pairwise_append.mp page).2.2 x earlier last List.mem_cons_self
          exact (ranked n).trans (under y later) above
        · rw [List.mem_singleton.mp same]
          exact under y later

theorem Walks.listed (walks : Walks lt rows limit n cursor all m) :
    ∀ x ∈ all, ∃ i, i ≤ m ∧ x ∈ rows i := by
  induction walks with
  | done => simp
  | @more n m cursor last all _ rest ih =>
      have before : n + 1 ≤ m := rest.le
      intro x listed
      rcases List.mem_append.mp listed with here | later
      · exact ⟨n, by omega, (lt_of_mem_page here).1⟩
      · exact ih x later

/-- An element that is there for every page is read. -/
theorem Walks.complete (ranked : ∀ i, Ranked lt (rows i)) (positive : 0 < limit)
    (walks : Walks lt rows limit n cursor all m) {x : α} (under : lt x cursor)
    (present : ∀ i, n ≤ i → i ≤ m → ∃ y ∈ rows i, Tied lt y x) : ∃ y ∈ all, Tied lt y x := by
  induction walks with
  | @done n cursor empty =>
      obtain ⟨y, listed, tied⟩ := present n le_rfl le_rfl
      have member := mem_below.mpr ⟨listed, (ranked n).lt_of_tied tied under⟩
      rcases List.take_eq_nil_iff.mp empty with zero | none_
      · omega
      · simp [none_] at member
  | @more n m cursor last all ends rest ih =>
      obtain ⟨y, listed, tied⟩ := present n le_rfl (Nat.le_of_succ_le rest.le)
      have member := mem_below.mpr ⟨listed, (ranked n).lt_of_tied tied under⟩
      rcases (ranked n).on_page_or_after member ends with onPage | after
      · exact ⟨y, List.mem_append_left _ onPage, tied⟩
      · have next := (ranked n).lt_of_tied ⟨tied.2, tied.1⟩ after
        obtain ⟨z, read, same⟩ := ih next fun i since upTo => present i (by omega) upTo
        exact ⟨z, List.mem_append_right _ read, same⟩

/-- With boundedly many ranks below the cursor the walk ends. -/
theorem walks_exists (ranked : ∀ i, Ranked lt (rows i)) {base : List α}
    (known : ∀ i, ∀ x ∈ rows i, lt x cursor → ∃ y ∈ base, Tied lt y x) (n : Nat) :
    ∃ all m, Walks lt rows limit n cursor all m := by
  generalize size : (base.filter fun y => decide (lt y cursor)).length = count
  induction count using Nat.strongRecOn generalizing cursor n with
  | ind count ih =>
      cases ends : ((below lt (rows n) cursor).take limit).getLast? with
      | none => exact ⟨[], n, .done (List.getLast?_eq_none_iff.mp ends)⟩
      | some last =>
          obtain ⟨stored, under⟩ := lt_of_mem_page (List.mem_of_getLast? ends)
          obtain ⟨y, inBase, tied⟩ := known n last stored under
          have fewer : (base.filter fun z => decide (lt z last)).length < count := by
            rw [(ranked n).filter_narrow under, ← size, List.length_filter_lt_length_iff_exists]
            refine ⟨y, List.mem_filter.mpr ⟨inBase, ?_⟩, ?_⟩
            · exact decide_eq_true ((ranked n).lt_of_tied tied under)
            · simp [tied.1]
          have known' : ∀ i, ∀ x ∈ rows i, lt x last → ∃ z ∈ base, Tied lt z x :=
            fun i x member less => known i x member ((ranked n).trans less under)
          obtain ⟨all, m, walks⟩ := ih _ fewer known' (n + 1) rfl
          exact ⟨_, m, .more ends walks⟩

end Changing

end Cursor
