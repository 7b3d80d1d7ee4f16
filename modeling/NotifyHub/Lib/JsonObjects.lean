import Mathlib.Data.List.Perm.Basic
import Mathlib.Data.List.Sort
import Mathlib.Data.String.Basic
import NotifyHub.Lib.Json

/-! # Objects as maps and as records

An object read as a map loses the order of its members and all but the last of those with one
name; a JSONB column keeps this much of a document. An object read as a record sets one field
for each member, in whatever order they come.
-/

namespace Json

/-! ## Maps -/

section Maps

variable {β : Type} {ms ms' : List (String × β)}

def lastWins : List (String × β) → List (String × β)
  | [] => []
  | m :: ms => if m.1 ∈ ms.map Prod.fst then lastWins ms else m :: lastWins ms

theorem lastWins_of_nodup (distinct : (ms.map Prod.fst).Nodup) : lastWins ms = ms := by
  induction ms with
  | nil => rfl
  | cons m ms ih =>
      obtain ⟨new, distinct⟩ := List.nodup_cons.mp distinct
      rw [lastWins, if_neg new, ih distinct]

/-- The entries of a map in the order of their keys. -/
def entries (ms : List (String × β)) : List (String × β) :=
  (lastWins ms).insertionSort fun a b => a.1 ≤ b.1

/-- An order is all that a list in it lost by being shuffled. -/
theorem entries_of_perm (ordered : ms.Pairwise fun a b => a.1 < b.1) (perm : ms'.Perm ms) :
    entries ms' = ms := by
  have keys : (ms.map Prod.fst).Nodup :=
    (List.pairwise_map.mpr ordered).imp fun less => less.ne
  have distinct : (ms'.map Prod.fst).Nodup := (perm.map Prod.fst).nodup_iff.mpr keys
  have total : Std.Total fun a b : String × β => a.1 ≤ b.1 := ⟨fun a b => le_total a.1 b.1⟩
  have transitive : IsTrans (String × β) fun a b => a.1 ≤ b.1 := ⟨fun _ _ _ => le_trans⟩
  rw [entries, lastWins_of_nodup distinct]
  have sorted := List.pairwise_insertionSort (fun a b : String × β => a.1 ≤ b.1) ms'
  refine List.Perm.eq_of_pairwise ?_ sorted (ordered.imp fun less => less.le)
    ((List.perm_insertionSort _ ms').trans perm)
  intro a b here there below above
  have member : a ∈ ms := perm.mem_iff.mp ((List.mem_insertionSort _).mp here)
  exact List.inj_on_of_nodup_map keys member there (le_antisymm below above)

end Maps

/-! ## The JSONB form

Postgres keeps numbers exactly and gives an integer back as it was written; here every literal
stays. It also refuses halves of surrogate pairs, which no writer here makes.
-/

/-- Shorter names come first. -/
def NameLE (a b : String) : Prop :=
  a.utf8ByteSize < b.utf8ByteSize ∨ a.utf8ByteSize = b.utf8ByteSize ∧ a ≤ b

instance : DecidableRel NameLE := fun _ _ => inferInstanceAs (Decidable (_ ∨ _ ∧ _))

/-- The character that Postgres keeps in no text. -/
def hasNul (s : String) : Bool := s.toList.any (·.toNat == 0)

mutual

def jsonb : Json → Option Json
  | .null => some .null
  | .bool b => some (.bool b)
  | .num n => some (.num n)
  | .str s => if hasNul s then none else some (.str s)
  | .arr js => (jsonbItems js).map .arr
  | .obj ms =>
      (jsonbMembers ms).map fun ms => .obj ((lastWins ms).insertionSort fun a b => NameLE a.1 b.1)

def jsonbItems : List Json → Option (List Json)
  | [] => some []
  | j :: js =>
      match jsonb j, jsonbItems js with
      | some j, some js => some (j :: js)
      | _, _ => none

def jsonbMembers : List (String × Json) → Option (List (String × Json))
  | [] => some []
  | (k, j) :: ms =>
      match hasNul k, jsonb j, jsonbMembers ms with
      | false, some j, some ms => some ((k, j) :: ms)
      | _, _, _ => none

end

mutual

/-- All numbers are within the range of float64. -/
def floats : Json → Bool
  | .null | .bool _ | .str _ => true
  | .num n => !n.overflows
  | .arr js => floatsItems js
  | .obj ms => floatsMembers ms

def floatsItems : List Json → Bool
  | [] => true
  | j :: js => floats j && floatsItems js

def floatsMembers : List (String × Json) → Bool
  | [] => true
  | (_, j) :: ms => floats j && floatsMembers ms

end

mutual

/-- How deep objects and arrays are nested. -/
def depth : Json → Nat
  | .null | .bool _ | .num _ | .str _ => 0
  | .arr js => depthItems js + 1
  | .obj ms => depthMembers ms + 1

def depthItems : List Json → Nat
  | [] => 0
  | j :: js => max (depth j) (depthItems js)

def depthMembers : List (String × Json) → Nat
  | [] => 0
  | (_, j) :: ms => max (depth j) (depthMembers ms)

end

/-- What Postgres gives back for a text that is stored in a JSONB column. -/
def jsonbText (text : String) : Option String :=
  ((parse text).bind jsonb).map postgresStyle.text

/-- A document as it was written, or as a JSONB column gives it back. -/
def Via (j i : Json) : Prop := i = j ∨ jsonb j = some i

theorem via_str {s : String} {i : Json} (via : Via (.str s) i) : i = .str s := by
  rcases via with same | stored
  · exact same
  · rw [jsonb] at stored
    split at stored
    · cases stored
    · exact (Option.some.inj stored).symm

theorem via_num {n : JsonNumber} {i : Json} (via : Via (.num n) i) : i = .num n := by
  rcases via with same | stored
  · exact same
  · rw [jsonb] at stored
    exact (Option.some.inj stored).symm

/-- The same names, with documents that come from the others. -/
abbrev SameMembers : List (String × Json) → List (String × Json) → Prop :=
  List.Forall₂ fun m m' => m'.1 = m.1 ∧ Via m.2 m'.2

theorem sameMembers_of_jsonb {ms kept : List (String × Json)} (stored : jsonbMembers ms = some kept) :
    SameMembers ms kept := by
  induction ms generalizing kept with
  | nil =>
      rw [jsonbMembers] at stored
      obtain rfl := Option.some.inj stored
      exact .nil
  | cons m ms ih =>
      rw [jsonbMembers] at stored
      split at stored
      · rename_i i rest _ value others
        obtain rfl := Option.some.inj stored
        exact .cons ⟨rfl, .inr value⟩ (ih others)
      · cases stored

theorem SameMembers.names {ms kept : List (String × Json)} (same : SameMembers ms kept) :
    kept.map Prod.fst = ms.map Prod.fst := by
  induction same with
  | nil => rfl
  | cons here _ ih => rw [List.map_cons, List.map_cons, here.1, ih]

/-- An object without repeated names keeps its members, in some order. -/
theorem via_obj {ms : List (String × Json)} (distinct : (ms.map Prod.fst).Nodup) {i : Json}
    (via : Via (.obj ms) i) : ∃ ms' kept, i = .obj ms' ∧ ms'.Perm kept ∧ SameMembers ms kept := by
  rcases via with same | stored
  · exact ⟨ms, ms, same, .refl ms, List.forall₂_same.mpr fun m _ => ⟨rfl, .inl rfl⟩⟩
  · rw [jsonb] at stored
    obtain ⟨kept, values, rfl⟩ := Option.map_eq_some_iff.mp stored
    have members := sameMembers_of_jsonb values
    refine ⟨_, kept, rfl, ?_, members⟩
    rw [lastWins_of_nodup (members.names ▸ distinct)]
    exact List.perm_insertionSort _ _

/-! ## Records -/

/-- Letter case, as far as names of ASCII letters can be told apart by it. -/
def foldChar (c : Char) : Char :=
  if 'a' ≤ c ∧ c ≤ 'z' then Char.ofNat (c.toNat - 32)
  else if c.toNat = 0x17f then 'S'
  else if c.toNat = 0x212a then 'K'
  else c

def foldName (name : String) : List Char := name.toList.map foldChar

/-- Each field has a tag. Writing may fail, or leave the field out. -/
structure Record (φ α : Type) where
  fields : List φ
  tag : φ → String
  write : φ → α → Option (Option Json)
  read : φ → Json → α → Option α

namespace Record

variable {φ α : Type} (r : Record φ α)

/-- The field with this tag, or else with this tag up to letter case. -/
def named (name : String) : Option φ :=
  match r.fields.find? (r.tag · = name) with
  | some f => some f
  | none => r.fields.find? fun f => foldName (r.tag f) = foldName name

/-- Members that name no field are passed over. -/
def readMembers : List (String × Json) → α → Option α
  | [], a => some a
  | (name, j) :: ms, a =>
      match r.named name with
      | none => readMembers ms a
      | some f =>
          match r.read f j a with
          | none => none
          | some a => readMembers ms a

def decode (j : Json) (a : α) : Option α :=
  match j with
  | .null => some a
  | .obj ms => r.readMembers ms a
  | _ => none

def writeFields (x : α) : List φ → Option (List (String × Json))
  | [] => some []
  | f :: fs =>
      match r.write f x, writeFields x fs with
      | some (some j), some ms => some ((r.tag f, j) :: ms)
      | some none, some ms => some ms
      | _, _ => none

def encode (x : α) : Option Json := (r.writeFields x r.fields).map .obj

/-- The field is not left out. -/
def writes (x : α) (f : φ) : Bool :=
  match r.write f x with
  | some none => false
  | _ => true

theorem writeFields_spec {x : α} {fs : List φ} {ms : List (String × Json)}
    (written : r.writeFields x fs = some ms) :
    List.Forall₂ (fun m f => m.1 = r.tag f ∧ r.write f x = some (some m.2)) ms
      (fs.filter (r.writes x)) := by
  induction fs generalizing ms with
  | nil =>
      rw [writeFields] at written
      obtain rfl := Option.some.inj written
      exact .nil
  | cons f fs ih =>
      rw [writeFields] at written
      split at written
      · rename_i j rest here others
        obtain rfl := Option.some.inj written
        rw [List.filter_cons_of_pos (by simp [writes, here])]
        exact .cons ⟨rfl, here⟩ (ih others)
      · rename_i rest here others
        obtain rfl := Option.some.inj written
        rw [List.filter_cons_of_neg (by simp [writes, here])]
        exact ih others
      · cases written

theorem isSome_encode {x : α} :
    (r.encode x).isSome = true ↔ ∀ f ∈ r.fields, (r.write f x).isSome = true := by
  have each : ∀ fs, (r.writeFields x fs).isSome = true ↔ ∀ f ∈ fs, (r.write f x).isSome = true := by
    intro fs
    induction fs with
    | nil => simp [writeFields]
    | cons f fs ih =>
        rw [writeFields, List.forall_mem_cons, ← ih]
        cases r.write f x with
        | none => simp
        | some written => cases written <;> cases r.writeFields x fs <;> simp
  rw [encode, Option.isSome_map, each]

theorem names_written {x : α} {fs : List φ} {ms : List (String × Json)}
    (written : List.Forall₂ (fun m f => m.1 = r.tag f ∧ r.write f x = some (some m.2)) ms fs) :
    ms.map Prod.fst = fs.map r.tag := by
  induction written with
  | nil => rfl
  | cons here _ ih => rw [List.map_cons, List.map_cons, here.1, ih]

/-- Single fields of one record put into another. -/
structure Copies (r : Record φ α) where
  copy : φ → α → α → α
  commute : ∀ f g, f ≠ g → ∀ x y a, copy f x (copy g y a) = copy g y (copy f x a)
  named : ∀ f, r.named (r.tag f) = some f

namespace Copies

variable {r} (c : r.Copies) {x start a : α} {ms : List (String × Json)}

def all (x : α) (fs : List φ) (a : α) : α := fs.foldl (fun a f => c.copy f x a) a

/-- The member gives a field of `x`, if the field is still as it was at the start. -/
def Gives (x start : α) (f : φ) (j : Json) : Prop :=
  ∀ a, c.copy f start a = a → r.read f j a = some (c.copy f x a)

/-- Members and the fields they give. -/
def Matched (x start : α) : List (String × Json) → List φ → Prop :=
  List.Forall₂ fun m f => m.1 = r.tag f ∧ c.Gives x start f m.2

theorem readMembers_eq {ms : List (String × Json)} {fs : List φ} (distinct : fs.Nodup)
    (matched : c.Matched x start ms fs) (fresh : ∀ f ∈ fs, c.copy f start a = a) :
    r.readMembers ms a = some (c.all x fs a) := by
  induction matched generalizing a with
  | nil => rfl
  | @cons m f ms fs here _ ih =>
      obtain ⟨name, gives⟩ := here
      obtain ⟨new, distinct⟩ := List.nodup_cons.mp distinct
      simp only [readMembers, name, c.named, gives a (fresh f List.mem_cons_self)]
      refine ih distinct ?_
      intro g later
      have apart : g ≠ f := by
        rintro rfl
        exact new later
      rw [c.commute g f apart, fresh g (List.mem_cons_of_mem _ later)]

theorem all_perm {fs fs' : List φ} (perm : fs.Perm fs') : c.all x fs a = c.all x fs' a := by
  refine List.Perm.foldl_eq' perm ?_ a
  intro f _ g _ b
  by_cases same : f = g
  · rw [same]
  · exact (c.commute f g same x x b).symm

/-- The members may come in any order. -/
theorem readMembers_of_perm {kept : List (String × Json)} {fs : List φ} (distinct : fs.Nodup)
    (perm : ms.Perm kept) (matched : c.Matched x start kept fs)
    (fresh : ∀ f ∈ fs, c.copy f start a = a) : r.readMembers ms a = some (c.all x fs a) := by
  obtain ⟨fs', matched, shuffled⟩ := List.perm_comp_forall₂ perm matched
  rw [c.readMembers_eq (shuffled.nodup_iff.mpr distinct) matched
    fun f member => fresh f (shuffled.mem_iff.mp member), c.all_perm shuffled]

theorem matched_of_written {x start : α} {kept : List (String × Json)} {fs : List φ}
    (gives : ∀ f j i, r.write f x = some (some j) → Via j i → c.Gives x start f i)
    (written : List.Forall₂ (fun m f => m.1 = r.tag f ∧ r.write f x = some (some m.2)) ms fs)
    (same : SameMembers ms kept) : c.Matched x start kept fs := by
  induction written generalizing kept with
  | nil =>
      obtain rfl := List.forall₂_nil_left_iff.mp same
      exact .nil
  | @cons m f ms fs here _ ih =>
      obtain ⟨m', kept, ⟨name, via⟩, others, rfl⟩ := List.forall₂_cons_left_iff.mp same
      exact .cons ⟨name.trans here.1, gives f m.2 m'.2 here.2 via⟩ (ih others)

theorem tag_injective {f g : φ} (c : r.Copies) (same : r.tag f = r.tag g) : f = g := by
  have named := c.named f
  rw [same, c.named g] at named
  exact (Option.some.inj named).symm

/-- A record is read back, if each of its fields is and what was left out needs no copying. -/
theorem decode_via {j i : Json} (distinct : r.fields.Nodup) (encoded : r.encode x = some j)
    (via : Via j i) (gives : ∀ f j i, r.write f x = some (some j) → Via j i → c.Gives x start f i)
    (fresh : ∀ f, c.copy f start start = start)
    (rebuilt : c.all x (r.fields.filter (r.writes x)) start = x) : r.decode i start = some x := by
  obtain ⟨ms, fields, rfl⟩ := Option.map_eq_some_iff.mp encoded
  have written := r.writeFields_spec fields
  have apart : (ms.map Prod.fst).Nodup := by
    rw [r.names_written written]
    exact (distinct.filter _).map fun f g => c.tag_injective
  obtain ⟨ms', kept, rfl, perm, same⟩ := via_obj apart via
  rw [decode, c.readMembers_of_perm (distinct.filter _) perm (c.matched_of_written gives written same)
    fun f _ => fresh f, rebuilt]

end Copies

end Record

end Json
