import Mathlib.Data.List.Nodup
import NotifyHub.Realtime.Hub

/-! # What the hub's map holds

In every interleaving the map holds the subscriptions whose cancel has not entered its
locked part: each in the set of its own key, once, and no key has an empty set.
-/

namespace NotifyHub.Realtime

variable {α : Type}

structure Registered (h : Hub α) : Prop where
  coherent : Coherent h
  live : ∀ ch c, h.chans[ch]? = some c → c.phase = .live → ch ∈ h.listed (h.conns c.key)
  bound : ∀ key r, h.conns key = some r → r < h.sets.length
  filled : ∀ key r, h.conns key = some r → h.listed (some r) ≠ []
  own : ∀ key key' r, h.conns key = some r → h.conns key' = some r → key = key'
  nodup : ∀ set ∈ h.sets, set.Nodup

section

variable {h next : Hub α} {ch : Nat} {c : Chan α} {key : String}

theorem Registered.initial (bufSize : Int) : Registered (newHub bufSize : Hub α) where
  coherent := by simp [Coherent, newHub]
  live := by simp [newHub]
  bound := by simp [newHub]
  filled := by simp [newHub]
  own := by simp [newHub]
  nodup := by simp [newHub]

/-- The set of a key has the subscriptions to it that are not cancelled, and no others. -/
theorem Registered.mem_listed_iff (registered : Registered h) :
    ch ∈ h.listed (h.conns key) ↔ ∃ c, h.chans[ch]? = some c ∧ c.phase = .live ∧ c.key = key := by
  constructor
  · intro member
    cases entry : h.conns key with
    | none => simp [Hub.listed, entry] at member
    | some r =>
        rw [entry] at member
        obtain ⟨set, found, inside⟩ := listed_some member
        obtain ⟨c, here, live, home⟩ := registered.coherent r set ch found inside
        exact ⟨c, here, live, registered.own c.key key r home entry⟩
  · rintro ⟨c, here, live, rfl⟩
    exact registered.live ch c here live

theorem Registered.nodup_listed (registered : Registered h) (ref : Option Nat) :
    (h.listed ref).Nodup := by
  cases ref with
  | none => exact List.nodup_nil
  | some r =>
      cases found : h.sets[r]? with
      | none => simp [Hub.listed, found]
      | some set =>
          rw [listed_of_get found]
          exact registered.nodup set (List.mem_of_getElem? found)

/-- A listed channel has been made. -/
theorem Registered.listed_lt (registered : Registered h) {r : Nat}
    (member : ch ∈ h.listed (some r)) : ch < h.chans.length := by
  obtain ⟨set, found, inside⟩ := listed_some member
  obtain ⟨c, here, _⟩ := registered.coherent r set ch found inside
  exact (List.getElem?_eq_some_iff.mp here).1

theorem Registered.subscribe_new (registered : Registered h) (entry : h.conns key = none) :
    Registered (h.subscribe key) := by
  have unused : ∀ key', h.conns key' = some h.sets.length → False := fun key' used =>
    Nat.lt_irrefl _ (registered.bound key' _ used)
  have other : ∀ {key' r}, h.conns key' = some r → key' ≠ key := by
    rintro key' r used rfl
    simp [entry] at used
  have old : ∀ {key' r}, h.conns key' = some r →
      ((h.sets ++ [[h.chans.length]])[r]?).getD [] = h.listed (some r) := by
    intro key' r used
    rw [List.getElem?_append_left (registered.bound key' r used)]
    rfl
  have entries : ∀ {key' r}, Function.update h.conns key (some h.sets.length) key' = some r →
      (key' = key ∧ r = h.sets.length) ∨ h.conns key' = some r := by
    intro key' r used
    by_cases same : key' = key
    · subst same
      rw [Function.update_self] at used
      exact .inl ⟨rfl, (Option.some.inj used).symm⟩
    · rw [Function.update_of_ne same] at used
      exact .inr used
  have coherent := registered.coherent.subscribe key
  simp only [Hub.subscribe, entry] at coherent ⊢
  constructor
  · exact coherent
  · intro ch c found live
    rcases (Threads.at_append found).symm with here | ⟨rfl, rfl⟩
    · have member := registered.live ch c here live
      cases used : h.conns c.key with
      | none => simp [Hub.listed, used] at member
      | some r =>
          simp only [Function.update_of_ne (other used), used, Hub.listed, Option.bind_some,
            old used]
          rwa [used] at member
    · simp [Chan.opened, Hub.listed]
  · intro key' r used
    rw [List.length_append, List.length_singleton]
    rcases entries used with ⟨_, rfl⟩ | before
    · exact Nat.lt_succ_self _
    · exact Nat.lt_succ_of_lt (registered.bound key' r before)
  · intro key' r used
    rcases entries used with ⟨_, rfl⟩ | before
    · simp [Hub.listed]
    · simp only [Hub.listed, Option.bind_some, old before]
      exact registered.filled key' r before
  · intro key₁ key₂ r used₁ used₂
    rcases entries used₁ with ⟨rfl, rfl⟩ | before₁
    · rcases entries used₂ with ⟨rfl, _⟩ | before₂
      · rfl
      · exact (unused key₂ before₂).elim
    · rcases entries used₂ with ⟨rfl, rfl⟩ | before₂
      · exact (unused key₁ before₁).elim
      · exact registered.own key₁ key₂ r before₁ before₂
  · intro set member
    rcases List.mem_append.mp member with before | new
    · exact registered.nodup set before
    · obtain rfl := List.mem_singleton.mp new
      exact List.nodup_singleton _

theorem Registered.subscribe_more (registered : Registered h) {own : Nat}
    (entry : h.conns key = some own) : Registered (h.subscribe key) := by
  have bound := registered.bound key own entry
  have coherent := registered.coherent.subscribe key
  simp only [Hub.subscribe, entry] at coherent ⊢
  constructor
  · exact coherent
  · intro ch c found live
    rcases (Threads.at_append found).symm with here | ⟨rfl, rfl⟩
    · have member := registered.live ch c here live
      cases used : h.conns c.key with
      | none => simp [Hub.listed, used] at member
      | some r =>
          rw [used] at member
          by_cases same : r = own
          · subst same
            simp only [Hub.listed, Option.bind_some, List.getElem?_set_self bound,
              Option.getD_some]
            exact List.mem_append_left _ member
          · simp only [Hub.listed, Option.bind_some, List.getElem?_set_ne (Ne.symm same)]
            exact member
    · simp [Chan.opened, Hub.listed, entry, bound]
  · intro key' r used
    rw [List.length_set]
    exact registered.bound key' r used
  · intro key' r used
    by_cases same : r = own
    · subst same
      simp [Hub.listed, bound]
    · simp only [Hub.listed, Option.bind_some, List.getElem?_set_ne (Ne.symm same)]
      exact registered.filled key' r used
  · exact registered.own
  · intro set member
    rcases List.mem_or_eq_of_mem_set member with before | rfl
    · exact registered.nodup set before
    · have fresh : h.chans.length ∉ h.listed (some own) := fun inside =>
        Nat.lt_irrefl _ (registered.listed_lt inside)
      rw [List.nodup_append]
      refine ⟨registered.nodup_listed (some own), List.nodup_singleton _, ?_⟩
      intro a inside b new
      obtain rfl := List.mem_singleton.mp new
      rintro rfl
      exact fresh inside

theorem Registered.subscribe (registered : Registered h) (key : String) :
    Registered (h.subscribe key) := by
  cases entry : h.conns key with
  | none => exact registered.subscribe_new entry
  | some own => exact registered.subscribe_more entry

theorem Registered.remove (registered : Registered h) (here : h.chans[ch]? = some c) :
    Registered (h.remove ch c) := by
  have coherent := registered.coherent.remove here
  -- what the map says afterwards it has said before
  have before : ∀ {key' r}, (h.remove ch c).conns key' = some r → h.conns key' = some r := by
    intro key' r used
    simp only [Hub.remove] at used
    split at used
    · by_cases same : key' = c.key
      · subst same
        simp at used
      · rwa [Function.update_of_ne same] at used
    · exact used
  have listing : ∀ {key' r}, (h.remove ch c).conns key' = some r →
      (h.remove ch c).listed (some r) =
        if key' = c.key then (h.listed (some r)).filter (· ≠ ch) else h.listed (some r) := by
    intro key' r used
    have old := before used
    have bound := registered.bound key' r old
    by_cases same : key' = c.key
    · subst same
      simp only [Hub.remove, old, Hub.listed, Option.bind_some, List.getElem?_set_self bound,
        Option.getD_some, if_true]
    · rw [if_neg same]
      cases entry : h.conns c.key with
      | none => simp only [Hub.remove, entry, Hub.listed]
      | some own =>
          have differ : r ≠ own := by
            rintro rfl
            exact same (registered.own key' c.key r old entry)
          simp only [Hub.remove, entry, Hub.listed, Option.bind_some,
            List.getElem?_set_ne differ.symm]
  constructor
  · exact coherent
  · intro other c' found live
    by_cases same : other = ch
    · subst same
      have replaced : (h.remove other c).chans[other]? = some { c with phase := .removed } :=
        Threads.set_self here
      obtain rfl := Option.some.inj (replaced.symm.trans found)
      simp at live
    · have old : h.chans[other]? = some c' := by
        have kept : (h.chans.set ch { c with phase := .removed })[other]? = some c' := found
        rwa [List.getElem?_set_ne (Ne.symm same)] at kept
      have member := registered.live other c' old live
      cases used : h.conns c'.key with
      | none => simp [Hub.listed, used] at member
      | some r =>
          rw [used] at member
          have stays : (h.remove ch c).conns c'.key = some r := by
            simp only [Hub.remove]
            split
            · rename_i empty
              by_cases sameKey : c'.key = c.key
              · rw [← sameKey, used] at empty
                exact absurd (List.filter_eq_nil_iff.mp empty other member) (by simpa using same)
              · rw [Function.update_of_ne sameKey]
                exact used
            · exact used
          rw [stays, listing stays]
          split
          · exact List.mem_filter.mpr ⟨member, by simpa using same⟩
          · exact member
  · intro key' r used
    have bound := registered.bound key' r (before used)
    simp only [Hub.remove]
    split
    · exact bound
    · rwa [List.length_set]
  · intro key' r used
    rw [listing used]
    split
    · rename_i same
      subst same
      intro empty
      simp only [Hub.remove, before used, empty, if_true, Function.update_self] at used
      cases used
    · exact registered.filled key' r (before used)
  · intro key₁ key₂ r used₁ used₂
    exact registered.own key₁ key₂ r (before used₁) (before used₂)
  · intro set member
    simp only [Hub.remove] at member
    split at member
    · exact registered.nodup set member
    · rcases List.mem_or_eq_of_mem_set member with old | rfl
      · exact registered.nodup set old
      · exact (registered.nodup_listed _).filter _

/-- Replacing a channel's record by one with the same key that is live if it was. -/
theorem Registered.setChan {new : Chan α} (registered : Registered h)
    (here : h.chans[ch]? = some c) (key : new.key = c.key)
    (phase : new.phase = .live ↔ c.phase = .live) :
    Registered { h with chans := h.chans.set ch new } where
  coherent := registered.coherent.setChan here key phase.mpr
  live := by
    intro other c' found live
    by_cases same : other = ch
    · subst same
      have replaced : (h.chans.set other new)[other]? = some new := Threads.set_self here
      obtain rfl := Option.some.inj (replaced.symm.trans found)
      rw [key]
      exact registered.live other c here (phase.mp live)
    · have old : h.chans[other]? = some c' := by
        have kept : (h.chans.set ch new)[other]? = some c' := found
        rwa [List.getElem?_set_ne (Ne.symm same)] at kept
      exact registered.live other c' old live
  bound := registered.bound
  filled := registered.filled
  own := registered.own
  nodup := registered.nodup

/-- Publish never touches the map. -/
theorem Registered.publishers (registered : Registered h) (publishers : List (Publisher α)) :
    Registered { h with publishers := publishers } :=
  ⟨registered.coherent, registered.live, registered.bound, registered.filled, registered.own,
    registered.nodup⟩

theorem Registered.deliver (registered : Registered h) (here : h.chans[ch]? = some c) (msg : α) :
    Registered (h.deliver ch c msg) := by
  unfold Hub.deliver
  split
  · exact ⟨registered.coherent, registered.live, registered.bound, registered.filled,
      registered.own, registered.nodup⟩
  · split
    · exact registered.setChan here rfl Iff.rfl
    · exact registered

theorem Registered.step (registered : Registered h) {label : Label α}
    (taken : step h label = some next) : Registered next := by
  cases step_move taken with
  | subscribe => exact registered.subscribe _
  | removed here => exact registered.remove here
  | closed here removed => exact registered.setChan here rfl (by simp [removed])
  | called => exact registered.publishers _
  | turned | picked => exact registered.publishers _
  | sent held here => exact (registered.deliver here _).publishers _
  | received here waiting => exact registered.setChan here rfl Iff.rfl

theorem Registered.run (registered : Registered h) {labels : List (Label α)}
    (finished : run h labels = some next) : Registered next :=
  Transition.run_invariant (fun _ _ _ inv taken => inv.step taken) registered finished

end

end NotifyHub.Realtime
