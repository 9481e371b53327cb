import Mathlib.Logic.Function.Basic

/-!
# `Lib.SlotStore` — a store whose slots are used again

Entries lie in slots under an address; a slot that is freed takes another entry later, so an address does
not identify an entry. Each entry therefore has a number that is given out once. `Live a n` says that the
slot `a` has the entry `n` now, and `Holds a e` that it has the entry `e` with its content. Two entries
that are live under one address are the same (`Live.id_unique`), and an entry is live under one address
only (`Live.address_unique`), which is what the frame lemmas rest on.
-/

/-- An entry: its number and what it contains. -/
structure SlotStore.Entry (α : Type) where
  id : Nat
  content : α
  deriving DecidableEq, Repr

/-- A store of entries with the number of the next one. -/
structure SlotStore (α : Type) where
  slots : Nat → Option (SlotStore.Entry α)
  next : Nat
  id_lt : ∀ {a e}, slots a = some e → e.id < next
  id_inj : ∀ {a b e f}, slots a = some e → slots b = some f → e.id = f.id → a = b

namespace SlotStore

variable {α : Type}

def empty : SlotStore α where
  slots := fun _ => none
  next := 0
  id_lt := fun h => by cases h
  id_inj := fun h => by cases h

/-- Put a new entry into a slot. -/
def add (s : SlotStore α) (a : Nat) (x : α) : SlotStore α where
  slots := Function.update s.slots a (some ⟨s.next, x⟩)
  next := s.next + 1
  id_lt := by
    intro b e h
    by_cases hb : b = a
    · subst hb
      rw [Function.update_self] at h
      obtain rfl := Option.some.inj h
      exact Nat.lt_succ_self _
    · rw [Function.update_of_ne hb] at h
      exact Nat.lt_succ_of_lt (s.id_lt h)
  id_inj := by
    intro b c e f he hf hid
    by_cases hb : b = a
    · by_cases hc : c = a
      · rw [hb, hc]
      · -- the new number is above that of every other entry
        rw [hb, Function.update_self] at he
        rw [Function.update_of_ne hc] at hf
        obtain rfl := Option.some.inj he
        exact absurd (s.id_lt hf) (by rw [← hid]; exact Nat.lt_irrefl _)
    · rw [Function.update_of_ne hb] at he
      by_cases hc : c = a
      · rw [hc, Function.update_self] at hf
        obtain rfl := Option.some.inj hf
        exact absurd (s.id_lt he) (by rw [hid]; exact Nat.lt_irrefl _)
      · rw [Function.update_of_ne hc] at hf
        exact s.id_inj he hf hid

/-- Free a slot. -/
def delete (s : SlotStore α) (a : Nat) : SlotStore α where
  slots := Function.update s.slots a none
  next := s.next
  id_lt := by
    intro b e h
    by_cases hb : b = a
    · rw [hb, Function.update_self] at h
      cases h
    · rw [Function.update_of_ne hb] at h
      exact s.id_lt h
  id_inj := by
    intro b c e f he hf hid
    by_cases hb : b = a
    · rw [hb, Function.update_self] at he
      cases he
    · by_cases hc : c = a
      · rw [hc, Function.update_self] at hf
        cases hf
      · rw [Function.update_of_ne hb] at he
        rw [Function.update_of_ne hc] at hf
        exact s.id_inj he hf hid

/-- Change the content of a slot. -/
def modify (s : SlotStore α) (a : Nat) (f : α → α) : SlotStore α where
  slots := Function.update s.slots a ((s.slots a).map fun e => ⟨e.id, f e.content⟩)
  next := s.next
  id_lt := by
    intro b e h
    by_cases hb : b = a
    · rw [hb, Function.update_self] at h
      obtain ⟨e', he', rfl⟩ := Option.map_eq_some_iff.mp h
      have hlt := s.id_lt he'
      exact hlt
    · rw [Function.update_of_ne hb] at h
      exact s.id_lt h
  id_inj := by
    have hold : ∀ {b e}, Function.update s.slots a
        ((s.slots a).map fun e => ⟨e.id, f e.content⟩) b = some e →
        ∃ e', s.slots b = some e' ∧ e'.id = e.id := by
      intro b e h
      by_cases hb : b = a
      · rw [hb, Function.update_self] at h
        obtain ⟨e', he', rfl⟩ := Option.map_eq_some_iff.mp h
        exact ⟨e', hb ▸ he', rfl⟩
      · rw [Function.update_of_ne hb] at h
        exact ⟨e, h, rfl⟩
    intro b c e f' he hf hid
    obtain ⟨e', he', hide⟩ := hold he
    obtain ⟨f'', hf', hidf⟩ := hold hf
    exact s.id_inj he' hf' (hide.trans (hid.trans hidf.symm))

/-- The slot has this entry. -/
def Holds (s : SlotStore α) (a : Nat) (e : Entry α) : Prop := s.slots a = some e

/-- The slot has the entry with this number. -/
def Live (s : SlotStore α) (a n : Nat) : Prop := ∃ x, s.Holds a ⟨n, x⟩

variable {s : SlotStore α} {a b m n : Nat} {e : Entry α} {x : α} {f : α → α}

theorem Holds.live (h : s.Holds a e) : s.Live a e.id := ⟨e.content, h⟩

theorem Live.lt_next (h : s.Live a n) : n < s.next := by
  obtain ⟨x, hx⟩ := h
  exact s.id_lt hx

theorem Live.id_unique (h : s.Live a m) (h' : s.Live a n) : m = n := by
  obtain ⟨x, hx⟩ := h
  obtain ⟨y, hy⟩ := h'
  exact congrArg Entry.id (Option.some.inj (hx.symm.trans hy))

theorem Live.address_unique (h : s.Live a n) (h' : s.Live b n) : a = b := by
  obtain ⟨x, hx⟩ := h
  obtain ⟨y, hy⟩ := h'
  exact s.id_inj hx hy rfl

/-! ## Adding -/

@[simp] theorem next_add : (s.add a x).next = s.next + 1 := rfl

theorem slots_add_self : (s.add a x).slots a = some ⟨s.next, x⟩ := Function.update_self a _ s.slots

theorem slots_add_of_ne (h : b ≠ a) : (s.add a x).slots b = s.slots b :=
  Function.update_of_ne h _ s.slots

theorem holds_add : (s.add a x).Holds a ⟨s.next, x⟩ := slots_add_self

theorem Holds.add (h : s.Holds b e) (hfree : s.slots a = none) : (s.add a x).Holds b e := by
  have hne : b ≠ a := by
    rintro rfl
    rw [Holds, hfree] at h
    cases h
  exact (slots_add_of_ne hne).trans h

theorem Live.add (h : s.Live b n) (hfree : s.slots a = none) : (s.add a x).Live b n := by
  obtain ⟨y, hy⟩ := h
  exact ⟨y, hy.add hfree⟩

/-- What is live when an entry has been added is the entry, or has been live before. -/
theorem live_of_add (h : (s.add a x).Live b n) : n = s.next ∨ s.Live b n := by
  obtain ⟨y, hy⟩ := h
  by_cases hb : b = a
  · rw [Holds, hb, slots_add_self] at hy
    exact .inl (congrArg Entry.id (Option.some.inj hy)).symm
  · rw [Holds, slots_add_of_ne hb] at hy
    exact .inr ⟨y, hy⟩

/-! ## Deleting -/

@[simp] theorem next_delete : (s.delete a).next = s.next := rfl

theorem slots_delete_self : (s.delete a).slots a = none := Function.update_self a _ s.slots

theorem slots_delete_of_ne (h : b ≠ a) : (s.delete a).slots b = s.slots b :=
  Function.update_of_ne h _ s.slots

theorem Holds.delete (h : s.Holds b e) (hne : b ≠ a) : (s.delete a).Holds b e :=
  (slots_delete_of_ne hne).trans h

theorem Live.delete (h : s.Live b n) (hne : b ≠ a) : (s.delete a).Live b n := by
  obtain ⟨x, hx⟩ := h
  exact ⟨x, hx.delete hne⟩

theorem live_of_delete (h : (s.delete a).Live b n) : s.Live b n ∧ b ≠ a := by
  obtain ⟨x, hx⟩ := h
  by_cases hb : b = a
  · rw [Holds, hb, slots_delete_self] at hx
    cases hx
  · rw [Holds, slots_delete_of_ne hb] at hx
    exact ⟨⟨x, hx⟩, hb⟩

/-- An entry that is deleted is live nowhere. -/
theorem not_live_delete (h : s.Live a n) : ¬ (s.delete a).Live b n := fun hlive =>
  (live_of_delete hlive).2 ((live_of_delete hlive).1.address_unique h)

/-! ## Modifying -/

@[simp] theorem next_modify : (s.modify a f).next = s.next := rfl

theorem slots_modify_self :
    (s.modify a f).slots a = (s.slots a).map fun e => ⟨e.id, f e.content⟩ :=
  Function.update_self a _ s.slots

theorem slots_modify_of_ne (h : b ≠ a) : (s.modify a f).slots b = s.slots b :=
  Function.update_of_ne h _ s.slots

theorem Holds.modify (h : s.Holds b e) (hne : b ≠ a) : (s.modify a f).Holds b e :=
  (slots_modify_of_ne hne).trans h

theorem live_modify : (s.modify a f).Live b n ↔ s.Live b n := by
  by_cases hb : b = a
  · subst hb
    constructor
    · rintro ⟨x, hx⟩
      rw [Holds, slots_modify_self] at hx
      obtain ⟨e, he, heq⟩ := Option.map_eq_some_iff.mp hx
      obtain rfl : e.id = n := congrArg Entry.id heq
      exact ⟨e.content, he⟩
    · rintro ⟨x, hx⟩
      refine ⟨f x, ?_⟩
      rw [Holds, slots_modify_self, hx]
      rfl
  · simp only [Live, Holds, slots_modify_of_ne hb]

end SlotStore
