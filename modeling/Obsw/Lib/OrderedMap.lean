import Mathlib.Data.Finset.Card
import Mathlib.Data.List.TakeWhile
import Mathlib.Order.Basic

/-!
# `Lib.OrderedMap` — bounded ordered containers

Multimaps and maps with a fixed capacity, kept as lists of pairs that are ordered by their keys, the way
an iterator walks over them. The order and the bound are fields, so that a container out of order or
too large cannot be built.

## Contents
- **Multimap.** `insert` behind the pairs with the same key, the `range` of a key by its bounds, and
  `eraseAt` a position. `bag` forgets the order: `bag_insert`, `bag_eq_of_range`.
- **Map.** `set` a key, `erase` a key, `eraseAt` a position and `keep` the pairs with a property. `table` is
  the map as a function of the keys: `table_set`, `table_erase`, `table_discard`.
-/

namespace OrderedMap

variable {K V : Type} [LinearOrder K]

/-! ## Multimaps -/

/-- A multimap, by its pairs in the order of their keys. -/
structure Multimap (K V : Type) [LinearOrder K] where
  capacity : Nat
  pairs : List (K × V)
  ordered : pairs.Pairwise (fun a b => a.1 ≤ b.1)
  bounded : pairs.length ≤ capacity

/-- A pair in front of the first one with a greater key. -/
def insertPair (key : K) (value : V) : List (K × V) → List (K × V)
  | [] => [(key, value)]
  | p :: ps => if p.1 ≤ key then p :: insertPair key value ps else (key, value) :: p :: ps

theorem insertPair_perm (key : K) (value : V) (ps : List (K × V)) :
    (insertPair key value ps).Perm ((key, value) :: ps) := by
  induction ps with
  | nil => exact .refl _
  | cons p ps ih =>
      unfold insertPair
      split
      · exact (ih.cons p).trans (.swap _ _ _)
      · exact .refl _

theorem insertPair_ordered (key : K) (value : V) {ps : List (K × V)}
    (h : ps.Pairwise (fun a b => a.1 ≤ b.1)) :
    (insertPair key value ps).Pairwise (fun a b => a.1 ≤ b.1) := by
  induction ps with
  | nil => exact List.pairwise_singleton _ _
  | cons p ps ih =>
      rw [List.pairwise_cons] at h
      unfold insertPair
      split
      · rename_i hle
        refine List.pairwise_cons.mpr ⟨fun q hq => ?_, ih h.2⟩
        rcases List.mem_cons.mp ((insertPair_perm key value ps).mem_iff.mp hq) with rfl | hq
        · exact hle
        · exact h.1 q hq
      · rename_i hlt
        have hless := le_of_lt (not_le.mp hlt)
        refine List.pairwise_cons.mpr ⟨fun q hq => ?_, List.pairwise_cons.mpr h⟩
        rcases List.mem_cons.mp hq with rfl | hq
        · exact hless
        · exact hless.trans (h.1 q hq)

omit [LinearOrder K] in
theorem length_lt_of_ne {pairs : List (K × V)} {capacity : Nat} (hbounded : pairs.length ≤ capacity)
    (h : ¬ (pairs.length == capacity) = true) : pairs.length < capacity := by
  apply lt_of_le_of_ne hbounded
  intro heq
  exact h (beq_iff_eq.mpr heq)

namespace Multimap

/-- What is in the multimap, in no order. -/
def bag (m : Multimap K V) : Multiset (K × V) := m.pairs

def full (m : Multimap K V) : Bool := m.pairs.length == m.capacity

/-- How many pairs have the key. -/
def count (m : Multimap K V) (key : K) : Nat := m.pairs.countP (·.1 = key)

/-- The position of the first pair whose key is not less. -/
def lowerBound (m : Multimap K V) (key : K) : Nat := (m.pairs.takeWhile (·.1 < key)).length

/-- The position of the first pair whose key is greater. -/
def upperBound (m : Multimap K V) (key : K) : Nat := (m.pairs.takeWhile (·.1 ≤ key)).length

theorem length_lt_of_not_full {m : Multimap K V} (h : ¬ m.full = true) :
    m.pairs.length < m.capacity := length_lt_of_ne m.bounded h

/-- Add a pair to a multimap that is not full. -/
def insert (m : Multimap K V) (h : ¬ m.full = true) (key : K) (value : V) : Multimap K V where
  capacity := m.capacity
  pairs := insertPair key value m.pairs
  ordered := insertPair_ordered key value m.ordered
  bounded := by
    rw [(insertPair_perm key value m.pairs).length_eq]
    exact length_lt_of_not_full h

/-- Remove the pair at a position. -/
def eraseAt (m : Multimap K V) (position : Nat) : Multimap K V where
  capacity := m.capacity
  pairs := m.pairs.eraseIdx position
  ordered := m.ordered.sublist (List.eraseIdx_sublist _ _)
  bounded := (List.eraseIdx_sublist _ _).length_le.trans m.bounded

def clear (m : Multimap K V) : Multimap K V := ⟨m.capacity, [], .nil, Nat.zero_le _⟩

@[simp] theorem bag_insert {m : Multimap K V} (h : ¬ m.full = true) (key : K) (value : V) :
    (m.insert h key value).bag = (key, value) ::ₘ m.bag :=
  Quot.sound (insertPair_perm key value m.pairs)

@[simp] theorem bag_clear (m : Multimap K V) : m.clear.bag = 0 := rfl

/-- The bounds of a key cut the pairs into those with a smaller key, those with the key, and the others.
    -/
theorem pairs_split (m : Multimap K V) (key : K) :
    m.pairs = m.pairs.take (m.lowerBound key) ++ (m.pairs.filter (·.1 = key) ++
        m.pairs.drop (m.upperBound key)) ∧
      m.lowerBound key ≤ m.pairs.length ∧
      m.lowerBound key + (m.pairs.filter (·.1 = key)).length = m.upperBound key := by
  unfold lowerBound upperBound
  have hordered := m.ordered
  generalize m.pairs = pairs at hordered ⊢
  induction pairs with
  | nil => exact ⟨rfl, le_rfl, rfl⟩
  | cons p ps ih =>
      rw [List.pairwise_cons] at hordered
      obtain ⟨hsplit, hlength, hcount⟩ := ih hordered.2
      rcases lt_trichotomy p.1 key with hless | hsame | hgreater
      · -- the first pair is in front of both bounds
        rw [List.takeWhile_cons_of_pos (by simpa using hless),
          List.takeWhile_cons_of_pos (by simpa using hless.le),
          List.filter_cons_of_neg (by simpa using hless.ne)]
        simp only [List.length_cons, List.take_succ_cons, List.drop_succ_cons, List.cons_append]
        exact ⟨congrArg (p :: ·) hsplit, by omega, by omega⟩
      · -- from here on no key is smaller
        have hnone : ps.takeWhile (fun q => decide (q.1 < key)) = [] := by
          cases ps with
          | nil => rfl
          | cons q qs =>
              have hle := hordered.1 q List.mem_cons_self
              exact List.takeWhile_cons_of_neg (by simpa using hsame ▸ hle)
        rw [hnone] at hsplit hcount
        rw [List.takeWhile_cons_of_neg (by simp [hsame]),
          List.takeWhile_cons_of_pos (by simp [hsame]), List.filter_cons_of_pos (by simpa using hsame)]
        simp only [List.length_nil, List.take_zero, List.nil_append, List.length_cons,
          List.drop_succ_cons, List.cons_append, Nat.zero_add] at hsplit hcount ⊢
        exact ⟨congrArg (p :: ·) hsplit, Nat.zero_le _, by omega⟩
      · -- the key is not there
        have hnone : ps.filter (fun q => decide (q.1 = key)) = [] := by
          apply List.filter_eq_nil_iff.mpr
          intro q hq
          have hle := hordered.1 q hq
          simpa using (hgreater.trans_le hle).ne'
        rw [List.takeWhile_cons_of_neg (by simpa using hgreater.le),
          List.takeWhile_cons_of_neg (by simpa using hgreater),
          List.filter_cons_of_neg (by simpa using hgreater.ne'), hnone]
        exact ⟨rfl, Nat.zero_le _, rfl⟩

/-- The pairs from a position on, and before another one. -/
def range (m : Multimap K V) (first last : Nat) : List (K × V) := (m.pairs.take last).drop first

/-- Between the bounds of a key are its pairs. -/
theorem range_bounds (m : Multimap K V) (key : K) :
    m.range (m.lowerBound key) (m.upperBound key) = m.pairs.filter (·.1 = key) := by
  obtain ⟨hsplit, hlength, hcount⟩ := m.pairs_split key
  have htake : (m.pairs.take (m.lowerBound key)).length = m.lowerBound key :=
    List.length_take_of_le hlength
  unfold range
  rw [← hcount]
  generalize m.pairs.filter (·.1 = key) = found at *
  generalize m.pairs.take (m.lowerBound key) = before at *
  rw [hsplit, ← htake, List.take_length_add_append, List.drop_left, List.take_left]

theorem count_eq_zero_iff (m : Multimap K V) (key : K) :
    m.count key = 0 ↔ m.bag.filter (·.1 = key) = 0 := by
  unfold count bag
  rw [List.countP_eq_length_filter, List.length_eq_zero_iff, Multiset.filter_coe, Multiset.coe_eq_zero]

theorem notMem_of_count {m : Multimap K V} {key : K} {value : V} (h : m.count key = 0) :
    (key, value) ∉ m.pairs := fun hmem =>
  List.countP_eq_zero.mp h (key, value) hmem (decide_eq_true rfl)

variable [DecidableEq V]

/-- Among pairs with one key, the first one with a value is the pair of both. -/
theorem eraseP_value {key : K} (value : V) {found : List (K × V)} (h : ∀ p ∈ found, p.1 = key) :
    found.eraseP (·.2 = value) = found.erase (key, value) := by
  induction found with
  | nil => rfl
  | cons p ps ih =>
      obtain rfl := h p List.mem_cons_self
      by_cases hvalue : p.2 = value
      · subst hvalue
        rw [List.eraseP_cons_of_pos (by simp), List.erase_cons_head]
      · have hne : ¬ (p == (p.1, value)) = true := by simpa [Prod.ext_iff] using hvalue
        rw [List.eraseP_cons_of_neg (by simpa using hvalue), List.erase_cons_tail hne,
          ih fun q hq => h q (List.mem_cons_of_mem _ hq)]

/-- If a pair is removed from the range of its key, it is removed once. -/
theorem bag_eq_of_range (m : Multimap K V) (key : K) (value : V) :
    ((m.pairs.take (m.lowerBound key) ++ ((m.pairs.filter (·.1 = key)).eraseP (·.2 = value) ++
        m.pairs.drop (m.upperBound key)) : List (K × V)) : Multiset (K × V)) =
      m.bag.erase (key, value) := by
  have hsplit := (m.pairs_split key).1
  have hmem : (key, value) ∈ m.pairs.filter (·.1 = key) ↔ (key, value) ∈ m.pairs := by simp
  have herase : (m.pairs.filter (·.1 = key)).eraseP (·.2 = value) =
      (m.pairs.filter (·.1 = key)).erase (key, value) :=
    eraseP_value value fun p hp => by simpa using (List.mem_filter.mp hp).2
  rw [herase]
  unfold bag
  generalize m.pairs.filter (·.1 = key) = found at *
  generalize m.pairs.take (m.lowerBound key) = before at *
  generalize m.pairs.drop (m.upperBound key) = after at *
  by_cases h : (key, value) ∈ found
  · -- one copy goes from the range, which is one copy from the bag
    have hfound : (found : Multiset (K × V)) = (key, value) ::ₘ (found.erase (key, value) : List _) :=
      Quot.sound (List.perm_cons_erase h)
    rw [hsplit]
    simp only [← Multiset.coe_add]
    rw [hfound, Multiset.cons_add, Multiset.add_cons, Multiset.erase_cons_head]
  · rw [List.erase_of_not_mem h, Multiset.erase_of_notMem (fun hin => h (hmem.mpr hin)), hsplit]

end Multimap

/-! ## Tables -/

/-- A map as a function of the keys, with the keys it has. -/
structure Table (K V : Type) where
  lookup : K → Option V
  keys : Finset K
  mem_keys : ∀ key, key ∈ keys ↔ (lookup key).isSome = true

namespace Table

omit [LinearOrder K] in
/-- A table is what it gives for the keys. -/
theorem ext_lookup {t t' : Table K V} (h : ∀ key value, t.lookup key = some value ↔
    t'.lookup key = some value) : t = t' := by
  have hlookup : t.lookup = t'.lookup := funext fun key => Option.ext (h key)
  have hkeys : t.keys = t'.keys := Finset.ext fun key => by
    rw [t.mem_keys, t'.mem_keys, hlookup]
  obtain ⟨lookup, keys, mem_keys⟩ := t
  obtain ⟨lookup', keys', mem_keys'⟩ := t'
  obtain rfl : lookup = lookup' := hlookup
  obtain rfl : keys = keys' := hkeys
  rfl

omit [LinearOrder K] in
theorem mem_keys_empty (key : K) : key ∈ (∅ : Finset K) ↔ (none : Option V).isSome = true := by simp

def empty : Table K V := ⟨fun _ => none, ∅, mem_keys_empty⟩

/-- Give a key a value. -/
def set (t : Table K V) (key : K) (value : V) : Table K V where
  lookup := Function.update t.lookup key (some value)
  keys := insert key t.keys
  mem_keys other := by
    rw [Finset.mem_insert, t.mem_keys]
    by_cases h : other = key
    · subst h
      simp
    · simp [h]

/-- Remove a key. -/
def erase (t : Table K V) (key : K) : Table K V where
  lookup := Function.update t.lookup key none
  keys := t.keys.erase key
  mem_keys other := by
    rw [Finset.mem_erase, t.mem_keys]
    by_cases h : other = key
    · subst h
      simp
    · simp [h]

variable [DecidableEq V]

/-- The keys with a value. -/
def keysOf (t : Table K V) (value : V) : Finset K := t.keys.filter fun key => t.lookup key = some value

/-- Remove the keys with a value. -/
def discard (t : Table K V) (value : V) : Table K V where
  lookup key := (t.lookup key).filter fun other => other ≠ value
  keys := t.keys.filter fun key => t.lookup key ≠ some value
  mem_keys key := by
    rw [Finset.mem_filter, t.mem_keys]
    cases t.lookup key with
    | none => simp
    | some other => by_cases h : other = value <;> simp [Option.filter, h]

end Table

/-! ## Maps -/

/-- A map, by its pairs in the order of their keys. -/
structure Map (K V : Type) [LinearOrder K] where
  capacity : Nat
  pairs : List (K × V)
  ordered : pairs.Pairwise (fun a b => a.1 < b.1)
  bounded : pairs.length ≤ capacity

/-- The value of a key, in place of the one it has or as a new pair in its place. -/
def setPair (key : K) (value : V) : List (K × V) → List (K × V)
  | [] => [(key, value)]
  | p :: ps =>
    if p.1 < key then p :: setPair key value ps
    else if p.1 = key then (key, value) :: ps
    else (key, value) :: p :: ps

theorem setPair_length_le (key : K) (value : V) (ps : List (K × V)) :
    (setPair key value ps).length ≤ ps.length + 1 := by
  induction ps with
  | nil => exact le_rfl
  | cons p ps ih =>
      unfold setPair
      split_ifs
      · exact Nat.succ_le_succ ih
      · exact Nat.le_succ _
      · exact le_rfl

theorem mem_setPair (key : K) (value : V) {ps : List (K × V)}
    (h : ps.Pairwise (fun a b => a.1 < b.1)) (p : K × V) :
    p ∈ setPair key value ps ↔ p = (key, value) ∨ p.1 ≠ key ∧ p ∈ ps := by
  induction ps with
  | nil => simp [setPair]
  | cons q qs ih =>
      rw [List.pairwise_cons] at h
      unfold setPair
      split_ifs with hless hsame
      · rw [List.mem_cons, ih h.2, List.mem_cons]
        constructor
        · rintro (rfl | rfl | ⟨hne, hmem⟩)
          · exact .inr ⟨hless.ne, .inl rfl⟩
          · exact .inl rfl
          · exact .inr ⟨hne, .inr hmem⟩
        · rintro (rfl | ⟨hne, rfl | hmem⟩)
          · exact .inr (.inl rfl)
          · exact .inl rfl
          · exact .inr (.inr ⟨hne, hmem⟩)
      · rw [List.mem_cons, List.mem_cons]
        constructor
        · rintro (rfl | hmem)
          · exact .inl rfl
          · exact .inr ⟨hsame ▸ (h.1 p hmem).ne', .inr hmem⟩
        · rintro (rfl | ⟨hne, rfl | hmem⟩)
          · exact .inl rfl
          · exact absurd hsame hne
          · exact .inr hmem
      · have hgreater := lt_of_le_of_ne (not_lt.mp hless) (Ne.symm hsame)
        rw [List.mem_cons]
        refine or_congr_right ⟨fun hmem => ⟨?_, hmem⟩, fun h => h.2⟩
        rcases List.mem_cons.mp hmem with rfl | hmem
        · exact hgreater.ne'
        · exact (hgreater.trans (h.1 p hmem)).ne'

theorem setPair_ordered (key : K) (value : V) {ps : List (K × V)}
    (h : ps.Pairwise (fun a b => a.1 < b.1)) :
    (setPair key value ps).Pairwise (fun a b => a.1 < b.1) := by
  induction ps with
  | nil => exact List.pairwise_singleton _ _
  | cons p ps ih =>
      have hps := List.pairwise_cons.mp h
      unfold setPair
      split_ifs with hless hsame
      · refine List.pairwise_cons.mpr ⟨fun q hq => ?_, ih hps.2⟩
        rcases (mem_setPair key value hps.2 q).mp hq with rfl | ⟨_, hq⟩
        · exact hless
        · exact hps.1 q hq
      · exact List.pairwise_cons.mpr ⟨fun q hq => hsame ▸ hps.1 q hq, hps.2⟩
      · have hgreater := lt_of_le_of_ne (not_lt.mp hless) (Ne.symm hsame)
        refine List.pairwise_cons.mpr ⟨fun q hq => ?_, h⟩
        rcases List.mem_cons.mp hq with rfl | hq
        · exact hgreater
        · exact hgreater.trans (hps.1 q hq)

namespace Map

def full (m : Map K V) : Bool := m.pairs.length == m.capacity

/-- How many pairs have the key: one or none. -/
def count (m : Map K V) (key : K) : Nat := m.pairs.countP (·.1 = key)

/-- The value of a key. -/
def get? (m : Map K V) (key : K) : Option V := (m.pairs.find? (·.1 = key)).map Prod.snd

theorem length_lt_of_not_full {m : Map K V} (h : ¬ m.full = true) : m.pairs.length < m.capacity :=
  length_lt_of_ne m.bounded h

/-- Give a key a value, in a map that is not full. -/
def set (m : Map K V) (h : ¬ m.full = true) (key : K) (value : V) : Map K V where
  capacity := m.capacity
  pairs := setPair key value m.pairs
  ordered := setPair_ordered key value m.ordered
  bounded := (setPair_length_le key value m.pairs).trans (length_lt_of_not_full h)

/-- Keep the pairs with a property. -/
def keep (m : Map K V) (property : K × V → Bool) : Map K V where
  capacity := m.capacity
  pairs := m.pairs.filter property
  ordered := m.ordered.filter _
  bounded := (List.length_filter_le _ _).trans m.bounded

def erase (m : Map K V) (key : K) : Map K V := m.keep (·.1 ≠ key)

/-- Remove the pair at a position. -/
def eraseAt (m : Map K V) (position : Nat) : Map K V where
  capacity := m.capacity
  pairs := m.pairs.eraseIdx position
  ordered := m.ordered.sublist (List.eraseIdx_sublist _ _)
  bounded := (List.eraseIdx_sublist _ _).length_le.trans m.bounded

def clear (m : Map K V) : Map K V := ⟨m.capacity, [], .nil, Nat.zero_le _⟩

theorem eq_of_pairs {m m' : Map K V} (hcapacity : m.capacity = m'.capacity)
    (hpairs : m.pairs = m'.pairs) : m = m' := by
  obtain ⟨capacity, pairs, ordered, bounded⟩ := m
  obtain ⟨capacity', pairs', ordered', bounded'⟩ := m'
  obtain rfl : capacity = capacity' := hcapacity
  obtain rfl : pairs = pairs' := hpairs
  rfl

theorem keys_nodup (m : Map K V) : (m.pairs.map Prod.fst).Nodup :=
  (List.pairwise_map.mpr m.ordered).imp ne_of_lt

/-- A key has one value at most. -/
theorem get?_eq_some_iff (m : Map K V) (key : K) (value : V) :
    m.get? key = some value ↔ (key, value) ∈ m.pairs := by
  unfold get?
  have hordered := m.ordered
  generalize m.pairs = pairs at hordered ⊢
  induction pairs with
  | nil => simp
  | cons p ps ih =>
      rw [List.pairwise_cons] at hordered
      by_cases h : p.1 = key
      · rw [List.find?_cons_of_pos (by simpa using h), Option.map_some, Option.some.injEq,
          List.mem_cons]
        constructor
        · rintro rfl
          exact .inl (Prod.ext h.symm rfl)
        · rintro (rfl | hmem)
          · rfl
          · exact absurd (hordered.1 _ hmem) (by simp [h])
      · have hrest : (ps.find? (·.1 = key)).map Prod.snd = some value ↔ (key, value) ∈ ps :=
          ih hordered.2
        rw [List.find?_cons_of_neg (by simpa using h), hrest, List.mem_cons]
        refine ⟨.inr, fun hmem => hmem.resolve_left ?_⟩
        rintro rfl
        exact h rfl

theorem count_eq_zero_iff (m : Map K V) (key : K) : m.count key = 0 ↔ m.get? key = none := by
  rw [Option.eq_none_iff_forall_ne_some]
  refine List.countP_eq_zero.trans ⟨fun h value hvalue => ?_, fun h p hp hkey => ?_⟩
  · exact h (key, value) ((m.get?_eq_some_iff key value).mp hvalue) (decide_eq_true rfl)
  · obtain rfl : p.1 = key := by simpa using hkey
    exact h p.2 ((m.get?_eq_some_iff p.1 p.2).mpr hp)

/-- The map as a table. -/
def table (m : Map K V) : Table K V where
  lookup := m.get?
  keys := (m.pairs.map Prod.fst).toFinset
  mem_keys key := by
    rw [List.mem_toFinset, List.mem_map, Option.isSome_iff_exists]
    constructor
    · rintro ⟨⟨key, value⟩, hmem, rfl⟩
      exact ⟨value, (m.get?_eq_some_iff key value).mpr hmem⟩
    · rintro ⟨value, h⟩
      exact ⟨(key, value), (m.get?_eq_some_iff key value).mp h, rfl⟩

theorem lookup_eq_some_iff (m : Map K V) (key : K) (value : V) :
    m.table.lookup key = some value ↔ (key, value) ∈ m.pairs := m.get?_eq_some_iff key value

theorem card_keys (m : Map K V) : m.table.keys.card = m.pairs.length := by
  show ((m.pairs.map Prod.fst).toFinset).card = _
  rw [List.toFinset_card_of_nodup m.keys_nodup, List.length_map]

@[simp] theorem table_set {m : Map K V} (h : ¬ m.full = true) (key : K) (value : V) :
    (m.set h key value).table = m.table.set key value := by
  refine Table.ext_lookup fun other found => ?_
  rw [lookup_eq_some_iff]
  show (other, found) ∈ setPair key value m.pairs ↔
    Function.update m.table.lookup key (some value) other = some found
  rw [mem_setPair key value m.ordered]
  by_cases hsame : other = key
  · subst hsame
    simp [eq_comm]
  · rw [Function.update_of_ne hsame, lookup_eq_some_iff]
    simp [hsame]

@[simp] theorem table_erase (m : Map K V) (key : K) : (m.erase key).table = m.table.erase key := by
  refine Table.ext_lookup fun other found => ?_
  rw [lookup_eq_some_iff]
  show (other, found) ∈ m.pairs.filter (·.1 ≠ key) ↔
    Function.update m.table.lookup key none other = some found
  by_cases hsame : other = key
  · subst hsame
    simp
  · rw [Function.update_of_ne hsame, lookup_eq_some_iff]
    simp [hsame]

@[simp] theorem table_clear (m : Map K V) : m.clear.table = Table.empty := rfl

variable [DecidableEq V]

@[simp] theorem table_discard (m : Map K V) (value : V) :
    (m.keep (·.2 ≠ value)).table = m.table.discard value := by
  refine Table.ext_lookup fun key found => ?_
  rw [lookup_eq_some_iff]
  show (key, found) ∈ m.pairs.filter (·.2 ≠ value) ↔
    (m.table.lookup key).filter (fun other => other ≠ value) = some found
  rw [Option.filter_eq_some_iff, lookup_eq_some_iff, List.mem_filter]

/-- The keys with a value are as many as the pairs with it. -/
theorem card_keysOf (m : Map K V) (value : V) :
    (m.table.keysOf value).card = m.pairs.countP (·.2 = value) := by
  have hkeys : m.table.keysOf value =
      ((m.pairs.filter (·.2 = value)).map Prod.fst).toFinset := by
    refine Finset.ext fun key => ?_
    rw [Table.keysOf, Finset.mem_filter, lookup_eq_some_iff, List.mem_toFinset, List.mem_map]
    constructor
    · rintro ⟨_, hmem⟩
      exact ⟨(key, value), List.mem_filter.mpr ⟨hmem, by simp⟩, rfl⟩
    · rintro ⟨⟨key, found⟩, hmem, rfl⟩
      obtain ⟨hpair, hvalue⟩ := List.mem_filter.mp hmem
      obtain rfl : found = value := by simpa using hvalue
      exact ⟨List.mem_toFinset.mpr (List.mem_map.mpr ⟨_, hpair, rfl⟩), hpair⟩
  have hnodup : ((m.pairs.filter (·.2 = value)).map Prod.fst).Nodup :=
    m.keys_nodup.sublist (List.filter_sublist.map _)
  rw [hkeys, List.toFinset_card_of_nodup hnodup, List.length_map, List.countP_eq_length_filter]

end Map

end OrderedMap
