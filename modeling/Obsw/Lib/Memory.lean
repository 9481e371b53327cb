import Mathlib.Data.List.Basic
import Mathlib.Data.List.TakeDrop

/-!
# `Lib.Memory` — cell-addressed memories

A memory is a function from addresses to cells. Two ways to write a run of cells: `program`, which
combines the old cell with the new one (a flash cell can only lose bits, an SRAM cell is replaced),
and `store`, the instance that replaces. Everything later needs is the *frame* (cells outside the run
are unchanged) and the *content* (cells inside the run hold what was written).

`Holds m a xs` says that the list `xs` lies in memory from address `a`. Appending in the list is
appending in memory (`holds_append`), which is what a copy loop does one bucket at a time.
-/

namespace Memory

/-- A memory: one cell for each address. -/
abbrev Mem (α : Type) := Nat → α

variable {α : Type}

/-! ## Writing a run of cells -/

/-- Write `bs` from address `a`, each cell becoming `f old new`. -/
def program (f : α → α → α) (m : Mem α) (a : Nat) (bs : List α) : Mem α := fun i =>
  if a ≤ i then
    match bs[i - a]? with
    | some b => f (m i) b
    | none => m i
  else m i

/-- Write `bs` from address `a`, replacing what was there. -/
def store (m : Mem α) (a : Nat) (bs : List α) : Mem α := program (fun _ new => new) m a bs

/-- Set `n` cells from address `a` to `v`. -/
def fill (m : Mem α) (a n : Nat) (v : α) : Mem α := store m a (List.replicate n v)

/-- Read `n` cells from address `a`. -/
def load (m : Mem α) (a n : Nat) : List α := (List.range n).map fun i => m (a + i)

/-! ## Frame and content of a write -/

theorem program_below {f : α → α → α} {m : Mem α} {a i : Nat} {bs : List α} (h : i < a) :
    program f m a bs i = m i := by
  simp [program, Nat.not_le.mpr h]

theorem program_above {f : α → α → α} {m : Mem α} {a i : Nat} {bs : List α}
    (h : a + bs.length ≤ i) : program f m a bs i = m i := by
  have hn : bs[i - a]? = none := List.getElem?_eq_none (by omega)
  simp [program, hn]

/-- A write leaves every cell outside its range unchanged. -/
theorem program_frame {f : α → α → α} {m : Mem α} {a i : Nat} {bs : List α}
    (h : i < a ∨ a + bs.length ≤ i) : program f m a bs i = m i := by
  rcases h with h | h
  · exact program_below h
  · exact program_above h

theorem program_at {f : α → α → α} {m : Mem α} {a i : Nat} {bs : List α} (h : i < bs.length) :
    program f m a bs (a + i) = f (m (a + i)) bs[i] := by
  have hs : bs[i]? = some bs[i] := List.getElem?_eq_getElem h
  simp only [program, Nat.le_add_right, if_true, Nat.add_sub_cancel_left, hs]

theorem store_frame {m : Mem α} {a i : Nat} {bs : List α} (h : i < a ∨ a + bs.length ≤ i) :
    store m a bs i = m i := program_frame h

theorem store_at {m : Mem α} {a i : Nat} {bs : List α} (h : i < bs.length) :
    store m a bs (a + i) = bs[i] := program_at h

/-- Where every cell takes the written value, a write replaces. -/
theorem program_eq_store {f : α → α → α} {m : Mem α} {a : Nat} {bs : List α}
    (h : ∀ i (hi : i < bs.length), f (m (a + i)) bs[i] = bs[i]) :
    program f m a bs = store m a bs := by
  funext j
  by_cases hj : a ≤ j ∧ j < a + bs.length
  · obtain ⟨i, rfl⟩ := Nat.exists_eq_add_of_le hj.1
    have hi : i < bs.length := by omega
    rw [program_at hi, store_at hi, h i hi]
  · have hout : j < a ∨ a + bs.length ≤ j := by omega
    rw [program_frame hout, store_frame hout]

@[simp] theorem program_nil {f : α → α → α} {m : Mem α} {a : Nat} : program f m a [] = m := by
  funext i
  simp [program]

@[simp] theorem store_nil {m : Mem α} {a : Nat} : store m a [] = m := program_nil

/-! ## Reading back -/

@[simp] theorem load_length (m : Mem α) (a n : Nat) : (load m a n).length = n := by simp [load]

theorem load_getElem {m : Mem α} {a n i : Nat} (h : i < (load m a n).length) :
    (load m a n)[i] = m (a + i) := by simp [load]

/-- Two ranges with the same cells read the same. -/
theorem load_eq_load {m m' : Mem α} {a b n : Nat} (h : ∀ i < n, m' (b + i) = m (a + i)) :
    load m' b n = load m a n := by
  apply List.ext_getElem
  · simp
  · intro i h₁ h₂
    rw [load_getElem h₁, load_getElem h₂]
    exact h i (by simpa using h₁)

/-- A read depends only on the cells of its range. -/
theorem load_congr {m m' : Mem α} {a n : Nat} (h : ∀ i < n, m' (a + i) = m (a + i)) :
    load m' a n = load m a n := load_eq_load h

/-- Reading a range disjoint from a write gives what was there before. -/
theorem load_program_disjoint {f : α → α → α} {m : Mem α} {a b n : Nat} {bs : List α}
    (h : b + n ≤ a ∨ a + bs.length ≤ b) : load (program f m a bs) b n = load m b n :=
  load_congr fun i hi => program_frame (by omega)

theorem load_store_disjoint {m : Mem α} {a b n : Nat} {bs : List α}
    (h : b + n ≤ a ∨ a + bs.length ≤ b) : load (store m a bs) b n = load m b n :=
  load_program_disjoint h

/-- Lists that leave the same in whatever memory they are stored are the same. -/
theorem eq_of_store_eq [Nontrivial α] {a : Nat} {xs ys : List α} (h : ∀ m, store m a xs = store m a ys) :
    xs = ys := by
  have hle : ∀ {xs ys : List α}, (∀ m, store m a xs = store m a ys) → ys.length ≤ xs.length := by
    intro xs ys h
    by_contra hlt
    have hlt : xs.length < ys.length := Nat.not_le.mp hlt
    obtain ⟨other, hother⟩ := exists_ne ys[xs.length]
    have hat := congrFun (h fun _ => other) (a + xs.length)
    rw [store_frame (Or.inr (Nat.le_refl _)), store_at hlt] at hat
    exact hother hat
  have hlength : xs.length = ys.length := Nat.le_antisymm (hle fun m => (h m).symm) (hle h)
  obtain ⟨other, _⟩ := exists_pair_ne α
  refine List.ext_getElem hlength fun i hx hy => ?_
  have hat := congrFun (h fun _ => other) (a + i)
  rwa [store_at hx, store_at hy] at hat

/-- Reading the range that was just written gives the written list. -/
theorem load_store_same (m : Mem α) (a : Nat) (bs : List α) :
    load (store m a bs) a bs.length = bs := by
  apply List.ext_getElem
  · simp
  · intro i h₁ h₂
    rw [load_getElem h₁, store_at h₂]

/-- A read splits at any point of its range. -/
theorem load_add (m : Mem α) (a n k : Nat) :
    load m a (n + k) = load m a n ++ load m (a + n) k := by
  simp [load, List.range_add, Function.comp_def, Nat.add_assoc]

/-! ## A list lying in memory -/

/-- The list `xs` lies in memory from address `a`. -/
def Holds (m : Mem α) (a : Nat) (xs : List α) : Prop := load m a xs.length = xs

@[simp] theorem holds_nil (m : Mem α) (a : Nat) : Holds m a [] := rfl

theorem holds_iff {m : Mem α} {a : Nat} {xs : List α} :
    Holds m a xs ↔ ∀ i (h : i < xs.length), m (a + i) = xs[i] := by
  constructor
  · intro h i hi
    rw [← load_getElem (m := m) (n := xs.length) (by simpa using hi)]
    exact List.getElem_of_eq h _
  · intro h
    apply List.ext_getElem
    · simp
    · intro i h₁ h₂
      rw [load_getElem h₁]
      exact h i h₂

/-- Appending in the list is appending in memory. -/
theorem holds_append {m : Mem α} {a : Nat} {xs ys : List α} :
    Holds m a (xs ++ ys) ↔ Holds m a xs ∧ Holds m (a + xs.length) ys := by
  unfold Holds
  rw [List.length_append, load_add]
  constructor
  · intro h
    exact List.append_inj h (load_length m a xs.length)
  · rintro ⟨hx, hy⟩
    rw [hx, hy]

/-- What lies in memory survives a change outside its range. -/
theorem holds_congr {m m' : Mem α} {a : Nat} {xs : List α} (h : Holds m a xs)
    (heq : ∀ i < xs.length, m' (a + i) = m (a + i)) : Holds m' a xs :=
  (load_congr heq).trans h

theorem holds_program_disjoint {f : α → α → α} {m : Mem α} {a b : Nat} {xs bs : List α}
    (h : Holds m a xs) (hd : a + xs.length ≤ b ∨ b + bs.length ≤ a) :
    Holds (program f m b bs) a xs :=
  holds_congr h fun _ hi => program_frame (by omega)

theorem holds_store (m : Mem α) (a : Nat) (bs : List α) : Holds (store m a bs) a bs :=
  load_store_same m a bs

/-- **Bucket step of a copy.** If the first `n` entries of `xs` lie in memory and the next `k` are
    written behind them, the first `n + k` lie in memory. -/
theorem holds_take_store {m : Mem α} {a n k : Nat} {xs : List α} (hn : n ≤ xs.length)
    (h : Holds m a (xs.take n)) :
    Holds (store m (a + n) ((xs.drop n).take k)) a (xs.take (n + k)) := by
  have hlen : (xs.take n).length = n := by simp [hn]
  rw [List.take_add, holds_append, hlen]
  exact ⟨holds_program_disjoint h (by omega), holds_store _ _ _⟩

end Memory
