import Mathlib.Data.List.Basic
import Mathlib.Logic.Function.Iterate

/-!
# `Lib.DmaChannel` — channels with a current and a next block

A channel of a peripheral data controller walks through a block of memory, element by element. A second
block may be programmed behind the first; it is loaded as soon as the first is done, so that a channel
with an empty current block and a next one cannot be built. A flag says whether a block was ended since
the registers were written.

## Contents
- **Registers.** `setCurrent` and `setNext` write them, `step` transfers one element.
- **Addresses to come.** `pending` lists them in order: a step takes the first one (`pending_step`), a block
  that is programmed on a free next register comes behind them (`pending_setNext_of_free`).
- **The flag.** `Settled`: a channel that has nothing to transfer has ended a block.
-/

namespace DmaChannel

/-- The registers of a channel. -/
structure Channel (π : Type) where
  pointer : π
  count : Nat
  nextPointer : π
  nextCount : Nat
  ended : Bool
  loaded : count = 0 → nextCount = 0
  deriving DecidableEq

namespace Channel

variable {π : Type}

/-- A channel with these blocks. The next one is loaded if the first is empty. -/
def ofBlocks (pointer : π) (count : Nat) (nextPointer : π) (nextCount : Nat) (ended : Bool) : Channel π :=
  if h : count = 0 then ⟨nextPointer, nextCount, nextPointer, 0, ended, fun _ => rfl⟩
  else ⟨pointer, count, nextPointer, nextCount, ended, fun hzero => absurd hzero h⟩

def setCurrent (c : Channel π) (pointer : π) (count : Nat) : Channel π :=
  ofBlocks pointer count c.nextPointer c.nextCount false

def setNext (c : Channel π) (pointer : π) (count : Nat) : Channel π :=
  ofBlocks c.pointer c.count pointer count false

/-- Nothing is programmed. -/
def reset (pointer : π) : Channel π := ofBlocks pointer 0 pointer 0 true

def done (c : Channel π) : Bool := c.count == 0 && c.nextCount == 0

variable (succ : π → π)

/-- One element: its address, and the channel behind it. -/
def step (c : Channel π) : Option (π × Channel π) :=
  match c.count with
  | 0 => none
  | n + 1 => some (c.pointer, ofBlocks (succ c.pointer) n c.nextPointer c.nextCount (c.ended || n == 0))

/-- The addresses of a block. -/
def block (p : π) : Nat → List π
  | 0 => []
  | n + 1 => p :: block (succ p) n

/-- The addresses to come. -/
def pending (c : Channel π) : List π := block succ c.pointer c.count ++ block succ c.nextPointer c.nextCount

/-- A channel that has nothing to transfer has ended a block. -/
def Settled (c : Channel π) : Prop := c.count = 0 → c.ended = true

variable {succ} {c : Channel π}

/-! ## Blocks -/

@[simp] theorem length_block (p : π) (n : Nat) : (block succ p n).length = n := by
  induction n generalizing p with
  | zero => rfl
  | succ n ih => rw [block, List.length_cons, ih]

theorem pending_ofBlocks (p q : π) (n m : Nat) (ended : Bool) :
    (ofBlocks p n q m ended).pending succ = block succ p n ++ block succ q m := by
  unfold ofBlocks
  split
  · rename_i hzero
    subst hzero
    exact List.append_nil _
  · rfl

theorem getElem?_block (p : π) (n i : Nat) :
    (block succ p n)[i]? = if i < n then some (succ^[i] p) else none := by
  induction n generalizing p i with
  | zero => rfl
  | succ n ih =>
      cases i with
      | zero => rfl
      | succ i =>
          rw [block, List.getElem?_cons_succ, ih, Function.iterate_succ_apply]
          simp only [Nat.add_lt_add_iff_right]

theorem current_setCurrent (p : π) {n : Nat} (hn : 0 < n) :
    (c.setCurrent p n).pointer = p ∧ (c.setCurrent p n).count = n := by
  unfold setCurrent ofBlocks
  rw [dif_neg (Nat.ne_of_gt hn)]
  exact ⟨rfl, rfl⟩

/-- A current block stays where it is while the next one is written. -/
theorem current_setCurrent_setNext (p q : π) {n : Nat} (hn : 0 < n) (m : Nat) :
    ((c.setCurrent p n).setNext q m).pointer = p ∧ ((c.setCurrent p n).setNext q m).count = n := by
  obtain ⟨hpointer, hcount⟩ := current_setCurrent (c := c) p hn
  unfold setNext ofBlocks
  rw [hcount, dif_neg (Nat.ne_of_gt hn)]
  exact ⟨hpointer, rfl⟩

/-! ## Addresses to come -/

theorem pending_setCurrent_reset (q p : π) (n : Nat) :
    ((reset q).setCurrent p n).pending succ = block succ p n := by
  rw [setCurrent, pending_ofBlocks]
  exact List.append_nil _

theorem pending_setNext (p : π) (n : Nat) :
    (c.setNext p n).pending succ = block succ c.pointer c.count ++ block succ p n :=
  pending_ofBlocks ..

theorem pending_setCurrent_setNext (p q : π) {n : Nat} (hn : 0 < n) (m : Nat) :
    ((c.setCurrent p n).setNext q m).pending succ = block succ p n ++ block succ q m := by
  obtain ⟨hpointer, hcount⟩ := current_setCurrent (c := c) p hn
  rw [pending_setNext, hpointer, hcount]

theorem pending_setNext_of_free (hfree : c.nextCount = 0) (p : π) (n : Nat) :
    (c.setNext p n).pending succ = c.pending succ ++ block succ p n := by
  rw [pending_setNext, pending, hfree, block, List.append_nil]

theorem done_iff : c.done = true ↔ c.pending succ = [] := by
  rw [done, Bool.and_eq_true, beq_iff_eq, beq_iff_eq, pending, List.append_eq_nil_iff,
    ← List.length_eq_zero_iff, ← List.length_eq_zero_iff, length_block, length_block]

theorem count_of_done (h : c.done = true) : c.count = 0 := by
  rw [done, Bool.and_eq_true, beq_iff_eq] at h
  exact h.1

theorem done_setNext (p : π) {n : Nat} (hn : 0 < n) : (c.setNext p n).done = false := by
  unfold setNext ofBlocks done
  split
  · rw [Bool.and_eq_false_iff]
    exact Or.inl (beq_eq_false_iff_ne.mpr (Nat.ne_of_gt hn))
  · rename_i hcount
    rw [Bool.and_eq_false_iff]
    exact Or.inl (beq_eq_false_iff_ne.mpr hcount)

/-- A step takes the first address. -/
theorem pending_step {p : π} {c' : Channel π} (h : c.step succ = some (p, c')) :
    c.pending succ = p :: c'.pending succ := by
  unfold step at h
  cases hcount : c.count with
  | zero =>
      rw [hcount] at h
      cases h
  | succ n =>
      rw [hcount] at h
      obtain ⟨rfl, rfl⟩ := Prod.mk.inj (Option.some.inj h)
      rw [pending_ofBlocks, pending, hcount, block, List.cons_append]

/-- There is no step where there are no addresses. -/
theorem pending_of_step_none (h : c.step succ = none) : c.pending succ = [] := by
  unfold step at h
  cases hcount : c.count with
  | zero => rw [pending, hcount, c.loaded hcount, block, block, List.append_nil]
  | succ n =>
      rw [hcount] at h
      cases h

/-! ## The flag -/

theorem settled_step {p : π} {c' : Channel π} (h : c.step succ = some (p, c')) : c'.Settled := by
  unfold step at h
  cases hcount : c.count with
  | zero =>
      rw [hcount] at h
      cases h
  | succ n =>
      rw [hcount] at h
      obtain ⟨-, rfl⟩ := Prod.mk.inj (Option.some.inj h)
      intro hzero
      unfold ofBlocks at hzero ⊢
      split
      · rename_i hn
        rw [hn]
        exact Bool.or_true _
      · rename_i hn
        rw [dif_neg hn] at hzero
        exact absurd hzero hn

theorem settled_setNext (p : π) {n : Nat} (hn : 0 < n) : (c.setNext p n).Settled := by
  intro hzero
  unfold setNext ofBlocks at hzero
  split at hzero
  · exact absurd hzero (Nat.ne_of_gt hn)
  · rename_i hcount
    exact absurd hzero hcount

theorem settled_setCurrent (p : π) {n : Nat} (hn : 0 < n) : (c.setCurrent p n).Settled := by
  intro hzero
  unfold setCurrent ofBlocks at hzero
  rw [dif_neg (Nat.ne_of_gt hn)] at hzero
  exact absurd hzero (Nat.ne_of_gt hn)

end Channel

end DmaChannel
