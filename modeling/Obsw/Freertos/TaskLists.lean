import Obsw.Freertos.Tasks

/-!
# `Freertos.TaskLists` — the items of the tasks in the lists

Each item is in the list that its container names, once, and in no other (`Wf`); lists in the order of their
values stay sorted (`SortedList`). The operations of `list.c` keep both.
-/

namespace Obsw
namespace Freertos
namespace Kernel

/-- The items are in the lists that their containers name. -/
structure Wf (k : Kernel) : Prop where
  mem : ∀ x n, x ∈ k.items n ↔ k.pxContainer x = some (.list n)
  nodup : ∀ n, (k.items n).Nodup
  named : ∀ x e, k.pxContainer x = some e → ∃ n, e = .list n

/-- The items lie in the order of their values. -/
def SortedList (k : Kernel) (n : ListName) : Prop := (k.items n).Pairwise fun x y => k.value x ≤ k.value y

section Operations

variable {k : Kernel} {n n' : ListName} {x y : Node} {v : Nat}

@[simp] theorem insertEnd_container : (k.insertEnd n x).pxContainer =
    Function.update k.pxContainer x (some (.list n)) := rfl

@[simp] theorem insert_container : (k.insert n x).pxContainer =
    Function.update k.pxContainer x (some (.list n)) := rfl

@[simp] theorem setValue_container : (k.setValue x v).pxContainer = k.pxContainer := rfl

@[simp] theorem remove_container : (k.remove x).pxContainer = Function.update k.pxContainer x none := by
  unfold remove
  cases h : k.pxContainer x with
  | none => exact (Function.update_eq_self_iff.mpr h.symm).symm
  | some e => rfl

theorem insertEnd_items : (k.insertEnd n x).items n' =
    if n' = n then ((k.lists.rounds (.list n)).insertEnd x).items else k.items n' := by
  simp only [items, insertEnd, Contents.call, Function.update_apply, Node.list.injEq]
  split_ifs <;> rfl

theorem insert_items : (k.insert n x).items n' =
    if n' = n then ((k.lists.rounds (.list n)).insert k.value x).items else k.items n' := by
  simp only [items, insert, Contents.call, Function.update_apply, Node.list.injEq]
  split_ifs <;> rfl

@[simp] theorem setValue_items : (k.setValue x v).items n = k.items n := rfl

@[simp] theorem insertEnd_value : (k.insertEnd n x).value y = k.value y := rfl

@[simp] theorem insert_value : (k.insert n x).value y = k.value y := rfl

@[simp] theorem setValue_value : (k.setValue x v).value y = if y = x then v else k.value y :=
  Function.update_apply _ _ _ _

@[simp] theorem remove_value : (k.remove x).value y = k.value y := by
  unfold remove
  cases k.pxContainer x <;> rfl

/-- An item that is in no list has a place in one. -/
theorem Wf.not_mem (h : k.Wf) (hx : k.pxContainer x = none) (n : ListName) : x ∉ k.items n := by
  rw [h.mem, hx]
  intro heq
  cases heq

theorem Wf.insertEnd (h : k.Wf) (hx : k.pxContainer x = none) : (k.insertEnd n x).Wf := by
  constructor
  · intro y n'
    rw [insertEnd_items, insertEnd_container, Function.update_apply]
    by_cases hn : n' = n
    · subst hn
      rw [if_pos rfl, Rounds.mem_items_insertEnd]
      by_cases hy : y = x
      · simp [hy]
      · rw [if_neg hy, or_iff_right hy]
        exact h.mem y n'
    · rw [if_neg hn, h.mem]
      by_cases hy : y = x
      · subst hy
        rw [if_pos rfl, hx]
        exact ⟨fun heq => (by cases heq), fun heq => absurd (Node.list.inj (Option.some.inj heq)).symm hn⟩
      · rw [if_neg hy]
  · intro n'
    rw [insertEnd_items]
    split_ifs
    · exact (Rounds.items_insertEnd_perm _ x).nodup_iff.mpr
        (List.nodup_cons.mpr ⟨h.not_mem hx n, h.nodup n⟩)
    · exact h.nodup n'
  · intro y e
    rw [insertEnd_container, Function.update_apply]
    split_ifs
    · exact fun heq => ⟨n, (Option.some.inj heq).symm⟩
    · exact h.named y e

theorem Wf.insert (h : k.Wf) (hx : k.pxContainer x = none) : (k.insert n x).Wf := by
  constructor
  · intro y n'
    rw [insert_items, insert_container, Function.update_apply]
    by_cases hn : n' = n
    · subst hn
      rw [if_pos rfl, Rounds.mem_items_insert]
      by_cases hy : y = x
      · simp [hy]
      · rw [if_neg hy, or_iff_right hy]
        exact h.mem y n'
    · rw [if_neg hn, h.mem]
      by_cases hy : y = x
      · subst hy
        rw [if_pos rfl, hx]
        exact ⟨fun heq => (by cases heq), fun heq => absurd (Node.list.inj (Option.some.inj heq)).symm hn⟩
      · rw [if_neg hy]
  · intro n'
    rw [insert_items]
    split_ifs
    · exact (Rounds.items_insert_perm _ _ x).nodup_iff.mpr
        (List.nodup_cons.mpr ⟨h.not_mem hx n, h.nodup n⟩)
    · exact h.nodup n'
  · intro y e
    rw [insert_container, Function.update_apply]
    split_ifs
    · exact fun heq => ⟨n, (Option.some.inj heq).symm⟩
    · exact h.named y e

theorem remove_items (h : k.Wf) : (k.remove x).items n = (k.items n).erase x := by
  unfold remove
  cases hx : k.pxContainer x with
  | none => exact (List.erase_of_not_mem (h.not_mem hx n)).symm
  | some e =>
      obtain ⟨n', rfl⟩ := h.named x e hx
      simp only [items, Contents.call, Function.update_apply, Node.list.injEq]
      split_ifs with hn
      · rw [hn]
        exact Rounds.items_remove _ x (h.nodup n')
      · refine (List.erase_of_not_mem fun hmem => hn ?_).symm
        have heq := (h.mem x n).mp hmem
        exact Node.list.inj (Option.some.inj (heq.symm.trans hx))

theorem Wf.remove (h : k.Wf) : (k.remove x).Wf := by
  constructor
  · intro y n'
    rw [remove_items h, (h.nodup n').mem_erase_iff, remove_container, Function.update_apply]
    split_ifs with hy
    · exact ⟨fun hmem => absurd hy hmem.1, fun heq => (by cases heq)⟩
    · rw [and_iff_right hy]
      exact h.mem y n'
  · intro n'
    rw [remove_items h]
    exact (h.nodup n').erase x
  · intro y e
    rw [remove_container, Function.update_apply]
    split_ifs
    · exact fun heq => (by cases heq)
    · exact h.named y e

theorem Wf.setValue (h : k.Wf) : (k.setValue x v).Wf := ⟨h.mem, h.nodup, h.named⟩

/-! ### Sorted lists -/

theorem SortedList.insertEnd (h : k.SortedList n') (hne : n' ≠ n) : (k.insertEnd n x).SortedList n' := by
  unfold SortedList
  rw [insertEnd_items, if_neg hne]
  exact h

theorem SortedList.insert (h : k.SortedList n') : (k.insert n x).SortedList n' := by
  unfold SortedList
  rw [insert_items]
  split_ifs with hn
  · subst hn
    exact Rounds.sorted_insert h
  · exact h

theorem SortedList.remove (hsorted : k.SortedList n) (h : k.Wf) : (k.remove x).SortedList n := by
  unfold SortedList
  rw [remove_items h]
  simp only [remove_value]
  exact List.Pairwise.sublist List.erase_sublist hsorted

theorem SortedList.setValue (hsorted : k.SortedList n) (hx : x ∉ k.items n) :
    (k.setValue x v).SortedList n := by
  refine List.Pairwise.imp_of_mem ?_ hsorted
  intro y z hy hz hyz
  have hyx : y ≠ x := fun heq => hx (heq ▸ hy)
  have hzx : z ≠ x := fun heq => hx (heq ▸ hz)
  rw [setValue_value, setValue_value, if_neg hyx, if_neg hzx]
  exact hyz

/-- The head of a sorted list has the least value. -/
theorem SortedList.head_le (hsorted : k.SortedList n) (hx : (k.items n).head? = some x) (hy : y ∈ k.items n) :
    k.value x ≤ k.value y := by
  unfold SortedList at hsorted
  cases hitems : k.items n with
  | nil =>
      rw [hitems] at hy
      cases hy
  | cons z l =>
      rw [hitems] at hx hy hsorted
      obtain rfl := Option.some.inj hx
      rcases List.mem_cons.mp hy with rfl | hy
      · exact Nat.le_refl _
      · exact (List.pairwise_cons.mp hsorted).1 y hy

end Operations

end Kernel
end Freertos
end Obsw
