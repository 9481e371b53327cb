import Mathlib.Data.List.Rotate
import Mathlib.Data.List.Nodup
import Mathlib.Data.List.TakeWhile

/-!
# `Lib.Rounds` — a list that is served in turn

A list with an index: the entries up to the index have been served, those behind it are ahead. `next` moves the
index on, and from the end to the first entry. A new entry goes in front of the index, so that it is the last
one to be served but for the entry at the index.

The `order` of service is a rotation of the list, and `next` rotates it by one (`order_next`). An entry that
waits is served at the latest when all in front of it have been (`Waits.bound`).
-/

/-- A list with an index: the entry at the index is the last one of `served`. -/
structure Rounds (α : Type) where
  served : List α
  ahead : List α
  deriving DecidableEq, Repr

namespace Rounds

variable {α : Type}

/-- The entries, from the first to the last. -/
def items (r : Rounds α) : List α := r.served ++ r.ahead

/-- The entries in the order in which they are served next. -/
def order (r : Rounds α) : List α := r.ahead ++ r.served

/-- The entry at the index; none if the index is at the end. -/
def index (r : Rounds α) : Option α := r.served.getLast?

def empty : Rounds α := ⟨[], []⟩

/-- A new entry in front of the index. -/
def insertEnd (r : Rounds α) (x : α) : Rounds α :=
  match r.served.getLast? with
  | none => ⟨[], r.ahead ++ [x]⟩
  | some i => ⟨r.served.dropLast ++ [x, i], r.ahead⟩

/-- A new entry behind those with values up to its own, from the first one on. -/
def insert (value : α → Nat) (r : Rounds α) (x : α) : Rounds α :=
  if r.served.all (value · ≤ value x) then
    ⟨r.served, r.ahead.takeWhile (value · ≤ value x) ++ x :: r.ahead.dropWhile (value · ≤ value x)⟩
  else ⟨r.served.takeWhile (value · ≤ value x) ++ x :: r.served.dropWhile (value · ≤ value x), r.ahead⟩

/-- An entry is taken out; the index moves back from it. -/
def remove [DecidableEq α] (r : Rounds α) (x : α) : Rounds α := ⟨r.served.erase x, r.ahead.erase x⟩

/-- The index moves on. -/
def next (r : Rounds α) : Rounds α :=
  match r.ahead with
  | y :: ahead => ⟨r.served ++ [y], ahead⟩
  | [] =>
    match r.served with
    | [] => ⟨[], []⟩
    | y :: served => ⟨[y], served⟩

/-! ## What the operations do to the entries -/

theorem insertEnd_nil (ahead : List α) (x : α) :
    (⟨[], ahead⟩ : Rounds α).insertEnd x = ⟨[], ahead ++ [x]⟩ := rfl

theorem insertEnd_concat (front ahead : List α) (i x : α) :
    (⟨front ++ [i], ahead⟩ : Rounds α).insertEnd x = ⟨front ++ [x, i], ahead⟩ := by
  simp [insertEnd]

theorem items_insertEnd_perm (r : Rounds α) (x : α) : (r.insertEnd x).items.Perm (x :: r.items) := by
  obtain ⟨served, ahead⟩ := r
  rcases List.eq_nil_or_concat served with rfl | ⟨front, i, rfl⟩
  · rw [insertEnd_nil]
    exact List.perm_append_singleton x ahead
  · rw [List.concat_eq_append, insertEnd_concat]
    simp only [items, List.append_assoc, List.cons_append, List.nil_append]
    exact List.perm_middle

@[simp] theorem mem_items_insertEnd {r : Rounds α} {x y : α} :
    y ∈ (r.insertEnd x).items ↔ y = x ∨ y ∈ r.items := by
  rw [(items_insertEnd_perm r x).mem_iff, List.mem_cons]

theorem items_insert (value : α → Nat) (r : Rounds α) (x : α) : (r.insert value x).items =
    r.items.takeWhile (value · ≤ value x) ++ x :: r.items.dropWhile (value · ≤ value x) := by
  unfold insert
  split_ifs with hall
  · have hserved : ∀ y ∈ r.served, decide (value y ≤ value x) = true := List.all_eq_true.mp hall
    simp only [items, List.takeWhile_append_of_pos hserved, List.dropWhile_append_of_pos hserved,
      List.append_assoc]
  · -- the first larger value is in front of the index
    have htake : (r.served.takeWhile (value · ≤ value x)).length ≠ r.served.length := by
      intro heq
      refine hall (List.all_eq_true.mpr ?_)
      exact List.takeWhile_eq_self_iff.mp (List.IsPrefix.eq_of_length (List.takeWhile_prefix _) heq)
    have hdrop : (r.served.dropWhile (value · ≤ value x)).isEmpty = false := by
      rw [List.isEmpty_eq_false_iff]
      exact fun hnil => hall (List.all_eq_true.mpr (List.dropWhile_eq_nil_iff.mp hnil))
    rw [items, items, List.takeWhile_append, if_neg htake, List.dropWhile_append, hdrop]
    simp

theorem items_insert_perm (value : α → Nat) (r : Rounds α) (x : α) :
    (r.insert value x).items.Perm (x :: r.items) := by
  rw [items_insert]
  refine List.perm_middle.trans (List.Perm.cons x ?_)
  rw [List.takeWhile_append_dropWhile]

@[simp] theorem mem_items_insert {value : α → Nat} {r : Rounds α} {x y : α} :
    y ∈ (r.insert value x).items ↔ y = x ∨ y ∈ r.items := by
  rw [(items_insert_perm value r x).mem_iff, List.mem_cons]

/-- A new entry has its place between what is in front of the index and the index. -/
theorem items_insertEnd (r : Rounds α) (x : α) : ∃ front behind, r.items = front ++ behind ∧
    (r.insertEnd x).items = front ++ x :: behind ∧ (r.insertEnd x).index = r.index ∧
    ∀ e, r.index.getD e = behind.head?.getD e := by
  obtain ⟨served, ahead⟩ := r
  rcases List.eq_nil_or_concat served with rfl | ⟨front, i, rfl⟩
  · exact ⟨ahead, [], by simp [items], by simp [insertEnd_nil, items], rfl, fun e => rfl⟩
  · rw [List.concat_eq_append, insertEnd_concat]
    exact ⟨front, i :: ahead, by simp [items], by simp [items], by simp [index], fun e => by simp [index]⟩

theorem index_insertEnd (r : Rounds α) (x : α) : (r.insertEnd x).index = r.index := by
  obtain ⟨_, _, _, _, hindex, _⟩ := items_insertEnd r x
  exact hindex

theorem items_foldl_insertEnd_perm (r : Rounds α) (new : List α) :
    (new.foldl insertEnd r).items.Perm (new ++ r.items) := by
  induction new generalizing r with
  | nil => exact List.Perm.refl _
  | cons x new ih => exact (ih _).trans ((items_insertEnd_perm r x).append_left new |>.trans List.perm_middle)

/-- **Insertion by value** keeps a list sorted. -/
theorem sorted_insert {value : α → Nat} {r : Rounds α} {x : α}
    (h : r.items.Pairwise fun y z => value y ≤ value z) :
    (r.insert value x).items.Pairwise fun y z => value y ≤ value z := by
  rw [items_insert]
  generalize r.items = l at h
  induction l with
  | nil => exact List.pairwise_singleton _ _
  | cons y l ih =>
      obtain ⟨hy, hl⟩ := List.pairwise_cons.mp h
      by_cases hle : value y ≤ value x
      · rw [List.takeWhile_cons_of_pos (by simpa using hle), List.dropWhile_cons_of_pos (by simpa using hle),
          List.cons_append]
        refine List.pairwise_cons.mpr ⟨fun z hz => ?_, ih hl⟩
        have hperm : (l.takeWhile (value · ≤ value x) ++ x :: l.dropWhile (value · ≤ value x)).Perm
            (x :: l) := by
          refine List.perm_middle.trans (List.Perm.cons x ?_)
          rw [List.takeWhile_append_dropWhile]
        rcases List.mem_cons.mp (hperm.mem_iff.mp hz) with rfl | hz
        · exact hle
        · exact hy z hz
      · rw [List.takeWhile_cons_of_neg (by simpa using hle), List.dropWhile_cons_of_neg (by simpa using hle),
          List.nil_append]
        refine List.pairwise_cons.mpr ⟨fun z hz => ?_, h⟩
        rcases List.mem_cons.mp hz with rfl | hz
        · omega
        · have hyz := hy z hz
          omega

/-- What was in front of one another stays so. -/
theorem items_sublist_insert (value : α → Nat) (r : Rounds α) (x : α) :
    r.items.Sublist (r.insert value x).items := by
  rw [items_insert]
  calc r.items = r.items.takeWhile (value · ≤ value x) ++ r.items.dropWhile (value · ≤ value x) :=
        List.takeWhile_append_dropWhile.symm
    List.Sublist _ _ := (List.Sublist.refl _).append (List.sublist_cons_self x _)

/-- An entry goes behind those of the same value. -/
theorem behind_insert {value : α → Nat} {r : Rounds α} {x y : α}
    (h : r.items.Pairwise fun y z => value y ≤ value z) (hy : y ∈ r.items) (hle : value y ≤ value x) :
    [y, x].Sublist (r.insert value x).items := by
  have hmem : y ∈ r.items.takeWhile (value · ≤ value x) := by
    generalize r.items = l at h hy
    induction l with
    | nil => cases hy
    | cons z l ih =>
        obtain ⟨hz, hl⟩ := List.pairwise_cons.mp h
        have hzx : value z ≤ value x := by
          rcases List.mem_cons.mp hy with rfl | hy
          · exact hle
          · exact (hz y hy).trans hle
        rw [List.takeWhile_cons_of_pos (by simpa using hzx)]
        rcases List.mem_cons.mp hy with rfl | hy
        · exact List.mem_cons_self
        · exact List.mem_cons_of_mem z (ih hl hy)
  rw [items_insert]
  exact (List.singleton_sublist.mpr hmem).append (List.singleton_sublist.mpr List.mem_cons_self)

/-- Of two entries of a list without duplicates, the one in front stays in front in a part of the list. -/
theorem sublist_pair {x y : α} {l l' : List α} (h : l'.Sublist l) (hnodup : l.Nodup) (hx : x ∈ l')
    (hy : y ∈ l') (hxy : [x, y].Sublist l) : [x, y].Sublist l' := by
  induction h with
  | slnil => cases hx
  | @cons l' l a hsub ih =>
      obtain ⟨ha, hnodup⟩ := List.nodup_cons.mp hnodup
      have hxa : x ≠ a := fun heq => ha (heq ▸ hsub.subset hx)
      refine ih hnodup hx hy ?_
      rcases List.sublist_cons_iff.mp hxy with hxy | ⟨r, hr, _⟩
      · exact hxy
      · exact absurd (List.cons_eq_cons.mp hr).1 hxa
  | @cons_cons l' l a hsub ih =>
      obtain ⟨ha, hnodup⟩ := List.nodup_cons.mp hnodup
      rcases List.sublist_cons_iff.mp hxy with hxy | ⟨r, hr, hrl⟩
      · -- both are behind the first entry
        have hxa : x ≠ a := fun heq => ha (heq ▸ hxy.subset List.mem_cons_self)
        have hya : y ≠ a := fun heq => ha (heq ▸ hxy.subset (List.mem_cons_of_mem x List.mem_cons_self))
        exact (ih hnodup ((List.mem_cons.mp hx).resolve_left hxa) ((List.mem_cons.mp hy).resolve_left hya)
          hxy).cons a
      · obtain ⟨rfl, rfl⟩ := List.cons_eq_cons.mp hr
        have hya : y ≠ x := fun heq => ha (heq ▸ hrl.subset List.mem_cons_self)
        exact (List.singleton_sublist.mpr ((List.mem_cons.mp hy).resolve_left hya)).cons_cons x

theorem index_insert (value : α → Nat) (r : Rounds α) (x : α) : (r.insert value x).index = r.index := by
  unfold insert index
  split_ifs with hall
  · rfl
  · have hsplit := List.takeWhile_append_dropWhile (p := (value · ≤ value x)) (l := r.served)
    rcases List.eq_nil_or_concat (r.served.dropWhile (value · ≤ value x)) with hnil | ⟨l, i, hl⟩
    · exact absurd (List.all_eq_true.mpr (List.dropWhile_eq_nil_iff.mp hnil)) hall
    · -- the last one in front of the index stays the last
      rw [List.concat_eq_append] at hl
      rw [hl] at hsplit ⊢
      rw [← hsplit, ← List.cons_append, ← List.append_assoc, ← List.append_assoc, List.getLast?_concat,
        List.getLast?_concat]

@[simp] theorem items_next (r : Rounds α) : r.next.items = r.items := by
  obtain ⟨served, ahead⟩ := r
  cases ahead with
  | cons y ahead => simp [next, items]
  | nil => cases served <;> simp [next, items]

theorem order_perm (r : Rounds α) : r.order.Perm r.items := List.perm_append_comm

/-- **Rotation.** `next` serves the first one in the order and puts it last. -/
theorem order_next (r : Rounds α) : r.next.order = r.order.rotate 1 := by
  obtain ⟨served, ahead⟩ := r
  cases ahead with
  | cons y ahead => simp [next, order]
  | nil => cases served <;> simp [next, order]

theorem index_next (r : Rounds α) : r.next.index = r.order.head? := by
  obtain ⟨served, ahead⟩ := r
  cases ahead with
  | cons y ahead => simp [next, order, index]
  | nil => cases served <;> simp [next, order, index]

section Remove

variable [DecidableEq α]

theorem items_remove (r : Rounds α) (x : α) (hnodup : r.items.Nodup) :
    (r.remove x).items = r.items.erase x := by
  unfold items at hnodup
  by_cases hx : x ∈ r.served
  · have hnot : x ∉ r.ahead := fun ha => List.disjoint_of_nodup_append hnodup hx ha
    rw [items, items, remove, List.erase_append_left _ hx, List.erase_of_not_mem hnot]
  · rw [items, items, remove, List.erase_append_right _ hx, List.erase_of_not_mem hx]

theorem mem_items_remove {r : Rounds α} {x y : α} (hnodup : r.items.Nodup) :
    y ∈ (r.remove x).items ↔ y ≠ x ∧ y ∈ r.items := by
  rw [items_remove r x hnodup, hnodup.mem_erase_iff]

/-- What is around an entry stays, and the index moves back from it. -/
theorem items_remove_split (r : Rounds α) {x : α} (hx : x ∈ r.items) (hnodup : r.items.Nodup) :
    ∃ front behind, r.items = front ++ x :: behind ∧ (r.remove x).items = front ++ behind ∧
      ∀ e, e ≠ x → (r.remove x).index.getD e =
        if r.index.getD e = x then front.getLast?.getD e else r.index.getD e := by
  obtain ⟨served, ahead⟩ := r
  simp only [items, List.mem_append] at hx hnodup ⊢
  have hdisjoint := List.disjoint_of_nodup_append hnodup
  by_cases hserved : x ∈ served
  · obtain ⟨s, s', rfl⟩ := List.append_of_mem hserved
    have hnot : x ∉ ahead := fun ha => hdisjoint hserved ha
    have hnodups := (List.nodup_append.mp (List.nodup_append.mp hnodup).1)
    have hs : x ∉ s := fun hs => hnodups.2.2 x hs x List.mem_cons_self rfl
    have herase : (s ++ x :: s').erase x = s ++ s' := by
      rw [List.erase_append_right _ hs, List.erase_cons_head]
    refine ⟨s, s' ++ ahead, by simp, ?_, fun e he => ?_⟩
    · rw [remove, herase, List.erase_of_not_mem hnot, List.append_assoc]
    · rw [remove, herase]
      show (s ++ s').getLast?.getD e = if (s ++ x :: s').getLast?.getD e = x then s.getLast?.getD e
        else (s ++ x :: s').getLast?.getD e
      rcases List.eq_nil_or_concat s' with rfl | ⟨s'', y, rfl⟩
      · simp
      · have hy : y ≠ x := by
          rintro rfl
          have hnot := (List.nodup_cons.mp hnodups.2.1).1
          exact hnot (by simp)
        have hlast : (s ++ x :: s''.concat y).getLast? = some y := by
          rw [List.concat_eq_append, ← List.cons_append, ← List.append_assoc, List.getLast?_concat]
        rw [hlast, List.concat_eq_append, ← List.append_assoc, List.getLast?_concat, Option.getD_some,
          if_neg hy]
  · have hahead := hx.resolve_left hserved
    obtain ⟨t, t', rfl⟩ := List.append_of_mem hahead
    have hnodupa := List.nodup_append.mp (List.nodup_append.mp hnodup).2.1
    have ht : x ∉ t := fun ht => hnodupa.2.2 x ht x List.mem_cons_self rfl
    refine ⟨served ++ t, t', by simp, ?_, fun e he => ?_⟩
    · rw [remove, List.erase_of_not_mem hserved, List.erase_append_right _ ht, List.erase_cons_head,
        List.append_assoc]
    · rw [remove, List.erase_of_not_mem hserved]
      show served.getLast?.getD e = if served.getLast?.getD e = x then (served ++ t).getLast?.getD e
        else served.getLast?.getD e
      rw [if_neg]
      cases hlast : served.getLast? with
      | none => exact he
      | some y =>
          rintro rfl
          exact hserved (List.mem_of_getLast? hlast)

end Remove

/-! ## Waiting -/

section Waiting

variable [DecidableEq α]

/-- How many are served in front of an entry. -/
def waiting (r : Rounds α) (p : α) : Nat := r.order.idxOf p

/-- Runs in which an entry waits: it is not served and not taken out. Counted are the entries that are served,
    and those that go in front of it while it is at the index. -/
inductive Waits (p : α) (r : Rounds α) : Nat → Nat → Rounds α → Prop
  | refl : Waits p r 0 0 r
  | next (r' selections passed) : Waits p r selections passed r' → r'.order.head? ≠ some p →
      Waits p r (selections + 1) passed r'.next
  | insertEnd (r' selections passed x) : Waits p r selections passed r' → x ∉ r'.items →
      Waits p r selections (if r'.index = some p then passed + 1 else passed) (r'.insertEnd x)
  | remove (r' selections passed x) : Waits p r selections passed r' → x ≠ p →
      Waits p r selections passed (r'.remove x)

variable {p : α} {r r' : Rounds α}

theorem waiting_next (hp : p ∈ r.items) (hhead : r.order.head? ≠ some p) :
    r.next.waiting p + 1 = r.waiting p := by
  have hmem : p ∈ r.order := (order_perm r).mem_iff.mpr hp
  rw [waiting, waiting, order_next]
  cases hr : r.order with
  | nil =>
      rw [hr] at hmem
      cases hmem
  | cons y l =>
      rw [hr] at hmem hhead
      have hne : y ≠ p := fun heq => hhead (heq ▸ rfl)
      have hl : p ∈ l := (List.mem_cons.mp hmem).resolve_left (Ne.symm hne)
      rw [List.rotate_cons_succ, List.rotate_zero, List.idxOf_append_of_mem hl, List.idxOf_cons_ne l hne]

theorem waiting_insertEnd {x : α} (hp : p ∈ r.items) (hnodup : r.items.Nodup) :
    (r.insertEnd x).waiting p ≤ r.waiting p + if r.index = some p then 1 else 0 := by
  obtain ⟨served, ahead⟩ := r
  rcases List.eq_nil_or_concat served with rfl | ⟨front, i, rfl⟩
  · have hmem : p ∈ ahead := by simpa [items] using hp
    rw [insertEnd_nil]
    simp only [waiting, order, List.append_nil, List.idxOf_append_of_mem hmem]
    exact Nat.le_add_right _ _
  · rw [List.concat_eq_append] at hp hnodup ⊢
    rw [insertEnd_concat]
    have hindex : (⟨front ++ [i], ahead⟩ : Rounds α).index = some i := by simp [index]
    rw [hindex]
    simp only [waiting, order, ← List.append_assoc]
    by_cases hmem : p ∈ ahead ++ front
    · rw [List.append_assoc _ front, List.append_assoc _ front, ← List.append_assoc ahead front [x, i],
        ← List.append_assoc ahead front [i], List.idxOf_append_of_mem hmem, List.idxOf_append_of_mem hmem]
      exact Nat.le_add_right _ _
    · have hpi : p = i := by
        simp only [items, List.mem_append, List.mem_singleton] at hp hmem
        tauto
      subst hpi
      rw [List.idxOf_append_of_notMem hmem, List.idxOf_append_of_notMem hmem, if_pos rfl,
        List.idxOf_cons_self]
      by_cases hx : x = p
      · rw [hx, List.idxOf_cons_self]
        exact Nat.le_succ _
      · rw [List.idxOf_cons_ne _ hx, List.idxOf_cons_self]

theorem idxOf_erase_le {l : List α} {x : α} (hne : x ≠ p) : (l.erase x).idxOf p ≤ l.idxOf p := by
  induction l with
  | nil => exact Nat.le_refl _
  | cons y l ih =>
      by_cases hy : y = x
      · subst hy
        rw [List.erase_cons_head, List.idxOf_cons_ne l hne]
        exact Nat.le_succ _
      · rw [List.erase_cons_tail (by simpa using hy)]
        by_cases hyp : y = p
        · rw [hyp, List.idxOf_cons_self]
          exact Nat.zero_le _
        · rw [List.idxOf_cons_ne _ hyp, List.idxOf_cons_ne _ hyp]
          exact Nat.succ_le_succ ih

theorem waiting_remove {x : α} (hne : x ≠ p) : (r.remove x).waiting p ≤ r.waiting p := by
  simp only [waiting, order, remove]
  by_cases hp : p ∈ r.ahead
  · have hp' : p ∈ r.ahead.erase x := (List.mem_erase_of_ne hne.symm).mpr hp
    rw [List.idxOf_append_of_mem hp, List.idxOf_append_of_mem hp']
    exact idxOf_erase_le hne
  · have hp' : p ∉ r.ahead.erase x := fun h => hp (List.mem_of_mem_erase h)
    rw [List.idxOf_append_of_notMem hp, List.idxOf_append_of_notMem hp']
    exact Nat.add_le_add (List.erase_sublist.length_le) (idxOf_erase_le hne)

/-- Entries that go in front of the index pass the one at the index, and no other. -/
theorem Waits.arrive {selections passed : Nat} (h : Waits p r selections passed r') (new : List α)
    (hnodup : new.Nodup) (hnew : ∀ x ∈ new, x ∉ r'.items) :
    Waits p r selections (passed + if r'.index = some p then new.length else 0) (new.foldl Rounds.insertEnd r') := by
  induction new generalizing r' passed with
  | nil =>
      rw [List.length_nil, ite_self, Nat.add_zero]
      exact h
  | cons x new ih =>
      obtain ⟨hx, hnodup⟩ := List.nodup_cons.mp hnodup
      have hstep := ih (h.insertEnd r' selections passed x (hnew x List.mem_cons_self)) hnodup fun y hy => by
        rw [mem_items_insertEnd, not_or]
        exact ⟨fun heq => hx (heq ▸ hy), hnew y (List.mem_cons_of_mem x hy)⟩
      rw [index_insertEnd] at hstep
      refine Eq.mp (congrArg (fun n => Waits p r selections n _) ?_) hstep
      rw [List.length_cons]
      split_ifs <;> omega

/-- **Fairness.** An entry that waits has at most as many in front of it as at first, and those that went in front
    of it while it was at the index; each one that is served is one less. -/
theorem Waits.bound {selections passed : Nat} (h : Waits p r selections passed r') (hp : p ∈ r.items)
    (hnodup : r.items.Nodup) :
    selections + r'.waiting p ≤ r.waiting p + passed ∧ p ∈ r'.items ∧ r'.items.Nodup := by
  induction h with
  | refl => exact ⟨by omega, hp, hnodup⟩
  | next r' selections passed _ hhead ih =>
      obtain ⟨hbound, hp', hnodup'⟩ := ih
      have hnext := waiting_next hp' hhead
      rw [items_next]
      exact ⟨by omega, hp', hnodup'⟩
  | insertEnd r' selections passed x _ hx ih =>
      obtain ⟨hbound, hp', hnodup'⟩ := ih
      have hinsert := waiting_insertEnd (x := x) hp' hnodup'
      refine ⟨?_, mem_items_insertEnd.mpr (Or.inr hp'), ?_⟩
      · split_ifs at hinsert ⊢ <;> omega
      · exact (items_insertEnd_perm r' x).nodup_iff.mpr (List.nodup_cons.mpr ⟨hx, hnodup'⟩)
  | remove r' selections passed x _ hne ih =>
      obtain ⟨hbound, hp', hnodup'⟩ := ih
      have hremove := waiting_remove (r := r') hne
      refine ⟨by omega, (mem_items_remove hnodup').mpr ⟨hne.symm, hp'⟩, ?_⟩
      rw [items_remove r' x hnodup']
      exact hnodup'.erase x

end Waiting

end Rounds
