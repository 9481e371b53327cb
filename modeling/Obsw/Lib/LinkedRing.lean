import Mathlib.Data.List.Chain
import Mathlib.Data.List.Nodup

/-!
# `Lib.LinkedRing` — nodes that are linked in both directions

Nodes in a row, each linked to the next one and that one back to it (`Linked`). A ring is a row that ends with
the node it begins with (`Ring`). A node is put between two others, or taken out, by four links or two; the
rest of the row stays (`ring_insert`, `ring_remove`).
-/

namespace LinkedRing

variable {α : Type}

/-- Two nodes are linked to each other. -/
def Link (next prev : α → α) (a b : α) : Prop := next a = b ∧ prev b = a

/-- The nodes are linked in a row. -/
def Linked (next prev : α → α) (nodes : List α) : Prop := nodes.IsChain (Link next prev)

/-- The nodes are linked in a ring from `e` around to `e`. -/
def Ring (next prev : α → α) (e : α) (nodes : List α) : Prop := Linked next prev (e :: nodes ++ [e])

variable {next prev next' prev' : α → α} {front behind nodes : List α} {a b x e : α}

theorem linked_append_cons : Linked next prev (front ++ a :: behind) ↔
    Linked next prev (front ++ [a]) ∧ Linked next prev (a :: behind) := List.isChain_split

@[simp] theorem linked_cons_cons : Linked next prev (a :: b :: behind) ↔
    Link next prev a b ∧ Linked next prev (b :: behind) := List.isChain_cons_cons

@[simp] theorem linked_singleton : Linked next prev [a] := List.isChain_singleton a

/-- Links from all nodes but the last, and back from all but the first, are what counts. -/
theorem linked_congr (h : Linked next prev (front ++ [a])) (hnext : ∀ y ∈ front, next' y = next y)
    (hprev : ∀ y ∈ (front ++ [a]).tail, prev' y = prev y) : Linked next' prev' (front ++ [a]) := by
  induction front with
  | nil => exact linked_singleton
  | cons y front ih =>
      cases front with
      | nil =>
          obtain ⟨⟨hy, ha⟩, _⟩ := linked_cons_cons.mp h
          refine linked_cons_cons.mpr ⟨⟨?_, ?_⟩, linked_singleton⟩
          · rw [hnext y List.mem_cons_self, hy]
          · rw [hprev a (List.mem_singleton.mpr rfl), ha]
      | cons z front =>
          obtain ⟨⟨hy, hz⟩, hrest⟩ := linked_cons_cons.mp h
          refine linked_cons_cons.mpr ⟨⟨?_, ?_⟩, ih hrest ?_ ?_⟩
          · rw [hnext y List.mem_cons_self, hy]
          · rw [hprev z List.mem_cons_self, hz]
          · exact fun w hw => hnext w (List.mem_cons_of_mem _ hw)
          · exact fun w hw => hprev w (List.mem_cons_of_mem _ hw)

theorem ring_congr (h : Ring next prev e nodes) (hnext : ∀ y ∈ e :: nodes, next' y = next y)
    (hprev : ∀ y ∈ e :: nodes, prev' y = prev y) : Ring next' prev' e nodes := by
  refine linked_congr h hnext fun y hy => hprev y ?_
  simp only [List.cons_append, List.tail_cons, List.mem_append, List.mem_cons, List.not_mem_nil, or_false] at hy
  exact List.mem_cons.mpr hy.symm

/-- The last node of a row with at least one. -/
theorem exists_last (e : α) (front : List α) :
    ∃ f, e :: front = f ++ [front.getLast?.getD e] := by
  rcases List.eq_nil_or_concat front with rfl | ⟨l, a, rfl⟩
  · exact ⟨[], rfl⟩
  · exact ⟨e :: l, by simp⟩

/-- The first node of a row with at least one. -/
theorem exists_first (e : α) (behind : List α) :
    ∃ g, behind ++ [e] = behind.head?.getD e :: g := by
  cases behind with
  | nil => exact ⟨[], rfl⟩
  | cons b behind => exact ⟨behind ++ [e], rfl⟩

section Ring

variable {f g : List α}

/-- The row in which the last node in front of a place, and the first one behind it, stand out. -/
theorem ring_split (hfront : e :: front = f ++ [a]) (hbehind : behind ++ [e] = b :: g) :
    Ring next prev e (front ++ behind) ↔
      Linked next prev (f ++ [a]) ∧ Link next prev a b ∧ Linked next prev (b :: g) := by
  have hrow : e :: (front ++ behind) ++ [e] = f ++ a :: b :: g := by
    rw [List.cons_append, List.append_assoc, ← List.cons_append, hfront, hbehind, List.append_assoc]
    rfl
  rw [Ring, hrow, linked_append_cons, linked_cons_cons]

/-- The nodes in front of a place have not the same successor, and those behind it not the same predecessor, as the
    two at the place. -/
theorem place_ne (hnodup : (e :: (front ++ behind)).Nodup) (hfront : e :: front = f ++ [a])
    (hbehind : behind ++ [e] = b :: g) :
    (∀ y ∈ f, y ≠ a) ∧ (∀ y ∈ front, y ≠ b) ∧ (∀ y ∈ behind, y ≠ a) ∧ ∀ y ∈ g, y ≠ b := by
  have hsources : (f ++ [a] ++ behind).Nodup := by
    rw [← hfront]
    exact hnodup
  have htargets : (front ++ b :: g).Nodup := by
    rw [← hbehind, ← List.append_assoc]
    exact (List.perm_append_singleton e (front ++ behind)).nodup_iff.mpr hnodup
  have hleft := (List.nodup_append.mp hsources).1
  have hright := (List.nodup_append.mp htargets).2.1
  refine ⟨fun y hy => ?_, fun y hy => ?_, fun y hy heq => ?_, fun y hy heq => ?_⟩
  · exact (List.nodup_append.mp hleft).2.2 y hy a (List.mem_singleton.mpr rfl)
  · exact (List.nodup_append.mp htargets).2.2 y hy b List.mem_cons_self
  · exact (List.nodup_append.mp hsources).2.2 a (List.mem_append_right _ (List.mem_singleton.mpr rfl)) y hy
      heq.symm
  · exact (List.nodup_cons.mp hright).1 (heq ▸ hy)

/-- Two nodes that follow on each other in the ring. -/
theorem Ring.link (h : Ring next prev e (front ++ behind)) (hfront : e :: front = f ++ [a])
    (hbehind : behind ++ [e] = b :: g) : Link next prev a b := ((ring_split hfront hbehind).mp h).2.1

/-- The node that closes the ring, and the first one. -/
theorem Ring.first (h : Ring next prev e nodes) (hfirst : nodes ++ [e] = b :: g) : Link next prev e b := by
  rw [← List.nil_append nodes] at h
  exact h.link (List.nil_append [e]).symm hfirst

/-- The parts of a row on both sides of a place keep their links. -/
theorem sides_congr (hnodup : (e :: (front ++ behind)).Nodup) (hfront : e :: front = f ++ [a])
    (hbehind : behind ++ [e] = b :: g) (hleft : Linked next prev (f ++ [a]))
    (hright : Linked next prev (b :: g)) (hnext : ∀ y ∈ e :: (front ++ behind), y ≠ a → next' y = next y)
    (hprev : ∀ y ∈ e :: (front ++ behind), y ≠ b → prev' y = prev y) :
    Linked next' prev' (f ++ [a]) ∧ Linked next' prev' (b :: g) := by
  obtain ⟨hf, hfrontNe, hbehindNe, hg⟩ := place_ne hnodup hfront hbehind
  have hmemF : ∀ y ∈ f, y ∈ e :: (front ++ behind) := fun y hy => by
    have hy' : y ∈ e :: front := hfront ▸ List.mem_append_left _ hy
    exact List.mem_append_left behind hy'
  have hmemG : ∀ y ∈ g, y ∈ e :: (front ++ behind) := fun y hy => by
    have hy' : y ∈ behind ++ [e] := hbehind ▸ List.mem_cons_of_mem b hy
    simp only [List.mem_append, List.mem_cons, List.not_mem_nil, or_false] at hy' ⊢
    tauto
  constructor
  · refine linked_congr hleft (fun y hy => hnext y (hmemF y hy) (hf y hy)) fun y hy => ?_
    rw [← hfront] at hy
    exact hprev y (List.mem_cons_of_mem _ (List.mem_append_left _ hy)) (hfrontNe y hy)
  · rw [← hbehind] at hright ⊢
    refine linked_congr hright (fun y hy => ?_) fun y hy => ?_
    · exact hnext y (List.mem_cons_of_mem _ (List.mem_append_right _ hy)) (hbehindNe y hy)
    · rw [hbehind] at hy
      exact hprev y (hmemG y hy) (hg y hy)

/-- **Insertion.** Four links put a node between two others. -/
theorem ring_insert (h : Ring next prev e (front ++ behind)) (hnodup : (e :: (front ++ behind)).Nodup)
    (hfront : e :: front = f ++ [a]) (hbehind : behind ++ [e] = b :: g) (hax : Link next' prev' a x)
    (hxb : Link next' prev' x b) (hnext : ∀ y ∈ e :: (front ++ behind), y ≠ a → next' y = next y)
    (hprev : ∀ y ∈ e :: (front ++ behind), y ≠ b → prev' y = prev y) :
    Ring next' prev' e (front ++ x :: behind) := by
  obtain ⟨hleft, _, hright⟩ := (ring_split hfront hbehind).mp h
  obtain ⟨hleft', hright'⟩ := sides_congr hnodup hfront hbehind hleft hright hnext hprev
  have hbehind' : (x :: behind) ++ [e] = x :: (b :: g) := by rw [List.cons_append, hbehind]
  exact (ring_split hfront hbehind').mpr ⟨hleft', hax, linked_cons_cons.mpr ⟨hxb, hright'⟩⟩

/-- **Removal.** Two links leave a node out. -/
theorem ring_remove (h : Ring next prev e (front ++ x :: behind))
    (hnodup : (e :: (front ++ x :: behind)).Nodup) (hfront : e :: front = f ++ [a])
    (hbehind : behind ++ [e] = b :: g) (hab : Link next' prev' a b)
    (hnext : ∀ y ∈ e :: (front ++ behind), y ≠ a → next' y = next y)
    (hprev : ∀ y ∈ e :: (front ++ behind), y ≠ b → prev' y = prev y) :
    Ring next' prev' e (front ++ behind) := by
  have hbehind' : (x :: behind) ++ [e] = x :: (b :: g) := by rw [List.cons_append, hbehind]
  obtain ⟨hleft, _, hright⟩ := (ring_split hfront hbehind').mp h
  have hsub : (e :: (front ++ behind)).Nodup := by
    refine hnodup.sublist (List.Sublist.cons_cons e ?_)
    exact List.Sublist.append_left (List.sublist_cons_self x behind) front
  obtain ⟨hleft', hright'⟩ := sides_congr hsub hfront hbehind hleft (linked_cons_cons.mp hright).2 hnext hprev
  exact (ring_split hfront hbehind).mpr ⟨hleft', hab, hright'⟩

end Ring

end LinkedRing
