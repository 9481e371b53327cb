import Obsw.Lib.Device
import Obsw.Lib.LittleEndian

/-!
# `Lib.Frame` — changes confined to fields

`KeepsOutside fs m m'` says that `m'` differs from `m` in the bytes of the fields `fs` at most. The
relation composes along a sequence of calls (`trans`) and only weakens with more fields (`mono`); a
device write of no more bytes than a field has is confined to that field, however it ends
(`of_apply`).
-/

namespace LittleEndian

open Memory Device

namespace Field

/-- The address is one of the field's bytes. -/
def Covers (f : Field) (i : Nat) : Prop := f.addr ≤ i ∧ i < f.next

instance (f : Field) (i : Nat) : Decidable (f.Covers i) := inferInstanceAs (Decidable (_ ∧ _))

theorem not_covers {f : Field} {i : Nat} : ¬ f.Covers i ↔ i < f.addr ∨ f.next ≤ i := by
  unfold Covers
  omega

end Field

/-- Outside the given fields the two memories agree. -/
def KeepsOutside (fs : List Field) (m m' : Mem UInt8) : Prop :=
  ∀ i, (∀ f ∈ fs, ¬ f.Covers i) → m' i = m i

namespace KeepsOutside

variable {fs gs : List Field} {m m' m'' : Mem UInt8}

@[simp] theorem refl (fs : List Field) (m : Mem UInt8) : KeepsOutside fs m m := fun _ _ => rfl

theorem trans (h : KeepsOutside fs m m') (h' : KeepsOutside fs m' m'') : KeepsOutside fs m m'' := by
  intro i hi
  rw [h' i hi, h i hi]

theorem mono (h : KeepsOutside fs m m') (hsub : ∀ f ∈ fs, f ∈ gs) : KeepsOutside gs m m' := by
  intro i hi
  apply h i
  intro f hf
  exact hi f (hsub f hf)

/-- A device write of at most the field's size changes nothing outside the field. -/
theorem of_apply {f : Field} {o : WriteOutcome UInt8} {g : UInt8 → UInt8 → UInt8}
    {bs : List UInt8} (h : bs.length ≤ f.size) :
    KeepsOutside [f] m (o.apply g m f.addr bs) := by
  intro i hi
  apply WriteOutcome.apply_frame
  have hout := Field.not_covers.mp (hi f (List.mem_singleton_self f))
  rcases hout with hlow | hhigh
  · exact Or.inl hlow
  · right
    have hnext : f.next = f.addr + f.size := rfl
    omega

/-- What a longer write than the field has to find behind the field in order to change nothing there. -/
theorem store_iff {f : Field} {bs : List UInt8} :
    KeepsOutside [f] m (store m f.addr bs) ↔
      ∀ i b, f.size ≤ i → bs[i]? = some b → b = m (f.addr + i) := by
  constructor
  · intro h i b hi hb
    have hcell := h (f.addr + i) (by
      intro g hg hcov
      rw [List.mem_singleton.mp hg] at hcov
      have hnext : f.next = f.addr + f.size := rfl
      have := hcov.2
      omega)
    obtain ⟨hlt, hget⟩ := List.getElem?_eq_some_iff.mp hb
    rw [store_at hlt, hget] at hcell
    exact hcell
  · intro h j hj
    by_cases hout : j < f.addr ∨ f.addr + bs.length ≤ j
    · exact store_frame hout
    · have hnot := Field.not_covers.mp (hj f (List.mem_singleton_self f))
      have hnext : f.next = f.addr + f.size := rfl
      obtain ⟨i, rfl⟩ := Nat.exists_eq_add_of_le (show f.addr ≤ j by omega)
      have hlt : i < bs.length := by omega
      rw [store_at hlt]
      apply h i bs[i] (by omega)
      exact List.getElem?_eq_getElem hlt

/-- Nothing but an empty field may change: nothing changes. -/
theorem empty_iff {a : Nat} : KeepsOutside [⟨a, 0⟩] m m' ↔ m' = m := by
  constructor
  · intro h
    funext i
    apply h i
    simp only [List.mem_singleton, forall_eq, Field.not_covers, Field.next]
    omega
  · rintro rfl
    exact refl _ _

end KeepsOutside

/-! ## Zeroed fields -/

theorem toLE_zero (k : Nat) : toLE k 0 = List.replicate k 0 := by
  induction k with
  | zero => rfl
  | succ k ih => rw [toLE, Nat.zero_div, ih, List.replicate_succ]; rfl

namespace Field

variable {f : Field} {m : Mem UInt8} {i : Nat}

/-- A field of zero bytes is zero. -/
theorem read_eq_zero (h : ∀ i, f.Covers i → m i = 0) : f.read m = 0 := by
  have hload : load m f.addr f.size = toLE f.size 0 := by
    rw [toLE_zero]
    refine List.ext_getElem (by simp) fun i h₁ h₂ => ?_
    have hi : i < f.size := by simpa using h₁
    rw [load_getElem, List.getElem_replicate]
    exact h _ ⟨Nat.le_add_right _ _, Nat.add_lt_add_left hi _⟩
  rw [read, hload, ofLE_toLE, Nat.zero_mod]

theorem write_zero_covered (h : f.Covers i) : f.write m 0 i = 0 := by
  obtain ⟨hlow, hhigh⟩ := h
  obtain ⟨k, rfl⟩ := Nat.exists_eq_add_of_le hlow
  have hk : k < f.size := Nat.lt_of_add_lt_add_left hhigh
  rw [write, toLE_zero, store_at (by simpa using hk), List.getElem_replicate]

theorem write_not_covered (v : Nat) (h : ¬ f.Covers i) : f.write m v i = m i := by
  rw [write, store_frame]
  rw [toLE_length]
  exact not_covers.mp h

end Field

/-- Write zero to one field after the other. -/
def zeroFields (fs : List Field) (m : Mem UInt8) : Mem UInt8 := fs.foldl (fun m f => f.write m 0) m

theorem zeroFields_keepsOutside (fs : List Field) (m : Mem UInt8) : KeepsOutside fs m (zeroFields fs m) := by
  induction fs generalizing m with
  | nil => exact KeepsOutside.refl _ _
  | cons f fs ih =>
      intro i hi
      have hrest := ih (f.write m 0) i fun g hg => hi g (List.mem_cons_of_mem _ hg)
      rw [zeroFields, List.foldl_cons]
      exact hrest.trans (Field.write_not_covered 0 (hi f List.mem_cons_self))

/-- A byte that is zero stays zero. -/
theorem zeroFields_of_zero (fs : List Field) {m : Mem UInt8} {i : Nat} (h : m i = 0) :
    zeroFields fs m i = 0 := by
  induction fs generalizing m with
  | nil => exact h
  | cons f fs ih =>
      apply ih
      by_cases hcovers : f.Covers i
      · exact Field.write_zero_covered hcovers
      · exact (Field.write_not_covered 0 hcovers).trans h

theorem zeroFields_covered {fs : List Field} {f : Field} (hf : f ∈ fs) {i : Nat} (hi : f.Covers i)
    (m : Mem UInt8) : zeroFields fs m i = 0 := by
  induction fs generalizing m with
  | nil => cases hf
  | cons g fs ih =>
      rcases List.mem_cons.mp hf with rfl | hf
      · exact zeroFields_of_zero fs (Field.write_zero_covered hi)
      · exact ih hf _

end LittleEndian
