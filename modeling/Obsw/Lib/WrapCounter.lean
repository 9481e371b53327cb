import Mathlib.Algebra.Order.Floor.Semifield

/-!
# `Lib.WrapCounter` — a counter that wraps, extended in software

Only the low part of a count, `n % modulus`, can be read. Software extends it: it keeps the value it read
last and counts a wrap whenever the value has gone back (`Extension`). The extension `Tracks` a count if
it has seen every wrap up to it. It keeps tracking if two updates are less than a wrap apart
(`Tracks.update`), and between two updates the extended value is the count itself exactly as long as no
wrap has taken place since the last one (`Tracks.value_eq_iff`).

The count in a coarser unit is put together from the wraps and the value read last, each rounded down
apart (`Extension.units`). It is at most one less than the count in that unit (`Tracks.units_le`,
`Tracks.le_units`) and does not go back, also not at a wrap (`Tracks.units_mono`).
-/

namespace WrapCounter

/-- The wraps that have been seen, and the value read last. -/
structure Extension where
  wraps : Nat
  last : Nat

namespace Extension

/-- Take in a value, with a wrap if `wrapped` says so. -/
def update (x : Extension) (wrapped : Bool) (value : Nat) : Extension :=
  ⟨if wrapped then x.wraps + 1 else x.wraps, value⟩

/-- The extended value. -/
def value (modulus : Nat) (x : Extension) (current : Nat) : Nat := modulus * x.wraps + current

/-- The count up to which wraps have been seen. -/
def seen (modulus : Nat) (x : Extension) : Nat := x.value modulus x.last

end Extension

variable {modulus : Nat} {x : Extension} {seen count : Nat}

/-- The extension has seen every wrap up to `count`, where it was updated last. -/
structure Tracks (modulus : Nat) (x : Extension) (count : Nat) : Prop where
  wraps : x.wraps = count / modulus
  last : x.last = count % modulus

theorem tracks_zero (modulus : Nat) : Tracks modulus ⟨0, 0⟩ 0 := ⟨by simp, by simp⟩

/-- An extension tracks the count it was updated with last. -/
theorem tracks_seen (h : x.last < modulus) : Tracks modulus x (x.seen modulus) := by
  rw [Extension.seen, Extension.value]
  refine ⟨?_, ?_⟩
  · rw [Nat.mul_add_div (by omega), Nat.div_eq_of_lt h, Nat.add_zero]
  · rw [Nat.mul_add_mod, Nat.mod_eq_of_lt h]

theorem Tracks.seen_eq (h : Tracks modulus x count) : x.seen modulus = count := by
  rw [Extension.seen, Extension.value, h.wraps, h.last]
  exact Nat.div_add_mod count modulus

/-- Less than a wrap on, the value has gone back exactly if there was a wrap. -/
theorem div_cases (hpos : 0 < modulus) (hle : seen ≤ count) (hlt : count < seen + modulus) :
    (seen % modulus ≤ count % modulus ∧ count / modulus = seen / modulus) ∨
      (count % modulus < seen % modulus ∧ count / modulus = seen / modulus + 1) := by
  have hs := Nat.div_add_mod seen modulus
  have hc := Nat.div_add_mod count modulus
  have hsr := Nat.mod_lt seen hpos
  have hcr := Nat.mod_lt count hpos
  rcases Nat.lt_trichotomy (count / modulus) (seen / modulus + 1) with h | h | h
  · have heq : count / modulus = seen / modulus :=
      Nat.le_antisymm (by omega) (Nat.div_le_div_right hle)
    rw [heq] at hc
    exact Or.inl ⟨by omega, heq⟩
  · rw [h, Nat.mul_add, Nat.mul_one] at hc
    exact Or.inr ⟨by omega, h⟩
  · have hmul : modulus * (seen / modulus + 2) ≤ modulus * (count / modulus) :=
      Nat.mul_le_mul_left _ h
    rw [Nat.mul_add] at hmul
    omega

/-- **Updating.** Updates less than a wrap apart see every wrap. -/
theorem Tracks.update (h : Tracks modulus x seen) (hpos : 0 < modulus) (hle : seen ≤ count)
    (hlt : count < seen + modulus) :
    Tracks modulus (x.update (count % modulus < x.last) (count % modulus)) count := by
  refine ⟨?_, rfl⟩
  simp only [Extension.update, h.wraps, h.last]
  rcases div_cases hpos hle hlt with ⟨hback, hdiv⟩ | ⟨hback, hdiv⟩
  · simp [Nat.not_lt.mpr hback, hdiv]
  · simp [hback, hdiv]

/-- The same for a counter that is known to have moved, where the same value means a whole wrap. -/
theorem Tracks.update_moved (h : Tracks modulus x seen) (hpos : 0 < modulus) (hlt : seen < count)
    (hle : count ≤ seen + modulus) :
    Tracks modulus (x.update (count % modulus ≤ x.last) (count % modulus)) count := by
  refine ⟨?_, rfl⟩
  simp only [Extension.update, h.wraps, h.last]
  rcases Nat.lt_or_eq_of_le hle with hin | rfl
  · rcases div_cases hpos (Nat.le_of_lt hlt) hin with ⟨hback, hdiv⟩ | ⟨hback, hdiv⟩
    · have hs := Nat.div_add_mod seen modulus
      have hc := Nat.div_add_mod count modulus
      rw [hdiv] at hc
      simp [show ¬ count % modulus ≤ seen % modulus by omega, hdiv]
    · simp [Nat.le_of_lt hback, hdiv]
  · simp [Nat.add_div_right seen hpos]

/-- **Reading.** Less than a wrap after the last update, the extended value is the count exactly if the
    value has not gone back since. -/
theorem Tracks.value_eq_iff (h : Tracks modulus x seen) (hpos : 0 < modulus) (hle : seen ≤ count)
    (hlt : count < seen + modulus) :
    x.value modulus (count % modulus) = count ↔ x.last ≤ count % modulus := by
  rw [Extension.value, h.wraps, h.last]
  have hc := Nat.div_add_mod count modulus
  rcases div_cases hpos hle hlt with ⟨hback, hdiv⟩ | ⟨hback, hdiv⟩
  · rw [hdiv] at hc
    exact ⟨fun _ => hback, fun _ => hc⟩
  · rw [hdiv, Nat.mul_add] at hc
    constructor
    · intro heq
      omega
    · intro hnot
      omega

/-! ## The count in a coarser unit -/

/-- The units of a count: those of the wraps and those of the value read last. -/
def Extension.units (modulus unit : Nat) (x : Extension) : Nat :=
  modulus * x.wraps / unit + x.last / unit

/-- With an exact fraction of units to the wrap, rounding the sum down gives the units. -/
theorem Extension.floor_units (K : Type*) [Field K] [LinearOrder K] [IsStrictOrderedRing K]
    [FloorSemiring K] (modulus unit : Nat) (x : Extension) :
    ⌊(x.wraps : K) * (modulus / unit) + (x.last / unit : Nat)⌋₊ = x.units modulus unit := by
  have hwraps : (x.wraps : K) * (modulus / unit) = (modulus * x.wraps : Nat) / (unit : K) := by
    rw [Nat.cast_mul, mul_div_assoc', mul_comm (x.wraps : K)]
  have hnonneg : (0 : K) ≤ (modulus * x.wraps : Nat) / (unit : K) :=
    div_nonneg (Nat.cast_nonneg _) (Nat.cast_nonneg _)
  rw [hwraps, Nat.floor_add_natCast hnonneg, Nat.floor_div_eq_div, Extension.units]

variable {y : Extension} {unit a b : Nat}

theorem Tracks.units_le (h : Tracks modulus x count) : x.units modulus unit ≤ count / unit :=
  calc x.units modulus unit ≤ (modulus * x.wraps + x.last) / unit := Nat.div_add_div_le_add_div
    _ = count / unit := by rw [h.wraps, h.last, Nat.div_add_mod]

theorem Tracks.le_units (h : Tracks modulus x count) : count / unit ≤ x.units modulus unit + 1 := by
  rcases Nat.eq_zero_or_pos unit with rfl | hunit
  · rw [Nat.div_zero]
    exact Nat.zero_le _
  · have hcount : modulus * x.wraps + x.last = count := h.seen_eq
    have hw := Nat.lt_mul_div_succ (modulus * x.wraps) hunit
    have hl := Nat.lt_mul_div_succ x.last hunit
    have hlt : count < unit * (x.units modulus unit + 1 + 1) := by
      rw [Nat.mul_add] at hw hl
      rw [Extension.units, Nat.mul_add, Nat.mul_add, Nat.mul_add]
      omega
    exact Nat.le_of_lt_succ (Nat.div_lt_of_lt_mul hlt)

/-- **The units do not go back.** What a wrap brings is at least what the value loses by it. -/
theorem Tracks.units_mono (hx : Tracks modulus x a) (hy : Tracks modulus y b) (hpos : 0 < modulus)
    (hle : a ≤ b) : x.units modulus unit ≤ y.units modulus unit := by
  have hwraps : x.wraps ≤ y.wraps := by
    rw [hx.wraps, hy.wraps]
    exact Nat.div_le_div_right hle
  have hlast : x.last ≤ modulus := by
    rw [hx.last]
    exact Nat.le_of_lt (Nat.mod_lt a hpos)
  rcases Nat.eq_or_lt_of_le hwraps with heq | hlt
  · have hseen : x.last ≤ y.last := by
      have ha : modulus * x.wraps + x.last = a := hx.seen_eq
      have hb : modulus * y.wraps + y.last = b := hy.seen_eq
      rw [heq] at ha
      omega
    rw [Extension.units, Extension.units, heq]
    exact Nat.add_le_add_left (Nat.div_le_div_right hseen) _
  · calc x.units modulus unit ≤ modulus * x.wraps / unit + modulus / unit :=
          Nat.add_le_add_left (Nat.div_le_div_right hlast) _
      _ ≤ (modulus * x.wraps + modulus) / unit := Nat.div_add_div_le_add_div
      _ ≤ modulus * y.wraps / unit := Nat.div_le_div_right (by
          rw [← Nat.mul_succ]
          exact Nat.mul_le_mul_left _ hlt)
      _ ≤ y.units modulus unit := Nat.le_add_right _ _

end WrapCounter
