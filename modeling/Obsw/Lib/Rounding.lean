import Mathlib.Algebra.Group.Nat.Defs

/-!
# `Lib.Rounding` — natural numbers in a binary floating-point format

A format with `p` significant bits holds a natural number as its leading `p` bits and an exponent.
`nearest p n` is the number of the format nearest to `n`, and of two that are equally near the even one,
as the arithmetic of such a format rounds. Rounding does nothing to numbers of at most `p` bits
(`nearest_of_lt`), keeps the order (`nearest_mono`) and is off by at most half the weight of the last
bit that is kept (`nearest_le`, `le_nearest`).
-/

namespace Rounding

variable {p m n : Nat}

/-- The weight of the last bit that is kept. -/
def ulp (p n : Nat) : Nat := 2 ^ (n.log2 + 1 - p)

/-- `n` rounded to `p` significant bits, to the nearest and to even. -/
def nearest (p n : Nat) : Nat :=
  let q := n / ulp p n
  let r := n % ulp p n
  if ulp p n < 2 * r ∨ (2 * r = ulp p n ∧ q % 2 = 1) then (q + 1) * ulp p n else q * ulp p n

theorem ulp_pos (p n : Nat) : 0 < ulp p n := Nat.two_pow_pos _

theorem floor_le_nearest (p n : Nat) : n / ulp p n * ulp p n ≤ nearest p n := by
  rw [nearest]
  split
  · exact Nat.mul_le_mul_right _ (Nat.le_succ _)
  · exact Nat.le_refl _

theorem nearest_le_ceil (p n : Nat) : nearest p n ≤ (n / ulp p n + 1) * ulp p n := by
  rw [nearest]
  split
  · exact Nat.le_refl _
  · exact Nat.mul_le_mul_right _ (Nat.le_succ _)

@[simp] theorem nearest_zero (p : Nat) : nearest p 0 = 0 := by simp [nearest]

/-- A number of at most `p` bits is in the format. -/
theorem nearest_of_lt (h : n < 2 ^ p) : nearest p n = n := by
  rcases Nat.eq_zero_or_pos n with rfl | hn
  · exact nearest_zero p
  · have hbits : n.log2 < p := (Nat.log2_lt (Nat.ne_of_gt hn)).mpr h
    have hulp : ulp p n = 1 := by rw [ulp, Nat.sub_eq_zero_of_le hbits, Nat.pow_zero]
    simp [nearest, hulp, Nat.mod_one]

/-- Rounding does not go over the next power of two. -/
theorem nearest_le_pow (p n : Nat) : nearest p n ≤ 2 ^ (n.log2 + 1) := by
  obtain ⟨k, hk⟩ : ulp p n ∣ 2 ^ (n.log2 + 1) := Nat.pow_dvd_pow 2 (Nat.sub_le _ _)
  have hlt : n / ulp p n < k := by
    rw [Nat.div_lt_iff_lt_mul (ulp_pos p n), Nat.mul_comm, ← hk]
    exact Nat.lt_log2_self
  calc nearest p n ≤ (n / ulp p n + 1) * ulp p n := nearest_le_ceil p n
    _ ≤ k * ulp p n := Nat.mul_le_mul_right _ hlt
    _ = 2 ^ (n.log2 + 1) := by rw [hk, Nat.mul_comm]

/-- Rounding does not go below the leading power of two. -/
theorem pow_le_nearest (hp : 0 < p) (hn : n ≠ 0) : 2 ^ n.log2 ≤ nearest p n := by
  obtain ⟨k, hk⟩ : ulp p n ∣ 2 ^ n.log2 := Nat.pow_dvd_pow 2 (by omega)
  have hle : k ≤ n / ulp p n := by
    rw [Nat.le_div_iff_mul_le (ulp_pos p n), Nat.mul_comm, ← hk]
    exact Nat.log2_self_le hn
  calc 2 ^ n.log2 = k * ulp p n := by rw [hk, Nat.mul_comm]
    _ ≤ n / ulp p n * ulp p n := Nat.mul_le_mul_right _ hle
    _ ≤ nearest p n := floor_le_nearest p n

theorem log2_mono (h : m ≤ n) : m.log2 ≤ n.log2 := by
  rcases Nat.eq_zero_or_pos m with rfl | hm
  · simp
  · exact (Nat.le_log2 (by omega)).mpr (Nat.le_trans (Nat.log2_self_le (by omega)) h)

/-- **Rounding keeps the order.** -/
theorem nearest_mono (hp : 0 < p) (h : m ≤ n) : nearest p m ≤ nearest p n := by
  rcases Nat.lt_or_ge m.log2 n.log2 with hlt | hge
  · have hn : n ≠ 0 := by
      rintro rfl
      simp at hlt
    calc nearest p m ≤ 2 ^ (m.log2 + 1) := nearest_le_pow p m
      _ ≤ 2 ^ n.log2 := Nat.pow_le_pow_right (by omega) hlt
      _ ≤ nearest p n := pow_le_nearest hp hn
  · have hulp : ulp p m = ulp p n := by
      rw [ulp, ulp, Nat.le_antisymm (log2_mono h) hge]
    have hdiv : m / ulp p n ≤ n / ulp p n := Nat.div_le_div_right h
    rcases Nat.lt_or_ge (m / ulp p n) (n / ulp p n) with hq | hq
    · calc nearest p m ≤ (m / ulp p m + 1) * ulp p m := nearest_le_ceil p m
        _ ≤ n / ulp p n * ulp p n := by rw [hulp]; exact Nat.mul_le_mul_right _ hq
        _ ≤ nearest p n := floor_le_nearest p n
    · -- the same leading bits: the rests decide
      have hquot : m / ulp p n = n / ulp p n := Nat.le_antisymm hdiv hq
      have hrest : m % ulp p n ≤ n % ulp p n := by
        have hm := Nat.div_add_mod m (ulp p n)
        have hn := Nat.div_add_mod n (ulp p n)
        rw [hquot] at hm
        omega
      rw [nearest, hulp, hquot]
      split
      · rename_i hup
        exact Nat.le_of_eq (by rw [nearest, if_pos (by omega)])
      · exact floor_le_nearest p n

/-! ## The error of rounding -/

/-- The weight of the last bit of a number of at most `p + e` bits. -/
theorem ulp_le {e : Nat} (hp : 0 < p) (h : n < 2 ^ (p + e)) : ulp p n ≤ 2 ^ e := by
  rw [ulp]
  apply Nat.pow_le_pow_right (by omega)
  rcases Nat.eq_zero_or_pos n with rfl | hn
  · rw [Nat.log2_zero]
    omega
  · have hbits : n.log2 < p + e := (Nat.log2_lt (Nat.ne_of_gt hn)).mpr h
    omega

/-- **Rounding goes to the nearest number**, up or down. -/
theorem nearest_le (p n : Nat) : 2 * nearest p n ≤ 2 * n + ulp p n := by
  have hn := Nat.div_add_mod' n (ulp p n)
  rw [nearest]
  split
  · rw [Nat.add_mul, Nat.one_mul]
    omega
  · omega

theorem le_nearest (p n : Nat) : 2 * n ≤ 2 * nearest p n + ulp p n := by
  have hn := Nat.div_add_mod' n (ulp p n)
  have hlt := Nat.mod_lt n (ulp_pos p n)
  rw [nearest]
  split
  · rw [Nat.add_mul, Nat.one_mul]
    omega
  · omega

end Rounding
