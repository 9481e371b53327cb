import Obsw.Core.TimeHandling
import Obsw.Lib.WrapCounter
import Mathlib.Data.Rat.Floor

/-!
# `Core.UptimeSeconds` — the uptime in seconds

`updateSecondsCounter` counts the overflows of the clock, which shows milliseconds modulo 2³², and puts
the uptime together from that count and the clock: in single precision, with a constant that is rounded
as well. `updateSecondsCounterIn` leaves the arithmetic open, and exact arithmetic stands beside that of
the source.

## Contents
- **The overflows.** `updateSecondsCounterIn_spec` is the step and `afterCalls_spec` the run: calls at most
  a wrap apart see every overflow, in any arithmetic.
- **Exact arithmetic.** `uptime_afterCalls`: the uptime does not go back, and is at most a second short.
- **Single precision.** `uptimeSecondsAt` is right up to the first overflow. Behind it the uptime stays
  within ten minutes (`uptimeSeconds_afterCalls_close`), and may go back.
-/

namespace Obsw
namespace TimeHandling

open WrapCounter

/-! ## The arithmetic of the uptime -/

/-- `updateSecondsCounter`, with `arith` for `msOverflowCounter * SECONDS_ON_MS_OVERFLOW +
    currentUptimeSeconds` and its conversion. -/
def updateSecondsCounterIn (arith : Nat → Nat → Nat) (uptimeMs : UInt32) (c : CoreController) :
    CoreController :=
  let updated := updateSecondsCounter uptimeMs c
  { updated with
    uptimeSeconds :=
      UInt32.ofNat (arith updated.msOverflowCounter.toNat (uptimeMs / configTickRateHz).toNat) }

/-- The source computes in single precision. -/
theorem updateSecondsCounter_eq : updateSecondsCounter = updateSecondsCounterIn secondsWithOverflows :=
  rfl

/-- `SECONDS_ON_MS_OVERFLOW` as it is written. -/
def secondsOnMsOverflowExact : ℚ := 4294967.296

/-- `msOverflowCounter * SECONDS_ON_MS_OVERFLOW + currentUptimeSeconds` in exact arithmetic. The
    conversion drops the fraction. -/
def secondsExact (overflows seconds : Nat) : Nat :=
  ⌊(overflows : ℚ) * secondsOnMsOverflowExact + seconds⌋₊

/-! ## The overflows of the clock -/

/-- The counting of the clock's overflows, as an extension of the clock. -/
def clock (c : CoreController) : WrapCounter.Extension :=
  ⟨c.msOverflowCounter.toNat, c.lastUptimeMs.toNat⟩

/-- **The step of a call.** A call at most a wrap after the last one sees the overflow, if there is one,
    and its uptime is that of the clock. -/
theorem updateSecondsCounterIn_spec {arith : Nat → Nat → Nat} {c : CoreController}
    {lastMs uptimeMs : Nat} (htracks : Tracks (2 ^ 32) (clock c) lastMs) (hlater : lastMs < uptimeMs)
    (hsoon : uptimeMs ≤ lastMs + 2 ^ 32) (hcounted : uptimeMs < 2 ^ 48) :
    Tracks (2 ^ 32) (clock (updateSecondsCounterIn arith (UInt32.ofNat uptimeMs) c)) uptimeMs ∧
      (updateSecondsCounterIn arith (UInt32.ofNat uptimeMs) c).uptimeSeconds =
        UInt32.ofNat (arith (uptimeMs / 2 ^ 32) (uptimeMs % 2 ^ 32 / 1000)) := by
  have hmoved := htracks.update_moved (by omega) hlater hsoon
  have hms : (UInt32.ofNat uptimeMs).toNat = uptimeMs % 2 ^ 32 := UInt32.toNat_ofNat'
  have hclock : clock (updateSecondsCounterIn arith (UInt32.ofNat uptimeMs) c) =
      (clock c).update (uptimeMs % 2 ^ 32 ≤ (clock c).last) (uptimeMs % 2 ^ 32) := by
    have hwraps := hmoved.wraps
    rw [Extension.update] at hwraps ⊢
    simp only [clock, updateSecondsCounterIn, updateSecondsCounter, UInt32.le_iff_toNat_le, hms]
      at hwraps ⊢
    by_cases hwrap : uptimeMs % 2 ^ 32 ≤ c.lastUptimeMs.toNat
    · simp only [hwrap, decide_true, if_true] at hwraps ⊢
      -- below 2⁴⁸ milliseconds the overflows fit their 16 bits
      rw [UInt16.toNat_add, Nat.mod_eq_of_lt]
      · rfl
      · rw [UInt16.toNat_one, hwraps]
        omega
    · simp only [hwrap, decide_false, if_false, Bool.false_eq_true]
  rw [← hclock] at hmoved
  refine ⟨hmoved, ?_⟩
  have hwraps := hmoved.wraps
  simp only [clock, updateSecondsCounterIn] at hwraps ⊢
  rw [hwraps, UInt32.toNat_div, hms]
  rfl

/-- The members behind the calls at `time 0` to `time n`, of which each sees its time modulo 2³². -/
def afterCalls (arith : Nat → Nat → Nat) (time : Nat → Nat) : Nat → CoreController
  | 0 => updateSecondsCounterIn arith (UInt32.ofNat (time 0)) .initial
  | n + 1 => updateSecondsCounterIn arith (UInt32.ofNat (time (n + 1))) (afterCalls arith time n)

/-- The times of the calls up to call `n`: the first call comes before the first overflow and not at 0,
    and each further one comes later than the last, at most a wrap of the clock. -/
structure Sampled (time : Nat → Nat) (n : Nat) : Prop where
  first_pos : 1 ≤ time 0
  first_le : time 0 ≤ 2 ^ 32 - 1
  later : ∀ i < n, time i < time (i + 1)
  soon : ∀ i < n, time (i + 1) ≤ time i + 2 ^ 32

variable {time : Nat → Nat} {n : Nat}

theorem Sampled.of_le {i : Nat} (h : Sampled time n) (hi : i ≤ n) : Sampled time i :=
  ⟨h.first_pos, h.first_le, fun j hj => h.later j (Nat.lt_of_lt_of_le hj hi),
    fun j hj => h.soon j (Nat.lt_of_lt_of_le hj hi)⟩

theorem Sampled.time_le {i : Nat} (h : Sampled time n) (hi : i ≤ n) : time i ≤ time n := by
  induction n with
  | zero => rw [Nat.le_zero.mp hi]
  | succ n ih =>
      rcases Nat.eq_or_lt_of_le hi with rfl | hlt
      · exact Nat.le_refl _
      · have hlast : time n < time (n + 1) := h.later n (Nat.lt_succ_self n)
        have hle : time i ≤ time n := ih (h.of_le (Nat.le_succ n)) (Nat.le_of_lt_succ hlt)
        omega

/-- **The run.** Calls at most a wrap apart see every overflow of the clock. -/
theorem afterCalls_spec (arith : Nat → Nat → Nat) (h : Sampled time n) (hcounted : time n < 2 ^ 48) :
    Tracks (2 ^ 32) (clock (afterCalls arith time n)) (time n) ∧
      (afterCalls arith time n).uptimeSeconds =
        UInt32.ofNat (arith (time n / 2 ^ 32) (time n % 2 ^ 32 / 1000)) := by
  induction n with
  | zero =>
      have hfirst := h.first_le
      exact updateSecondsCounterIn_spec (tracks_zero _) h.first_pos (by omega) hcounted
  | succ n ih =>
      have hlater : time n < time (n + 1) := h.later n (Nat.lt_succ_self n)
      have htracks := (ih (h.of_le (Nat.le_succ n)) (by omega)).1
      exact updateSecondsCounterIn_spec htracks hlater (h.soon n (Nat.lt_succ_self n)) hcounted

/-! ## In exact arithmetic -/

/-- The uptime in exact arithmetic is that of the overflows and that of the clock, each rounded down. -/
theorem secondsExact_of_tracks {x : Extension} {uptimeMs : Nat} (h : Tracks (2 ^ 32) x uptimeMs) :
    secondsExact (uptimeMs / 2 ^ 32) (uptimeMs % 2 ^ 32 / 1000) = x.units (2 ^ 32) 1000 := by
  have hconst : secondsOnMsOverflowExact = ((2 ^ 32 : Nat) : ℚ) / (1000 : Nat) := by
    norm_num [secondsOnMsOverflowExact]
  rw [← h.wraps, ← h.last, secondsExact, hconst]
  exact Extension.floor_units ℚ (2 ^ 32) 1000 x

theorem afterCalls_uptimeSeconds (h : Sampled time n) (hfits : time n / 1000 < 2 ^ 32) :
    (afterCalls secondsExact time n).uptimeSeconds.toNat =
      (clock (afterCalls secondsExact time n)).units (2 ^ 32) 1000 := by
  obtain ⟨htracks, huptime⟩ := afterCalls_spec secondsExact h (by omega)
  have hle : (clock (afterCalls secondsExact time n)).units (2 ^ 32) 1000 ≤ time n / 1000 :=
    htracks.units_le
  rw [huptime, secondsExact_of_tracks htracks, UInt32.toNat_ofNat', Nat.mod_eq_of_lt]
  exact Nat.lt_of_le_of_lt hle hfits

/-- **The uptime does not go back.** -/
theorem afterCalls_uptimeSeconds_mono {i : Nat} (h : Sampled time n) (hfits : time n / 1000 < 2 ^ 32)
    (hi : i ≤ n) :
    (afterCalls secondsExact time i).uptimeSeconds ≤ (afterCalls secondsExact time n).uptimeSeconds := by
  have hle := h.time_le hi
  have htracks := (afterCalls_spec secondsExact (h.of_le hi) (by omega)).1
  have htracks' := (afterCalls_spec secondsExact h (by omega)).1
  rw [UInt32.le_iff_toNat_le, afterCalls_uptimeSeconds (h.of_le hi) (by omega),
    afterCalls_uptimeSeconds h hfits]
  exact htracks.units_mono htracks' (by omega) hle

/-- **The uptime in exact arithmetic.** While the uptime fits 32 bits, every call leaves the number of
    overflows that the clock has had, in whatever arithmetic, and exact arithmetic gives an uptime that
    never goes back and is the true one or a second less. -/
theorem uptime_afterCalls (h : Sampled time n) (hfits : time n / 1000 < 2 ^ 32) :
    (∀ arith, ∀ i ≤ n, (afterCalls arith time i).msOverflowCounter.toNat = time i / 2 ^ 32) ∧
      (∀ i < n, (afterCalls secondsExact time i).uptimeSeconds ≤
        (afterCalls secondsExact time (i + 1)).uptimeSeconds) ∧
      ∀ i ≤ n, (afterCalls secondsExact time i).uptimeSeconds.toNat ≤ time i / 1000 ∧
        time i / 1000 ≤ (afterCalls secondsExact time i).uptimeSeconds.toNat + 1 := by
  have hfitsAt : ∀ i ≤ n, time i / 1000 < 2 ^ 32 := by
    intro i hi
    exact Nat.lt_of_le_of_lt (Nat.div_le_div_right (h.time_le hi)) hfits
  refine ⟨?_, ?_, ?_⟩
  · intro arith i hi
    have hfit := hfitsAt i hi
    exact (afterCalls_spec arith (h.of_le hi) (by omega)).1.wraps
  · intro i hi
    exact afterCalls_uptimeSeconds_mono (h.of_le hi) (hfitsAt (i + 1) hi) (Nat.le_succ i)
  · intro i hi
    have hfit := hfitsAt i hi
    have htracks := (afterCalls_spec secondsExact (h.of_le hi) (by omega)).1
    rw [afterCalls_uptimeSeconds (h.of_le hi) hfit]
    exact ⟨htracks.units_le, htracks.le_units⟩

/-- Calls that are a wrap apart, so that each sees the same reading. -/
def wrapApart (i : Nat) : Nat := 2 ^ 32 * i + (2 ^ 32 - 1)

theorem wrapApart_sampled (n : Nat) : Sampled wrapApart n := by
  refine ⟨by decide, by decide, ?_, ?_⟩
  · intro i _
    rw [wrapApart, wrapApart]
    omega
  · intro i _
    rw [wrapApart, wrapApart]
    omega

theorem uptime_wrapApart :
    (afterCalls secondsExact wrapApart 3).msOverflowCounter.toNat = 3 ∧
      (afterCalls secondsExact wrapApart 2).uptimeSeconds ≤
        (afterCalls secondsExact wrapApart 3).uptimeSeconds ∧
      (afterCalls secondsExact wrapApart 3).uptimeSeconds.toNat ≤ 17179869 ∧
      17179869 ≤ (afterCalls secondsExact wrapApart 3).uptimeSeconds.toNat + 1 := by
  obtain ⟨hoverflows, hmono, hclose⟩ := uptime_afterCalls (wrapApart_sampled 3) (by decide)
  exact ⟨hoverflows secondsExact 3 (by decide), hmono 2 (by decide), hclose 3 (by decide)⟩

-- The 296 milliseconds of the overflow and the 704 of the clock are a second that is not counted.
example : secondsExact 1 (704 / 1000) + 1 = (2 ^ 32 + 704) / 1000 := by decide +kernel

/-! ## In single precision -/

/-- The uptime in seconds as the controller counts it when it has seen every overflow of the clock. -/
def uptimeSecondsAt (uptimeMs : Nat) : Nat :=
  secondsWithOverflows (uptimeMs / 2 ^ 32) (uptimeMs % 2 ^ 32 / 1000)

/-- Before the first overflow of the clock the uptime is exact. -/
theorem uptimeSecondsAt_of_lt {uptimeMs : Nat} (h : uptimeMs < 2 ^ 32) :
    uptimeSecondsAt uptimeMs = uptimeMs / 1000 := by
  have hsmall : 2 * (uptimeMs / 1000) < 2 ^ 24 := by omega
  rw [uptimeSecondsAt, secondsWithOverflows, Nat.div_eq_of_lt h, Nat.mod_eq_of_lt h, Nat.mul_zero,
    Rounding.nearest_zero, Nat.zero_add, Rounding.nearest_of_lt hsmall, Rounding.nearest_of_lt hsmall]
  omega

/-- Between two overflows of the clock the uptime does not go back. -/
theorem uptimeSecondsAt_mono {a b : Nat} (h : a ≤ b) (hsame : a / 2 ^ 32 = b / 2 ^ 32) :
    uptimeSecondsAt a ≤ uptimeSecondsAt b := by
  have hseconds : 2 * (a % 2 ^ 32 / 1000) ≤ 2 * (b % 2 ^ 32 / 1000) := by omega
  rw [uptimeSecondsAt, uptimeSecondsAt, secondsWithOverflows, secondsWithOverflows, hsame]
  apply Nat.div_le_div_right
  apply Rounding.nearest_mono (by omega)
  exact Nat.add_le_add_left (Rounding.nearest_mono (by omega) hseconds) _

/-- At an overflow it may: the twelfth one takes it back by four seconds. -/
example : uptimeSecondsAt (12 * 2 ^ 32) + 4 = uptimeSecondsAt (12 * 2 ^ 32 - 1) := by decide

/-- A call in single precision. -/
theorem updateSecondsCounter_spec {c : CoreController} {lastMs uptimeMs : Nat}
    (htracks : Tracks (2 ^ 32) (clock c) lastMs) (hlater : lastMs < uptimeMs)
    (hsoon : uptimeMs ≤ lastMs + 2 ^ 32) (hcounted : uptimeMs < 2 ^ 48) :
    Tracks (2 ^ 32) (clock (updateSecondsCounter (UInt32.ofNat uptimeMs) c)) uptimeMs ∧
      (updateSecondsCounter (UInt32.ofNat uptimeMs) c).uptimeSeconds =
        UInt32.ofNat (uptimeSecondsAt uptimeMs) := by
  rw [updateSecondsCounter_eq]
  exact updateSecondsCounterIn_spec htracks hlater hsoon hcounted

/-- Each of the two roundings, and the constant with each overflow, has its part in the error. -/
theorem uptimeSecondsAt_close {uptimeMs : Nat} (hfits : uptimeMs / 1000 < 2 ^ 32) :
    uptimeSecondsAt uptimeMs ≤ uptimeMs / 1000 + 600 ∧
      uptimeMs / 1000 ≤ uptimeSecondsAt uptimeMs + 600 := by
  have hms := Nat.div_add_mod uptimeMs (2 ^ 32)
  have hlow := Nat.mod_lt uptimeMs (Nat.two_pow_pos 32)
  rw [uptimeSecondsAt, secondsWithOverflows]
  generalize uptimeMs / 2 ^ 32 = overflows at hms ⊢
  generalize uptimeMs % 2 ^ 32 = low at hms hlow ⊢
  have hoverflows : overflows < 1000 := by omega
  -- the seconds of the clock fit the 24 bits, the product and the sum do not
  rw [Rounding.nearest_of_lt (show 2 * (low / 1000) < 2 ^ 24 by omega), secondsOnMsOverflow]
  have hproduct : Rounding.ulp 24 (8589935 * overflows) ≤ 2 ^ 9 :=
    Rounding.ulp_le (by omega) (by omega)
  have hup := Rounding.nearest_le 24 (8589935 * overflows)
  have hdown := Rounding.le_nearest 24 (8589935 * overflows)
  generalize Rounding.nearest 24 (8589935 * overflows) = product at hup hdown ⊢
  have hsum : Rounding.ulp 24 (product + 2 * (low / 1000)) ≤ 2 ^ 10 :=
    Rounding.ulp_le (by omega) (by omega)
  have hup' := Rounding.nearest_le 24 (product + 2 * (low / 1000))
  have hdown' := Rounding.le_nearest 24 (product + 2 * (low / 1000))
  omega

/-- **The uptime in single precision.** While the error has room in 32 bits, the uptime stays within ten
    minutes of the true one. -/
theorem uptimeSeconds_afterCalls_close (h : Sampled time n) (hfits : time n / 1000 < 2 ^ 32 - 600) :
    (afterCalls secondsWithOverflows time n).uptimeSeconds.toNat ≤ time n / 1000 + 600 ∧
      time n / 1000 ≤ (afterCalls secondsWithOverflows time n).uptimeSeconds.toNat + 600 := by
  have hclose := uptimeSecondsAt_close (show time n / 1000 < 2 ^ 32 by omega)
  have huptime : (afterCalls secondsWithOverflows time n).uptimeSeconds =
      UInt32.ofNat (uptimeSecondsAt (time n)) :=
    (afterCalls_spec secondsWithOverflows h (by omega)).2
  rw [huptime, UInt32.toNat_ofNat', Nat.mod_eq_of_lt (by omega)]
  exact hclose

end TimeHandling
end Obsw
