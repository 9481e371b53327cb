import Mathlib.Algebra.Group.Nat.Defs
import Obsw.Lib.Loop
import Obsw.Lib.WrapCounter

/-!
# `Core.RunTimeStats` — the run time counters

A 16 bit timer counter with an overflow interrupt gives a 32 bit counter (`portwrapper.cpp`). The
scheduler charges it to the tasks (`vTaskSwitchContext`), and the core controller extends it and the
counter of the idle task to 64 bit (`CoreController.cpp`).

What the variables of the source hold modulo a power of two is kept whole here, and cut where it is
read: the overflow interrupts served, and the run time of the idle task.
-/

namespace Obsw
namespace RunTime

open Loop

/-! ## `portwrapper.cpp` -/

/-- The timer counter: its register `TC_CV`, whether it has overflowed since its interrupt was served
    last, and how often that was served. -/
structure Timer where
  tcCv : UInt16
  overflowed : Bool
  interrupts : Nat
  deriving DecidableEq, Repr

/-- `timerOverflowCounter`. -/
def Timer.timerOverflowCounter (t : Timer) : UInt16 := UInt16.ofNat t.interrupts

inductive TimerStep where
  | tick
  | overflowIsr
  deriving DecidableEq, Repr

/-- A tick of the hardware, or `timerOverflowISR` if the interrupt is pending. -/
def Timer.step : TimerStep → Timer → Timer
  | .tick, t =>
    if t.tcCv = 0xffff then { t with tcCv := 0, overflowed := true } else { t with tcCv := t.tcCv + 1 }
  | .overflowIsr, t =>
    if t.overflowed then { t with overflowed := false, interrupts := t.interrupts + 1 } else t

/-- The timer behind the steps that take place between the two loads of a read. -/
def Timer.after (t : Timer) (between : List TimerStep) : Timer := run Timer.step between t

/-- `vGetCurrentTimerCounterValue`: the overflow counter is loaded before the register. -/
def vGetCurrentTimerCounterValue (t : Timer) (between : List TimerStep) : UInt32 :=
  t.timerOverflowCounter.toUInt32 <<< 16 ||| (t.after between).tcCv.toUInt32

/-! ## `tasks.c` -/

/-- The run time statistics of the scheduler: whether the current task is the idle task, and the run time
    of that task. -/
structure Scheduler where
  ulTotalRunTime : UInt32
  ulTaskSwitchedInTime : UInt32
  currentIsIdle : Bool
  idleRunTime : Nat
  deriving DecidableEq, Repr

/-- `ulTaskGetIdleRunTimeCounter`. -/
def Scheduler.ulTaskGetIdleRunTimeCounter (s : Scheduler) : UInt32 := UInt32.ofNat s.idleRunTime

/-- `vTaskSwitchContext`: the part that keeps the statistics. -/
def Scheduler.vTaskSwitchContext (s : Scheduler) (counterValue : UInt32) (nextIsIdle : Bool) :
    Scheduler where
  ulTotalRunTime := counterValue
  ulTaskSwitchedInTime := counterValue
  currentIsIdle := nextIsIdle
  idleRunTime :=
    if s.ulTaskSwitchedInTime < counterValue ∧ s.currentIsIdle = true
    then s.idleRunTime + (counterValue - s.ulTaskSwitchedInTime).toNat
    else s.idleRunTime

/-! ## `CoreController.cpp` -/

/-- The members that extend both counters to 64 bit. -/
structure Counters where
  counterOverflows : UInt32
  idleCounterOverflows : UInt32
  last32bitCounterValue : UInt32
  last32bitIdleCounterValue : UInt32
  deriving DecidableEq, Repr

namespace Counters

def initial : Counters := ⟨0, 0, 0, 0⟩

def getTotalRunTimeCounter (c : Counters) (currentCounter : UInt32) : UInt64 :=
  c.counterOverflows.toUInt64 <<< 32 ||| currentCounter.toUInt64

def getTotalIdleRunTimeCounter (c : Counters) (currentIdleCounter : UInt32) : UInt64 :=
  c.idleCounterOverflows.toUInt64 <<< 32 ||| currentIdleCounter.toUInt64

def update64bit10kHzCounter (c : Counters) (currentCounter currentIdleCounter : UInt32) :
    Counters where
  counterOverflows :=
    if currentCounter < c.last32bitCounterValue then c.counterOverflows + 1 else c.counterOverflows
  idleCounterOverflows :=
    if currentIdleCounter < c.last32bitIdleCounterValue then c.idleCounterOverflows + 1
    else c.idleCounterOverflows
  last32bitCounterValue := currentCounter
  last32bitIdleCounterValue := currentIdleCounter

end Counters

/-! ## The timer -/

namespace Timer

variable {t : Timer} {between : List TimerStep}

/-- What the 32 bit counter shows, before it is cut to 32 bit. -/
def count (t : Timer) : Nat := 2 ^ 16 * t.interrupts + t.tcCv.toNat

/-- The ticks so far, with the overflow that waits for its interrupt; one that is lost is not counted. -/
def ticks (t : Timer) : Nat := t.count + if t.overflowed then 2 ^ 16 else 0

/-- What the counter shows at least once no interrupt is pending. -/
def floor (t : Timer) : Nat := if t.overflowed then 2 ^ 16 * (t.interrupts + 1) else t.count

theorem floor_of_settled (h : t.overflowed = false) : t.floor = t.count := by simp [floor, h]

theorem ticks_of_settled (h : t.overflowed = false) : t.ticks = t.count := by simp [ticks, h]

theorem tcCv_lt (t : Timer) : t.tcCv.toNat < 2 ^ 16 := t.tcCv.toNat_lt

theorem tcCv_succ (h : t.tcCv ≠ 0xffff) : (t.tcCv + 1).toNat = t.tcCv.toNat + 1 := by
  have hne : t.tcCv.toNat ≠ 0xffff := fun hv => h (UInt16.toNat_inj.mp hv)
  have hlt := t.tcCv_lt
  rw [UInt16.toNat_add]
  exact Nat.mod_eq_of_lt (by simp only [UInt16.toNat_one]; omega)

/-- Neither a tick nor an interrupt takes the counter back below its floor. -/
theorem floor_le_step (e : TimerStep) (t : Timer) : t.floor ≤ (t.step e).floor := by
  have hlt := t.tcCv_lt
  cases e with
  | tick =>
      rw [step]
      split
      · rename_i hwrap
        have hv : t.tcCv.toNat = 0xffff := by rw [hwrap]; rfl
        simp only [floor, count, hv, if_true]
        split <;> omega
      · rename_i hcv
        simp only [floor, count, tcCv_succ hcv]
        split <;> omega
  | overflowIsr =>
      rw [step]
      split
      · rename_i hover
        simp only [floor, count, hover, if_true, Bool.false_eq_true, if_false]
        omega
      · exact Nat.le_refl _

theorem floor_le_after (t : Timer) (between : List TimerStep) : t.floor ≤ (t.after between).floor :=
  run_rel (R := fun a b : Timer => a.floor ≤ b.floor) (fun _ => Nat.le_refl _)
    (fun _ _ _ hab hbc => Nat.le_trans hab hbc) (fun e t _ => floor_le_step e t) between t
    (alongRun_true between t)

/-- No overflow falls into a read: none is pending, and no interrupt is served between the loads. -/
structure Settled (t : Timer) (between : List TimerStep) : Prop where
  served : (t.after between).overflowed = false
  quiet : (t.after between).interrupts = t.interrupts

/-- The value of a settled read is the count cut to 32 bit. -/
theorem read_toNat (h : t.Settled between) :
    (vGetCurrentTimerCounterValue t between).toNat = (t.after between).count % 2 ^ 32 := by
  have hcv := (t.after between).tcCv_lt
  have hshift : (t.timerOverflowCounter.toUInt32 <<< 16).toNat = (t.interrupts % 2 ^ 16) <<< 16 := by
    rw [UInt32.toNat_shiftLeft]
    simp only [timerOverflowCounter, UInt16.toNat_toUInt32, UInt16.toNat_ofNat',
      show (16 : UInt32).toNat % 32 = 16 from rfl, Nat.shiftLeft_eq]
    omega
  rw [vGetCurrentTimerCounterValue, UInt32.toNat_or, hshift, UInt16.toNat_toUInt32,
    ← Nat.shiftLeft_add_eq_or_of_lt hcv, Nat.shiftLeft_eq, count, h.quiet]
  omega

end Timer

/-! ## The 64 bit counters -/

namespace Counters

variable {c : Counters} {seen count : Nat}

/-- A 64 bit value put together from two halves. -/
theorem join_toNat (high low : UInt32) :
    (high.toUInt64 <<< 32 ||| low.toUInt64).toNat = 2 ^ 32 * high.toNat + low.toNat := by
  have hlow : low.toNat < 2 ^ 32 := low.toNat_lt
  have hhigh : high.toNat < 2 ^ 32 := high.toNat_lt
  have hshift : (high.toUInt64 <<< 32).toNat = high.toNat <<< 32 := by
    rw [UInt64.toNat_shiftLeft]
    simp only [UInt32.toNat_toUInt64, show (32 : UInt64).toNat % 64 = 32 from rfl, Nat.shiftLeft_eq]
    omega
  rw [UInt64.toNat_or, hshift, UInt32.toNat_toUInt64, ← Nat.shiftLeft_add_eq_or_of_lt hlow,
    Nat.shiftLeft_eq, Nat.mul_comm]

/-- The extension of the run time counter. -/
def total (c : Counters) : WrapCounter.Extension :=
  ⟨c.counterOverflows.toNat, c.last32bitCounterValue.toNat⟩

/-- The extension of the counter of the idle task. -/
def idle (c : Counters) : WrapCounter.Extension :=
  ⟨c.idleCounterOverflows.toNat, c.last32bitIdleCounterValue.toNat⟩

theorem getTotalRunTimeCounter_toNat (c : Counters) (value : UInt32) :
    (c.getTotalRunTimeCounter value).toNat = c.total.value (2 ^ 32) value.toNat := join_toNat _ _

theorem getTotalIdleRunTimeCounter_toNat (c : Counters) (value : UInt32) :
    (c.getTotalIdleRunTimeCounter value).toNat = c.idle.value (2 ^ 32) value.toNat := join_toNat _ _

theorem succ_toNat {n : UInt32} (h : n ≠ 0xffffffff) : (n + 1).toNat = n.toNat + 1 := by
  have hne : n.toNat ≠ 0xffffffff := fun hv => h (UInt32.toNat_inj.mp hv)
  have hlt : n.toNat < 2 ^ 32 := n.toNat_lt
  rw [UInt32.toNat_add]
  exact Nat.mod_eq_of_lt (by simp only [UInt32.toNat_one]; omega)

/-- Both counters of wraps have room for one more. -/
structure Room (c : Counters) : Prop where
  total : c.counterOverflows ≠ 0xffffffff
  idle : c.idleCounterOverflows ≠ 0xffffffff

/-- One of the two halves of `update64bit10kHzCounter`, as an update of the extension. -/
theorem extension_update {wraps : UInt32} (h : wraps ≠ 0xffffffff) (last value : UInt32) :
    (⟨(if value < last then wraps + 1 else wraps).toNat, value.toNat⟩ : WrapCounter.Extension) =
      WrapCounter.Extension.update ⟨wraps.toNat, last.toNat⟩ (value.toNat < last.toNat)
        value.toNat := by
  rw [WrapCounter.Extension.update]
  by_cases hlt : value < last
  · rw [if_pos hlt, succ_toNat h, if_pos (decide_eq_true (UInt32.lt_iff_toNat_lt.mp hlt))]
  · rw [if_neg hlt, if_neg (by simpa [UInt32.lt_iff_toNat_lt] using hlt)]

theorem total_update64bit10kHzCounter (h : c.Room) (value idleValue : UInt32) :
    (c.update64bit10kHzCounter value idleValue).total =
      c.total.update (value.toNat < c.total.last) value.toNat := extension_update h.total _ _

theorem idle_update64bit10kHzCounter (h : c.Room) (value idleValue : UInt32) :
    (c.update64bit10kHzCounter value idleValue).idle =
      c.idle.update (idleValue.toNat < c.idle.last) idleValue.toNat := extension_update h.idle _ _

end Counters

end RunTime
end Obsw
