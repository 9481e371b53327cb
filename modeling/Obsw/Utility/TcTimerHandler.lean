import Obsw.Lib.Loop
import Mathlib.Logic.Function.Basic

/-!
# `Utility.TcTimerHandler` — interrupts of the six timer channels

`TCTimerHandler` configures the timer counters TC0 to TC5 for a periodic, one-shot or overflow interrupt,
and holds an interrupt routine for each of them. Two lines name a channel by hand that should be another
one, or are missing: the compare value is always written to TC0, and the routine of TC2 does not read its
status register. `Frame t` says that nothing but what belongs to channel `t` is changed;
`timers_right_iff` says for which calls and interrupts the handler is right.
-/

namespace Obsw
namespace TcTimer

open Loop

/-! ## The peripherals -/

inductive TcPeripherals where
  | tc0
  | tc1
  | tc2
  | tc3
  | tc4
  | tc5
  deriving DecidableEq, Repr

/-- The registers of a timer counter that the handler writes, and how often the status register was
    read, which acknowledges the interrupt. -/
structure Timer where
  ccr : UInt32
  cmr : UInt32
  rc : UInt32
  ier : UInt32
  idr : UInt32
  srReads : Nat
  deriving DecidableEq, Repr

/-- A source of the interrupt controller. The vector is given by the channel whose generic routine it
    points to. -/
structure AicSource where
  smr : UInt32
  svr : Option TcPeripherals
  enabled : Bool
  deriving DecidableEq, Repr

/-- A pointer to a user routine, 0 for `nullptr`, and one to its argument. -/
abbrev IsrRoutine := UInt32

abbrev IsrArgs := UInt32

/-- The timers, the clocks and interrupt sources by their peripheral ids, and the tables of the handler. -/
structure State where
  timers : TcPeripherals → Timer
  clocks : Nat → Bool
  aic : Nat → AicSource
  oneShotIsr : TcPeripherals → Bool
  isrArgsBuffer : TcPeripherals → IsrArgs
  isrRoutinesBuffer : TcPeripherals → IsrRoutine

def lowestIsrPriority : UInt8 := 0
def highestIsrPriority : UInt8 := 7

/-- `BOARD_MCK`, the master clock. -/
def boardMck : UInt32 := (18432000 * 43) / (3 * 2 * 1)

def tcClken : UInt32 := (1 : UInt32) <<< 0
def tcClkdis : UInt32 := (1 : UInt32) <<< 1
def tcSwtrg : UInt32 := (1 : UInt32) <<< 2
def tcCpcs : UInt32 := (1 : UInt32) <<< 4
def tcCpctrg : UInt32 := (1 : UInt32) <<< 14

/-- `getPeripheralId`. -/
def getPeripheralId : TcPeripherals → Nat
  | .tc0 => 17
  | .tc1 => 18
  | .tc2 => 19
  | .tc3 => 26
  | .tc4 => 27
  | .tc5 => 28

namespace State

variable (s : State)

/-- Write registers of a timer. -/
def onTimer (t : TcPeripherals) (f : Timer → Timer) : State :=
  { s with timers := Function.update s.timers t (f (s.timers t)) }

/-- `TC_Configure`. -/
def tcConfigure (t : TcPeripherals) (mode : UInt32) : State :=
  s.onTimer t fun p =>
    { p with ccr := tcClkdis, idr := 0xffffffff, srReads := p.srReads + 1, cmr := mode }

/-- `TC_Start`. -/
def tcStart (t : TcPeripherals) : State := s.onTimer t fun p => { p with ccr := tcClken ||| tcSwtrg }

/-- `TC_Stop`. -/
def tcStop (t : TcPeripherals) : State := s.onTimer t fun p => { p with ccr := tcClkdis }

/-- Read `TC_SR`. -/
def readStatus (t : TcPeripherals) : State := s.onTimer t fun p => { p with srReads := p.srReads + 1 }

/-- Write `PMC_PCER`, for one peripheral. -/
def enableClock (peripheralId : Nat) : State :=
  { s with clocks := Function.update s.clocks peripheralId true }

/-- `AIC_ConfigureIT`. -/
def aicConfigureIt (source : Nat) (mode : UInt32) (handler : TcPeripherals) : State :=
  { s with aic := Function.update s.aic source ⟨mode, some handler, false⟩ }

/-- `AIC_EnableIT`. -/
def aicEnableIt (source : Nat) : State :=
  { s with aic := Function.update s.aic source { s.aic source with enabled := true } }

variable (t : TcPeripherals) (f : Timer → Timer) (source : Nat) (mode : UInt32)

@[simp] theorem onTimer_self : (s.onTimer t f).timers t = f (s.timers t) := Function.update_self ..

@[simp] theorem onTimer_ne {u : TcPeripherals} (h : u ≠ t) : (s.onTimer t f).timers u = s.timers u :=
  Function.update_of_ne h ..

@[simp] theorem onTimer_aic : (s.onTimer t f).aic = s.aic := rfl

@[simp] theorem aicConfigureIt_self (handler : TcPeripherals) :
    (s.aicConfigureIt source mode handler).aic source = ⟨mode, some handler, false⟩ :=
  Function.update_self ..

@[simp] theorem aicConfigureIt_timers (handler : TcPeripherals) :
    (s.aicConfigureIt source mode handler).timers = s.timers := rfl

@[simp] theorem aicEnableIt_self :
    (s.aicEnableIt source).aic source = { s.aic source with enabled := true } :=
  Function.update_self ..

@[simp] theorem aicEnableIt_timers : (s.aicEnableIt source).timers = s.timers := rfl

end State

/-! ## `TC_FindMckDivisor` -/

/-- The last divisor, in the build for the EK board and in the one for the iOBC. -/
def ekLastDivisor : UInt32 := boardMck / 32768

def iobcLastDivisor : UInt32 := 1024

/-- The divisors with their clock selections. -/
def divisors (lastDivisor : UInt32) : List (UInt32 × UInt32) :=
  [(2, 0), (8, 1), (32, 2), (128, 3), (lastDivisor, 4)]

/-- The second loop: the next divisor as long as the frequency is not above its clock. -/
def maximiseDiv (freq mck : UInt32) : UInt32 × UInt32 → List (UInt32 × UInt32) → UInt32 × UInt32
  | d, [] => d
  | d, next :: rest => if freq > mck / next.1 then d else maximiseDiv freq mck next rest

/-- `TC_FindMckDivisor`: the divisor and the clock selection, or `none` if it returns 0. The last divisor is
    a value of the build. -/
def tcFindMckDivisor (lastDivisor freq mck : UInt32) : Option (UInt32 × UInt32) :=
  match (divisors lastDivisor).dropWhile fun d => freq < (mck / d.1) / 65536 with
  | [] => none
  | d :: rest => some (maximiseDiv freq mck d rest)

/-! ## `configureGenericInterrupt` -/

/-- The arguments of `configureGenericInterrupt`, with a frequency above zero. -/
structure Call where
  tcSelect : TcPeripherals
  frequency : UInt32
  isrRoutine : IsrRoutine
  interruptPriority : UInt8
  startImmediately : Bool
  isrArgs : IsrArgs
  oneShotInterrupt : Bool
  overflowInterrupt : Bool
  frequency_pos : 0 < frequency

/-- `prepareParameters`: the generic routine, the priority, and the tables with the entries of the call.
    `none` for a `nullptr`. -/
def prepareParameters (c : Call) (s : State) : Option (TcPeripherals × UInt8 × State) :=
  let interruptPrio :=
    if c.interruptPriority > highestIsrPriority then lowestIsrPriority else c.interruptPriority
  let aicIsr := c.tcSelect
  if c.isrRoutine = 0 then none
  else some (aicIsr, interruptPrio,
    { s with
      oneShotIsr := Function.update s.oneShotIsr c.tcSelect c.oneShotInterrupt
      isrArgsBuffer := Function.update s.isrArgsBuffer c.tcSelect c.isrArgs
      isrRoutinesBuffer := Function.update s.isrRoutinesBuffer c.tcSelect c.isrRoutine })

/-- The value for the compare register. -/
def compareValue (c : Call) (div : UInt32) : UInt32 :=
  if c.overflowInterrupt then 0xffff
  else if boardMck / div / c.frequency > 0xffff then 0xffff
  else boardMck / div / c.frequency

/-- The part of `configureGenericInterrupt` behind the search for a divisor. -/
def configureTimer (c : Call) (aicIsr : TcPeripherals) (interruptPriority : UInt8)
    (div tcclks : UInt32) (s : State) : State :=
  let peripheralId := getPeripheralId c.tcSelect
  let s := s.tcConfigure c.tcSelect (tcclks ||| tcCpctrg)
  -- the compare register that is written is the one of TC0
  let s := s.onTimer .tc0 fun p => { p with rc := compareValue c div }
  let s := s.aicConfigureIt peripheralId interruptPriority.toUInt32 aicIsr
  let s := s.onTimer c.tcSelect fun p => { p with ier := tcCpcs }
  let s := s.aicEnableIt peripheralId
  if c.startImmediately then s.tcStart c.tcSelect else s

/-- `configureGenericInterrupt`, with the function that finds a divisor of the master clock. -/
def configureGenericInterrupt (find : UInt32 → UInt32 → Option (UInt32 × UInt32)) (c : Call)
    (s : State) : State :=
  match prepareParameters c s with
  | none => s
  | some (aicIsr, interruptPriority, s) =>
    let s := s.enableClock (getPeripheralId c.tcSelect)
    match find c.frequency boardMck with
    | none => s
    | some (div, tcclks) =>
      if div = 0 then s
      else configureTimer c aicIsr interruptPriority div tcclks s

/-! ## The interrupt routines -/

/-- What a user routine does when it is called with an argument. -/
abbrev UserRoutines := IsrRoutine → IsrArgs → State → State

section Isr

variable (user : UserRoutines) (s : State)

/-- Call the user routine of a channel, and stop the channel if it is one-shot. -/
def callAndStop (t : TcPeripherals) : State :=
  let s := user (s.isrRoutinesBuffer t) (s.isrArgsBuffer t) s
  if s.oneShotIsr t then s.tcStop t else s

/-- The generic routine of a channel. -/
def tcGenericIsr (t : TcPeripherals) : State := (callAndStop user s t).readStatus t

/-- `tcGenericIsrTc0`. -/
def tcGenericIsrTc0 : State := tcGenericIsr user s .tc0

/-- `tcGenericIsrTc1`. -/
def tcGenericIsrTc1 : State := tcGenericIsr user s .tc1

/-- `tcGenericIsrTc2`. The status register is not read. -/
def tcGenericIsrTc2 : State := callAndStop user s .tc2

/-- `tcGenericIsrTc3`. -/
def tcGenericIsrTc3 : State := tcGenericIsr user s .tc3

/-- `tcGenericIsrTc4`. -/
def tcGenericIsrTc4 : State := tcGenericIsr user s .tc4

/-- `tcGenericIsrTc5`. -/
def tcGenericIsrTc5 : State := tcGenericIsr user s .tc5

/-- The routine of a channel. -/
def isrOf : TcPeripherals → State
  | .tc0 => tcGenericIsrTc0 user s
  | .tc1 => tcGenericIsrTc1 user s
  | .tc2 => tcGenericIsrTc2 user s
  | .tc3 => tcGenericIsrTc3 user s
  | .tc4 => tcGenericIsrTc4 user s
  | .tc5 => tcGenericIsrTc5 user s

end Isr

/-! ## What is right -/

/-- Nothing is changed but the timer registers, table entries, clock and interrupt source of channel `t`. -/
structure Frame (t : TcPeripherals) (s s' : State) : Prop where
  timers : ∀ u, u ≠ t → s'.timers u = s.timers u
  clocks : ∀ id, id ≠ getPeripheralId t → s'.clocks id = s.clocks id
  aic : ∀ id, id ≠ getPeripheralId t → s'.aic id = s.aic id
  oneShotIsr : ∀ u, u ≠ t → s'.oneShotIsr u = s.oneShotIsr u
  isrArgsBuffer : ∀ u, u ≠ t → s'.isrArgsBuffer u = s.isrArgsBuffer u
  isrRoutinesBuffer : ∀ u, u ≠ t → s'.isrRoutinesBuffer u = s.isrRoutinesBuffer u

/-- What the compare register should hold. -/
def wantedCompare (c : Call) (div : UInt32) : Nat :=
  if c.overflowInterrupt then 0xffff
  else min 0xffff (boardMck.toNat / div.toNat / c.frequency.toNat)

/-- The call gets as far as the configuration of the timer. -/
def Succeeds (find : UInt32 → UInt32 → Option (UInt32 × UInt32)) (c : Call) (div : UInt32) : Prop :=
  c.isrRoutine ≠ 0 ∧ div ≠ 0 ∧ ∃ tcclks, find c.frequency boardMck = some (div, tcclks)

/-- Only the selected channel is changed. If the call succeeds, its compare register has the value for the
    frequency, and its interrupt source the channel's generic routine. -/
structure ConfigureRight (find : UInt32 → UInt32 → Option (UInt32 × UInt32)) (c : Call)
    (s s' : State) : Prop where
  only : Frame c.tcSelect s s'
  compare : ∀ div, Succeeds find c div → (s'.timers c.tcSelect).rc.toNat = wantedCompare c div
  vector : ∀ div, Succeeds find c div → (s'.aic (getPeripheralId c.tcSelect)).svr = some c.tcSelect

/-- An interrupt of channel `t` calls the user routine of the channel with its argument. After that, the
    status register is read once, the channel is stopped if it is one-shot, and nothing else is changed. -/
structure InterruptRight (user : UserRoutines) (t : TcPeripherals) (s s' : State) : Prop where
  only : Frame t (user (s.isrRoutinesBuffer t) (s.isrArgsBuffer t) s) s'
  acknowledged : (s'.timers t).srReads =
    ((user (s.isrRoutinesBuffer t) (s.isrArgsBuffer t) s).timers t).srReads + 1
  stopped : (s'.timers t).ccr =
    if (user (s.isrRoutinesBuffer t) (s.isrArgsBuffer t) s).oneShotIsr t then tcClkdis
    else ((user (s.isrRoutinesBuffer t) (s.isrArgsBuffer t) s).timers t).ccr

/-- A call of the handler, or the interrupt of a channel. -/
inductive Op where
  | configure (c : Call)
  | interrupt (t : TcPeripherals)

section Ops

variable (find : UInt32 → UInt32 → Option (UInt32 × UInt32)) (user : UserRoutines)

def step : Op → State → State
  | .configure c, s => configureGenericInterrupt find c s
  | .interrupt t, s => isrOf user s t

def OpRight : Op → State → Prop
  | .configure c, s => ConfigureRight find c s (configureGenericInterrupt find c s)
  | .interrupt t, s => InterruptRight user t s (isrOf user s t)

/-- A call that succeeds is for TC0, or finds the right value in the compare registers of TC0 and of its
    channel. The interrupt is not one of TC2. -/
def OpGood : Op → State → Prop
  | .configure c, s => ∀ div, Succeeds find c div →
      c.tcSelect = .tc0 ∨ ((s.timers .tc0).rc.toNat = wantedCompare c div ∧
        (s.timers c.tcSelect).rc.toNat = wantedCompare c div)
  | .interrupt t, _ => t ≠ .tc2

end Ops

/-! ## What each access leaves alone -/

namespace Frame

variable {t : TcPeripherals} {s s' s'' : State}

theorem refl (t : TcPeripherals) (s : State) : Frame t s s :=
  ⟨fun _ _ => rfl, fun _ _ => rfl, fun _ _ => rfl, fun _ _ => rfl, fun _ _ => rfl, fun _ _ => rfl⟩

theorem symm (h : Frame t s s') : Frame t s' s where
  timers u hu := (h.timers u hu).symm
  clocks id hid := (h.clocks id hid).symm
  aic id hid := (h.aic id hid).symm
  oneShotIsr u hu := (h.oneShotIsr u hu).symm
  isrArgsBuffer u hu := (h.isrArgsBuffer u hu).symm
  isrRoutinesBuffer u hu := (h.isrRoutinesBuffer u hu).symm

theorem trans (h : Frame t s s') (h' : Frame t s' s'') : Frame t s s'' where
  timers u hu := (h'.timers u hu).trans (h.timers u hu)
  clocks id hid := (h'.clocks id hid).trans (h.clocks id hid)
  aic id hid := (h'.aic id hid).trans (h.aic id hid)
  oneShotIsr u hu := (h'.oneShotIsr u hu).trans (h.oneShotIsr u hu)
  isrArgsBuffer u hu := (h'.isrArgsBuffer u hu).trans (h.isrArgsBuffer u hu)
  isrRoutinesBuffer u hu := (h'.isrRoutinesBuffer u hu).trans (h.isrRoutinesBuffer u hu)

/-- A write to a timer register of the channel. -/
theorem onTimer (f : Timer → Timer) (h : Frame t s s') : Frame t s (s'.onTimer t f) :=
  h.trans { refl t s' with timers := fun _ hu => s'.onTimer_ne t f hu }

theorem enableClock (h : Frame t s s') : Frame t s (s'.enableClock (getPeripheralId t)) :=
  h.trans { refl t s' with clocks := fun _ hid => Function.update_of_ne hid _ _ }

theorem aicConfigureIt (mode : UInt32) (handler : TcPeripherals) (h : Frame t s s') :
    Frame t s (s'.aicConfigureIt (getPeripheralId t) mode handler) :=
  h.trans { refl t s' with aic := fun _ hid => Function.update_of_ne hid _ _ }

theorem aicEnableIt (h : Frame t s s') : Frame t s (s'.aicEnableIt (getPeripheralId t)) :=
  h.trans { refl t s' with aic := fun _ hid => Function.update_of_ne hid _ _ }

/-- The entries of the tables for the channel. -/
theorem prepareParameters {c : Call} {aicIsr : TcPeripherals} {prio : UInt8}
    (h : prepareParameters c s = some (aicIsr, prio, s')) : Frame c.tcSelect s s' := by
  unfold TcTimer.prepareParameters at h
  dsimp only at h
  by_cases hnull : c.isrRoutine = 0
  · rw [if_pos hnull] at h
    cases h
  · rw [if_neg hnull] at h
    simp only [Option.some.injEq, Prod.mk.injEq] at h
    obtain ⟨-, -, rfl⟩ := h
    exact { refl c.tcSelect s with
      oneShotIsr := fun _ hu => Function.update_of_ne hu _ _
      isrArgsBuffer := fun _ hu => Function.update_of_ne hu _ _
      isrRoutinesBuffer := fun _ hu => Function.update_of_ne hu _ _ }

end Frame

/-! ## The compare value -/

/-- The compare value is what the register should hold. -/
theorem toNat_compareValue (c : Call) (div : UInt32) :
    (compareValue c div).toNat = wantedCompare c div := by
  unfold compareValue wantedCompare
  by_cases hover : c.overflowInterrupt = true
  · rw [if_pos hover, if_pos hover]
    rfl
  · rw [if_neg hover, if_neg hover]
    have hvalue : (boardMck / div / c.frequency).toNat =
        boardMck.toNat / div.toNat / c.frequency.toNat := by
      rw [UInt32.toNat_div, UInt32.toNat_div]
    by_cases hslow : boardMck / div / c.frequency > 0xffff
    · rw [if_pos hslow]
      have : 0xffff < (boardMck / div / c.frequency).toNat := UInt32.lt_iff_toNat_lt.mp hslow
      rw [Nat.min_eq_left (by omega)]
      rfl
    · rw [if_neg hslow, hvalue]
      have : ¬ 0xffff < (boardMck / div / c.frequency).toNat :=
        fun h => hslow (UInt32.lt_iff_toNat_lt.mpr h)
      rw [Nat.min_eq_right (by omega)]

/-! ## The configuration of the timer -/

section Configure

variable (c : Call) (aicIsr : TcPeripherals) (prio : UInt8) (div tcclks : UInt32) (s : State)

/-- The state with the compare register written. -/
def compareWritten : State :=
  (s.tcConfigure c.tcSelect (tcclks ||| tcCpctrg)).onTimer .tc0 fun p =>
    { p with rc := compareValue c div }

/-- What follows the compare register is about the selected channel, … -/
theorem configureTimer_frame :
    Frame c.tcSelect (compareWritten c div tcclks s) (configureTimer c aicIsr prio div tcclks s) := by
  have hframe := ((((Frame.refl c.tcSelect (compareWritten c div tcclks s)).aicConfigureIt
    prio.toUInt32 aicIsr).onTimer fun p => { p with ier := tcCpcs }).aicEnableIt)
  unfold configureTimer
  dsimp only
  by_cases hstart : c.startImmediately = true
  · rw [if_pos hstart]
    exact hframe.onTimer _
  · rw [if_neg hstart]
    exact hframe

/-- … and leaves its compare register as it is. -/
theorem configureTimer_rc :
    ((configureTimer c aicIsr prio div tcclks s).timers c.tcSelect).rc =
      ((compareWritten c div tcclks s).timers c.tcSelect).rc := by
  unfold configureTimer
  dsimp only
  by_cases hstart : c.startImmediately = true
  · rw [if_pos hstart]
    simp [State.tcStart, compareWritten]
  · rw [if_neg hstart]
    simp [compareWritten]

theorem configureTimer_svr :
    ((configureTimer c aicIsr prio div tcclks s).aic (getPeripheralId c.tcSelect)).svr = some aicIsr := by
  unfold configureTimer
  dsimp only
  by_cases hstart : c.startImmediately = true
  · rw [if_pos hstart]
    simp [State.tcStart]
  · rw [if_neg hstart]
    simp

/-- For TC0 the written register is the channel's own. -/
theorem compareWritten_tc0 (h : c.tcSelect = .tc0) :
    Frame c.tcSelect s (compareWritten c div tcclks s) ∧
      ((compareWritten c div tcclks s).timers c.tcSelect).rc = compareValue c div := by
  unfold compareWritten
  constructor
  · have hconfigure := (Frame.refl c.tcSelect s).onTimer fun p =>
      { p with ccr := tcClkdis, idr := 0xffffffff, srReads := p.srReads + 1, cmr := tcclks ||| tcCpctrg }
    have hcompare := hconfigure.onTimer fun p => { p with rc := compareValue c div }
    rw [h] at hcompare ⊢
    exact hcompare
  · rw [h]
    simp

/-- For another channel, the compare register of TC0 is written and its own one is not. -/
theorem compareWritten_ne (h : c.tcSelect ≠ .tc0) :
    (compareWritten c div tcclks s).timers .tc0 =
        { s.timers .tc0 with rc := compareValue c div } ∧
      ((compareWritten c div tcclks s).timers c.tcSelect).rc = (s.timers c.tcSelect).rc := by
  unfold compareWritten State.tcConfigure
  constructor
  · simp [Ne.symm h]
  · simp [h]

/-- If the compare register of TC0 has the value already, only the selected channel is changed. -/
theorem compareWritten_same (h : c.tcSelect ≠ .tc0) (hrc : (s.timers .tc0).rc = compareValue c div) :
    Frame c.tcSelect s (compareWritten c div tcclks s) := by
  have hconfigure := (Frame.refl c.tcSelect s).onTimer fun p =>
    { p with ccr := tcClkdis, idr := 0xffffffff, srReads := p.srReads + 1, cmr := tcclks ||| tcCpctrg }
  refine hconfigure.trans { Frame.refl c.tcSelect _ with timers := ?_ }
  intro u hu
  by_cases hu0 : u = .tc0
  · -- a register that is written with its own value
    subst hu0
    rw [hconfigure.timers .tc0 hu, (compareWritten_ne c div tcclks s h).1, ← hrc]
  · exact State.onTimer_ne _ _ _ hu0

/-- **The configuration of one timer.** -/
theorem configureTimer_right_iff :
    (Frame c.tcSelect s (configureTimer c aicIsr prio div tcclks s) ∧
      ((configureTimer c aicIsr prio div tcclks s).timers c.tcSelect).rc.toNat = wantedCompare c div) ↔
    (c.tcSelect = .tc0 ∨ ((s.timers .tc0).rc.toNat = wantedCompare c div ∧
      (s.timers c.tcSelect).rc.toNat = wantedCompare c div)) := by
  rw [configureTimer_rc]
  have hafter := configureTimer_frame c aicIsr prio div tcclks s
  constructor
  · rintro ⟨hframe, hrc⟩
    by_cases h : c.tcSelect = .tc0
    · exact Or.inl h
    · -- the frame says that the write to TC0 has changed nothing
      obtain ⟨htc0, hown⟩ := compareWritten_ne c div tcclks s h
      refine Or.inr ⟨?_, by rw [← hown]; exact hrc⟩
      have hsame := hframe.timers .tc0 (Ne.symm h)
      rw [hafter.timers .tc0 (Ne.symm h), htc0] at hsame
      rw [← hsame, ← toNat_compareValue]
  · intro hgood
    by_cases h : c.tcSelect = .tc0
    · obtain ⟨hframe, hrc⟩ := compareWritten_tc0 c div tcclks s h
      exact ⟨hframe.trans hafter, by rw [hrc]; exact toNat_compareValue c div⟩
    · obtain ⟨hrc, hown⟩ := hgood.resolve_left h
      rw [← toNat_compareValue] at hrc
      refine ⟨(compareWritten_same c div tcclks s h (UInt32.toNat_inj.mp hrc)).trans hafter, ?_⟩
      rw [(compareWritten_ne c div tcclks s h).2]
      exact hown

end Configure

/-! ## A call -/

section Call

variable {find : UInt32 → UInt32 → Option (UInt32 × UInt32)} {c : Call} {s : State}

/-- A call with a `nullptr` changes nothing. -/
theorem prepareParameters_null (h : c.isrRoutine = 0) : prepareParameters c s = none := by
  unfold prepareParameters
  exact if_pos h

/-- The tables have changed, and the timers have not. -/
theorem exists_prepareParameters (h : c.isrRoutine ≠ 0) :
    ∃ prio s', prepareParameters c s = some (c.tcSelect, prio, s') ∧ s'.timers = s.timers :=
  ⟨_, _, if_neg h, rfl⟩

/-- A call that does not succeed changes only the selected channel. -/
theorem configureRight_of_not_succeeds (h : ∀ div, ¬ Succeeds find c div) :
    ConfigureRight find c s (configureGenericInterrupt find c s) := by
  refine ⟨?_, fun div hdiv => absurd hdiv (h div), fun div hdiv => absurd hdiv (h div)⟩
  unfold configureGenericInterrupt
  by_cases hnull : c.isrRoutine = 0
  · rw [prepareParameters_null hnull]
    exact Frame.refl c.tcSelect s
  · obtain ⟨prio, s', hprepare, -⟩ := exists_prepareParameters (s := s) hnull
    have hframe := (Frame.prepareParameters hprepare).enableClock
    rw [hprepare]
    dsimp only
    rcases hfind : find c.frequency boardMck with _ | ⟨div, tcclks⟩
    · exact hframe
    · dsimp only
      by_cases hdiv : div = 0
      · rw [if_pos hdiv]
        exact hframe
      · exact absurd ⟨hnull, hdiv, tcclks, hfind⟩ (h div)

/-- A call that succeeds configures the timer, in a state in which only the selected channel is changed, and
    of the timers none. -/
theorem configure_of_succeeds {div : UInt32} (h : Succeeds find c div) :
    ∃ prio tcclks s', Frame c.tcSelect s s' ∧ s'.timers = s.timers ∧
      configureGenericInterrupt find c s = configureTimer c c.tcSelect prio div tcclks s' := by
  obtain ⟨hnull, hdiv, tcclks, hfind⟩ := h
  obtain ⟨prio, s', hprepare, htimers⟩ := exists_prepareParameters (s := s) hnull
  refine ⟨prio, tcclks, s'.enableClock (getPeripheralId c.tcSelect),
    (Frame.prepareParameters hprepare).enableClock, htimers, ?_⟩
  unfold configureGenericInterrupt
  rw [hprepare]
  dsimp only
  rw [hfind]
  dsimp only
  exact if_neg hdiv

theorem succeeds_unique {div div' : UInt32} (h : Succeeds find c div) (h' : Succeeds find c div') :
    div = div' := by
  obtain ⟨-, -, tcclks, hfind⟩ := h
  obtain ⟨-, -, tcclks', hfind'⟩ := h'
  rw [hfind] at hfind'
  simp only [Option.some.injEq, Prod.mk.injEq] at hfind'
  exact hfind'.1

/-- **A call.** -/
theorem configureRight_iff :
    ConfigureRight find c s (configureGenericInterrupt find c s) ↔ OpGood find (.configure c) s := by
  by_cases hsucceeds : ∃ div, Succeeds find c div
  · obtain ⟨div, hdiv⟩ := hsucceeds
    obtain ⟨prio, tcclks, s', hframe, htimers, hcall⟩ := configure_of_succeeds (s := s) hdiv
    have hiff := configureTimer_right_iff c c.tcSelect prio div tcclks s'
    rw [htimers, ← hcall] at hiff
    constructor
    · intro hright div' hdiv'
      obtain rfl := succeeds_unique hdiv hdiv'
      exact hiff.mp ⟨hframe.symm.trans hright.only, hright.compare div hdiv⟩
    · intro hgood
      obtain ⟨honly, hcompare⟩ := hiff.mpr (hgood div hdiv)
      refine ⟨hframe.trans honly, ?_, ?_⟩
      · intro div' hdiv'
        obtain rfl := succeeds_unique hdiv hdiv'
        exact hcompare
      · intro div' hdiv'
        rw [hcall]
        exact configureTimer_svr c c.tcSelect prio div tcclks s'
  · have hnot : ∀ div, ¬ Succeeds find c div := fun div hdiv => hsucceeds ⟨div, hdiv⟩
    constructor
    · intro _ div hdiv
      exact absurd hdiv (hnot div)
    · intro _
      exact configureRight_of_not_succeeds hnot

end Call

/-! ## An interrupt -/

section Interrupt

variable (user : UserRoutines) (s : State) (t : TcPeripherals)

/-- The first part of an interrupt: the user routine is called, and a one-shot channel stopped. -/
theorem callAndStop_right :
    Frame t (user (s.isrRoutinesBuffer t) (s.isrArgsBuffer t) s) (callAndStop user s t) ∧
      ((callAndStop user s t).timers t).srReads =
        ((user (s.isrRoutinesBuffer t) (s.isrArgsBuffer t) s).timers t).srReads ∧
      ((callAndStop user s t).timers t).ccr =
        if (user (s.isrRoutinesBuffer t) (s.isrArgsBuffer t) s).oneShotIsr t then tcClkdis
        else ((user (s.isrRoutinesBuffer t) (s.isrArgsBuffer t) s).timers t).ccr := by
  unfold callAndStop
  dsimp only
  by_cases hone : (user (s.isrRoutinesBuffer t) (s.isrArgsBuffer t) s).oneShotIsr t = true
  · rw [if_pos hone, if_pos hone]
    refine ⟨(Frame.refl t _).onTimer _, ?_, ?_⟩
    · simp [State.tcStop]
    · simp [State.tcStop]
  · rw [if_neg hone, if_neg hone]
    exact ⟨Frame.refl t _, rfl, rfl⟩

/-- The generic routine is right. -/
theorem tcGenericIsr_right : InterruptRight user t s (tcGenericIsr user s t) := by
  obtain ⟨hframe, hreads, hccr⟩ := callAndStop_right user s t
  unfold tcGenericIsr State.readStatus
  refine ⟨hframe.onTimer _, ?_, ?_⟩
  · simp [hreads]
  · simp [hccr]

/-- **An interrupt.** All routines but the one of TC2 are right. -/
theorem interruptRight_iff : InterruptRight user t s (isrOf user s t) ↔ t ≠ .tc2 := by
  constructor
  · -- the routine of TC2 ends behind the stop
    rintro hright rfl
    have hreads := hright.acknowledged
    rw [show isrOf user s .tc2 = callAndStop user s .tc2 from rfl,
      (callAndStop_right user s .tc2).2.1] at hreads
    omega
  · intro ht
    have hisr : isrOf user s t = tcGenericIsr user s t := by
      cases t with
      | tc2 => exact absurd rfl ht
      | tc0 | tc1 | tc3 | tc4 | tc5 => rfl
    rw [hisr]
    exact tcGenericIsr_right user s t

end Interrupt

/-- **The timer channels.** Along every sequence of calls and interrupts, with any user routines, the
    handler is right exactly if each call that succeeds is for TC0 or finds the compare registers set, and
    no interrupt is one of TC2. -/
theorem timers_right_iff (find : UInt32 → UInt32 → Option (UInt32 × UInt32)) (user : UserRoutines)
    (ops : List Op) (s : State) :
    AlongRun (OpRight find user) (step find user) ops s ↔
      AlongRun (OpGood find) (step find user) ops s := by
  refine alongRun_congr ?_ ops s
  intro op s
  cases op with
  | configure c => exact configureRight_iff
  | interrupt t => exact interruptRight_iff user s t

/-- The state after the reset. -/
def reset : State :=
  ⟨fun _ => ⟨0, 0, 0, 0, 0, 0⟩, fun _ => false, fun _ => ⟨0, none, false⟩, fun _ => false, fun _ => 0,
    fun _ => 0⟩

/-- A periodic interrupt of TC1 with 1 kHz. -/
def periodicTc1 : Call := ⟨.tc1, 1000, 0x20001000, 0, false, 0, false, false, by decide⟩

/-- The periodic interrupt of TC1 sets the compare register of TC0, in both builds. -/
theorem tc1_sets_tc0 :
    (¬ ∀ (user : UserRoutines) (ops : List Op) (s : State),
        AlongRun (OpRight (tcFindMckDivisor iobcLastDivisor) user) (step (tcFindMckDivisor iobcLastDivisor) user)
          ops s) ∧
      ¬ ∀ (user : UserRoutines) (ops : List Op) (s : State),
        AlongRun (OpRight (tcFindMckDivisor ekLastDivisor) user) (step (tcFindMckDivisor ekLastDivisor) user)
          ops s := by
  constructor
  · intro hall
    have hright := (hall (fun _ _ s => s) [.configure periodicTc1] reset).1
    exact absurd (hright.only.timers .tc0 (by decide)) (by decide)
  · intro hall
    have hright := (hall (fun _ _ s => s) [.configure periodicTc1] reset).1
    exact absurd (hright.only.timers .tc0 (by decide)) (by decide)

end TcTimer
end Obsw
