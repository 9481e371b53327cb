import Obsw.Core.RunTimeStats
import Obsw.Fram.Accessors
import Obsw.Lib.Rounding

/-!
# `Core.TimeHandling` — the periodic time handling of the core controller

`CoreController::performPeriodicTimeHandling` of the iOBC, and the system it runs in: the uptime of the
clock, the timer counter and the scheduler, and the FRAM. The deployment timer may be armed and disarmed,
and the run time counters read, between two calls of it.
-/

namespace Obsw
namespace TimeHandling

open Memory Device Fram RunTime Loop

/-! ## The core controller -/

/-- `configTICK_RATE_HZ`. -/
def configTickRateHz : UInt32 := 1000

/-- `DAY_IN_SECONDS`. -/
def dayInSeconds : UInt32 := 60 * 60 * 24

/-- `SECONDS_ON_MS_OVERFLOW` in half seconds: in single precision, 4294967.296 is 4294967.5. -/
def secondsOnMsOverflow : Nat := 8589935

/-- `msOverflowCounter * SECONDS_ON_MS_OVERFLOW + currentUptimeSeconds` in single precision, which has
    24 significant bits. The sum is computed in half seconds, and converting it drops the half. -/
def secondsWithOverflows (overflows seconds : Nat) : Nat :=
  Rounding.nearest 24
    (Rounding.nearest 24 (secondsOnMsOverflow * overflows) + Rounding.nearest 24 (2 * seconds)) / 2

/-- The members that time handling uses. -/
structure CoreController where
  counters : Counters
  uptimeSeconds : UInt32
  msOverflowCounter : UInt16
  lastUptimeMs : UInt32
  epochTime : UInt32
  clockSecDiffSyncTrigger : UInt8
  lastFastCounterUpdateSeconds : UInt32
  lastDeploymentTimerIncrement : UInt32
  deriving DecidableEq, Repr

def CoreController.initial : CoreController where
  counters := .initial
  uptimeSeconds := 0
  msOverflowCounter := 0
  lastUptimeMs := 0
  epochTime := 0
  clockSecDiffSyncTrigger := 2
  lastFastCounterUpdateSeconds := 0
  lastDeploymentTimerIncrement := 0

inductive TimeEvent where
  | framFailure (result : Int)
  | fsfwClockSync
  deriving DecidableEq, Repr

/-- What a call of `performPeriodicTimeHandling` meets: the steps of the timer during a read of it, what
    `Time_getUnixEpoch` puts out (if anything), the seconds of the framework's clock, and the
    transfers of the FRAM. -/
structure TimeEnv where
  between : List TimerStep
  unixEpoch : Option UInt32
  epochWrite : WriteOutcome UInt8
  fsfwSeconds : Int
  flagRead : WriteOutcome UInt8
  timerRead : WriteOutcome UInt8
  timerWrite : WriteOutcome UInt8

/-- `updateSecondsCounter`. The value it returns is that of `uptimeSeconds`. -/
def updateSecondsCounter (uptimeMs : UInt32) (c : CoreController) : CoreController :=
  let msOverflowCounter :=
    if uptimeMs ≤ c.lastUptimeMs then c.msOverflowCounter + 1 else c.msOverflowCounter
  { c with
    msOverflowCounter := msOverflowCounter
    lastUptimeMs := uptimeMs
    uptimeSeconds :=
      UInt32.ofNat
        (secondsWithOverflows msOverflowCounter.toNat (uptimeMs / configTickRateHz).toNat) }

/-- The check for overflows of the 32 bit counters, once a day. -/
def checkFastCounters (e : TimeEnv) (idleCounter : UInt32) (c : CoreController) (timer : Timer) :
    CoreController × Timer :=
  if dayInSeconds ≤ c.uptimeSeconds - c.lastFastCounterUpdateSeconds then
    ({ c with
        counters :=
          c.counters.update64bit10kHzCounter (vGetCurrentTimerCounterValue timer e.between) idleCounter
        lastFastCounterUpdateSeconds := c.uptimeSeconds },
      timer.after e.between)
  else (c, timer)

/-- The time since epoch is taken over and stored in the FRAM. -/
def storeEpoch (e : TimeEnv) (c : CoreController) (fram : Mem UInt8) :
    CoreController × List TimeEvent × Mem UInt8 :=
  let c := { c with epochTime := e.unixEpoch.getD c.epochTime }
  let written := framUpdateSecondsSinceEpoch e.epochWrite fram c.epochTime.toNat
  (c, if written.1 ≠ 0 then [.framFailure written.1] else [], written.2)

/-- The time the clock of the framework is set to, if it is too far off. -/
def syncedClock (e : TimeEnv) (c : CoreController) : Option UInt32 :=
  if (c.clockSecDiffSyncTrigger.toNat : Int) < |e.fsfwSeconds - c.epochTime.toNat|
  then some c.epochTime else none

/-- `deploymentTimerArmed`, as the flag that is read over the local variable gives it. -/
def deploymentTimerArmed (bool : BoolReading) (e : TimeEnv) (fram : Mem UInt8) : Bool :=
  bool.isTrue
    ((framIsDeploymentTimerArmed e.flagRead fram (some fun _ => boolByte false)).out.getD (fun _ => 0) 0)

/-- The deployment timer is due for an increment. -/
def incrementDue (c : CoreController) : Prop := 2 < c.uptimeSeconds - c.lastDeploymentTimerIncrement

instance (c : CoreController) : Decidable (incrementDue c) :=
  inferInstanceAs (Decidable (2 < c.uptimeSeconds - c.lastDeploymentTimerIncrement))

/-- The deployment timer is incremented. The last component is the increment and what the call returned;
    the source drops the latter. -/
def incrementDeploymentTimer (bool : BoolReading) (e : TimeEnv) (c : CoreController)
    (fram : Mem UInt8) : CoreController × Mem UInt8 × Option (UInt32 × Int) :=
  if deploymentTimerArmed bool e fram = true then
    if incrementDue c then
      let increment := c.uptimeSeconds - c.lastDeploymentTimerIncrement
      let written := framIncrementSecondsOnDeploymentTimer e.timerRead e.timerWrite fram increment.toNat
      ({ c with lastDeploymentTimerIncrement := c.uptimeSeconds }, written.2,
        some (increment, written.1))
    else (c, fram, none)
  else (c, fram, none)

/-- What `performPeriodicTimeHandling` leaves. -/
structure Handled where
  controller : CoreController
  timer : Timer
  fram : Mem UInt8
  events : List TimeEvent
  setClock : Option UInt32
  increment : Option (UInt32 × Int)

/-- `performPeriodicTimeHandling`. -/
def performPeriodicTimeHandling (bool : BoolReading) (e : TimeEnv) (uptimeMs idleCounter : UInt32)
    (c : CoreController) (timer : Timer) (fram : Mem UInt8) : Handled :=
  let checked := checkFastCounters e idleCounter (updateSecondsCounter uptimeMs c) timer
  let stored := storeEpoch e checked.1 fram
  let setClock := syncedClock e stored.1
  let incremented := incrementDeploymentTimer bool e stored.1 stored.2.2
  { controller := incremented.1
    timer := checked.2
    fram := incremented.2.1
    events := stored.2.1 ++ if setClock.isSome then [.fsfwClockSync] else []
    setClock := setClock
    increment := incremented.2.2 }

/-! ## The system -/

/-- The core controller and what it works with. The clock counts `uptimeMs` modulo 2³². -/
structure System where
  uptimeMs : Nat
  timer : Timer
  scheduler : Scheduler
  controller : CoreController
  fram : Mem UInt8

/-- The system at startup. -/
def System.initial (fram : Mem UInt8) : System where
  uptimeMs := 0
  timer := ⟨0, false, 0⟩
  scheduler := ⟨0, 0, false, 0⟩
  controller := .initial
  fram := fram

/-- What happens: time passes, the timer makes a step, the scheduler switches tasks, the deployment timer
    is armed or disarmed, a run time counter is read, or the core controller handles the time. -/
inductive Event where
  | elapse (ms : Nat)
  | timerStep (e : TimerStep)
  | switchContext (between : List TimerStep) (nextIsIdle : Bool)
  | armDeploymentTimer (arm : Bool) (outcome : WriteOutcome UInt8)
  | readTotalRunTime (between : List TimerStep)
  | readTotalIdleRunTime
  | periodic (e : TimeEnv)

namespace System

/-- The members behind `updateSecondsCounter` in an update of the system. -/
def counted (s : System) : CoreController :=
  updateSecondsCounter (UInt32.ofNat s.uptimeMs) s.controller

/-- The time handling of the system. -/
def handle (bool : BoolReading) (e : TimeEnv) (s : System) : Handled :=
  performPeriodicTimeHandling bool e (UInt32.ofNat s.uptimeMs)
    s.scheduler.ulTaskGetIdleRunTimeCounter s.controller s.timer s.fram

def step (bool : BoolReading) : Event → System → System
  | .elapse ms, s => { s with uptimeMs := s.uptimeMs + ms }
  | .timerStep e, s => { s with timer := s.timer.step e }
  | .switchContext between nextIsIdle, s =>
    { s with
      timer := s.timer.after between
      scheduler :=
        s.scheduler.vTaskSwitchContext (vGetCurrentTimerCounterValue s.timer between) nextIsIdle }
  | .armDeploymentTimer arm outcome, s =>
    { s with fram := (framArmDeploymentTimer outcome s.fram arm).2 }
  | .readTotalRunTime between, s => { s with timer := s.timer.after between }
  | .readTotalIdleRunTime, s => s
  | .periodic e, s =>
    let h := s.handle bool e
    { s with timer := h.timer, controller := h.controller, fram := h.fram }

end System

theorem zero_not_set : ((0 : UInt8) != 0) = false := rfl

theorem one_set : ((1 : UInt8) != 0) = true := rfl

/-- A reading of `bool` that takes any other byte than 0 as true. -/
def plainReading : BoolReading := ⟨fun b => b != 0, zero_not_set, one_set⟩

/-- An update whose transfers all succeed. -/
def plainUpdate : TimeEnv := ⟨[], none, .done, 0, .done, .done, .done⟩

end TimeHandling
end Obsw
