import Obsw.Core.TimeHandling

/-!
# `Core.TotalRunTime` — successive reads of the 64 bit run time counters

The core controller checks the 32 bit counters for a wrap once a day. A read between a wrap and the next
check puts the new low half together with the old number of wraps, and a read between an overflow of the
timer and its interrupt misses 2¹⁶ ticks. Apart from these the values do not go down.
-/

namespace Obsw
namespace TimeHandling

open Memory Device Fram Loop RunTime WrapCounter

/-! ## Reads and their conditions -/

namespace System

/-- What `getTotalRunTimeCounter` returns. -/
def totalRunTime (between : List TimerStep) (s : System) : UInt64 :=
  s.controller.counters.getTotalRunTimeCounter (vGetCurrentTimerCounterValue s.timer between)

/-- What `getTotalIdleRunTimeCounter` returns. -/
def totalIdleRunTime (s : System) : UInt64 :=
  s.controller.counters.getTotalIdleRunTimeCounter s.scheduler.ulTaskGetIdleRunTimeCounter

/-- The count of the timer up to which wraps have been seen. -/
def seenTotal (s : System) : Nat := s.controller.counters.total.seen (2 ^ 32)

/-- The run time of the idle task up to which wraps have been seen. -/
def seenIdle (s : System) : Nat := s.controller.counters.idle.seen (2 ^ 32)

/-- The time handling of this call checks the counters. -/
def DailyCheck (s : System) : Prop :=
  dayInSeconds ≤ s.counted.uptimeSeconds - s.counted.lastFastCounterUpdateSeconds

end System

/-- The values `getTotalRunTimeCounter` returns in a run. -/
def totalRunTimes (bool : BoolReading) (events : List Event) (s : System) : List UInt64 :=
  shown (fun e s => match e with
    | .readTotalRunTime between => some (s.totalRunTime between)
    | _ => none) (System.step bool) events s

/-- The values `getTotalIdleRunTimeCounter` returns in a run. -/
def totalIdleRunTimes (bool : BoolReading) (events : List Event) (s : System) : List UInt64 :=
  shown (fun e s => match e with
    | .readTotalIdleRunTime => some s.totalIdleRunTime
    | _ => none) (System.step bool) events s

/-- Less than a 32 bit wrap has passed since the last check of the counters. -/
structure WithinWrap (timer : Timer) (s : System) : Prop where
  total : timer.ticks < s.seenTotal + 2 ^ 32
  idle : s.scheduler.idleRunTime < s.seenIdle + 2 ^ 32

/-- Reads and checks are less than a 32 bit wrap behind the last check. -/
def EventWithinWrap (e : Event) (s : System) : Prop :=
  match e with
  | .readTotalRunTime between => WithinWrap (s.timer.after between) s
  | .readTotalIdleRunTime => WithinWrap s.timer s
  | .periodic e => s.DailyCheck → WithinWrap (s.timer.after e.between) s
  | _ => True

/-- No overflow falls into a read of the timer or of a check, no read comes between a wrap of its counter
    and the next check, and there is room for the wraps. -/
def EventSettled (e : Event) (s : System) : Prop :=
  match e with
  | .readTotalRunTime between =>
    s.timer.Settled between ∧
      s.controller.counters.last32bitCounterValue ≤ vGetCurrentTimerCounterValue s.timer between
  | .readTotalIdleRunTime =>
    s.controller.counters.last32bitIdleCounterValue ≤ s.scheduler.ulTaskGetIdleRunTimeCounter
  | .periodic e => s.DailyCheck → s.timer.Settled e.between ∧ s.controller.counters.Room
  | _ => True

/-! ## What the time handling does to the counters -/

theorem incrementDeploymentTimer_counters (bool : BoolReading) (e : TimeEnv) (c : CoreController)
    (fram : Mem UInt8) : (incrementDeploymentTimer bool e c fram).1.counters = c.counters := by
  rw [incrementDeploymentTimer]
  split
  · split <;> rfl
  · rfl

theorem updateSecondsCounter_counters (uptimeMs : UInt32) (c : CoreController) :
    (updateSecondsCounter uptimeMs c).counters = c.counters := rfl

section Handle

variable (bool : BoolReading) (e : TimeEnv) (s : System)

theorem handle_counters :
    (s.handle bool e).controller.counters =
      (checkFastCounters e s.scheduler.ulTaskGetIdleRunTimeCounter s.counted s.timer).1.counters :=
  incrementDeploymentTimer_counters bool e _ _

theorem handle_timer :
    (s.handle bool e).timer =
      (checkFastCounters e s.scheduler.ulTaskGetIdleRunTimeCounter s.counted s.timer).2 := rfl

theorem checkFastCounters_due (idleCounter : UInt32) {c : CoreController} (timer : Timer)
    (h : dayInSeconds ≤ c.uptimeSeconds - c.lastFastCounterUpdateSeconds) :
    (checkFastCounters e idleCounter c timer).1.counters =
        c.counters.update64bit10kHzCounter (vGetCurrentTimerCounterValue timer e.between)
          idleCounter ∧
      (checkFastCounters e idleCounter c timer).2 = timer.after e.between := by
  rw [checkFastCounters, if_pos h]
  exact ⟨rfl, rfl⟩

theorem checkFastCounters_not_due (idleCounter : UInt32) {c : CoreController} (timer : Timer)
    (h : ¬ dayInSeconds ≤ c.uptimeSeconds - c.lastFastCounterUpdateSeconds) :
    checkFastCounters e idleCounter c timer = (c, timer) := by
  rw [checkFastCounters, if_neg h]

/-- A call that checks the counters. -/
theorem handle_check (h : s.DailyCheck) :
    (s.handle bool e).controller.counters =
        s.controller.counters.update64bit10kHzCounter
          (vGetCurrentTimerCounterValue s.timer e.between)
          s.scheduler.ulTaskGetIdleRunTimeCounter ∧
      (s.handle bool e).timer = s.timer.after e.between := by
  obtain ⟨hcounters, htimer⟩ := checkFastCounters_due e
    s.scheduler.ulTaskGetIdleRunTimeCounter s.timer h
  rw [handle_counters, handle_timer, hcounters, htimer, System.counted,
    updateSecondsCounter_counters]
  exact ⟨rfl, rfl⟩

/-- Any other call leaves them alone. -/
theorem handle_no_check (h : ¬ s.DailyCheck) :
    (s.handle bool e).controller.counters = s.controller.counters ∧
      (s.handle bool e).timer = s.timer := by
  have hcheck := checkFastCounters_not_due e
    s.scheduler.ulTaskGetIdleRunTimeCounter s.timer h
  rw [handle_counters, handle_timer, hcheck, System.counted, updateSecondsCounter_counters]
  exact ⟨rfl, rfl⟩

end Handle

/-! ## Counting -/

theorem idleCounter_toNat (s : Scheduler) :
    s.ulTaskGetIdleRunTimeCounter.toNat = s.idleRunTime % 2 ^ 32 := UInt32.toNat_ofNat'

theorem total_tracks (c : Counters) : Tracks (2 ^ 32) c.total (c.total.seen (2 ^ 32)) :=
  tracks_seen c.last32bitCounterValue.toNat_lt

theorem idle_tracks (c : Counters) : Tracks (2 ^ 32) c.idle (c.idle.seen (2 ^ 32)) :=
  tracks_seen c.last32bitIdleCounterValue.toNat_lt

/-- The run time of the idle task does not go down when tasks are switched. -/
theorem idleRunTime_le_vTaskSwitchContext (s : Scheduler) (value : UInt32) (next : Bool) :
    s.idleRunTime ≤ (s.vTaskSwitchContext value next).idleRunTime := by
  simp only [Scheduler.vTaskSwitchContext]
  split
  · exact Nat.le_add_right _ _
  · exact Nat.le_refl _

/-- A settled read of the timer within a wrap is the count, if no wrap is left unseen. -/
theorem totalRunTime_eq {s : System} {between : List TimerStep} (hle : s.seenTotal ≤ s.timer.floor)
    (hwrap : WithinWrap (s.timer.after between) s) (hsettled : s.timer.Settled between)
    (hlast : s.controller.counters.last32bitCounterValue ≤
      vGetCurrentTimerCounterValue s.timer between) :
    (s.totalRunTime between).toNat = (s.timer.after between).floor := by
  have hread := Timer.read_toNat hsettled
  have hfloor := Timer.floor_of_settled hsettled.served
  have hticks := Timer.ticks_of_settled hsettled.served
  have hafter := Timer.floor_le_after s.timer between
  have hcount := hwrap.total
  rw [hticks] at hcount
  have hlt : s.controller.counters.total.last ≤ (s.timer.after between).count % 2 ^ 32 := by
    rw [← hread]
    exact UInt32.le_iff_toNat_le.mp hlast
  rw [System.totalRunTime, Counters.getTotalRunTimeCounter_toNat, hread, hfloor]
  exact ((total_tracks s.controller.counters).value_eq_iff (by decide)
    (Nat.le_trans hle (by rwa [hfloor] at hafter)) hcount).mpr hlt

/-- A read of the idle counter within a wrap is the run time, if no wrap is left unseen. -/
theorem totalIdleRunTime_eq {s : System} (hle : s.seenIdle ≤ s.scheduler.idleRunTime)
    (hwrap : WithinWrap s.timer s)
    (hlast : s.controller.counters.last32bitIdleCounterValue ≤
      s.scheduler.ulTaskGetIdleRunTimeCounter) :
    s.totalIdleRunTime.toNat = s.scheduler.idleRunTime := by
  have hlt : s.controller.counters.idle.last ≤ s.scheduler.idleRunTime % 2 ^ 32 := by
    rw [← idleCounter_toNat]
    exact UInt32.le_iff_toNat_le.mp hlast
  rw [System.totalIdleRunTime, Counters.getTotalIdleRunTimeCounter_toNat, idleCounter_toNat]
  exact ((idle_tracks s.controller.counters).value_eq_iff (by decide) hle hwrap.idle).mpr hlt

/-! ## Runs -/

/-- The invariant: no wrap has been seen that has not taken place. -/
structure SeenOnly (s : System) : Prop where
  total : s.seenTotal ≤ s.timer.floor
  idle : s.seenIdle ≤ s.scheduler.idleRunTime

theorem seenOnly_initial (fram : Mem UInt8) : SeenOnly (.initial fram) :=
  ⟨Nat.zero_le _, Nat.zero_le _⟩

/-- A check within a wrap sees every wrap. -/
theorem seenOnly_check (bool : BoolReading) {e : TimeEnv} {s : System} (h : SeenOnly s)
    (hcheck : s.DailyCheck) (hwrap : WithinWrap (s.timer.after e.between) s)
    (hsettled : s.timer.Settled e.between) (hroom : s.controller.counters.Room) :
    (s.step bool (.periodic e)).seenTotal = (s.timer.after e.between).floor ∧
      (s.step bool (.periodic e)).seenIdle = s.scheduler.idleRunTime := by
  obtain ⟨hcounters, _⟩ := handle_check bool e s hcheck
  have hread := Timer.read_toNat hsettled
  have hfloor := Timer.floor_of_settled hsettled.served
  have hafter := Timer.floor_le_after s.timer e.between
  have hcount := hwrap.total
  rw [Timer.ticks_of_settled hsettled.served] at hcount
  rw [hfloor] at hafter
  have htotal := (total_tracks s.controller.counters).update (by decide)
    (Nat.le_trans h.total hafter) hcount
  have hidle := (idle_tracks s.controller.counters).update (by decide) h.idle hwrap.idle
  constructor
  · change (s.handle bool e).controller.counters.total.seen (2 ^ 32) = _
    rw [hcounters, Counters.total_update64bit10kHzCounter hroom, hread, hfloor]
    exact htotal.seen_eq
  · change (s.handle bool e).controller.counters.idle.seen (2 ^ 32) = _
    rw [hcounters, Counters.idle_update64bit10kHzCounter hroom, idleCounter_toNat]
    exact hidle.seen_eq

/-- No step takes the counter below its floor. -/
theorem floor_le_step (bool : BoolReading) (e : Event) (s : System) :
    s.timer.floor ≤ (s.step bool e).timer.floor := by
  cases e with
  | timerStep e => exact Timer.floor_le_step e s.timer
  | switchContext between nextIsIdle => exact Timer.floor_le_after s.timer between
  | readTotalRunTime between => exact Timer.floor_le_after s.timer between
  | elapse | armDeploymentTimer | readTotalIdleRunTime => exact Nat.le_refl _
  | periodic e =>
      change s.timer.floor ≤ (s.handle bool e).timer.floor
      by_cases hcheck : s.DailyCheck
      · rw [(handle_check bool e s hcheck).2]
        exact Timer.floor_le_after s.timer e.between
      · rw [(handle_no_check bool e s hcheck).2]

theorem idleRunTime_le_step (bool : BoolReading) (e : Event) (s : System) :
    s.scheduler.idleRunTime ≤ (s.step bool e).scheduler.idleRunTime := by
  cases e with
  | switchContext between nextIsIdle => exact idleRunTime_le_vTaskSwitchContext _ _ _
  | timerStep | readTotalRunTime | elapse | armDeploymentTimer | readTotalIdleRunTime | periodic =>
      exact Nat.le_refl _

theorem seenOnly_step {bool : BoolReading} (e : Event) (s : System) (h : SeenOnly s)
    (hgood : EventWithinWrap e s ∧ EventSettled e s) : SeenOnly (s.step bool e) := by
  have hfloor := floor_le_step bool e s
  have hidle := idleRunTime_le_step bool e s
  cases e with
  | timerStep | switchContext | readTotalRunTime | elapse | armDeploymentTimer
  | readTotalIdleRunTime =>
      exact ⟨Nat.le_trans h.total hfloor, Nat.le_trans h.idle hidle⟩
  | periodic e =>
      by_cases hcheck : s.DailyCheck
      · obtain ⟨hsettled, hroom⟩ := hgood.2 hcheck
        obtain ⟨htotal, hidle'⟩ :=
          seenOnly_check bool h hcheck (hgood.1 hcheck) hsettled hroom
        refine ⟨?_, Nat.le_of_eq hidle'⟩
        rw [htotal]
        change _ ≤ (s.handle bool e).timer.floor
        rw [(handle_check bool e s hcheck).2]
      · have hcounters := (handle_no_check bool e s hcheck).1
        have htotal : (s.step bool (.periodic e)).seenTotal = s.seenTotal :=
          congrArg (fun c : Counters => c.total.seen (2 ^ 32)) hcounters
        have hidle' : (s.step bool (.periodic e)).seenIdle = s.seenIdle :=
          congrArg (fun c : Counters => c.idle.seen (2 ^ 32)) hcounters
        exact ⟨htotal ▸ Nat.le_trans h.total hfloor, hidle' ▸ Nat.le_trans h.idle hidle⟩

/-! ## Ticks in a row -/

/-- The timer after `n` ticks, each overflow served at once. -/
def ticked (n : Nat) : Timer := ⟨UInt16.ofNat n, false, n / 2 ^ 16⟩

theorem ticked_succ (n : Nat) :
    ((ticked n).step .tick).step .overflowIsr = ticked (n + 1) := by
  have hcv : (UInt16.ofNat n).toNat = n % 2 ^ 16 := UInt16.toNat_ofNat'
  by_cases hwrap : UInt16.ofNat n = 0xffff
  · have hmod : n % 2 ^ 16 = 2 ^ 16 - 1 := by rw [← hcv, hwrap]; rfl
    have hzero : UInt16.ofNat (n + 1) = 0 := by
      apply UInt16.toNat_inj.mp
      rw [UInt16.toNat_ofNat']
      simp only [UInt16.toNat_zero]
      omega
    have hdiv : (n + 1) / 2 ^ 16 = n / 2 ^ 16 + 1 := by omega
    simp only [ticked, Timer.step, hwrap, if_true, hzero, hdiv]
  · have hne : n % 2 ^ 16 ≠ 2 ^ 16 - 1 := by
      intro hmod
      exact hwrap (UInt16.toNat_inj.mp (by rw [hcv, hmod]; rfl))
    have hdiv : (n + 1) / 2 ^ 16 = n / 2 ^ 16 := by omega
    simp only [ticked, Timer.step, hwrap, if_false, hdiv, UInt16.ofNat_add, Bool.false_eq_true]
    rfl

/-- `n` ticks of the timer, each followed by its interrupt if there is one. -/
def burst (n : Nat) : List Event :=
  (List.replicate n [Event.timerStep .tick, .timerStep .overflowIsr]).flatten

theorem burst_succ (n : Nat) :
    burst (n + 1) = [Event.timerStep .tick, .timerStep .overflowIsr] ++ burst n := by
  rw [burst, List.replicate_succ, List.flatten_cons]
  rfl

theorem mem_burst {n : Nat} {e : Event} (h : e ∈ burst n) : ∃ step, e = .timerStep step := by
  obtain ⟨l, hl, he⟩ := List.mem_flatten.mp h
  rw [List.eq_of_mem_replicate hl] at he
  rcases List.mem_cons.mp he with rfl | he
  · exact ⟨_, rfl⟩
  · exact ⟨_, List.mem_singleton.mp he⟩

theorem run_burst (bool : BoolReading) (n : Nat) :
    ∀ (k : Nat) (s : System), s.timer = ticked k →
      run (System.step bool) (burst n) s = { s with timer := ticked (k + n) } := by
  induction n with
  | zero =>
      intro k s hs
      rw [Nat.add_zero, ← hs]
      rfl
  | succ n ih =>
      intro k s hs
      have hstep : run (System.step bool) [Event.timerStep .tick, .timerStep .overflowIsr] s =
          { s with timer := ticked (k + 1) } := by
        rw [← ticked_succ, ← hs]
        rfl
      rw [burst_succ, run_append, hstep, ih (k + 1) _ rfl, Nat.add_right_comm, Nat.add_assoc]

/-- Nothing is read in a burst. -/
theorem shown_burst {α : Type} {view : Event → System → Option α}
    (hview : ∀ step s, view (.timerStep step) s = none) (bool : BoolReading) {n k : Nat} {s : System}
    (hs : s.timer = ticked k) (es : List Event) :
    shown view (System.step bool) (burst n ++ es) s =
      shown view (System.step bool) es { s with timer := ticked (k + n) } := by
  have hquiet : ∀ s, shown view (System.step bool) (burst n) s = [] := by
    induction n with
    | zero => exact fun _ => rfl
    | succ n ih =>
        intro s
        rw [burst_succ, shown_append, ih]
        simp [shown, hview]
  rw [shown_append, hquiet, run_burst bool n k s hs, List.nil_append]

/-- A burst takes the timer on, and meets every condition on the reads and checks. -/
theorem alongRun_burst {good : Event → System → Prop} (hgood : ∀ step s, good (.timerStep step) s)
    {bool : BoolReading} {n k : Nat} {s : System} (hs : s.timer = ticked k) {es : List Event}
    (hrest : AlongRun good (System.step bool) es { s with timer := ticked (k + n) }) :
    AlongRun good (System.step bool) (burst n ++ es) s := by
  rw [alongRun_append, run_burst bool n k s hs]
  refine ⟨alongRun_of_mem (fun e he s => ?_) s, hrest⟩
  obtain ⟨step, rfl⟩ := mem_burst he
  exact hgood step s

/-! ## Successive reads -/

/-- **The run time counters.** In every run in which the counters are checked within a wrap, no overflow
    falls into a read, and no read comes between a wrap and the next check, the values of both 64 bit
    counters do not go down. -/
theorem runTimes_pairwise (bool : BoolReading) (fram : Mem UInt8) (events : List Event)
    (hwrap : AlongRun EventWithinWrap (System.step bool) events (.initial fram))
    (hsettled : AlongRun EventSettled (System.step bool) events (.initial fram)) :
    (totalRunTimes bool events (.initial fram)).Pairwise (· ≤ ·) ∧
      (totalIdleRunTimes bool events (.initial fram)).Pairwise (· ≤ ·) := by
  have hgood := hwrap.and hsettled
  have hinit := seenOnly_initial fram
  constructor
  · refine (shown_pairwise (fun s => s.timer.floor) UInt64.toNat seenOnly_step
      (fun e s _ _ => floor_le_step bool e s) ?_ events _ hinit hgood).2.imp
        fun h => UInt64.le_iff_toNat_le.mpr h
    intro e s a hseen hgood hview
    cases e with
    | readTotalRunTime between =>
        obtain rfl : s.totalRunTime between = a := by simpa using hview
        have hvalue := totalRunTime_eq hseen.total hgood.1 hgood.2.1 hgood.2.2
        exact ⟨Nat.le_trans (Timer.floor_le_after s.timer between) (Nat.le_of_eq hvalue.symm),
          Nat.le_of_eq hvalue⟩
    | timerStep | switchContext | elapse | armDeploymentTimer | readTotalIdleRunTime | periodic =>
        simp at hview
  · refine (shown_pairwise (fun s => s.scheduler.idleRunTime) UInt64.toNat
      seenOnly_step (fun e s _ _ => idleRunTime_le_step bool e s) ?_ events _ hinit hgood).2.imp
        fun h => UInt64.le_iff_toNat_le.mpr h
    intro e s a hseen hgood hview
    cases e with
    | readTotalIdleRunTime =>
        obtain rfl : s.totalIdleRunTime = a := by simpa using hview
        have hvalue := totalIdleRunTime_eq hseen.idle hgood.1 hgood.2
        exact ⟨Nat.le_of_eq hvalue.symm, Nat.le_of_eq hvalue⟩
    | timerStep | switchContext | elapse | armDeploymentTimer | readTotalRunTime | periodic =>
        simp at hview

/-- The idle task runs for half a wrap, the counters are checked on two days, the second time behind the
    wrap of the run time, and they are read in between and behind it. -/
def settledReads : List Event :=
  .switchContext [] true :: (burst 2147483648 ++ (.elapse 86400000 :: .periodic plainUpdate ::
    .readTotalIdleRunTime :: .switchContext [] false :: (burst 2147483647 ++
      (.readTotalRunTime [] :: .readTotalIdleRunTime :: (burst 1 ++
        [.elapse 86400000, .periodic plainUpdate, .readTotalRunTime [], .readTotalIdleRunTime])))))

theorem withinWrap_settledReads :
    AlongRun EventWithinWrap (System.step plainReading) settledReads (.initial fun _ => 0) := by
  refine ⟨trivial, alongRun_burst (k := 0) (fun _ _ => trivial) rfl ?_⟩
  refine ⟨trivial, fun _ => ⟨by decide, by decide⟩, ⟨by decide, by decide⟩, trivial, ?_⟩
  refine alongRun_burst (k := 2147483648) (fun _ _ => trivial) (by decide) ?_
  refine ⟨⟨by decide, by decide⟩, ⟨by decide, by decide⟩, ?_⟩
  refine alongRun_burst (k := 4294967295) (fun _ _ => trivial) rfl ?_
  exact ⟨trivial, fun _ => ⟨by decide, by decide⟩, ⟨by decide, by decide⟩, ⟨by decide, by decide⟩, trivial⟩

theorem settled_settledReads :
    AlongRun EventSettled (System.step plainReading) settledReads (.initial fun _ => 0) := by
  refine ⟨trivial, alongRun_burst (k := 0) (fun _ _ => trivial) rfl ?_⟩
  refine ⟨trivial, fun _ => ⟨⟨by decide, by decide⟩, by decide, by decide⟩, UInt32.le_refl _, trivial, ?_⟩
  refine alongRun_burst (k := 2147483648) (fun _ _ => trivial) (by decide) ?_
  refine ⟨⟨⟨by decide, by decide⟩, by decide⟩, UInt32.le_iff_toNat_le.mpr (by decide), ?_⟩
  refine alongRun_burst (k := 4294967295) (fun _ _ => trivial) rfl ?_
  exact ⟨trivial, fun _ => ⟨⟨by decide, by decide⟩, by decide, by decide⟩,
    ⟨⟨by decide, by decide⟩, by decide⟩, UInt32.le_refl _, trivial⟩

theorem totalRunTimes_settledReads :
    totalRunTimes plainReading settledReads (.initial fun _ => 0) = [4294967295, 4294967296] := by
  rw [totalRunTimes, settledReads, shown, shown_burst (k := 0) (fun _ _ => rfl) plainReading rfl]
  rw [shown, shown, shown, shown,
    shown_burst (k := 2147483648) (fun _ _ => rfl) plainReading (by decide)]
  rw [shown, shown, shown_burst (k := 4294967295) (fun _ _ => rfl) plainReading rfl]
  decide

theorem totalIdleRunTimes_settledReads :
    totalIdleRunTimes plainReading settledReads (.initial fun _ => 0) = [0, 2147483648, 2147483648] := by
  rw [totalIdleRunTimes, settledReads, shown, shown_burst (k := 0) (fun _ _ => rfl) plainReading rfl]
  rw [shown, shown, shown, shown,
    shown_burst (k := 2147483648) (fun _ _ => rfl) plainReading (by decide)]
  rw [shown, shown, shown_burst (k := 4294967295) (fun _ _ => rfl) plainReading rfl]
  decide

/-- The wrap between the two reads of the run time is counted. -/
theorem settledReads_pairwise :
    totalRunTimes plainReading settledReads (.initial fun _ => 0) = [4294967295, 4294967296] ∧
      totalIdleRunTimes plainReading settledReads (.initial fun _ => 0) = [0, 2147483648, 2147483648] ∧
      (totalRunTimes plainReading settledReads (.initial fun _ => 0)).Pairwise (· ≤ ·) ∧
      (totalIdleRunTimes plainReading settledReads (.initial fun _ => 0)).Pairwise (· ≤ ·) :=
  ⟨totalRunTimes_settledReads, totalIdleRunTimes_settledReads, runTimes_pairwise plainReading (fun _ => 0) settledReads
    withinWrap_settledReads settled_settledReads⟩

/-! ## A read behind a wrap -/

/-- A check of the counters half a wrap after startup. -/
def checkAtHalf : List Event := [.elapse 86400000, .periodic plainUpdate]

/-- The counters are checked half a wrap after startup, and the run time is read before and behind the
    wrap. -/
def readBehindWrap : List Event :=
  burst 2147483648 ++ (checkAtHalf ++ (burst 2147483647 ++
    (.readTotalRunTime [] :: (burst 1 ++ [.readTotalRunTime []]))))

theorem withinWrap_readBehindWrap :
    AlongRun EventWithinWrap (System.step plainReading) readBehindWrap (.initial fun _ => 0) := by
  refine alongRun_burst (k := 0) (fun _ _ => trivial) rfl ?_
  refine ⟨trivial, fun _ => ⟨by decide, by decide⟩, ?_⟩
  refine alongRun_burst (k := 2147483648) (fun _ _ => trivial) (by decide) ?_
  refine ⟨⟨by decide, by decide⟩, ?_⟩
  refine alongRun_burst (k := 4294967295) (fun _ _ => trivial) rfl ?_
  exact ⟨⟨by decide, by decide⟩, trivial⟩

theorem totalRunTimes_readBehindWrap :
    totalRunTimes plainReading readBehindWrap (.initial fun _ => 0) = [4294967295, 0] := by
  rw [totalRunTimes, readBehindWrap, shown_burst (k := 0) (fun _ _ => rfl) plainReading rfl]
  rw [checkAtHalf, List.cons_append, List.cons_append, List.nil_append, shown, shown,
    shown_burst (k := 2147483648) (fun _ _ => rfl) plainReading (by decide)]
  rw [shown, shown_burst (k := 4294967295) (fun _ _ => rfl) plainReading rfl]
  decide

/-- The run time read behind the wrap is less than the one read before it, although the counters were
    checked half a wrap before. -/
theorem runTime_goes_back :
    AlongRun EventWithinWrap (System.step plainReading) readBehindWrap (.initial fun _ => 0) ∧
      ¬ (totalRunTimes plainReading readBehindWrap (.initial fun _ => 0)).Pairwise (· ≤ ·) := by
  refine ⟨withinWrap_readBehindWrap, ?_⟩
  rw [totalRunTimes_readBehindWrap]
  decide

end TimeHandling
end Obsw
