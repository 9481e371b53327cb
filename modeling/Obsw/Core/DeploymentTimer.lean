import Obsw.Core.UptimeSeconds
import Obsw.Fram.HammingFlags

/-!
# `Core.DeploymentTimer` — the seconds that are added to the deployment timer

The core controller adds to the deployment timer what has passed since the time stamp of the last
increment, and sets that stamp only when it increments. Seconds in which the timer was not armed are added
as well if it is armed again before the next increment.

An account is kept beside the system: of the uptime seconds with the timer armed, of those with it not
armed since the last increment, and of what was added in the FRAM.
-/

namespace Obsw
namespace TimeHandling

open Memory LittleEndian Device Fram Loop

/-! ## The account -/

/-- The deployment timer is armed in the FRAM. -/
def armed (fram : Mem UInt8) : Bool := fram deployTimerArmed.addr != 0

/-- The account: uptime seconds with the timer armed, those with it not armed since the last increment,
    the times of the last update and of the last increment, and the seconds that were added. -/
structure Account where
  armedSeconds : Nat
  unarmedSeconds : Nat
  lastUpdateMs : Nat
  lastIncrementMs : Nat
  added : Nat
  deriving DecidableEq, Repr

def Account.initial : Account := ⟨0, 0, 0, 0, 0⟩

/-- The account behind a call of `performPeriodicTimeHandling`. -/
def Account.handled (a : Account) (uptimeMs : Nat) (h : Handled) : Account :=
  match h.increment with
  | none => { a with lastUpdateMs := uptimeMs }
  | some (increment, result) =>
    { a with
      unarmedSeconds := 0
      lastUpdateMs := uptimeMs
      lastIncrementMs := uptimeMs
      added := a.added + if result = 0 then increment.toNat else 0 }

/-- The account behind `ms` milliseconds. -/
def Account.elapsed (a : Account) (ms : Nat) (s : System) : Account :=
  let seconds := uptimeSecondsAt (s.uptimeMs + ms) - uptimeSecondsAt s.uptimeMs
  if armed s.fram then { a with armedSeconds := a.armedSeconds + seconds }
  else { a with unarmedSeconds := a.unarmedSeconds + seconds }

def Account.book (bool : BoolReading) (e : Event) (s : System) (a : Account) : Account :=
  match e with
  | .elapse ms => a.elapsed ms s
  | .periodic e => a.handled s.uptimeMs (s.handle bool e)
  | _ => a

/-- A step of the system and its account. -/
def stepBooked (bool : BoolReading) (e : Event) (s : System × Account) : System × Account :=
  (s.1.step bool e, s.2.book bool e s.1)

def startBooked (fram : Mem UInt8) : System × Account := (.initial fram, .initial)

/-! ## The condition on a run -/

/-- An update comes after the last one and at most a wrap of the clock later, and the overflows of the
    clock fit their counter. -/
structure Punctual (s : System × Account) : Prop where
  later : s.2.lastUpdateMs < s.1.uptimeMs
  soon : s.1.uptimeMs ≤ s.2.lastUpdateMs + 2 ^ 32
  counted : s.1.uptimeMs < 2 ^ 48

/-- Since the last increment the timer was armed in every second, and the uptime has not gone back. -/
structure ArmedSince (s : System × Account) : Prop where
  armed : s.2.unarmedSeconds = 0
  ahead : uptimeSecondsAt s.2.lastIncrementMs ≤ uptimeSecondsAt s.1.uptimeMs

/-- An update that finds the timer armed while an increment is due does so with the timer armed since the
    last increment. -/
def EventGood (bool : BoolReading) (e : Event) (s : System × Account) : Prop :=
  match e with
  | .periodic e =>
    Punctual s ∧
      (deploymentTimerArmed bool e s.1.fram = true →
        incrementDue s.1.counted → ArmedSince s)
  | _ => True

/-! ## What an update does to the deployment timer -/

section Update

variable {bool : BoolReading} {e : TimeEnv} {c : CoreController} {fram : Mem UInt8}

/-- The members that the deployment timer depends on. -/
structure SameTimer (c c' : CoreController) : Prop where
  clock : clock c' = clock c
  uptime : c'.uptimeSeconds = c.uptimeSeconds
  stamp : c'.lastDeploymentTimerIncrement = c.lastDeploymentTimerIncrement

theorem checkFastCounters_sameTimer (e : TimeEnv) (idleCounter : UInt32) (c : CoreController)
    (timer : RunTime.Timer) : SameTimer c (checkFastCounters e idleCounter c timer).1 := by
  rw [checkFastCounters]
  split <;> exact ⟨rfl, rfl, rfl⟩

theorem storeEpoch_sameTimer (e : TimeEnv) (c : CoreController) (fram : Mem UInt8) :
    SameTimer c (storeEpoch e c fram).1 := ⟨rfl, rfl, rfl⟩

/-- Storing the time leaves the fields of the deployment timer alone. -/
theorem storeEpoch_frame (e : TimeEnv) (c : CoreController) (fram : Mem UInt8) {i : Nat}
    (h : secondsSinceEpoch.next ≤ i) : (storeEpoch e c fram).2.2 i = fram i :=
  framWriteAndVerify_frame (Or.inr (by rw [toLE_length]; exact h))

theorem deploymentTimerArmed_congr {fram' : Mem UInt8}
    (h : fram' deployTimerArmed.addr = fram deployTimerArmed.addr) :
    deploymentTimerArmed bool e fram' = deploymentTimerArmed bool e fram := by
  have hload : load fram' deployTimerArmed.addr 1 = load fram deployTimerArmed.addr 1 :=
    load_congr fun i hi => by
      obtain rfl : i = 0 := by omega
      exact h
  simp only [deploymentTimerArmed, framIsDeploymentTimerArmed, framRead, hload]

/-- The seconds since the stamp of the last increment. -/
def sinceIncrement (c : CoreController) : UInt32 := c.uptimeSeconds - c.lastDeploymentTimerIncrement

/-- The FRAM operation that adds the seconds since the stamp. -/
def addSince (e : TimeEnv) (c : CoreController) (fram : Mem UInt8) : Int × Mem UInt8 :=
  framIncrementSecondsOnDeploymentTimer e.timerRead e.timerWrite fram (sinceIncrement c).toNat

section Due

variable (harmed : deploymentTimerArmed bool e fram = true) (hdue : incrementDue c)

include harmed hdue

theorem incrementDeploymentTimer_due :
    incrementDeploymentTimer bool e c fram =
      ({ c with lastDeploymentTimerIncrement := c.uptimeSeconds }, (addSince e c fram).2,
        some (sinceIncrement c, (addSince e c fram).1)) := by
  rw [incrementDeploymentTimer, if_pos harmed, if_pos hdue]
  rfl

theorem incrementDeploymentTimer_stamp :
    (incrementDeploymentTimer bool e c fram).1.lastDeploymentTimerIncrement = c.uptimeSeconds := by
  rw [incrementDeploymentTimer_due harmed hdue]

theorem incrementDeploymentTimer_fram :
    (incrementDeploymentTimer bool e c fram).2.1 = (addSince e c fram).2 := by
  rw [incrementDeploymentTimer_due harmed hdue]

theorem incrementDeploymentTimer_increment :
    (incrementDeploymentTimer bool e c fram).2.2 =
      some (sinceIncrement c, (addSince e c fram).1) := by
  rw [incrementDeploymentTimer_due harmed hdue]

end Due

theorem incrementDeploymentTimer_not_due
    (h : deploymentTimerArmed bool e fram = true → ¬ incrementDue c) :
    incrementDeploymentTimer bool e c fram = (c, fram, none) := by
  rw [incrementDeploymentTimer]
  by_cases harmed : deploymentTimerArmed bool e fram = true
  · rw [if_pos harmed, if_neg (h harmed)]
  · rw [if_neg harmed]

theorem framGetSecondsOnDeploymentTimer_retval (o : WriteOutcome UInt8) (fram : Mem UInt8)
    (seconds : Option Nat) :
    (framGetSecondsOnDeploymentTimer o fram seconds).retval = o.retval := by
  by_cases hok : o.retval = 0 <;> simp [framGetSecondsOnDeploymentTimer, framRead, hok]

theorem framGetSecondsOnDeploymentTimer_out {o : WriteOutcome UInt8} (hok : o.retval = 0)
    (fram : Mem UInt8) (seconds : Nat) :
    (framGetSecondsOnDeploymentTimer o fram (some seconds)).out =
      some (secondsSinceTimerArmed.read fram) := by
  have hvalue : varValue 4 (framRead o fram (fun _ => 0) secondsSinceTimerArmed 4).out =
      secondsSinceTimerArmed.read fram := varValue_framRead hok
  have hretval : (framRead o fram (fun _ => 0) ⟨secondsSinceTimerArmed.addr, 4⟩ 4).retval = 0 := hok
  rw [framGetSecondsOnDeploymentTimer, if_neg (not_not.mpr hretval)]
  exact congrArg some hvalue

/-- A call that returns 0 has added the seconds to the field. -/
theorem addSince_ok (h : (addSince e c fram).1 = 0) :
    secondsSinceTimerArmed.read (addSince e c fram).2 =
      (secondsSinceTimerArmed.read fram + (sinceIncrement c).toNat) % 2 ^ 32 := by
  rw [addSince, framIncrementSecondsOnDeploymentTimer] at h ⊢
  by_cases hread : e.timerRead.retval = 0
  · have hretval := (framGetSecondsOnDeploymentTimer_retval e.timerRead fram (some 0)).trans hread
    rw [if_neg (not_not.mpr hretval), framGetSecondsOnDeploymentTimer_out hread, Option.getD_some,
      framSetSecondsOnDeploymentTimer] at h ⊢
    rw [framWriteAndVerify_ok _ _ _ _ h]
    exact Field.read_write secondsSinceTimerArmed fram _
  · have hretval := framGetSecondsOnDeploymentTimer_retval e.timerRead fram (some 0)
    rw [if_pos (by rwa [hretval]), hretval] at h
    exact absurd h hread

theorem incrementDeploymentTimer_adds {increment : UInt32}
    (h : (incrementDeploymentTimer bool e c fram).2.2 = some (increment, 0)) :
    secondsSinceTimerArmed.read (incrementDeploymentTimer bool e c fram).2.1 =
      (secondsSinceTimerArmed.read fram + increment.toNat) % 2 ^ 32 := by
  by_cases hboth : deploymentTimerArmed bool e fram = true ∧ incrementDue c
  · obtain ⟨harmed, hdue⟩ := hboth
    rw [incrementDeploymentTimer_increment harmed hdue, Option.some.injEq, Prod.mk.injEq] at h
    rw [incrementDeploymentTimer_fram harmed hdue, ← h.1]
    exact addSince_ok h.2
  · rw [incrementDeploymentTimer_not_due fun harmed hdue => hboth ⟨harmed, hdue⟩] at h
    simp at h

theorem incrementDeploymentTimer_clock :
    clock (incrementDeploymentTimer bool e c fram).1 = clock c := by
  rw [incrementDeploymentTimer]
  split
  · split <;> rfl
  · rfl

namespace SameTimer

variable {c' : CoreController}

theorem trans {c'' : CoreController} (h : SameTimer c c') (h' : SameTimer c' c'') : SameTimer c c'' :=
  ⟨h'.clock.trans h.clock, h'.uptime.trans h.uptime, h'.stamp.trans h.stamp⟩

theorem due (h : SameTimer c c') : incrementDue c' ↔ incrementDue c := by
  rw [incrementDue, incrementDue, h.uptime, h.stamp]

theorem since (h : SameTimer c c') : sinceIncrement c' = sinceIncrement c := by
  rw [sinceIncrement, sinceIncrement, h.uptime, h.stamp]

end SameTimer

/-- The members and the FRAM in which an update comes to the deployment timer. -/
def storedIn (e : TimeEnv) (uptimeMs idleCounter : UInt32) (c : CoreController)
    (timer : RunTime.Timer) (fram : Mem UInt8) : CoreController × List TimeEvent × Mem UInt8 :=
  storeEpoch e (checkFastCounters e idleCounter (updateSecondsCounter uptimeMs c) timer).1 fram

variable (bool) (e) (uptimeMs idleCounter : UInt32) (c) (timer : RunTime.Timer) (fram)

theorem storedIn_sameTimer :
    SameTimer (updateSecondsCounter uptimeMs c) (storedIn e uptimeMs idleCounter c timer fram).1 :=
  (checkFastCounters_sameTimer e idleCounter (updateSecondsCounter uptimeMs c) timer).trans
    (storeEpoch_sameTimer e _ fram)

theorem storedIn_armed :
    deploymentTimerArmed bool e (storedIn e uptimeMs idleCounter c timer fram).2.2 =
      deploymentTimerArmed bool e fram :=
  deploymentTimerArmed_congr (storeEpoch_frame e _ fram (by decide))

theorem perform_controller :
    (performPeriodicTimeHandling bool e uptimeMs idleCounter c timer fram).controller =
      (incrementDeploymentTimer bool e (storedIn e uptimeMs idleCounter c timer fram).1
        (storedIn e uptimeMs idleCounter c timer fram).2.2).1 := rfl

theorem perform_fram :
    (performPeriodicTimeHandling bool e uptimeMs idleCounter c timer fram).fram =
      (incrementDeploymentTimer bool e (storedIn e uptimeMs idleCounter c timer fram).1
        (storedIn e uptimeMs idleCounter c timer fram).2.2).2.1 := rfl

theorem perform_increment :
    (performPeriodicTimeHandling bool e uptimeMs idleCounter c timer fram).increment =
      (incrementDeploymentTimer bool e (storedIn e uptimeMs idleCounter c timer fram).1
        (storedIn e uptimeMs idleCounter c timer fram).2.2).2.2 := rfl

theorem perform_clock :
    clock (performPeriodicTimeHandling bool e uptimeMs idleCounter c timer fram).controller =
      clock (updateSecondsCounter uptimeMs c) := by
  rw [perform_controller, incrementDeploymentTimer_clock,
    (storedIn_sameTimer e c fram uptimeMs idleCounter timer).clock]

/-- **An update with the timer armed and an increment due** sets the stamp and increments. -/
theorem perform_due (harmed : deploymentTimerArmed bool e fram = true)
    (hdue : incrementDue (updateSecondsCounter uptimeMs c)) :
    (performPeriodicTimeHandling bool e uptimeMs idleCounter c timer
        fram).controller.lastDeploymentTimerIncrement =
      (updateSecondsCounter uptimeMs c).uptimeSeconds ∧
    ∃ result, (performPeriodicTimeHandling bool e uptimeMs idleCounter c timer fram).increment =
      some (sinceIncrement (updateSecondsCounter uptimeMs c), result) := by
  have hsame := storedIn_sameTimer e c fram uptimeMs idleCounter timer
  have harmed' := (storedIn_armed bool e c fram uptimeMs idleCounter timer).trans harmed
  have hdue' := hsame.due.mpr hdue
  constructor
  · rw [perform_controller, incrementDeploymentTimer_stamp harmed' hdue', hsame.uptime]
  · rw [perform_increment, incrementDeploymentTimer_increment harmed' hdue', hsame.since]
    exact ⟨_, rfl⟩

/-- An update that does not increment leaves the stamp alone. -/
theorem perform_not_due (hnot : deploymentTimerArmed bool e fram = true →
      ¬ incrementDue (updateSecondsCounter uptimeMs c)) :
    (performPeriodicTimeHandling bool e uptimeMs idleCounter c timer
        fram).controller.lastDeploymentTimerIncrement =
      (updateSecondsCounter uptimeMs c).lastDeploymentTimerIncrement ∧
    (performPeriodicTimeHandling bool e uptimeMs idleCounter c timer fram).increment = none := by
  have hsame := storedIn_sameTimer e c fram uptimeMs idleCounter timer
  have harmed := storedIn_armed bool e c fram uptimeMs idleCounter timer
  have hnot' := incrementDeploymentTimer_not_due
    fun h => mt hsame.due.mp (hnot (harmed.symm.trans h))
  constructor
  · rw [perform_controller, hnot', hsame.stamp]
  · rw [perform_increment, hnot']

/-- The field of the deployment timer behind storing the time. -/
theorem storedIn_seconds :
    secondsSinceTimerArmed.read (storedIn e uptimeMs idleCounter c timer fram).2.2 =
      secondsSinceTimerArmed.read fram :=
  Field.read_congr fun _ _ => storeEpoch_frame e _ fram (Nat.le_trans (by decide) (Nat.le_add_right _ _))

/-- **An increment that succeeds** adds the seconds it names to the field. -/
theorem perform_adds {increment : UInt32}
    (h : (performPeriodicTimeHandling bool e uptimeMs idleCounter c timer fram).increment =
      some (increment, 0)) :
    secondsSinceTimerArmed.read
        (performPeriodicTimeHandling bool e uptimeMs idleCounter c timer fram).fram =
      (secondsSinceTimerArmed.read fram + increment.toNat) % 2 ^ 32 := by
  have hseconds := storedIn_seconds e c fram uptimeMs idleCounter timer
  rw [perform_increment] at h
  rw [perform_fram, ← hseconds]
  exact incrementDeploymentTimer_adds h

end Update

/-! ## Runs -/

/-- The difference of two uptimes as 32 bit numbers is at most the time between them. -/
theorem ofNat_sub_le {a b : Nat} (h : b ≤ a) : (UInt32.ofNat a - UInt32.ofNat b).toNat ≤ a - b := by
  rw [UInt32.toNat_sub, UInt32.toNat_ofNat', UInt32.toNat_ofNat']
  omega

/-- The invariant. What may still be added for the time since the last increment is covered by armed
    seconds that are not added yet and by the unarmed seconds. -/
structure Covered (s : System × Account) : Prop where
  clock : WrapCounter.Tracks (2 ^ 32) (clock s.1.controller) s.2.lastUpdateMs
  stamp : s.1.controller.lastDeploymentTimerIncrement =
    UInt32.ofNat (uptimeSecondsAt s.2.lastIncrementMs)
  bounded : s.2.added ≤ s.2.armedSeconds
  covered : s.2.added + uptimeSecondsAt s.1.uptimeMs ≤
    s.2.armedSeconds + uptimeSecondsAt s.2.lastIncrementMs + s.2.unarmedSeconds

theorem covered_startBooked (fram : Mem UInt8) : Covered (startBooked fram) := by
  have hzero : uptimeSecondsAt 0 = 0 := uptimeSecondsAt_of_lt (by decide)
  refine ⟨WrapCounter.tracks_zero _, ?_, Nat.le_refl _, ?_⟩
  · change 0 = UInt32.ofNat (uptimeSecondsAt 0)
    rw [hzero]
    rfl
  · change 0 + uptimeSecondsAt 0 ≤ 0 + uptimeSecondsAt 0 + 0
    rw [hzero]

theorem Account.elapsed_armed {a : Account} {ms : Nat} {s : System} (h : armed s.fram = true) :
    a.elapsed ms s = { a with
      armedSeconds :=
        a.armedSeconds + (uptimeSecondsAt (s.uptimeMs + ms) - uptimeSecondsAt s.uptimeMs) } :=
  if_pos h

theorem Account.elapsed_unarmed {a : Account} {ms : Nat} {s : System} (h : armed s.fram = false) :
    a.elapsed ms s = { a with
      unarmedSeconds :=
        a.unarmedSeconds + (uptimeSecondsAt (s.uptimeMs + ms) - uptimeSecondsAt s.uptimeMs) } :=
  if_neg (by simp [h])

theorem covered_elapse {bool : BoolReading} {ms : Nat} {s : System} {a : Account}
    (h : Covered (s, a)) : Covered (stepBooked bool (.elapse ms) (s, a)) := by
  obtain ⟨hclock, hstamp, hbounded, hcovered⟩ := h
  have hstep : stepBooked bool (.elapse ms) (s, a) =
      ({ s with uptimeMs := s.uptimeMs + ms }, a.elapsed ms s) := rfl
  rw [hstep]
  cases harmed : armed s.fram with
  | true =>
      rw [Account.elapsed_armed harmed]
      refine ⟨hclock, hstamp, Nat.le_trans hbounded (Nat.le_add_right _ _), ?_⟩
      simp only at hcovered ⊢
      omega
  | false =>
      rw [Account.elapsed_unarmed harmed]
      refine ⟨hclock, hstamp, hbounded, ?_⟩
      simp only at hcovered ⊢
      omega

theorem Account.handled_none {a : Account} {uptimeMs : Nat} {h : Handled} (hnone : h.increment = none) :
    a.handled uptimeMs h = { a with lastUpdateMs := uptimeMs } := by
  rw [Account.handled, hnone]

theorem Account.handled_some {a : Account} {uptimeMs : Nat} {h : Handled} {increment : UInt32}
    {result : Int} (hsome : h.increment = some (increment, result)) :
    a.handled uptimeMs h = { a with
      unarmedSeconds := 0
      lastUpdateMs := uptimeMs
      lastIncrementMs := uptimeMs
      added := a.added + if result = 0 then increment.toNat else 0 } := by
  rw [Account.handled, hsome]

theorem updateSecondsCounter_stamp (uptimeMs : UInt32) (c : CoreController) :
    (updateSecondsCounter uptimeMs c).lastDeploymentTimerIncrement = c.lastDeploymentTimerIncrement :=
  rfl

section Handle

variable (bool : BoolReading) (e : TimeEnv) (s : System)

theorem handle_clock : clock (s.handle bool e).controller = clock s.counted :=
  perform_clock bool e s.controller s.fram _ _ s.timer

theorem handle_due (harmed : deploymentTimerArmed bool e s.fram = true) (hdue : incrementDue s.counted) :
    (s.handle bool e).controller.lastDeploymentTimerIncrement = s.counted.uptimeSeconds ∧
      ∃ result, (s.handle bool e).increment = some (sinceIncrement s.counted, result) :=
  perform_due bool e s.controller s.fram _ _ s.timer harmed hdue

theorem handle_not_due (hnot : deploymentTimerArmed bool e s.fram = true → ¬ incrementDue s.counted) :
    (s.handle bool e).controller.lastDeploymentTimerIncrement =
        s.controller.lastDeploymentTimerIncrement ∧
      (s.handle bool e).increment = none :=
  perform_not_due bool e s.controller s.fram _ _ s.timer hnot

end Handle

/-- **The step of an update.** -/
theorem covered_periodic {bool : BoolReading} {e : TimeEnv} {s : System} {a : Account}
    (h : Covered (s, a)) (hgood : EventGood bool (.periodic e) (s, a)) :
    Covered (stepBooked bool (.periodic e) (s, a)) := by
  obtain ⟨hpunctual, hsince⟩ := hgood
  obtain ⟨hcounted, huptime⟩ :=
    updateSecondsCounter_spec h.clock hpunctual.later hpunctual.soon hpunctual.counted
  have hclock : WrapCounter.Tracks (2 ^ 32) (clock (s.handle bool e).controller) s.uptimeMs := by
    rw [handle_clock]
    exact hcounted
  have hcovered := h.covered
  have hstep : stepBooked bool (.periodic e) (s, a) =
      ({ s with
          timer := (s.handle bool e).timer
          controller := (s.handle bool e).controller
          fram := (s.handle bool e).fram },
        a.handled s.uptimeMs (s.handle bool e)) := rfl
  rw [hstep]
  by_cases hadds : deploymentTimerArmed bool e s.fram = true ∧ incrementDue s.counted
  · obtain ⟨harmed, hdue⟩ := hadds
    obtain ⟨hstamp, result, hincrement⟩ := handle_due bool e s harmed hdue
    obtain ⟨hunarmed, hahead⟩ := hsince harmed hdue
    -- what is added is at most the uptime since the last increment, all of it armed
    have hle : (sinceIncrement s.counted).toNat ≤
        uptimeSecondsAt s.uptimeMs - uptimeSecondsAt a.lastIncrementMs := by
      rw [sinceIncrement, System.counted, huptime, updateSecondsCounter_stamp, h.stamp]
      exact ofNat_sub_le hahead
    have hadded : a.added + (if result = 0 then (sinceIncrement s.counted).toNat else 0) ≤
        a.armedSeconds := by
      simp only at hcovered hunarmed hahead
      split <;> omega
    rw [Account.handled_some hincrement]
    refine ⟨hclock, hstamp.trans huptime, hadded, ?_⟩
    simp only
    omega
  · obtain ⟨hstamp, hincrement⟩ :=
      handle_not_due bool e s fun harmed hdue => hadds ⟨harmed, hdue⟩
    rw [Account.handled_none hincrement]
    exact ⟨hclock, hstamp.trans h.stamp, h.bounded, hcovered⟩

theorem covered_step {bool : BoolReading} (e : Event) (s : System × Account) (h : Covered s)
    (hgood : EventGood bool e s) : Covered (stepBooked bool e s) := by
  cases e with
  | elapse ms => exact covered_elapse h
  | periodic e => exact covered_periodic h hgood
  | timerStep | switchContext | armDeploymentTimer | readTotalRunTime | readTotalIdleRunTime =>
      exact ⟨h.clock, h.stamp, h.bounded, h.covered⟩

/-- **The deployment timer.** In every run in which each update comes in time, and each one that
    increments finds that the timer was armed since the last increment, no more seconds are added to the
    deployment timer than uptime seconds elapsed while it was armed. -/
theorem added_le_armedSeconds (bool : BoolReading) (fram : Mem UInt8) (events : List Event)
    (h : AlongRun (EventGood bool) (stepBooked bool) events (startBooked fram)) :
    ∀ reached, reached <+: events →
      (run (stepBooked bool) reached (startBooked fram)).2.added ≤
        (run (stepBooked bool) reached (startBooked fram)).2.armedSeconds := by
  rintro reached ⟨rest, rfl⟩
  exact (run_invariant covered_step reached _ (covered_startBooked fram)
    (alongRun_append.mp h).1).bounded

/-! ## A timer that is armed late -/

/-- The timer is armed from the start. Behind the first increment it is disarmed for less than a second, with
    an update in between, and armed again. -/
def armedFromStart : List Event :=
  [.armDeploymentTimer true .done, .elapse 3500, .periodic plainUpdate, .armDeploymentTimer false .done,
    .elapse 400, .periodic plainUpdate, .armDeploymentTimer true .done, .elapse 4100, .periodic plainUpdate]

/-- The timer is armed after ten seconds. -/
def armedLate : List Event :=
  [.elapse 10000, .periodic plainUpdate, .armDeploymentTimer true .done, .elapse 1000,
    .periodic plainUpdate]

theorem armedFromStart_good :
    AlongRun (EventGood plainReading) (stepBooked plainReading) armedFromStart
      (startBooked fun _ => 0) :=
  ⟨trivial, trivial, ⟨⟨by decide, by decide, by decide⟩, fun _ _ => ⟨by decide, by decide⟩⟩, trivial,
    trivial, ⟨⟨by decide, by decide, by decide⟩, fun harmed => absurd harmed (by decide)⟩, trivial, trivial,
    ⟨⟨by decide, by decide, by decide⟩, fun _ _ => ⟨by decide, by decide⟩⟩, trivial⟩

/-- Two increments add the eight seconds, all of them armed. -/
theorem armedFromStart_added :
    AlongRun (EventGood plainReading) (stepBooked plainReading) armedFromStart
        (startBooked fun _ => 0) ∧
      (run (stepBooked plainReading) armedFromStart (startBooked fun _ => 0)).2.added = 8 ∧
      (run (stepBooked plainReading) armedFromStart (startBooked fun _ => 0)).2.added ≤
        (run (stepBooked plainReading) armedFromStart (startBooked fun _ => 0)).2.armedSeconds :=
  ⟨armedFromStart_good, by decide, added_le_armedSeconds plainReading _ _ armedFromStart_good _
    (List.prefix_refl _)⟩

/-- One second after the timer was armed, eleven are added. -/
theorem armedLate_overcounts :
    ¬ ∀ reached, reached <+: armedLate →
      (run (stepBooked plainReading) reached (startBooked fun _ => 0)).2.added ≤
        (run (stepBooked plainReading) reached (startBooked fun _ => 0)).2.armedSeconds :=
  fun h => absurd (h armedLate (List.prefix_refl _)) (by decide)

end TimeHandling
end Obsw
