import Obsw.Freertos.TaskRun

/-!
# `Freertos.TaskPeriod` — periodic tasks

`xTaskDelayUntil` compares ticks that have wrapped: the tick at which the task was to wake last, the one at which it
is to wake next, and the current one. A task that is not a whole wrap late is delayed if its next tick is ahead, and
then to that very tick, so that its period does not drift. If its next tick is past, the task stays ready; but the
call ends with a switch in any case, so that others of its priority may come first. Between the steps of the call
there are interrupts, and other tasks whenever the task does not run (`Meanwhile`).
-/

namespace Obsw
namespace Freertos

/-- Whether `xTaskDelayUntil` delays. -/
def xShouldDelay (pxPreviousWakeTime xTimeToWake xConstTickCount : Nat) : Bool :=
  if xConstTickCount < pxPreviousWakeTime then
    -- the tick count has wrapped, so the wake time must have as well
    xTimeToWake < pxPreviousWakeTime && xConstTickCount < xTimeToWake
  else xTimeToWake < pxPreviousWakeTime || xConstTickCount < xTimeToWake

/-- What `xTaskDelayUntil` works out with the scheduler suspended: the ticks to wait, what it leaves in
    `pxPreviousWakeTime`, and whether it delays, which it returns. -/
def Kernel.delayUntil (k : Kernel) (pxPreviousWakeTime xTimeIncrement : Nat) : Nat × Nat × Bool :=
  let xConstTickCount := k.xTickCount
  let xTimeToWake := (pxPreviousWakeTime + xTimeIncrement) % 2 ^ 32
  ((xTimeToWake + 2 ^ 32 - xConstTickCount) % 2 ^ 32, xTimeToWake,
    xShouldDelay pxPreviousWakeTime xTimeToWake xConstTickCount)

section Ticks

variable {wake ticks xTimeIncrement : Nat}

/-- The comparison of the wrapped ticks is that of the ticks themselves. -/
theorem xShouldDelay_iff (hpos : 0 < xTimeIncrement) (hlt : xTimeIncrement < 2 ^ 32) (hwoken : wake ≤ ticks)
    (hlate : ticks < wake + 2 ^ 32) :
    xShouldDelay (wake % 2 ^ 32) ((wake + xTimeIncrement) % 2 ^ 32) (ticks % 2 ^ 32) = true ↔
      ticks < wake + xTimeIncrement := by
  rw [xShouldDelay]
  split_ifs
  · rw [Bool.and_eq_true, decide_eq_true_iff, decide_eq_true_iff]
    omega
  · rw [Bool.or_eq_true, decide_eq_true_iff, decide_eq_true_iff]
    omega

/-- The difference of the wrapped ticks is that of the ticks. -/
theorem blockTime_eq (hlt : xTimeIncrement < 2 ^ 32) (hwoken : wake ≤ ticks) (hdue : ticks < wake + xTimeIncrement) :
    ((wake + xTimeIncrement) % 2 ^ 32 + 2 ^ 32 - ticks % 2 ^ 32) % 2 ^ 32 = wake + xTimeIncrement - ticks := by
  omega

/-- What `xTaskDelayUntil` works out, on ticks that do not wrap. -/
theorem Kernel.delayUntil_snd {k : Kernel} (htick : k.xTickCount = ticks % 2 ^ 32) (hpos : 0 < xTimeIncrement)
    (hlt : xTimeIncrement < 2 ^ 32) (hwoken : wake ≤ ticks) (hlate : ticks < wake + 2 ^ 32) :
    (k.delayUntil (wake % 2 ^ 32) xTimeIncrement).2 =
      ((wake + xTimeIncrement) % 2 ^ 32, decide (ticks < wake + xTimeIncrement)) := by
  rw [delayUntil, htick, Nat.mod_add_mod]
  by_cases hdue : ticks < wake + xTimeIncrement
  · rw [(xShouldDelay_iff hpos hlt hwoken hlate).mpr hdue, decide_eq_true hdue]
  · rw [Bool.eq_false_iff.mpr (mt (xShouldDelay_iff hpos hlt hwoken hlate).mp hdue), decide_eq_false hdue]

theorem Kernel.delayUntil_fst {k : Kernel} (htick : k.xTickCount = ticks % 2 ^ 32) (hlt : xTimeIncrement < 2 ^ 32)
    (hwoken : wake ≤ ticks) (hdue : ticks < wake + xTimeIncrement) :
    (k.delayUntil (wake % 2 ^ 32) xTimeIncrement).1 = wake + xTimeIncrement - ticks := by
  rw [delayUntil, htick, Nat.mod_add_mod]
  exact blockTime_eq hlt hwoken hdue

end Ticks

namespace System

open Kernel

/-- The calls that interrupts make. -/
def IsInterrupt : TaskCall → Prop
  | .tickISR | .removeFromEventList _ | .resumeFromISR _ => True
  | _ => False

/-- What can come between two steps of a call that the task `t` makes: interrupts, and steps of the other tasks while
    it does not run, except that they suspend it. -/
def Meanwhile (idle t : Task) (s s' : System) : Prop :=
  ∃ c, Step idle s c s' ∧ c ≠ .suspend t ∧ (IsInterrupt c ∨ s.kernel.pxCurrentTCB ≠ t)

/-- The system behind what `xTaskDelayUntil` does with the scheduler suspended. -/
def delayUntil (s : System) (pxPreviousWakeTime xTimeIncrement : Nat) : System :=
  let delayed := s.kernel.delayUntil pxPreviousWakeTime xTimeIncrement
  if delayed.2.2 then s.next (.delay delayed.1) else s

/-- **`xTaskDelayUntil`**, called in `s` by the task that runs there. In `s₁`, with the scheduler suspended, it looks at
    the ticks; it ends in `s'`, with the switch of `xTaskResumeAll`, if there was one, or else with its own. -/
structure XTaskDelayUntil (idle : Task) (pxPreviousWakeTime xTimeIncrement : Nat) (s s₁ s' : System) : Prop where
  suspendAll : ∃ s₀, Step idle s .suspendAll s₀ ∧
    Relation.ReflTransGen (Meanwhile idle s.kernel.pxCurrentTCB) s₀ s₁
  resumeAll : ∃ s₂ s₃ xAlreadyYielded,
    Relation.ReflTransGen (Meanwhile idle s.kernel.pxCurrentTCB) (s₁.delayUntil pxPreviousWakeTime xTimeIncrement) s₂ ∧
    Step idle s₂ .resumeAll s₃ ∧ s₂.kernel.xTaskResumeAll = some (s₃.kernel, xAlreadyYielded) ∧
    if xAlreadyYielded then s' = s₃
    else ∃ s₄, Relation.ReflTransGen (Meanwhile idle s.kernel.pxCurrentTCB) s₃ s₄ ∧
      s₄.kernel.pxCurrentTCB = s.kernel.pxCurrentTCB ∧ Step idle s₄ .yield s'

variable {idle t : Task} {s s' s₁ : System} {c : TaskCall} {p ticks wake xTimeIncrement : Nat}

theorem delayUntil_eq (htick : s.kernel.xTickCount = ticks % 2 ^ 32) (hpos : 0 < xTimeIncrement)
    (hlt : xTimeIncrement < 2 ^ 32) (hwoken : wake ≤ ticks) (hlate : ticks < wake + 2 ^ 32) :
    s.delayUntil (wake % 2 ^ 32) xTimeIncrement =
      if ticks < wake + xTimeIncrement then s.next (.delay (wake + xTimeIncrement - ticks)) else s := by
  have hdelays := congrArg Prod.snd (delayUntil_snd htick hpos hlt hwoken hlate)
  unfold System.delayUntil
  dsimp only at hdelays ⊢
  by_cases hdue : ticks < wake + xTimeIncrement
  · rw [if_pos hdue, delayUntil_fst htick hlt hwoken hdue, if_pos (hdelays.trans (decide_eq_true hdue))]
  · rw [if_neg hdue, if_neg (by rw [hdelays, decide_eq_false hdue]; decide)]

/-- A ready task stays ready until it blocks or is suspended. -/
theorem Step.ready (hstep : Step idle s c s') (h : s.Inv idle) (ht : s.kernel.InState t (.ready p))
    (hsuspend : c ≠ .suspend t) (hblocks : Blocks c → s.kernel.pxCurrentTCB ≠ t) :
    s'.kernel.InState t (.ready p) := by
  have hcore := Kernel.Inv.core h
  have hothers : ∀ {u}, u ≠ t → Others u s.kernel s'.kernel → s'.kernel.InState t (.ready p) :=
    fun hu ho => (ho.state t (Ne.symm hu)).trans ht
  cases (hstep.effect h).moves with
  | @woken q hw _ _ _ =>
      by_cases hq : q t
      · have hready := (hw.left t hq).1
        rwa [hcore.base.ready t p ht] at hready
      · exact (hw.stayed t hq).1.trans ht
  | blocked hc _ ho _ => exact hothers (hblocks hc) ho
  | @removed e u _ hhead ho _ =>
      refine hothers ?_ ho
      rintro rfl
      have hwaits := h.head_waits hhead
      rw [Waits, hcore.not_waits ht] at hwaits
      cases hwaits
  | suspended hc ho _ =>
      refine hothers ?_ ho
      rintro rfl
      exact hsuspend hc
  | resumed hstate ho _ =>
      rcases hstate with heq | hstate
      · rwa [heq]
      · refine hothers ?_ ho
        rintro rfl
        cases hstate.unique ht
  | created halive ho _ =>
      refine hothers ?_ ho
      rintro rfl
      exact halive (hcore.known ht)

/-- Meanwhile a ready task stays ready. -/
theorem meanwhile_ready (hmeanwhile : Relation.ReflTransGen (Meanwhile idle t) s s') (h : s.Inv idle)
    (ht : s.kernel.InState t (.ready p)) : s'.Inv idle ∧ s'.kernel.InState t (.ready p) := by
  induction hmeanwhile with
  | refl => exact ⟨h, ht⟩
  | tail _ hstep ih =>
      obtain ⟨hinv, ht'⟩ := ih
      obtain ⟨c, hstep, hsuspend, hnot⟩ := hstep
      refine ⟨(hstep.effect hinv).inv, hstep.ready hinv ht' hsuspend fun hblocks => ?_⟩
      refine hnot.resolve_left fun hint => ?_
      cases c <;> first | exact hblocks.elim | exact hint.elim

/-- The scheduler is suspended, the task `t` runs, and so many ticks are counted. -/
structure Held (t : Task) (ticks : Nat) (s : System) : Prop where
  suspended : s.kernel.uxSchedulerSuspended ≠ 0
  current : s.kernel.pxCurrentTCB = t
  ticks : s.ticks = ticks

/-- While the scheduler is suspended, interrupts neither switch nor count ticks. -/
theorem Held.interrupt (hheld : Held t ticks s) (hstep : Step idle s c s') (h : s.Inv idle) (hc : IsInterrupt c) :
    Held t ticks s' := by
  have hinv : Kernel.Inv idle s.alive s.ticks s.wake s.creating s.kernel := h
  have hdispatched := (hstep.effect h).dispatched
  obtain ⟨hmay, k, heq, rfl⟩ := hstep
  have hkept : k.uxSchedulerSuspended = s.kernel.uxSchedulerSuspended → (s.after c k).ticks = s.ticks →
      Held t ticks (s.after c k) := by
    intro hsusp hticks
    refine ⟨fun h0 => hheld.suspended (hsusp.symm.trans h0), ?_, hticks.trans hheld.ticks⟩
    exact (hdispatched.resolve_right fun hd => hheld.suspended (hsusp.symm.trans hd.1)).trans hheld.current
  cases c with
  | tickISR =>
      obtain ⟨k', ticks', heq', _, _, _, hsusp, _⟩ := vPortTickISR_spec hinv
      obtain rfl := Option.some.inj (heq.symm.trans heq')
      exact hkept hsusp (if_neg hheld.suspended)
  | removeFromEventList pxEventList =>
      obtain ⟨_, k', b, _, heq', _, _, hsame, _⟩ := xTaskRemoveFromEventList_spec hinv hmay
      rw [Kernel.call, heq', Option.map_some, Option.some.injEq] at heq
      exact hkept (heq ▸ hsame.uxSchedulerSuspended) rfl
  | resumeFromISR u =>
      obtain rfl := Option.some.inj heq
      exact hkept (xTaskResumeFromISR_spec hinv u).2.2.2.1.uxSchedulerSuspended rfl
  | _ => exact hc.elim

theorem meanwhile_held (hmeanwhile : Relation.ReflTransGen (Meanwhile idle t) s s') (h : s.Inv idle)
    (hheld : Held t ticks s) : Held t ticks s' := by
  have hboth : s'.Inv idle ∧ Held t ticks s' := by
    induction hmeanwhile with
    | refl => exact ⟨h, hheld⟩
    | tail _ hstep ih =>
        obtain ⟨hinv, hheld'⟩ := ih
        obtain ⟨c, hstep, _, hnot⟩ := hstep
        exact ⟨(hstep.effect hinv).inv,
          hheld'.interrupt hstep hinv (hnot.resolve_right fun hne => hne hheld'.current)⟩
  exact hboth.2

/-- Behind a switch a ready task of the highest priority runs, if the scheduler does. -/
theorem Step.chosen (hstep : Step idle s .yield s') (h : s.Inv idle) (hrunning : s'.kernel.uxSchedulerSuspended = 0) :
    s'.kernel.Chosen := by
  have hinv : Kernel.Inv idle s.alive s.ticks s.wake s.creating s.kernel := h
  obtain ⟨_, k, heq, rfl⟩ := hstep
  obtain ⟨k', heq', _, _, hsusp, _, _, hchosen⟩ := hinv.core.switch s.creating hinv.settled hinv.running
  obtain rfl := Option.some.inj (heq.symm.trans heq')
  exact hchosen (hsusp.symm.trans hrunning)

/-- Where it does not delay, `xTaskDelayUntil` leaves its task ready, and ends with a switch. -/
theorem XTaskDelayUntil.past (hcall : XTaskDelayUntil idle wake xTimeIncrement s s₁ s') (h : s₁.Inv idle)
    (hkept : s₁.delayUntil wake xTimeIncrement = s₁)
    (ht : s₁.kernel.InState s.kernel.pxCurrentTCB (.ready p)) :
    s'.kernel.InState s.kernel.pxCurrentTCB (.ready p) ∧
      (s'.kernel.uxSchedulerSuspended = 0 → s'.kernel.Chosen) := by
  obtain ⟨s₂, s₃, xAlreadyYielded, hmeanwhile, hresume, heq, hend⟩ := hcall.resumeAll
  rw [hkept] at hmeanwhile
  obtain ⟨hinv₂, ht₂⟩ := meanwhile_ready hmeanwhile h ht
  have ht₃ := hresume.ready hinv₂ ht₂ (fun hc => by cases hc) False.elim
  have hinv₃ := (hresume.effect hinv₂).inv
  split_ifs at hend with hyielded
  · subst hend
    refine ⟨ht₃, fun _ => ?_⟩
    obtain ⟨k, b, _, heq', _, _, _, _, _, _, hchosen⟩ := xTaskResumeAll_spec hinv₂ hresume.1
    obtain ⟨rfl, rfl⟩ := Prod.mk.inj (Option.some.inj (heq.symm.trans heq'))
    exact hchosen hyielded
  · obtain ⟨s₄, hmeanwhile', _, hyield⟩ := hend
    obtain ⟨hinv₄, ht₄⟩ := meanwhile_ready hmeanwhile' hinv₃ ht₃
    exact ⟨hyield.ready hinv₄ ht₄ (fun hc => by cases hc) False.elim, hyield.chosen hinv₄⟩

/-- **A period does not drift.** A task that was to wake at the tick `wake`, and calls `xTaskDelayUntil` at that tick
    or less than a wrap later, is told the tick `wake + xTimeIncrement`. If that is still to come, the call is a
    delay up to it: the task, unless it is suspended, is delayed as long as fewer ticks are counted, and ready when
    that one is. If it is past, the call does not delay: the task stays ready, and at the end of the call the
    processor is with a ready task of the highest priority, which may be another one. -/
theorem xTaskDelayUntil_exact (hs : Reachable idle s) (hidle : s.kernel.pxCurrentTCB ≠ idle)
    (hready : s.kernel.InState s.kernel.pxCurrentTCB (.ready p)) (hpos : 0 < xTimeIncrement)
    (hlt : xTimeIncrement < 2 ^ 32) (hwoken : wake ≤ s.ticks) (hlate : s.ticks < wake + 2 ^ 32)
    (hcall : XTaskDelayUntil idle (wake % 2 ^ 32) xTimeIncrement s s₁ s') :
    (s₁.kernel.delayUntil (wake % 2 ^ 32) xTimeIncrement).2 =
        ((wake + xTimeIncrement) % 2 ^ 32, decide (s.ticks < wake + xTimeIncrement)) ∧
      (wake + xTimeIncrement ≤ s.ticks → s'.kernel.InState s.kernel.pxCurrentTCB (.ready p) ∧
        (s'.kernel.uxSchedulerSuspended = 0 → s'.kernel.Chosen)) ∧
      (s.ticks < wake + xTimeIncrement →
        Step idle s₁ (.delay (wake + xTimeIncrement - s.ticks)) (s₁.delayUntil (wake % 2 ^ 32) xTimeIncrement) ∧
        ∀ calls s'', Run idle (s₁.delayUntil (wake % 2 ^ 32) xTimeIncrement) calls s'' →
          .suspend s.kernel.pxCurrentTCB ∉ calls →
          (s''.ticks < wake + xTimeIncrement ∧ s''.kernel.Delayed s.kernel.pxCurrentTCB) ∨
          ∃ calls₁ c calls₂ t₁ t₂, calls = calls₁ ++ c :: calls₂ ∧
            Run idle (s₁.delayUntil (wake % 2 ^ 32) xTimeIncrement) calls₁ t₁ ∧ Step idle t₁ c t₂ ∧
            Run idle t₂ calls₂ s'' ∧ t₁.ticks < wake + xTimeIncrement ∧
            t₁.kernel.Delayed s.kernel.pxCurrentTCB ∧ wake + xTimeIncrement ≤ t₂.ticks ∧
            t₂.kernel.InState s.kernel.pxCurrentTCB (.ready (t₁.kernel.uxPriority s.kernel.pxCurrentTCB))) := by
  obtain ⟨s₀, hsuspend, hmeanwhile⟩ := hcall.suspendAll
  have hinv₀ := (hsuspend.effect hs.inv).inv
  have hready₀ := hsuspend.ready hs.inv hready (fun hc => by cases hc) False.elim
  have hheld₀ : Held s.kernel.pxCurrentTCB s.ticks s₀ := by
    obtain ⟨hmay, k, heq, rfl⟩ := hsuspend
    obtain rfl := Option.some.inj heq
    refine ⟨?_, rfl, rfl⟩
    show (s.kernel.uxSchedulerSuspended + 1) % 2 ^ 32 ≠ 0
    rw [Nat.mod_eq_of_lt hmay]
    exact Nat.succ_ne_zero _
  -- interrupts do not count ticks until the call has looked at them
  have hheld := meanwhile_held hmeanwhile hinv₀ hheld₀
  obtain ⟨hinv₁, hready₁⟩ := meanwhile_ready hmeanwhile hinv₀ hready₀
  have htick : s₁.kernel.xTickCount = s.ticks % 2 ^ 32 := hheld.ticks ▸ (Kernel.Inv.core hinv₁).timed.tick
  have hcases := delayUntil_eq htick hpos hlt hwoken hlate
  refine ⟨delayUntil_snd htick hpos hlt hwoken hlate, fun hpast => ?_, fun hdue => ?_⟩
  · rw [if_neg (Nat.not_lt.mpr hpast)] at hcases
    exact hcall.past hinv₁ hcases hready₁
  · rw [if_pos hdue] at hcases
    have hmay : s₁.May idle (.delay (wake + xTimeIncrement - s.ticks)) := by
      refine ⟨hheld.current ▸ hidle, ⟨p, ?_⟩, by omega, by omega⟩
      rw [hheld.current]
      exact hready₁
    obtain ⟨hstep, hinv⟩ := hinv₁.next hmay
    obtain ⟨hdelayed, hnone, hwake⟩ := hstep.delay hinv₁
    rw [hheld.current, hheld.ticks, Nat.add_sub_of_le hdue.le] at hwake
    rw [hheld.current] at hdelayed hnone
    rw [hcases]
    refine ⟨hstep, fun calls s'' hrun hcalls => ?_⟩
    have hsleeps := hrun.sleeps hinv hdelayed hnone hcalls
    rwa [hwake] at hsleeps

/-- The second task runs at the start; a tick comes during its call, and is pended. -/
def secondWaits : System := ((twoTasks.next .suspendAll).next .tickISR).next (.delay 3)

theorem secondWaits_call : XTaskDelayUntil 0 0 3 twoTasks ((twoTasks.next .suspendAll).next .tickISR)
    ((secondWaits.next .resumeAll).next .yield) := by
  obtain ⟨hsuspend, h₀⟩ := reachable_twoTasks.inv.next (c := .suspendAll)
    (show twoTasks.kernel.uxSchedulerSuspended + 1 < 2 ^ 32 by decide)
  obtain ⟨htick, h₁⟩ := h₀.next (c := .tickISR) trivial
  obtain ⟨_, h₂⟩ := h₁.next (c := .delay 3) ⟨by decide, ⟨2, rfl⟩, by decide, by decide⟩
  obtain ⟨hresume, h₃⟩ := h₂.next (c := .resumeAll)
    (show secondWaits.kernel.uxSchedulerSuspended ≠ 0 by decide)
  obtain ⟨hyield, _⟩ := h₃.next (c := .yield) trivial
  exact ⟨⟨_, hsuspend, .single ⟨.tickISR, htick, by decide, Or.inl trivial⟩⟩,
    ⟨_, _, false, .refl, hresume, rfl, _, .refl, rfl, hyield⟩⟩

/-- The first task runs behind a tick. -/
def firstIsLate : System := twoTasks.next .tickISR

theorem reachable_firstIsLate : Reachable 0 firstIsLate :=
  ⟨_, _, by decide, Run.nil.snoc (reachable_twoTasks.inv.next (c := .tickISR) trivial).1⟩

theorem firstIsLate_call : XTaskDelayUntil 0 0 1 firstIsLate (firstIsLate.next .suspendAll)
    (((firstIsLate.next .suspendAll).next .resumeAll).next .yield) := by
  obtain ⟨hsuspend, h₀⟩ := reachable_firstIsLate.inv.next (c := .suspendAll)
    (show firstIsLate.kernel.uxSchedulerSuspended + 1 < 2 ^ 32 by decide)
  obtain ⟨hresume, h₁⟩ := h₀.next (c := .resumeAll)
    (show (firstIsLate.next .suspendAll).kernel.uxSchedulerSuspended ≠ 0 by decide)
  obtain ⟨hyield, _⟩ := h₁.next (c := .yield) trivial
  exact ⟨⟨_, hsuspend, .refl⟩, ⟨_, _, false, .refl, hresume, rfl, _, .refl, rfl, hyield⟩⟩

/-- The second task, whose period is three ticks, waits for the third one. The first task, whose period of one tick is
    past, stays ready, and the other one is next. -/
theorem twoTasks_period :
    (((twoTasks.next .suspendAll).next .tickISR).kernel.delayUntil 0 3).2 = (3, true) ∧
      Step 0 ((twoTasks.next .suspendAll).next .tickISR) (.delay 3) secondWaits ∧
      (((firstIsLate.next .suspendAll).next .resumeAll).next .yield).kernel.InState 1 (.ready 2) ∧
      (((firstIsLate.next .suspendAll).next .resumeAll).next .yield).kernel.pxCurrentTCB = 2 := by
  obtain ⟨hreturned, _, hdue⟩ := xTaskDelayUntil_exact reachable_twoTasks (by decide) (p := 2) rfl
    (by decide) (by decide) (Nat.le_refl 0) (by decide) secondWaits_call
  obtain ⟨_, hpast, _⟩ := xTaskDelayUntil_exact reachable_firstIsLate (by decide) (p := 2) rfl (by decide)
    (by decide) (Nat.zero_le _) (by decide) firstIsLate_call
  exact ⟨hreturned, (hdue (by decide)).1, (hpast (by decide)).1, by decide⟩

end System
end Freertos
end Obsw
