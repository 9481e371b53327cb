import Obsw.Engine.NorControl

/-!
# `Engine.NorRun` — the invariant rule for whole runs of the NOR flash copy

The control state (step counter, byte index, cached size, flags) follows the same course whatever the
flash holds, so it is traced here once. A property of runs supplies what is specific to it, an
invariant of the erase step and one of the copy step, as a `NorInvariant`; `norRun_ended` then says that
every run over every schedule ends as the property says.
-/

namespace Obsw
namespace Engine

open Memory LittleEndian Device Fram Loop ImageCopyingEngine

/-- The control state during the erase step. -/
structure EraseControl (target : NorTarget) (e : ImageCopyingEngine) : Prop where
  source : e.sourceSlot = target.slot
  hamming : e.hammingCode = false
  internal : e.internalState = .idle ∨ e.internalState = .step1
  idx : e.currentByteIdx = 0
  first : e.helperFlag1 = false → e.stepCounter = 0
  counter : e.helperFlag1 = true → target ≠ .bootloader → e.helperCounter1 = target.eraseSteps
  le : e.stepCounter ≤ target.eraseSteps

/-- The address of an erase command. -/
def eraseAddress (hal : NorHal) (target : NorTarget) (step : Nat) : Nat :=
  hal.sectorAddress (target.erasedSector step)

/-- What is specific to a property of runs: an invariant of the erase step, by the number of sectors
    erased, one of the copy step, by byte index, retry flag and buffer, and what holds at the end.
    `xs` is the content of the file; `good` is assumed of the passes of the copy loop. -/
structure NorInvariant (hal : NorHal) (target : NorTarget) (xs : List UInt8)
    (good : NorPass → NorLoop → Prop) where
  Erasing : Nat → Mem UInt8 → List FlashCommand → Prop
  Copying : Nat → Bool → Mem UInt8 → Mem UInt8 → List FlashCommand → Prop
  Ended : ReturnValue → Mem UInt8 → List FlashCommand → Prop
  erase : ∀ {step flash commands}, step < target.eraseSteps → Erasing step flash commands →
    Erasing (step + 1) (eraseSector .done flash (eraseAddress hal target step))
      (commands ++ [.erase (eraseAddress hal target step)])
  eraseFails : ∀ {step flash commands outcome}, step < target.eraseSteps →
    Erasing step flash commands → outcome ≠ .done →
    Ended .returnFailed (eraseSector outcome flash (eraseAddress hal target step))
      (commands ++ [.erase (eraseAddress hal target step)])
  erasingEnds : ∀ {step flash commands}, Erasing step flash commands →
    Ended .returnFailed flash commands
  switch : ∀ {buffer flash commands}, Erasing target.eraseSteps flash commands →
    Copying 0 false buffer flash commands
  bound : ∀ {idx flag buffer flash commands}, Copying idx flag buffer flash commands →
    idx ≤ target.reserved
  pass : ∀ {pass file s r file' s'}, good pass (file, s) → CopyControl target xs.length s.engine →
    s.engine.currentFileSize = xs.length → s.engine.currentByteIdx < xs.length → file.bytes = xs →
    Copying s.engine.currentByteIdx s.engine.helperFlag1 s.engine.imgBuffer s.flash s.commands →
    NorStep hal pass file s r file' s' →
    (r = .returnOk ∨ r = .taskPeriodOverSoon → Copying s'.engine.currentByteIdx
      s'.engine.helperFlag1 s'.engine.imgBuffer s'.flash s'.commands) ∧
    (r = .returnFailed ∨ r = .operationFinished → Ended r s'.flash s'.commands)
  copyingEnds : ∀ {idx flag buffer flash commands r}, r = .returnFailed ∨ r = .fErrNotfound →
    Copying idx flag buffer flash commands → Ended r flash commands

namespace NorInvariant

variable {hal : NorHal} {target : NorTarget} {card : Card} {good : NorPass → NorLoop → Prop}
  (inv : NorInvariant hal target (fileBytes card target.path) good)

/-- The operation is in the erase step. -/
def InErase (s : NorState) : Prop :=
  EraseControl target s.engine ∧ inv.Erasing s.engine.stepCounter s.flash s.commands

/-- The operation is in the copy step. -/
def InCopy (s : NorState) : Prop :=
  CopyControl target (fileBytes card target.path).length s.engine ∧
    inv.Copying s.engine.currentByteIdx s.engine.helperFlag1 s.engine.imgBuffer s.flash s.commands

/-! ### The erase step -/

/-- In the erase loop the table gives the target's sectors. -/
theorem getBaseAddress_erase (hal : NorHal) {e : ImageCopyingEngine} (h : EraseControl target e)
    (hinternal : e.internalState = .step1) (hlt : e.stepCounter < target.eraseSteps) :
    (getBaseAddress hal e e.stepCounter).1 = eraseAddress hal target e.stepCounter := by
  have hsource := h.source
  by_cases htarget : target = .bootloader
  · subst htarget
    obtain ⟨_, _, hsteps⟩ := NorTarget.bootloader_spec
    have hmod : e.stepCounter % 2 ^ 8 = e.stepCounter := by omega
    simp only [getBaseAddress, hsource, NorTarget.slot, hinternal, if_true, hmod]
    rw [if_pos (by omega)]
    rfl
  · obtain ⟨hslot, _, _, hsteps⟩ := NorTarget.obsw_spec htarget
    have hmod : e.stepCounter % 2 ^ 8 = e.stepCounter := by omega
    simp only [getBaseAddress, hsource, hslot, hinternal, if_false, hmod]
    cases target with
    | bootloader => exact absurd rfl htarget
    | obswSlot0 => rfl
    | obswSlot1 => rfl

/-- The state in an erase loop. -/
def InEraseLoop (s : NorState) : Prop :=
  inv.InErase s ∧ s.engine.internalState = .step1 ∧ s.engine.helperFlag1 = true

/-- One pass of an erase loop. -/
theorem erasePass_spec {pass : ErasePass} {s : NorState} (h : inv.InEraseLoop s)
    (hlt : s.engine.stepCounter < target.eraseSteps) :
    (∀ s', erasePass hal pass s = some (.next s') → inv.InEraseLoop s') ∧
    (∀ r s', erasePass hal pass s = some (.ret r s') →
      (r = .taskPeriodOverSoon ∧ inv.InErase s') ∨
        (r = .returnFailed ∧ inv.Ended r s'.flash s'.commands)) := by
  obtain ⟨⟨hcontrol, herasing⟩, hinternal, hflag⟩ := h
  have haddr := getBaseAddress_erase hal hcontrol hinternal hlt
  have hmod : (s.engine.stepCounter + 1) % 2 ^ 16 = s.engine.stepCounter + 1 := by
    have hle : target.eraseSteps ≤ 14 := by cases target <;> decide
    omega
  unfold erasePass
  dsimp only
  rw [haddr]
  by_cases hretval : pass.erase.retval ≠ 0
  · rw [if_pos hretval]
    refine ⟨fun s' heq => (by cases heq), fun r s' heq => ?_⟩
    obtain ⟨rfl, rfl⟩ := Flow.ret.inj (Option.some.inj heq)
    exact .inr ⟨rfl, inv.eraseFails hlt herasing fun hdone => hretval (by rw [hdone]; rfl)⟩
  · have hdone : pass.erase = .done := WriteOutcome.retval_eq_zero.mp (not_not.mp hretval)
    have hnext : inv.InEraseLoop
        { s with
          engine := s.engine.countStep
          flash := eraseSector pass.erase s.flash (eraseAddress hal target s.engine.stepCounter)
          commands := s.commands ++ [.erase (eraseAddress hal target s.engine.stepCounter)] } := by
      refine ⟨⟨⟨hcontrol.source, hcontrol.hamming, hcontrol.internal, hcontrol.idx,
        fun hno => absurd hflag (by rw [show s.engine.helperFlag1 = false from hno]; decide),
        hcontrol.counter, ?_⟩, ?_⟩, hinternal, hflag⟩
      · show (s.engine.stepCounter + 1) % 2 ^ 16 ≤ _
        omega
      · show inv.Erasing ((s.engine.stepCounter + 1) % 2 ^ 16) _ _
        rw [hmod, hdone]
        exact inv.erase hlt herasing
    rw [if_neg hretval]
    constructor
    · intro s' heq
      split_ifs at heq
      · cases heq
      · obtain rfl := Flow.next.inj (Option.some.inj heq)
        exact hnext
    · intro r s' heq
      split_ifs at heq
      · obtain ⟨rfl, rfl⟩ := Flow.ret.inj (Option.some.inj heq)
        exact .inl ⟨rfl, hnext.1⟩
      · cases heq

/-- What a step of the operation leaves: done, to be continued, or failed. -/
def Outcome (next : NorState → Prop) (r : ReturnValue) (s' : NorState) : Prop :=
  (r = .returnOk ∧ next s') ∨ (r = .taskPeriodOverSoon ∧ inv.InErase s') ∨
    (r = .returnFailed ∧ inv.Ended r s'.flash s'.commands)

/-- The erase step is complete. -/
def EraseDone (s : NorState) : Prop :=
  s.engine.sourceSlot = target.slot ∧ s.engine.hammingCode = false ∧ s.engine.currentByteIdx = 0 ∧
    s.engine.stepCounter = 0 ∧ s.engine.helperFlag1 = false ∧
    inv.Erasing target.eraseSteps s.flash s.commands

/-- What both ends of an erase loop do to the engine. -/
def ResetsErasure (finish : ImageCopyingEngine → ImageCopyingEngine) : Prop :=
  ∀ e, (finish e).sourceSlot = e.sourceSlot ∧ (finish e).hammingCode = e.hammingCode ∧
    (finish e).currentByteIdx = e.currentByteIdx ∧ (finish e).stepCounter = 0 ∧
    (finish e).helperFlag1 = false

theorem resetsErasure_obsw : ResetsErasure finishObswErasure := fun _ => ⟨rfl, rfl, rfl, rfl, rfl⟩

theorem resetsErasure_bootloader : ResetsErasure finishBootloaderErasure :=
  fun _ => ⟨rfl, rfl, rfl, rfl, rfl⟩

/-- An erase loop, whose end resets the step counter and the flag. -/
theorem eraseLoop_spec {passes : List ErasePass} {s s' : NorState} {r : ReturnValue}
    {finish : ImageCopyingEngine → ImageCopyingEngine}
    (hfinish : ResetsErasure finish) (hloop : inv.InEraseLoop s)
    (h : eraseLoop hal target.eraseSteps passes s finish = some (r, s')) :
    inv.Outcome inv.EraseDone r s' := by
  have hrule := whileLoop_induct
    (fun s : NorState => decide (s.engine.stepCounter < target.eraseSteps)) (erasePass hal)
    (I := inv.InEraseLoop)
    (Q := fun r s' => (r = .taskPeriodOverSoon ∧ inv.InErase s') ∨
      (r = .returnFailed ∧ inv.Ended r s'.flash s'.commands))
    (fun _ _ s' hI hc _ hb => (inv.erasePass_spec hI (of_decide_eq_true hc)).1 s' hb)
    (fun _ _ r s' hI hc _ hb => (inv.erasePass_spec hI (of_decide_eq_true hc)).2 r s' hb)
    passes s hloop (along_true passes s)
  unfold eraseLoop at h
  rcases hw : whileLoop (fun s : NorState => decide (s.engine.stepCounter < target.eraseSteps))
    (erasePass hal) passes s with _ | fl
  · rw [hw] at h
    cases h
  · rw [hw] at h
    cases fl with
    | next s₁ =>
        obtain ⟨⟨⟨hcontrol, herasing⟩, _, _⟩, hcond⟩ := hrule.1 s₁ hw
        have hsteps : s₁.engine.stepCounter = target.eraseSteps :=
          le_antisymm hcontrol.le (Nat.le_of_not_lt (of_decide_eq_false hcond))
        obtain ⟨rfl, rfl⟩ := Prod.mk.inj (Option.some.inj h)
        obtain ⟨hsource, hhamming, hidx, hstep, hflag⟩ := hfinish s₁.engine
        rw [if_pos hsteps]
        refine .inl ⟨rfl, hsource.trans hcontrol.source, hhamming.trans hcontrol.hamming,
          hidx.trans hcontrol.idx, hstep, hflag, ?_⟩
        rw [← hsteps]
        exact herasing
    | ret r₁ s₁ =>
        obtain ⟨rfl, rfl⟩ := Prod.mk.inj (Option.some.inj h)
        exact .inr (hrule.2 r₁ s₁ hw)

theorem handleObswErasure_spec {call : NorCall} {s s' : NorState} {r : ReturnValue}
    (htarget : target ≠ .bootloader) (herase : inv.InErase s)
    (hinternal : s.engine.internalState = .step1)
    (h : handleObswErasure hal card call s = some (r, s')) : inv.Outcome inv.EraseDone r s' := by
  obtain ⟨hcontrol, herasing⟩ := herase
  unfold handleObswErasure at h
  dsimp only at h
  by_cases hflag : s.engine.helperFlag1 = true
  · rw [if_pos hflag, hcontrol.counter hflag htarget] at h
    exact inv.eraseLoop_spec resetsErasure_obsw
      ⟨⟨hcontrol, herasing⟩, hinternal, hflag⟩ h
  · rw [if_neg hflag] at h
    by_cases hrepo : call.repository ≠ 0
    · rw [if_pos hrepo] at h
      obtain ⟨rfl, rfl⟩ := Prod.mk.inj (Option.some.inj h)
      exact .inr (.inr ⟨rfl, inv.erasingEnds herasing⟩)
    · rw [if_neg hrepo] at h
      have hsteps : reservedObswSectors = target.eraseSteps :=
        (NorTarget.obsw_spec htarget).2.2.2.symm
      rw [hsteps] at h
      refine inv.eraseLoop_spec resetsErasure_obsw ?_ h
      exact ⟨⟨⟨hcontrol.source, hcontrol.hamming, hcontrol.internal, hcontrol.idx,
        fun hno => (by cases hno), fun _ _ => rfl, hcontrol.le⟩, herasing⟩, hinternal, rfl⟩

theorem handleNorflashErasure_spec {call : NorCall} {s s' : NorState} {r : ReturnValue}
    (herase : inv.InErase s) (hinternal : s.engine.internalState = .step1)
    (h : handleNorflashErasure hal card call s = some (r, s')) :
    inv.Outcome inv.EraseDone r s' := by
  obtain ⟨hcontrol, herasing⟩ := herase
  have hsource := hcontrol.source
  unfold handleNorflashErasure at h
  by_cases htarget : target = .bootloader
  · subst htarget
    rw [if_pos (by exact hsource)] at h
    refine inv.eraseLoop_spec resetsErasure_bootloader ?_ h
    exact ⟨⟨⟨hcontrol.source, hcontrol.hamming, hcontrol.internal, hcontrol.idx,
      fun hno => (by cases hno), fun _ hne => absurd rfl hne, hcontrol.le⟩, herasing⟩, hinternal, rfl⟩
  · rw [if_neg (hsource ▸ (NorTarget.obsw_spec htarget).1)] at h
    exact inv.handleObswErasure_spec htarget ⟨hcontrol, herasing⟩ hinternal h

/-- **The erase step.** It is completed, to be continued, or fails. -/
theorem eraseStep_spec {call : NorCall} {s s' : NorState} {r : ReturnValue} (herase : inv.InErase s)
    (h : eraseStep hal card call s = some (r, s')) : inv.Outcome inv.EraseDone r s' := by
  obtain ⟨hcontrol, herasing⟩ := herase
  unfold eraseStep at h
  dsimp only at h
  rcases hcontrol.internal with hidle | hstep1
  · rw [if_pos hidle, if_pos rfl] at h
    refine inv.handleNorflashErasure_spec ?_ rfl h
    exact ⟨⟨hcontrol.source, hcontrol.hamming, .inr rfl, hcontrol.idx, hcontrol.first,
      hcontrol.counter, hcontrol.le⟩, herasing⟩
  · have hne : s.engine.internalState ≠ .idle := by
      rw [hstep1]
      decide
    rw [if_neg hne, if_pos hstep1] at h
    exact inv.handleNorflashErasure_spec ⟨hcontrol, herasing⟩ hstep1 h

/-- In the copy step there is nothing to erase. -/
theorem eraseStep_of_step2 (hal : NorHal) (card : Card) (call : NorCall) {s : NorState}
    (h : s.engine.internalState = .step2) :
    eraseStep hal card call s = some (.returnOk, s) := by
  have hidle : s.engine.internalState ≠ .idle := by
    rw [h]
    decide
  have hstep1 : s.engine.internalState ≠ .step1 := by
    rw [h]
    decide
  unfold eraseStep
  dsimp only
  rw [if_neg hidle, if_neg hstep1]

/-! ### The copy step -/

/-- Behind the erase step the copy step starts at byte 0. -/
theorem inCopy_of_eraseDone {s : NorState} (h : inv.EraseDone s) : inv.InCopy (enterStep2 s) := by
  obtain ⟨hsource, hhamming, hidx, hstep, hflag, herasing⟩ := h
  refine ⟨⟨hsource, hhamming, rfl, ?_, ?_⟩, ?_⟩
  · show s.engine.currentByteIdx = norflashSmallSectorSize * s.engine.stepCounter
    rw [hidx, hstep, Nat.mul_zero]
  · rintro (hne | hyes)
    · exact absurd hstep hne
    · exact absurd hflag (by rw [show s.engine.helperFlag1 = true from hyes]; decide)
  · show inv.Copying s.engine.currentByteIdx s.engine.helperFlag1 _ _ _
    rw [hidx, hflag]
    exact inv.switch herasing

theorem enterStep2_of_inCopy {s : NorState} (h : inv.InCopy s) : enterStep2 s = s := by
  unfold enterStep2
  rw [← h.1.internal]

/-- The state of the copy loop: the file is the target's and its size is cached. -/
def InCopyLoop (s : NorLoop) : Prop :=
  inv.InCopy s.2 ∧ s.2.engine.currentFileSize = (fileBytes card target.path).length ∧
    s.1.bytes = fileBytes card target.path

/-- One pass of the copy loop. -/
theorem copyPass_spec {pass : NorPass} {s : NorLoop} (hgood : good pass s) (h : inv.InCopyLoop s) :
    (∀ s', copyPass hal pass s = some (.next s') → inv.InCopyLoop s') ∧
    (∀ r s', copyPass hal pass s = some (.ret r s') →
      (r = .taskPeriodOverSoon ∧ inv.InCopy s'.2) ∨
        (r ≠ .taskPeriodOverSoon ∧ inv.Ended r s'.2.flash s'.2.commands)) := by
  obtain ⟨file, s⟩ := s
  obtain ⟨⟨hcontrol, hcopying⟩, hsize, hbytes⟩ := h
  dsimp only at hcontrol hcopying hsize hbytes
  by_cases hempty : s.engine.currentFileSize = 0
  · -- an empty file is refused
    have hperform : copyPass hal pass (file, s) = some (.ret .returnFailed (file, s)) := by
      simp only [copyPass, performNorCopyOperation, hempty, if_true]
    rw [hperform]
    refine ⟨fun s' heq => (by cases heq), fun r s' heq => ?_⟩
    obtain ⟨rfl, rfl⟩ := Flow.ret.inj (Option.some.inj heq)
    exact .inr ⟨by decide, inv.copyingEnds (.inl rfl) hcopying⟩
  · have hlt : s.engine.currentByteIdx < (fileBytes card target.path).length := by
      by_cases hstep : s.engine.stepCounter = 0
      · rw [hcontrol.idx, hstep, Nat.mul_zero]
        omega
      · exact (hcontrol.size (.inl hstep)).2
    have hpos : 0 < bucketSize s.engine := bucketSize_pos (by omega)
    rcases hperform : performNorCopyOperation hal pass file s with ⟨r, file', s'⟩
    have hstep := performNorCopyOperation_step hempty hpos hperform
    have hpass := inv.pass hgood hcontrol hsize hlt hbytes hcopying hstep
    have hcontrol' := hstep.control hcontrol hsize hlt (inv.bound hcopying)
    unfold copyPass
    rw [hperform]
    constructor
    · intro t heq
      cases r <;> cases heq
      obtain ⟨hctl, hsz, hfile⟩ := hcontrol' (.inl rfl)
      exact ⟨⟨hctl, hpass.1 (.inl rfl)⟩, hsz, (hfile rfl).trans hbytes⟩
    · intro r' t heq
      have hret : r ≠ .returnOk ∧ r' = r ∧ t = (file', s') := by
        cases r <;> cases heq <;> exact ⟨by decide, rfl, rfl⟩
      obtain ⟨hne, rfl, rfl⟩ := hret
      rcases hstep.result with (hok | hsoon) | hend
      · exact absurd hok hne
      · exact .inl ⟨hsoon, (hcontrol' (.inr hsoon)).1, hpass.1 (.inr hsoon)⟩
      · refine .inr ⟨?_, hpass.2 hend⟩
        rintro rfl
        rcases hend with h | h <;> cases h

end NorInvariant

/-! ## Calls and runs -/

/-- `good` holds of the passes of the copy loop in a call, from the state in which it is entered. -/
def CallGood (good : NorPass → NorLoop → Prop) (hal : NorHal) (card : Card) (call : NorCall)
    (s : NorState) : Prop :=
  ∀ s₁ file e, eraseStep hal card call s = some (.returnOk, s₁) →
    prepareGenericFileInformation .iobc card call.fs (enterStep2 s₁).engine = (.ok file, e) →
    Along good (fun _ => true) (copyPass hal) call.passes (file, { enterStep2 s₁ with engine := e })

/-- `good` holds of the passes of the copy loop over a whole run. -/
def RunGood (good : NorPass → NorLoop → Prop) (hal : NorHal) (card : Card) :
    List NorCall → NorState → Prop :=
  Along (CallGood good hal card) (fun _ => true) (norCall hal card)

/-- A condition on the passes alone is one on their schedules. -/
theorem runGood_of_mem {good : NorPass → NorLoop → Prop} {hal : NorHal} {card : Card}
    {calls : List NorCall} (h : ∀ call ∈ calls, ∀ pass ∈ call.passes, ∀ s, good pass s)
    (s : NorState) : RunGood good hal card calls s :=
  along_of_mem (fun call hcall _ _ _ _ _ _ => along_of_mem (h call hcall) _) s

namespace NorInvariant

variable {hal : NorHal} {target : NorTarget} {card : Card} {good : NorPass → NorLoop → Prop}
  (inv : NorInvariant hal target (fileBytes card target.path) good)

/-- Between two calls the operation is in the erase step or in the copy step. -/
def InProgress (s : NorState) : Prop := inv.InErase s ∨ inv.InCopy s

/-- The file the target's source slot stands for. -/
theorem genericFile_target {e : ImageCopyingEngine} (hsource : e.sourceSlot = target.slot)
    (hhamming : e.hammingCode = false) : genericFile .iobc e = some target.path := by
  unfold genericFile
  rw [hsource, hhamming]
  cases target <;> rfl

/-- Preparing the file leaves the engine with the size of the target's file. -/
theorem cacheFileSize_of_control {e : ImageCopyingEngine}
    (h : CopyControl target (fileBytes card target.path).length e) :
    cacheFileSize card target.path e =
      { e with currentFileSize := (fileBytes card target.path).length } := by
  unfold cacheFileSize
  split_ifs with hstep
  · rfl
  · rw [← (h.size (.inl hstep)).1]

/-- The copy step of a call. -/
theorem handleSdToNorCopyOperation_spec {call : NorCall} {s s' : NorState} {r : ReturnValue}
    (hcopy : inv.InCopy s)
    (hgood : ∀ file e, prepareGenericFileInformation .iobc card call.fs s.engine = (.ok file, e) →
      Along good (fun _ => true) (copyPass hal) call.passes (file, { s with engine := e }))
    (h : handleSdToNorCopyOperation hal card call s = some (r, s')) :
    (r = .taskPeriodOverSoon ∧ inv.InCopy s') ∨
      (r ≠ .taskPeriodOverSoon ∧ inv.Ended r s'.flash s'.commands) := by
  obtain ⟨hcontrol, hcopying⟩ := hcopy
  unfold handleSdToNorCopyOperation at h
  by_cases hchange : call.sdCardChangeOngoing = true
  · rw [if_pos hchange] at h
    obtain ⟨rfl, rfl⟩ := Prod.mk.inj (Option.some.inj h)
    exact .inr ⟨by decide, inv.copyingEnds (.inl rfl) hcopying⟩
  · rw [if_neg hchange] at h
    rcases hprep : prepareGenericFileInformation .iobc card call.fs s.engine with ⟨res, e⟩
    rw [hprep] at h
    cases res with
    | error r₁ =>
        obtain ⟨rfl, rfl⟩ := Prod.mk.inj (Option.some.inj h)
        have hr₁ := prepareGenericFileInformation_error hprep
        refine .inr ⟨?_, inv.copyingEnds hr₁ hcopying⟩
        rintro rfl
        rcases hr₁ with h | h <;> cases h
    | ok file =>
        obtain ⟨path, hpath, he, hfile⟩ := prepareGenericFileInformation_ok hprep
        rw [genericFile_target hcontrol.source hcontrol.hamming] at hpath
        obtain rfl := Option.some.inj hpath
        rw [cacheFileSize_of_control hcontrol] at he
        have hloop : inv.InCopyLoop (file, { s with engine := e }) := by
          subst he hfile
          exact ⟨⟨⟨hcontrol.source, hcontrol.hamming, hcontrol.internal, hcontrol.idx,
            fun hne => ⟨rfl, (hcontrol.size hne).2⟩⟩, hcopying⟩, rfl, rfl⟩
        have hrule := (whileLoop_induct (fun _ => true) (copyPass hal) (I := inv.InCopyLoop)
          (Q := fun r s' => (r = .taskPeriodOverSoon ∧ inv.InCopy s'.2) ∨
            (r ≠ .taskPeriodOverSoon ∧ inv.Ended r s'.2.flash s'.2.commands))
          (fun _ _ s' hI _ hg hb => (inv.copyPass_spec hg hI).1 s' hb)
          (fun _ _ r s' hI _ hg hb => (inv.copyPass_spec hg hI).2 r s' hb)
          call.passes _ hloop (hgood file e hprep)).2
        dsimp only at h
        rcases hw : whileLoop (fun _ => true) (copyPass hal) call.passes
          (file, { s with engine := e }) with _ | fl
        · rw [hw] at h
          cases h
        · rw [hw] at h
          cases fl with
          | next s₁ => cases h
          | ret r₁ s₁ =>
              obtain ⟨rfl, rfl⟩ := Prod.mk.inj (Option.some.inj h)
              exact hrule r₁ s₁ hw

/-- **One call.** It is to be continued with the operation in progress, or it has ended. -/
theorem copySdCardImageToNorFlash_spec {call : NorCall} {s s' : NorState} {r : ReturnValue}
    (hprogress : inv.InProgress s) (hgood : CallGood good hal card call s)
    (h : copySdCardImageToNorFlash hal card call s = some (r, s')) :
    (r = .taskPeriodOverSoon ∧ inv.InProgress s') ∨
      (r ≠ .taskPeriodOverSoon ∧ inv.Ended r s'.flash s'.commands) := by
  -- behind the erase step, the rest of the call is the copy step
  have hrest : ∀ s₁, inv.InCopy (enterStep2 s₁) →
      eraseStep hal card call s = some (.returnOk, s₁) →
      (if call.timedOut then some (.taskPeriodOverSoon, enterStep2 s₁)
        else handleSdToNorCopyOperation hal card call (enterStep2 s₁)) = some (r, s') →
      (r = .taskPeriodOverSoon ∧ inv.InProgress s') ∨
        (r ≠ .taskPeriodOverSoon ∧ inv.Ended r s'.flash s'.commands) := by
    intro s₁ hcopy herase heq
    split_ifs at heq
    · obtain ⟨rfl, rfl⟩ := Prod.mk.inj (Option.some.inj heq)
      exact .inl ⟨rfl, .inr hcopy⟩
    · have hspec := inv.handleSdToNorCopyOperation_spec hcopy
        (fun file e hprep => hgood s₁ file e herase hprep) heq
      exact hspec.imp (fun hsoon => ⟨hsoon.1, .inr hsoon.2⟩) id
  unfold copySdCardImageToNorFlash at h
  rcases hprogress with herase | hcopy
  · rcases hstep : eraseStep hal card call s with _ | ⟨r₁, s₁⟩
    · rw [hstep] at h
      cases h
    · rw [hstep] at h
      rcases inv.eraseStep_spec herase hstep with ⟨rfl, hdone⟩ | ⟨rfl, hcont⟩ | ⟨rfl, hended⟩
      · exact hrest s₁ (inv.inCopy_of_eraseDone hdone) hstep h
      · obtain ⟨rfl, rfl⟩ := Prod.mk.inj (Option.some.inj h)
        exact .inl ⟨rfl, .inl hcont⟩
      · obtain ⟨rfl, rfl⟩ := Prod.mk.inj (Option.some.inj h)
        exact .inr ⟨by decide, hended⟩
  · have hstep := eraseStep_of_step2 hal card call hcopy.1.internal
    rw [hstep] at h
    exact hrest s (by rw [inv.enterStep2_of_inCopy hcopy]; exact hcopy) hstep h

/-- A call that is to be continued leaves the operation in progress. -/
theorem norCall_next {call : NorCall} {s s' : NorState} (hprogress : inv.InProgress s)
    (hgood : CallGood good hal card call s) (h : norCall hal card call s = some (.next s')) :
    inv.InProgress s' := by
  unfold norCall at h
  rcases hcall : copySdCardImageToNorFlash hal card call s with _ | ⟨r₁, s₁⟩
  · rw [hcall] at h
    cases h
  · rw [hcall] at h
    have hspec := inv.copySdCardImageToNorFlash_spec hprogress hgood hcall
    cases r₁ <;> cases h
    exact (hspec.resolve_right fun h => h.1 rfl).2

/-- A call that ends the operation ends it as the property says. -/
theorem norCall_ret {call : NorCall} {s s' : NorState} {r : ReturnValue}
    (hprogress : inv.InProgress s) (hgood : CallGood good hal card call s)
    (h : norCall hal card call s = some (.ret r s')) : inv.Ended r s'.flash s'.commands := by
  unfold norCall at h
  rcases hcall : copySdCardImageToNorFlash hal card call s with _ | ⟨r₁, s₁⟩
  · rw [hcall] at h
    cases h
  · rw [hcall] at h
    have hspec := inv.copySdCardImageToNorFlash_spec hprogress hgood hcall
    cases r₁ <;> cases h <;> exact (hspec.resolve_left fun h => by cases h.1).2

/-- The result of a run is the result of its last call. -/
theorem norRun_ret {calls : List NorCall} {s s' : NorState} {r : ReturnValue}
    (h : norRun hal card calls s = some (r, s')) :
    whileLoop (fun _ => true) (norCall hal card) calls s = some (.ret r s') := by
  unfold norRun at h
  split at h
  · rename_i hw
    obtain ⟨rfl, rfl⟩ := Prod.mk.inj (Option.some.inj h)
    exact hw
  · cases h

/-- **Run rule.** A run from a state in progress ends as the property says. -/
theorem norRun_ended {calls : List NorCall} {s s' : NorState} {r : ReturnValue}
    (hprogress : inv.InProgress s) (hgood : RunGood good hal card calls s)
    (h : norRun hal card calls s = some (r, s')) : inv.Ended r s'.flash s'.commands := by
  have hrule := whileLoop_induct (fun _ => true) (norCall hal card) (I := inv.InProgress)
    (Q := fun r s' => inv.Ended r s'.flash s'.commands)
    (fun _ _ _ hI _ hg hb => inv.norCall_next hI hg hb)
    (fun _ _ _ _ hI _ hg hb => inv.norCall_ret hI hg hb) calls s hprogress hgood
  exact hrule.2 _ _ (norRun_ret h)

/-- **Run rule, between two calls.** The operation stays in progress. -/
theorem norRun_inProgress {calls : List NorCall} {s s' : NorState} (hprogress : inv.InProgress s)
    (hgood : RunGood good hal card calls s)
    (h : passes (fun _ => true) (norCall hal card) calls s = some s') : inv.InProgress s' :=
  passes_induct (fun _ _ _ hI hg hb => inv.norCall_next hI hg hb) calls s s' hprogress hgood h

/-- A started operation is in the erase step. -/
theorem startNorCopy_inProgress {s : NorState} (e : ImageCopyingEngine)
    (hengine : s.engine = startNorCopy target e) (h : inv.Erasing 0 s.flash s.commands) :
    inv.InProgress s := by
  refine .inl ⟨?_, ?_⟩
  · rw [hengine]
    cases target <;>
      exact ⟨rfl, rfl, .inl rfl, rfl, fun _ => rfl, fun hno => (by cases hno), Nat.zero_le _⟩
  · have hstep : s.engine.stepCounter = 0 := by
      rw [hengine]
      cases target <;> rfl
    rw [hstep]
    exact h

end NorInvariant

end Engine
end Obsw
