import Obsw.Engine.NorRun

/-!
# `Engine.NorQuiet` — runs of the NOR flash copy that nothing disturbs

The run rule says what a run that ends has done; this module says which runs there are. A pass that is
not disturbed makes progress, so an undisturbed erase step is completed (`eraseStep_quiet`), the copy
step gets to every bucket below the reserved size (`passes_quiet`), and the copy of a file that fits
ends with `OPERATION_FINISHED` (`norRun_quiet`).
-/

namespace Obsw
namespace Engine

open Memory LittleEndian Device Fram Loop ImageCopyingEngine

variable {hal : NorHal} {target : NorTarget} {card : Card}

/-! ## Undisturbed schedules -/

def quietErase : ErasePass := ⟨.done, false⟩

def quietPass : NorPass where
  sizeToFram := .done
  readGot := norflashSmallSectorSize
  write := .done
  writeSize := .done
  writeCrc := .done
  timedOut := false

/-- A call that completes the erase step and goes on to the given passes. -/
def quietCall (target : NorTarget) (passes : List NorPass) : NorCall where
  repository := 0
  erases := List.replicate target.eraseSteps quietErase
  timedOut := false
  sdCardChangeOngoing := false
  fs := quietFs
  passes := passes

/-! ## The erase step -/

/-- The engine when the copy step is entered for the first time. -/
structure CopyStart (target : NorTarget) (e : ImageCopyingEngine) : Prop where
  source : e.sourceSlot = target.slot
  hamming : e.hammingCode = false
  step : e.stepCounter = 0
  idx : e.currentByteIdx = 0
  flag : e.helperFlag1 = false
  errors : e.errorCount = 0

/-- The engine in an undisturbed erase loop. -/
structure QuietErasing (target : NorTarget) (e : ImageCopyingEngine) : Prop where
  source : e.sourceSlot = target.slot
  hamming : e.hammingCode = false
  idx : e.currentByteIdx = 0
  errors : e.errorCount = 0
  le : e.stepCounter ≤ target.eraseSteps

theorem erasePass_quiet (hal : NorHal) (s : NorState) :
    ∃ s', erasePass hal quietErase s = some (.next s') ∧ s'.engine = s.engine.countStep := by
  unfold erasePass
  dsimp only
  rw [if_neg (by simp [quietErase]), if_neg (by simp [quietErase])]
  exact ⟨_, rfl, rfl⟩

/-- An undisturbed erase loop is completed. -/
theorem eraseLoop_quiet (target : NorTarget) (s : NorState)
    (finish : ImageCopyingEngine → ImageCopyingEngine)
    (hfinish : ∀ e, QuietErasing target e → CopyStart target (finish e))
    (h : QuietErasing target s.engine) :
    ∃ s', eraseLoop hal target.eraseSteps (List.replicate target.eraseSteps quietErase) s finish =
      some (.returnOk, s') ∧ CopyStart target s'.engine := by
  -- so the step counter of 16 bits does not wrap
  have hsteps : target.eraseSteps ≤ 14 := by cases target <;> decide
  obtain ⟨s₁, hw, hI, hcond⟩ := whileLoop_terminates
    (fun s : NorState => decide (s.engine.stepCounter < target.eraseSteps)) (erasePass hal)
    (List.replicate target.eraseSteps quietErase)
    (fun s => target.eraseSteps - s.engine.stepCounter)
    (I := fun s : NorState => QuietErasing target s.engine)
    (fun s _ hc => by have := of_decide_eq_true hc; omega)
    (fun e he s hI hc => by
      obtain rfl := List.eq_of_mem_replicate he
      have hlt := of_decide_eq_true hc
      obtain ⟨s', hb, hengine⟩ := erasePass_quiet hal s
      refine ⟨s', hb, ?_, ?_⟩
      · rw [hengine]
        refine ⟨hI.source, hI.hamming, hI.idx, hI.errors, ?_⟩
        show (s.engine.stepCounter + 1) % 2 ^ 16 ≤ _
        omega
      · rw [hengine]
        show target.eraseSteps - (s.engine.stepCounter + 1) % 2 ^ 16 < _
        omega)
    s h (by rw [List.length_replicate]; omega)
  have hend : s₁.engine.stepCounter = target.eraseSteps :=
    le_antisymm hI.le (Nat.le_of_not_lt (of_decide_eq_false hcond))
  unfold eraseLoop
  rw [hw]
  exact ⟨_, rfl, by rw [if_pos hend]; exact hfinish _ hI⟩

/-- **An undisturbed erase step is completed in one call.** -/
theorem eraseStep_quiet (hal : NorHal) (card : Card) {s : NorState} {e : ImageCopyingEngine}
    (passes : List NorPass)
    (hstart : s.engine = startNorCopy target e) :
    ∃ s', eraseStep hal card (quietCall target passes) s = some (.returnOk, s') ∧
      CopyStart target s'.engine := by
  have hidle : s.engine.internalState = .idle := by
    rw [hstart]
    cases target <;> rfl
  have hquiet : QuietErasing target s.engine := by
    rw [hstart]
    cases target <;> exact ⟨rfl, rfl, rfl, rfl, Nat.zero_le _⟩
  unfold eraseStep
  dsimp only
  rw [if_pos hidle, if_pos rfl]
  unfold handleNorflashErasure
  by_cases htarget : target = .bootloader
  · subst htarget
    rw [if_pos (by exact hquiet.source)]
    exact eraseLoop_quiet .bootloader _ finishBootloaderErasure
      (fun e h => ⟨h.source, h.hamming, rfl, h.idx, rfl, h.errors⟩)
      ⟨hquiet.source, hquiet.hamming, hquiet.idx, hquiet.errors, hquiet.le⟩
  · obtain ⟨hslot, _, _, hsteps⟩ := NorTarget.obsw_spec htarget
    have hflag : s.engine.helperFlag1 = false := by
      rw [hstart]
      cases target <;> rfl
    rw [if_neg (by rw [show s.engine.sourceSlot = target.slot from hquiet.source]; exact hslot)]
    unfold handleObswErasure
    have hrepo : ¬ (quietCall target passes).repository ≠ 0 := not_not.mpr rfl
    rw [if_neg (by rw [show s.engine.helperFlag1 = false from hflag]; decide), if_neg hrepo]
    have hreserved : reservedObswSectors = target.eraseSteps := hsteps.symm
    rw [hreserved]
    exact eraseLoop_quiet target _ finishObswErasure
      (fun e h => ⟨h.source, h.hamming, rfl, h.idx, rfl, h.errors⟩)
      ⟨hquiet.source, hquiet.hamming, hquiet.idx, hquiet.errors, hquiet.le⟩

/-! ## The copy step -/

/-- The copy loop is about to read the next bucket of the file `xs`. -/
structure AtBucket (target : NorTarget) (xs : List UInt8) (s : NorLoop) : Prop where
  control : CopyControl target xs.length s.2.engine
  size : s.2.engine.currentFileSize = xs.length
  lt : s.2.engine.currentByteIdx < xs.length
  flag : s.2.engine.helperFlag1 = false
  bytes : s.1.bytes = xs
  pos : s.1.pos = s.2.engine.currentByteIdx

/-- The state behind a bucket written by a pass that goes on. -/
structure NextBucket (hal : NorHal) (target : NorTarget) (xs : List UInt8) (s s' : NorLoop) :
    Prop where
  atBucket : AtBucket target xs s'
  idx : s'.2.engine.currentByteIdx = s.2.engine.currentByteIdx + norflashSmallSectorSize
  flash : s'.2.flash = program hal.program s.2.flash (writeAddress hal s.2.engine)
    ((xs.drop s.2.engine.currentByteIdx).take norflashSmallSectorSize)
  commands : s'.2.commands =
    s.2.commands ++ [.write (writeAddress hal s.2.engine) norflashSmallSectorSize]

variable {xs : List UInt8}

theorem AtBucket.step {pass : NorPass} {s : NorLoop} {r : ReturnValue} {file' : FFile}
    {s' : NorState} (h : AtBucket target xs s)
    (hperform : performNorCopyOperation hal pass s.1 s.2 = (r, file', s')) :
    NorStep hal pass s.1 s.2 r file' s' := by
  have hlt := h.lt
  have hsize := h.size
  exact performNorCopyOperation_step (by omega) (bucketSize_pos (by omega)) hperform

/-- Neither the medium nor the flash disturbs the pass. -/
structure Quiet (pass : NorPass) : Prop where
  read : norflashSmallSectorSize ≤ pass.readGot
  write : pass.write = .done

theorem quietPass_quiet : Quiet quietPass := ⟨le_rfl, rfl⟩

/-- A bucket the medium does not cut short is read completely. -/
theorem AtBucket.read {pass : NorPass} {s : NorLoop} (h : AtBucket target xs s)
    (hread : norflashSmallSectorSize ≤ pass.readGot) :
    (fRead s.1 (bucketSize s.2.engine) pass.readGot).1.length = bucketSize s.2.engine := by
  have hlt := h.lt
  have hle := bucketSize_le s.2.engine
  apply fRead_length (hle.trans hread)
  rw [h.pos, h.bytes]
  exact idx_add_bucketSize_le h.size hlt

/-- A pass that goes on has written its bucket and is at the next one; so is a quiet pass that is
    interrupted. -/
theorem AtBucket.next {pass : NorPass} {s : NorLoop} {file' : FFile} {s' : NorState}
    {r : ReturnValue} (h : AtBucket target xs s)
    (hbound : s.2.engine.currentByteIdx ≤ target.reserved)
    (hr : r = .returnOk ∨ r = .taskPeriodOverSoon ∧ Quiet pass)
    (hperform : performNorCopyOperation hal pass s.1 s.2 = (r, file', s')) :
    NextBucket hal target xs s (file', s') := by
  have hstep := h.step hperform
  obtain ⟨hcontrol', hsize', hfile'⟩ := hstep.control h.control h.size h.lt hbound
    (hr.imp id And.left)
  cases hstep with
  | notRead hfailed _ hshort =>
      rcases hr with rfl | ⟨_, hq⟩
      · rcases hfailed with h | h <;> cases h
      · exact absurd hshort (by rw [h.read hq.read]; exact lt_irrefl _)
  | notWritten hfailed _ hwrite =>
      rcases hr with rfl | ⟨_, hq⟩
      · rcases hfailed with h | h <;> cases h
      · exact absurd hq.write hwrite
  | written hfilled _ hmore _ _ _ _ hidx _ hflag' hflash hcommands =>
      have hbucket := bucketSize_of_more hmore
      have hfile : fileAfter s.1 s.2.engine =
          { s.1 with pos := s.1.pos + norflashSmallSectorSize } := by
        unfold fileAfter
        rw [if_neg (by rw [h.flag]; decide), hbucket]
      rw [hbucket] at hidx hcommands
      refine ⟨⟨hcontrol', hsize', ?_, hflag', ?_, ?_⟩, hidx, ?_, hcommands⟩
      · show s'.engine.currentByteIdx < _
        rw [hidx, ← hbucket, ← h.size]
        exact hmore
      · rw [hfile]
        exact h.bytes
      · show (fileAfter s.1 s.2.engine).pos = s'.engine.currentByteIdx
        rw [hfile, hidx, ← h.pos]
      · show s'.flash = _
        rw [hflash, hfilled.bytes h.flag, hbucket, h.bytes, h.pos]
  | finished =>
      rcases hr with h | ⟨h, _⟩
      · cases h
      · cases h

/-- What a quiet pass returns. -/
theorem AtBucket.result {pass : NorPass} {s : NorLoop} {file' : FFile} {s' : NorState}
    {r : ReturnValue} (h : AtBucket target xs s) (hq : Quiet pass)
    (hperform : performNorCopyOperation hal pass s.1 s.2 = (r, file', s')) :
    r = if xs.length ≤ s.2.engine.currentByteIdx + norflashSmallSectorSize then .operationFinished
      else if pass.timedOut then .taskPeriodOverSoon else .returnOk := by
  have hsize := h.size
  cases h.step hperform with
  | notRead _ _ hshort => exact absurd hshort (by rw [h.read hq.read]; exact lt_irrefl _)
  | notWritten _ _ hwrite => exact absurd hq.write hwrite
  | written _ _ hmore =>
      rw [bucketSize_of_more hmore, hsize] at hmore
      exact (if_neg (Nat.not_le.mpr hmore)).symm
  | finished _ _ hlast =>
      have hle := bucketSize_le s.2.engine
      exact (if_pos (by omega)).symm

/-- A quiet pass goes on to the next bucket, or is interrupted behind its own. -/
theorem copyPass_quiet (hal : NorHal) {pass : NorPass} {s : NorLoop} (h : AtBucket target xs s)
    (hq : Quiet pass) (hbound : s.2.engine.currentByteIdx ≤ target.reserved)
    (hmore : s.2.engine.currentByteIdx + norflashSmallSectorSize < xs.length) :
    ∃ s', NextBucket hal target xs s s' ∧ copyPass hal pass s =
      some (if pass.timedOut then .ret .taskPeriodOverSoon s' else .next s') := by
  rcases hperform : performNorCopyOperation hal pass s.1 s.2 with ⟨r, file', s'⟩
  have hr := h.result hq hperform
  rw [if_neg (Nat.not_le.mpr hmore)] at hr
  refine ⟨(file', s'), h.next hbound ?_ hperform, ?_⟩
  · rw [hr]
    split_ifs
    · exact .inr ⟨rfl, hq⟩
    · exact .inl rfl
  · unfold copyPass
    rw [hperform, hr]
    cases pass.timedOut <;> rfl

/-- The last pass ends the operation. -/
theorem copyPass_last (hal : NorHal) {pass : NorPass} {s : NorLoop} (h : AtBucket target xs s)
    (hq : Quiet pass) (hlast : xs.length ≤ s.2.engine.currentByteIdx + norflashSmallSectorSize) :
    ∃ s', NorStep hal pass s.1 s.2 .operationFinished s'.1 s'.2 ∧
      copyPass hal pass s = some (.ret .operationFinished s') := by
  rcases hperform : performNorCopyOperation hal pass s.1 s.2 with ⟨r, file', s'⟩
  have hr := h.result hq hperform
  rw [if_pos hlast] at hr
  subst hr
  refine ⟨(file', s'), h.step hperform, ?_⟩
  unfold copyPass
  rw [hperform]

/-- The first failed write of an operation is counted and to be retried in the next call. -/
theorem performNorCopyOperation_retry (hal : NorHal) (pass : NorPass) {s : NorLoop}
    (h : AtBucket target xs s) (hread : norflashSmallSectorSize ≤ pass.readGot) (hwrite : pass.write ≠ .done)
    (herrors : s.2.engine.errorCount = 0) :
    (performNorCopyOperation hal pass s.1 s.2).1 = .taskPeriodOverSoon ∧
      (performNorCopyOperation hal pass s.1 s.2).2.2.engine.errorCount = 1 := by
  have hlt := h.lt
  have hsize := h.size
  have hlen := h.read hread
  have hpos : bucketSize s.2.engine ≠ 0 := (bucketSize_pos (by omega)).ne'
  have hbucket : readBucket pass s.1 s.2.engine =
      (.returnOk, (fRead s.1 (bucketSize s.2.engine) pass.readGot).2, { s.2.engine with
        imgBuffer := store s.2.engine.imgBuffer 0
          (fRead s.1 (bucketSize s.2.engine) pass.readGot).1 }) := by
    unfold readBucket
    rw [if_neg (by rw [h.flag]; decide), readFile_eq _ (by rw [hlen]; exact hpos)]
    dsimp only
    rw [if_neg (not_not.mpr rfl), if_neg (by rw [hlen]; exact lt_irrefl _)]
  have hretval : pass.write.retval ≠ 0 := fun h => hwrite (WriteOutcome.retval_eq_zero.mp h)
  unfold performNorCopyOperation
  rw [if_neg (by omega)]
  dsimp only
  rw [storeBinarySize_engine, hbucket]
  unfold writeBucket
  dsimp only
  rw [if_pos hretval]
  have hcount : (s.2.engine.errorCount + 1) % 2 ^ 8 = 1 := by
    rw [herrors]
    rfl
  refine ⟨if_neg ?_, hcount⟩
  show ¬ 3 ≤ (s.2.engine.errorCount + 1) % 2 ^ 8
  rw [hcount]
  decide

/-- **Undisturbed passes get to every bucket within the reserved size.** -/
theorem passes_quiet (hal : NorHal) (k : Nat) {s : NorLoop} (h : AtBucket target xs s)
    (hbound : s.2.engine.currentByteIdx + norflashSmallSectorSize * k ≤ target.reserved)
    (hmore : s.2.engine.currentByteIdx + norflashSmallSectorSize * k < xs.length) :
    ∃ s', passes (fun _ => true) (copyPass hal) (List.replicate k quietPass) s = some s' ∧
      AtBucket target xs s' ∧
      s'.2.engine.currentByteIdx = s.2.engine.currentByteIdx + norflashSmallSectorSize * k ∧
      ∀ a, FlashCommand.erase a ∈ s'.2.commands → FlashCommand.erase a ∈ s.2.commands := by
  induction k generalizing s with
  | zero => exact ⟨s, rfl, h, rfl, fun _ ha => ha⟩
  | succ k ih =>
      obtain ⟨s₁, hnext, hpass⟩ := copyPass_quiet hal h quietPass_quiet (by omega)
        (by rw [Nat.mul_succ] at hmore; omega)
      rw [Nat.mul_succ] at hbound hmore
      have hidx := hnext.idx
      obtain ⟨s', hpasses, hat, hidx', herase⟩ := ih hnext.atBucket (by omega) (by omega)
      refine ⟨s', ?_, hat, ?_, fun a ha => ?_⟩
      · rw [List.replicate_succ, passes_cons rfl hpass, hpasses]
      · rw [hidx', hidx, Nat.mul_succ]
        omega
      · -- a pass adds a write command and no erase command
        have hmem := herase a ha
        rw [hnext.commands] at hmem
        rcases List.mem_append.mp hmem with h | h
        · exact h
        · cases List.mem_singleton.mp h

/-! ## Calls -/

/-- An undisturbed file system opens the target's file at the current byte index. -/
theorem prepare_quiet {n : Nat} {e : ImageCopyingEngine}
    (h : CopyControl target n e) (hn : n = (fileBytes card target.path).length) (hpos : 0 < n) :
    prepareGenericFileInformation .iobc card quietFs e =
      (.ok ⟨fileBytes card target.path, e.currentByteIdx⟩, { e with currentFileSize := n }) := by
  subst hn
  rw [prepareGenericFileInformation_quiet card (NorInvariant.genericFile_target h.source h.hamming) hpos,
    NorInvariant.cacheFileSize_of_control h]

theorem CopyStart.control {s₁ : NorState} (h : CopyStart target s₁.engine) (n : Nat) :
    CopyControl target n (enterStep2 s₁).engine := by
  refine ⟨h.source, h.hamming, rfl, ?_, ?_⟩
  · show s₁.engine.currentByteIdx = norflashSmallSectorSize * s₁.engine.stepCounter
    rw [h.idx, h.step, Nat.mul_zero]
  · rintro (hne | hyes)
    · exact absurd h.step hne
    · exact absurd h.flag (by rw [show s₁.engine.helperFlag1 = true from hyes]; decide)

/-- Whatever opens the file, the copy loop starts at its first bucket. -/
theorem CopyStart.atBucket {fs : FsEnv} {s₁ : NorState} {file : FFile} {e : ImageCopyingEngine}
    (h : CopyStart target s₁.engine) (hpos : 0 < (fileBytes card target.path).length)
    (hprep : prepareGenericFileInformation .iobc card fs (enterStep2 s₁).engine = (.ok file, e)) :
    AtBucket target (fileBytes card target.path) (file, { enterStep2 s₁ with engine := e }) ∧
      e = { (enterStep2 s₁).engine with currentFileSize := (fileBytes card target.path).length } := by
  have hcontrol := h.control (fileBytes card target.path).length
  obtain ⟨path, hpath, he, hfile⟩ := prepareGenericFileInformation_ok hprep
  rw [NorInvariant.genericFile_target hcontrol.source hcontrol.hamming] at hpath
  obtain rfl := Option.some.inj hpath
  rw [NorInvariant.cacheFileSize_of_control hcontrol] at he
  subst he hfile
  have hlt : s₁.engine.currentByteIdx < (fileBytes card target.path).length := by
    rw [h.idx]
    exact hpos
  exact ⟨⟨⟨h.source, h.hamming, rfl, hcontrol.idx, fun _ => ⟨rfl, hlt⟩⟩, rfl, hlt, h.flag, rfl, rfl⟩,
    rfl⟩

/-- The copy loop of a call, as far as its schedule says. -/
def copyLoop (hal : NorHal) (passes : List NorPass) (s : NorLoop) :
    Option (ReturnValue × NorState) :=
  match whileLoop (fun _ => true) (copyPass hal) passes s with
  | some (.ret r s) => some (r, s.2)
  | _ => none

/-- **An undisturbed first call** gets to the copy loop at byte 0. -/
theorem copySdCardImageToNorFlash_quiet (hal : NorHal) {s : NorState} {e : ImageCopyingEngine}
    (ps : List NorPass) (hstart : s.engine = startNorCopy target e)
    (hpos : 0 < (fileBytes card target.path).length) :
    ∃ s₁ t, eraseStep hal card (quietCall target ps) s = some (.returnOk, s₁) ∧
      AtBucket target (fileBytes card target.path) t ∧ t.2.engine.currentByteIdx = 0 ∧
      t.2.engine.errorCount = 0 ∧ t.2.flash = s₁.flash ∧ t.2.commands = s₁.commands ∧
      copySdCardImageToNorFlash hal card (quietCall target ps) s = copyLoop hal ps t := by
  obtain ⟨s₁, herase, hcopy⟩ := eraseStep_quiet hal card ps hstart
  have hprep := prepare_quiet (hcopy.control _) rfl hpos
  refine ⟨s₁, _, herase, (hcopy.atBucket hpos hprep).1, hcopy.idx, hcopy.errors, rfl, rfl, ?_⟩
  unfold copySdCardImageToNorFlash
  rw [herase]
  dsimp only
  rw [if_neg (show ¬ (quietCall target ps).timedOut = true from Bool.false_ne_true)]
  unfold handleSdToNorCopyOperation
  rw [if_neg (show ¬ (quietCall target ps).sdCardChangeOngoing = true from Bool.false_ne_true),
    show (quietCall target ps).fs = quietFs from rfl, hprep]
  rfl

/-- A later call resumes the copy loop at the current byte index. -/
theorem copySdCardImageToNorFlash_resumed (hal : NorHal) (ps : List NorPass) {s : NorState}
    (h : CopyControl target (fileBytes card target.path).length s.engine)
    (hpos : 0 < (fileBytes card target.path).length) :
    copySdCardImageToNorFlash hal card (quietCall target ps) s =
      copyLoop hal ps (⟨fileBytes card target.path, s.engine.currentByteIdx⟩, { s with
        engine := { s.engine with currentFileSize := (fileBytes card target.path).length } }) := by
  have henter : enterStep2 s = s := by
    unfold enterStep2
    rw [← h.internal]
  unfold copySdCardImageToNorFlash
  rw [NorInvariant.eraseStep_of_step2 hal card _ h.internal]
  dsimp only
  rw [if_neg (show ¬ (quietCall target ps).timedOut = true from Bool.false_ne_true), henter]
  unfold handleSdToNorCopyOperation
  rw [if_neg (show ¬ (quietCall target ps).sdCardChangeOngoing = true from Bool.false_ne_true),
    show (quietCall target ps).fs = quietFs from rfl, prepare_quiet h rfl hpos]
  rfl

/-! ## Runs -/

/-- The passes that copy a file of `n` bytes. -/
def quietPasses (n : Nat) : List NorPass :=
  List.replicate ((n - 1) / norflashSmallSectorSize) quietPass ++ [quietPass]

/-- A started operation on an erased flash. -/
def startedState (target : NorTarget) : NorState where
  engine := startNorCopy target initial
  flash := fun _ => 0xff
  fram := fun _ => 0
  commands := []

/-- **An undisturbed copy of a file that fits is finished.** -/
theorem norRun_quiet (hal : NorHal) {s : NorState} {e : ImageCopyingEngine}
    (hstart : s.engine = startNorCopy target e) (hpos : 0 < (fileBytes card target.path).length)
    (hfits : (fileBytes card target.path).length ≤ target.reserved) :
    ∃ (t s' : NorLoop), AtBucket target (fileBytes card target.path) t ∧
      NorStep hal quietPass t.1 t.2 .operationFinished s'.1 s'.2 ∧
      norRun hal card [quietCall target (quietPasses (fileBytes card target.path).length)] s =
        some (.operationFinished, s'.2) := by
  obtain ⟨_, t₀, _, hat₀, hidx₀, _, _, _, hcall⟩ :=
    copySdCardImageToNorFlash_quiet hal (quietPasses (fileBytes card target.path).length) hstart hpos
  generalize hn : (fileBytes card target.path).length = n at *
  have hlast : n - 1 = 8192 * ((n - 1) / 8192) + (n - 1) % 8192 := by omega
  -- all passes but the last one go on
  obtain ⟨t, hpasses, hat, hidx, _⟩ := passes_quiet hal ((n - 1) / norflashSmallSectorSize)
    hat₀ (by rw [hidx₀]; simp only [norflashSmallSectorSize]; omega)
    (by rw [hidx₀, hn]; simp only [norflashSmallSectorSize]; omega)
  obtain ⟨s', hstep, hpass⟩ := copyPass_last hal hat quietPass_quiet
    (by rw [hidx, hidx₀, hn]; simp only [norflashSmallSectorSize]; omega)
  refine ⟨t, s', hat, hstep, ?_⟩
  have hloop : copyLoop hal (quietPasses n) t₀ = some (.operationFinished, s'.2) := by
    unfold copyLoop quietPasses
    rw [whileLoop_append hpasses, whileLoop_ret rfl hpass]
  unfold norRun
  have hend : norCall hal card (quietCall target (quietPasses n)) s =
      some (.ret .operationFinished s'.2) := by
    unfold norCall
    rw [hcall, hloop]
  rw [whileLoop_ret rfl hend]

end Engine
end Obsw
