import Obsw.Engine.NorCopy

/-!
# `Engine.NorControl` — control flow of the NOR flash copy

What one pass of the copy loop can do is said once, by the relation `NorStep`
(`performNorCopyOperation_step`); everything proved about the copy step is proved by cases on it.

## Contents
- **Targets.** Source slot, file, base address and reserved size of the bootloader and of an image.
- **Addresses.** `writeAddress_eq`, `writeAddress_beyond`: buckets are written in a row from the base
  address on, up to the reserved size, and at `0xffffffff` behind it.
- **Step rule.** `performNorCopyOperation_step`.
-/

namespace Obsw
namespace Engine

open Memory LittleEndian Device Fram Loop ImageCopyingEngine

/-! ## Targets -/

namespace NorTarget

def slot : NorTarget → ImageSlot
  | bootloader => .bootloader0
  | obswSlot0 => .sdcSlot0
  | obswSlot1 => .sdcSlot1

/-- The file copied. -/
def path : NorTarget → Path
  | bootloader => (bootloaderRepository, bootloaderName)
  | obswSlot0 => (swRepository, swSlot0Name)
  | obswSlot1 => (swRepository, swSlot1Name)

/-- The first address reserved for the target. -/
def base : NorTarget → Nat
  | bootloader => 0
  | _ => binaryBaseAddress

/-- The number of bytes reserved for the target. -/
def reserved : NorTarget → Nat
  | bootloader => bootloaderReservedSize
  | _ => primaryImageReservedSize

/-- The passes of the erase loop. -/
def eraseSteps : NorTarget → Nat
  | bootloader => reservedBlSectors
  | _ => reservedObswSectors

/-- The sector erased in a pass. -/
def erasedSector : NorTarget → Nat → Nat
  | bootloader, step => step
  | _, step => obswEraseSector step

/-- The numbers of the bootloader. -/
theorem bootloader_spec : bootloader.base = 0 ∧ bootloader.reserved = 0x20000 ∧
    bootloader.eraseSteps = 9 := ⟨rfl, rfl, rfl⟩

/-- The images differ in their file only. -/
theorem obsw_spec {target : NorTarget} (h : target ≠ bootloader) :
    target.slot ≠ .bootloader0 ∧ target.base = 0x20000 ∧ target.reserved = 0xE0000 ∧
      target.eraseSteps = 14 := by
  cases target with
  | bootloader => exact absurd rfl h
  | obswSlot0 => exact ⟨by decide, rfl, rfl, rfl⟩
  | obswSlot1 => exact ⟨by decide, rfl, rfl, rfl⟩

end NorTarget

/-- The control state between two passes of the copy loop. Once a bucket has been read, the size of
    the file is cached and there is something left to copy. -/
structure CopyControl (target : NorTarget) (n : Nat) (e : ImageCopyingEngine) : Prop where
  source : e.sourceSlot = target.slot
  hamming : e.hammingCode = false
  internal : e.internalState = .step2
  idx : e.currentByteIdx = norflashSmallSectorSize * e.stepCounter
  size : e.stepCounter ≠ 0 ∨ e.helperFlag1 = true → e.currentFileSize = n ∧ e.currentByteIdx < n

/-! ## Addresses -/

section Addresses

variable {hal : NorHal} {target : NorTarget} {n : Nat} {e : ImageCopyingEngine}

/-- The bucket of a bootloader in the first sixteen steps. -/
theorem getBaseAddress_bootloader (hsource : e.sourceSlot = .bootloader0)
    (hinternal : e.internalState = .step2) (hidx : e.currentByteIdx = 8192 * e.stepCounter)
    (hstep : e.stepCounter < 16) : writeAddress hal e = 8192 * e.stepCounter := by
  have hdiv : e.currentByteIdx / 8192 % 2 ^ 8 = e.stepCounter := by omega
  have hmod : e.currentByteIdx % 8192 = 0 := by omega
  simp only [writeAddress, getBaseAddress, hsource, hinternal, if_true, norflashSmallSectorSize, hdiv,
    hmod]
  by_cases h8 : e.stepCounter ≤ 8
  · rw [if_pos h8, hal.sectorAddress_eq (by simp only [norflashSectorsNumber]; omega)]
    split_ifs <;> simp <;> omega
  · rw [if_neg h8, if_pos (by omega), hal.sectorAddress_eq (by decide)]
    simp
    omega

/-- The bucket of an image in the first 112 steps. -/
theorem getBaseAddress_obsw (hsource : e.sourceSlot ≠ .bootloader0)
    (hinternal : e.internalState = .step2) (hstep : e.stepCounter < 112) :
    writeAddress hal e = 0x20000 + 8192 * e.stepCounter := by
  have hmod : e.stepCounter % 2 ^ 8 = e.stepCounter := by omega
  simp only [writeAddress, getBaseAddress, hsource, hinternal, if_false, norflashSmallSectorSize, hmod]
  rw [if_pos hstep, hal.sectorAddress_eq (by simp only [norflashSectorsNumber]; omega),
    if_neg (by omega)]
  simp only
  omega

/-- **Buckets lie in a row.** Below the reserved size, a bucket is written at the base address plus
    the current byte index. -/
theorem writeAddress_eq (h : CopyControl target n e) (hlt : e.currentByteIdx < target.reserved) :
    writeAddress hal e = target.base + e.currentByteIdx := by
  have hidx : e.currentByteIdx = 8192 * e.stepCounter := h.idx
  have hsource := h.source
  by_cases htarget : target = .bootloader
  · subst htarget
    obtain ⟨hbase, hreserved, _⟩ := NorTarget.bootloader_spec
    rw [getBaseAddress_bootloader hsource h.internal hidx (by omega)]
    omega
  · obtain ⟨hslot, hbase, hreserved, _⟩ := NorTarget.obsw_spec htarget
    rw [getBaseAddress_obsw (hsource ▸ hslot) h.internal (by omega)]
    omega

/-- Behind the reserved size the address is `0xffffffff`, the next 142 steps at least. -/
theorem writeAddress_beyond (h : CopyControl target n e) (hge : target.reserved ≤ e.currentByteIdx)
    (hstep : e.stepCounter < 256) : writeAddress hal e = 0xffffffff := by
  have hidx : e.currentByteIdx = 8192 * e.stepCounter := h.idx
  have hsource := h.source
  by_cases htarget : target = .bootloader
  · subst htarget
    obtain ⟨hbase, hreserved, _⟩ := NorTarget.bootloader_spec
    have hdiv : e.currentByteIdx / 8192 % 2 ^ 8 = e.stepCounter := by omega
    have hmod : e.currentByteIdx % 8192 = 0 := by omega
    simp only [writeAddress, getBaseAddress, hsource, NorTarget.slot, h.internal, if_true,
      norflashSmallSectorSize, hdiv, hmod]
    rw [if_neg (by omega), if_neg (by omega)]
    exact Nat.add_zero _
  · obtain ⟨hslot, hbase, hreserved, _⟩ := NorTarget.obsw_spec htarget
    have hmod : e.stepCounter % 2 ^ 8 = e.stepCounter := by omega
    simp only [writeAddress, getBaseAddress, hsource, hslot, h.internal, if_false, hmod]
    rw [if_neg (by omega)]
    exact Nat.add_zero _

end Addresses

/-! ## One pass of the copy loop -/

/-- The control state is kept, up to the retry flag and the error count. -/
structure SameControl (e e' : ImageCopyingEngine) : Prop where
  source : e'.sourceSlot = e.sourceSlot
  hamming : e'.hammingCode = e.hammingCode
  internal : e'.internalState = e.internalState
  step : e'.stepCounter = e.stepCounter
  idx : e'.currentByteIdx = e.currentByteIdx
  size : e'.currentFileSize = e.currentFileSize

/-- `bs` is the bucket a pass writes: the one read earlier, or the next one of the file. -/
structure Filled (pass : NorPass) (file : FFile) (e : ImageCopyingEngine) (bs : List UInt8) :
    Prop where
  length : bs.length = bucketSize e
  kept : e.helperFlag1 = true → bs = load e.imgBuffer 0 (bucketSize e)
  read : e.helperFlag1 = false → bs = (fRead file (bucketSize e) pass.readGot).1

theorem Filled.bytes {pass : NorPass} {file : FFile} {e : ImageCopyingEngine} {bs : List UInt8}
    (h : Filled pass file e bs) (hflag : e.helperFlag1 = false) :
    bs = (file.bytes.drop file.pos).take (bucketSize e) := by
  have hlength := h.length
  rw [h.read hflag] at hlength ⊢
  exact fRead_complete hlength.ge

/-- The file behind a pass: read on only if the bucket was not kept. -/
def fileAfter (file : FFile) (e : ImageCopyingEngine) : FFile :=
  if e.helperFlag1 then file else { file with pos := file.pos + bucketSize e }

/-- What one pass of the copy loop can do, for a file that is not empty. -/
inductive NorStep (hal : NorHal) (pass : NorPass) (file : FFile) (s : NorState) :
    ReturnValue → FFile → NorState → Prop where
  /-- the read fails or is short -/
  | notRead {r : ReturnValue} {file' : FFile} {s' : NorState}
      (hr : r = .taskPeriodOverSoon ∨ r = .returnFailed)
      (hflag : s.engine.helperFlag1 = false)
      (hshort : (fRead file (bucketSize s.engine) pass.readGot).1.length < bucketSize s.engine)
      (hcontrol : SameControl s.engine s'.engine) (hflag' : s'.engine.helperFlag1 = false)
      (hflash : s'.flash = s.flash) (hcommands : s'.commands = s.commands) :
      NorStep hal pass file s r file' s'
  /-- the write fails; the bucket is kept for a retry -/
  | notWritten {r : ReturnValue} {s' : NorState} {bs : List UInt8}
      (hr : r = .taskPeriodOverSoon ∨ r = .returnFailed)
      (hfilled : Filled pass file s.engine bs) (hwrite : pass.write ≠ .done)
      (hcontrol : SameControl s.engine s'.engine) (hflag' : s'.engine.helperFlag1 = true)
      (hkept : load s'.engine.imgBuffer 0 (bucketSize s.engine) = bs)
      (hflash : s'.flash = pass.write.apply hal.program s.flash (writeAddress hal s.engine) bs)
      (hcommands : s'.commands =
        s.commands ++ [.write (writeAddress hal s.engine) (bucketSize s.engine)]) :
      NorStep hal pass file s r (fileAfter file s.engine) s'
  /-- the bucket is written and it is not the last one -/
  | written {s' : NorState} {bs : List UInt8}
      (hfilled : Filled pass file s.engine bs) (hwrite : pass.write = .done)
      (hmore : s.engine.currentByteIdx + bucketSize s.engine < s.engine.currentFileSize)
      (hsource : s'.engine.sourceSlot = s.engine.sourceSlot)
      (hhamming : s'.engine.hammingCode = s.engine.hammingCode)
      (hinternal : s'.engine.internalState = s.engine.internalState)
      (hstep : s'.engine.stepCounter = (s.engine.stepCounter + 1) % 2 ^ 16)
      (hidx : s'.engine.currentByteIdx = s.engine.currentByteIdx + bucketSize s.engine)
      (hsize : s'.engine.currentFileSize = s.engine.currentFileSize)
      (hflag' : s'.engine.helperFlag1 = false)
      (hflash : s'.flash = program hal.program s.flash (writeAddress hal s.engine) bs)
      (hcommands : s'.commands =
        s.commands ++ [.write (writeAddress hal s.engine) (bucketSize s.engine)]) :
      NorStep hal pass file s (if pass.timedOut then .taskPeriodOverSoon else .returnOk)
        (fileAfter file s.engine) s'
  /-- the last bucket is written -/
  | finished {t s' : NorState} {bs : List UInt8}
      (hfilled : Filled pass file s.engine bs) (hwrite : pass.write = .done)
      (hlast : s.engine.currentFileSize ≤ s.engine.currentByteIdx + bucketSize s.engine)
      (hsize : t.engine.currentFileSize = s.engine.currentFileSize)
      (hflash₁ : t.flash = program hal.program s.flash (writeAddress hal s.engine) bs)
      (hcommands₁ : t.commands =
        s.commands ++ [.write (writeAddress hal s.engine) (bucketSize s.engine)])
      (hflash : s'.flash = (if s.engine.sourceSlot = .bootloader0
        then writeBootloaderSizeAndCrc hal pass t else t).flash)
      (hcommands : s'.commands = (if s.engine.sourceSlot = .bootloader0
        then writeBootloaderSizeAndCrc hal pass t else t).commands) :
      NorStep hal pass file s .operationFinished (fileAfter file s.engine) s'

theorem storeBinarySize_engine (pass : NorPass) (s : NorState) :
    (storeBinarySize pass s).engine = s.engine := by
  unfold storeBinarySize
  split_ifs <;> rfl

theorem storeBinarySize_flash (pass : NorPass) (s : NorState) :
    (storeBinarySize pass s).flash = s.flash := by
  unfold storeBinarySize
  split_ifs <;> rfl

theorem storeBinarySize_commands (pass : NorPass) (s : NorState) :
    (storeBinarySize pass s).commands = s.commands := by
  unfold storeBinarySize
  split_ifs <;> rfl

/-- What a read can do: keep the bucket of an earlier pass, read one, or fail. -/
theorem readBucket_cases {pass : NorPass} {file file' : FFile} {e e' : ImageCopyingEngine}
    {r : ReturnValue} (h : readBucket pass file e = (r, file', e')) :
    (r = .returnOk ∧ e.helperFlag1 = true ∧ file' = file ∧ e' = e) ∨
    (r = .returnOk ∧ e.helperFlag1 = false ∧
      (fRead file (bucketSize e) pass.readGot).1.length = bucketSize e ∧
      file' = (fRead file (bucketSize e) pass.readGot).2 ∧
      e' = { e with imgBuffer := store e.imgBuffer 0 (fRead file (bucketSize e) pass.readGot).1 }) ∨
    ((r = .taskPeriodOverSoon ∨ r = .returnFailed) ∧ e.helperFlag1 = false ∧
      ((fRead file (bucketSize e) pass.readGot).1.length = 0 ∨
        (fRead file (bucketSize e) pass.readGot).1.length < bucketSize e) ∧
      SameControl e e' ∧ e'.helperFlag1 = false) := by
  unfold readBucket at h
  by_cases hkept : e.helperFlag1 = true
  · rw [if_pos hkept] at h
    obtain ⟨rfl, rfl, rfl⟩ := h
    exact .inl ⟨rfl, hkept, rfl, rfl⟩
  · have hflag : e.helperFlag1 = false := by simpa using hkept
    rw [if_neg hkept] at h
    rcases hread : e.readFile pass.readGot (bucketSize e) file with ⟨r₁, k, file₁, e₁⟩
    rw [hread] at h
    dsimp only at h
    by_cases hr₁ : r₁ = .returnOk
    · subst hr₁
      obtain ⟨rfl, _, rfl, rfl⟩ := readFile_ok hread
      rw [if_neg (not_not.mpr rfl)] at h
      by_cases hshort : (fRead file (bucketSize e) pass.readGot).1.length < bucketSize e
      · rw [if_pos hshort] at h
        obtain ⟨rfl, _, rfl⟩ := h
        exact .inr (.inr ⟨.inr rfl, hflag, .inr hshort, ⟨rfl, rfl, rfl, rfl, rfl, rfl⟩, hflag⟩)
      · rw [if_neg hshort] at h
        obtain ⟨rfl, rfl, rfl⟩ := h
        have hlength := le_antisymm (fRead_length_le _ _ _) (Nat.le_of_not_lt hshort)
        exact .inr (.inl ⟨rfl, hflag, hlength, rfl, rfl⟩)
    · rw [if_pos hr₁] at h
      obtain ⟨rfl, _, rfl⟩ := h
      obtain ⟨hr', hempty, rfl⟩ := readFile_failed hread hr₁
      exact .inr (.inr ⟨hr', hflag, .inl hempty, ⟨rfl, rfl, rfl, rfl, rfl, rfl⟩, hflag⟩)

/-- A bucket in the buffer: kept from an earlier pass, or read completely. -/
theorem readBucket_ok {pass : NorPass} {file file' : FFile} {e e' : ImageCopyingEngine}
    (h : readBucket pass file e = (.returnOk, file', e')) :
    Filled pass file e (load e'.imgBuffer 0 (bucketSize e)) ∧ SameControl e e' ∧
      file' = fileAfter file e := by
  rcases readBucket_cases h with ⟨_, hkept, rfl, rfl⟩ | ⟨_, hflag, hlength, rfl, rfl⟩ | ⟨hr, _⟩
  · exact ⟨⟨load_length _ _ _, fun _ => rfl, fun hno => absurd hkept (by simp [hno])⟩,
      ⟨rfl, rfl, rfl, rfl, rfl, rfl⟩, (if_pos hkept).symm⟩
  · have hnot : ¬ e.helperFlag1 = true := by simp [hflag]
    have hbuf := load_store_same e.imgBuffer 0 (fRead file (bucketSize e) pass.readGot).1
    rw [hlength] at hbuf
    refine ⟨⟨load_length _ _ _, fun hyes => absurd hyes hnot, fun _ => hbuf⟩,
      ⟨rfl, rfl, rfl, rfl, rfl, rfl⟩, ?_⟩
    · rw [fRead_file, hlength, fileAfter, if_neg hnot]
  · rcases hr with hr | hr <;> cases hr

/-- A failed or short read keeps the control state. -/
theorem readBucket_failed {pass : NorPass} {file file' : FFile} {e e' : ImageCopyingEngine}
    {r : ReturnValue} (h : readBucket pass file e = (r, file', e')) (hr : r ≠ .returnOk)
    (hpos : 0 < bucketSize e) :
    (r = .taskPeriodOverSoon ∨ r = .returnFailed) ∧ e.helperFlag1 = false ∧
      (fRead file (bucketSize e) pass.readGot).1.length < bucketSize e ∧
      SameControl e e' ∧ e'.helperFlag1 = false := by
  rcases readBucket_cases h with ⟨hok, _⟩ | ⟨hok, _⟩ | ⟨hr', hflag, hshort, hcontrol, hflag'⟩
  · exact absurd hok hr
  · exact absurd hok hr
  · exact ⟨hr', hflag, by omega, hcontrol, hflag'⟩

/-- The bucket does not depend on the retry flag or the buffer. -/
theorem bucketSize_congr {e e' : ImageCopyingEngine} (h : SameControl e e') :
    bucketSize e' = bucketSize e := by
  unfold bucketSize
  rw [h.size, h.idx]

theorem getBaseAddress_congr {hal : NorHal} {e e' : ImageCopyingEngine} (h : SameControl e e')
    (step : Nat) : getBaseAddress hal e' step = getBaseAddress hal e step := by
  unfold getBaseAddress
  rw [h.source, h.internal, h.idx]

theorem writeAddress_congr {hal : NorHal} {e e' : ImageCopyingEngine} (h : SameControl e e') :
    writeAddress hal e' = writeAddress hal e := by
  unfold writeAddress
  rw [h.step, getBaseAddress_congr h]

/-- The write command works on the control state of the pass. -/
theorem programBucket_spec (hal : NorHal) (pass : NorPass) (s s₁ : NorState)
    (hcontrol : SameControl s.engine s₁.engine) (hflash : s₁.flash = s.flash)
    (hcommands : s₁.commands = s.commands) :
    (programBucket hal pass s₁).engine = s₁.engine ∧
      (programBucket hal pass s₁).flash = pass.write.apply hal.program s.flash
        (writeAddress hal s.engine) (load s₁.engine.imgBuffer 0 (bucketSize s.engine)) ∧
      (programBucket hal pass s₁).commands =
        s.commands ++ [.write (writeAddress hal s.engine) (bucketSize s.engine)] := by
  unfold programBucket
  rw [writeAddress_congr hcontrol, bucketSize_congr hcontrol, hflash, hcommands]
  exact ⟨rfl, rfl, rfl⟩

/-- The write half of a pass, on a buffer that holds the bucket. -/
theorem writeBucket_step {hal : NorHal} {pass : NorPass} {file : FFile} {s s₁ : NorState}
    (hcontrol : SameControl s.engine s₁.engine) (hflash : s₁.flash = s.flash)
    (hcommands : s₁.commands = s.commands)
    (hfilled : Filled pass file s.engine (load s₁.engine.imgBuffer 0 (bucketSize s.engine))) :
    NorStep hal pass file s (writeBucket hal pass s₁).1 (fileAfter file s.engine)
      (writeBucket hal pass s₁).2 := by
  -- the flag set before the write changes neither the bucket nor its address
  have hcontrol₁ : SameControl s.engine (s₁.engine.setHelperFlag1 true) :=
    ⟨hcontrol.source, hcontrol.hamming, hcontrol.internal, hcontrol.step, hcontrol.idx,
      hcontrol.size⟩
  obtain ⟨hengine, hflash', hcommands'⟩ := programBucket_spec hal pass s
    { s₁ with engine := s₁.engine.setHelperFlag1 true } hcontrol₁ hflash hcommands
  unfold writeBucket
  generalize programBucket hal pass { s₁ with engine := s₁.engine.setHelperFlag1 true } = t
    at hengine hflash' hcommands' ⊢
  have hcontrol' : SameControl s.engine t.engine := by
    rw [hengine]
    exact hcontrol₁
  have hbuffer : load t.engine.imgBuffer 0 (bucketSize s.engine) =
      load s₁.engine.imgBuffer 0 (bucketSize s.engine) := by
    rw [hengine]
    rfl
  have hbucket := bucketSize_congr hcontrol'
  dsimp only
  by_cases hw : pass.write.retval ≠ 0
  · rw [if_pos hw]
    refine .notWritten ?_ hfilled (fun hdone => hw (by rw [hdone]; rfl)) ?_ ?_ hbuffer hflash'
      hcommands'
    · split_ifs
      · exact .inr rfl
      · exact .inl rfl
    · exact ⟨hcontrol'.source, hcontrol'.hamming, hcontrol'.internal, hcontrol'.step, hcontrol'.idx,
        hcontrol'.size⟩
    · show t.engine.helperFlag1 = true
      rw [hengine]
      rfl
  · have hdone : pass.write = .done := WriteOutcome.retval_eq_zero.mp (not_not.mp hw)
    rw [hdone, WriteOutcome.apply_done] at hflash'
    have hidx : (countBucket t.engine).currentByteIdx =
        s.engine.currentByteIdx + bucketSize s.engine := by
      show t.engine.currentByteIdx + bucketSize t.engine = _
      rw [hcontrol'.idx, hbucket]
    have hsize : (countBucket t.engine).currentFileSize = s.engine.currentFileSize := hcontrol'.size
    rw [if_neg hw, hidx, hsize]
    by_cases hlast : s.engine.currentFileSize ≤ s.engine.currentByteIdx + bucketSize s.engine
    · rw [if_pos hlast]
      have hbl : (countBucket t.engine).sourceSlot = s.engine.sourceSlot := hcontrol'.source
      refine .finished (s := s) (t := { t with engine := countBucket t.engine }) hfilled hdone
        hlast hsize hflash' hcommands' ?_ ?_
      · rw [← hbl]
        rfl
      · rw [← hbl]
        rfl
    · rw [if_neg hlast]
      refine .written hfilled hdone (Nat.lt_of_not_le hlast) hcontrol'.source hcontrol'.hamming
        hcontrol'.internal ?_ hidx hsize rfl hflash' hcommands'
      show (t.engine.stepCounter + 1) % 2 ^ 16 = _
      rw [hcontrol'.step]

/-- **The cases of a pass.** -/
theorem performNorCopyOperation_step {hal : NorHal} {pass : NorPass} {file file' : FFile}
    {s s' : NorState} {r : ReturnValue} (hsize : s.engine.currentFileSize ≠ 0)
    (hpos : 0 < bucketSize s.engine)
    (h : performNorCopyOperation hal pass file s = (r, file', s')) :
    NorStep hal pass file s r file' s' := by
  unfold performNorCopyOperation at h
  rw [if_neg hsize] at h
  dsimp only at h
  rw [storeBinarySize_engine] at h
  cases hread : readBucket pass file s.engine with
  | mk r₁ rest =>
      obtain ⟨file₁, e₁⟩ := rest
      rw [hread] at h
      by_cases hr₁ : r₁ = .returnOk
      · subst hr₁
        obtain ⟨hfilled, hcontrol, rfl⟩ := readBucket_ok hread
        obtain ⟨rfl, rfl, rfl⟩ := h
        exact writeBucket_step hcontrol (storeBinarySize_flash pass s)
          (storeBinarySize_commands pass s) hfilled
      · obtain ⟨hr, hflag, hshort, hcontrol, hflag'⟩ := readBucket_failed hread hr₁ hpos
        have heq : (r₁, file₁, { storeBinarySize pass s with engine := e₁ }) = (r, file', s') := by
          cases r₁ <;> first | exact h | exact absurd rfl hr₁
        obtain ⟨rfl, rfl, rfl⟩ := heq
        exact .notRead hr hflag hshort hcontrol hflag' (storeBinarySize_flash pass s)
          (storeBinarySize_commands pass s)

/-- A bucket that is not the last one has the full size. -/
theorem bucketSize_of_more {e : ImageCopyingEngine}
    (h : e.currentByteIdx + bucketSize e < e.currentFileSize) :
    bucketSize e = norflashSmallSectorSize := by
  unfold bucketSize at h ⊢
  split_ifs at h ⊢ with hlast
  · omega
  · rfl

/-- The last bucket ends with the file. -/
theorem bucketSize_of_last {e : ImageCopyingEngine} (hlt : e.currentByteIdx < e.currentFileSize)
    (h : e.currentFileSize ≤ e.currentByteIdx + bucketSize e) :
    e.currentByteIdx + bucketSize e = e.currentFileSize := by
  unfold bucketSize at h ⊢
  split_ifs at h ⊢ <;> omega

/-- A bucket ends with the file at the latest. -/
theorem idx_add_bucketSize_le {e : ImageCopyingEngine} {n : Nat} (hsize : e.currentFileSize = n)
    (hlt : e.currentByteIdx < n) : e.currentByteIdx + bucketSize e ≤ n := by
  unfold bucketSize
  rw [hsize]
  split_ifs <;> omega

theorem bucketSize_pos {e : ImageCopyingEngine} (h : e.currentByteIdx < e.currentFileSize) :
    0 < bucketSize e := by
  unfold bucketSize norflashSmallSectorSize
  split_ifs <;> omega

theorem bucketSize_le (e : ImageCopyingEngine) : bucketSize e ≤ norflashSmallSectorSize := by
  unfold bucketSize
  split_ifs <;> omega

theorem NorTarget.reserved_le (target : NorTarget) : target.reserved ≤ 0xE0000 := by
  cases target <;> decide

/-- The step counter does not wrap within the reserved size. -/
theorem CopyControl.step_lt {target : NorTarget} {n : Nat} {e : ImageCopyingEngine}
    (h : CopyControl target n e) (hbound : e.currentByteIdx ≤ target.reserved) :
    e.stepCounter ≤ 112 := by
  have hidx : e.currentByteIdx = 8192 * e.stepCounter := h.idx
  have hle := target.reserved_le
  omega

theorem CopyControl.of_same {target : NorTarget} {n : Nat} {e e' : ImageCopyingEngine}
    (h : CopyControl target n e) (hsame : SameControl e e') (hsize : e.currentFileSize = n)
    (hlt : e.currentByteIdx < n) : CopyControl target n e' where
  source := hsame.source.trans h.source
  hamming := hsame.hamming.trans h.hamming
  internal := hsame.internal.trans h.internal
  idx := by rw [hsame.idx, hsame.step, h.idx]
  size _ := ⟨hsame.size.trans hsize, by rw [hsame.idx]; exact hlt⟩

/-- Caching the size of the file keeps the control state. -/
theorem CopyControl.cacheSize {target : NorTarget} {n : Nat} {e : ImageCopyingEngine}
    (h : CopyControl target n e) : CopyControl target n { e with currentFileSize := n } :=
  ⟨h.source, h.hamming, h.internal, h.idx, fun hne => ⟨rfl, (h.size hne).2⟩⟩

/-- **Control flow of a pass.** Within the reserved size, a pass that goes on or is to be continued
    keeps the control state, the file and its cached size. -/
theorem NorStep.control {hal : NorHal} {pass : NorPass} {file file' : FFile} {s s' : NorState}
    {r : ReturnValue} {target : NorTarget} {n : Nat} (h : NorStep hal pass file s r file' s')
    (hcontrol : CopyControl target n s.engine) (hsize : s.engine.currentFileSize = n)
    (hlt : s.engine.currentByteIdx < n) (hbound : s.engine.currentByteIdx ≤ target.reserved)
    (hr : r = .returnOk ∨ r = .taskPeriodOverSoon) :
    CopyControl target n s'.engine ∧ s'.engine.currentFileSize = n ∧
      (r = .returnOk → file'.bytes = file.bytes) := by
  cases h with
  | notRead hfailed _ _ hsame _ _ _ =>
      refine ⟨hcontrol.of_same hsame hsize hlt, hsame.size.trans hsize, ?_⟩
      rintro rfl
      rcases hfailed with h | h <;> cases h
  | notWritten hfailed _ _ hsame _ _ _ _ =>
      refine ⟨hcontrol.of_same hsame hsize hlt, hsame.size.trans hsize, ?_⟩
      rintro rfl
      rcases hfailed with h | h <;> cases h
  | written _ _ hmore hsource hhamming hinternal hstep hidx hsize' _ _ _ =>
      have hbucket := bucketSize_of_more hmore
      have hle := hcontrol.step_lt hbound
      refine ⟨⟨hsource.trans hcontrol.source, hhamming.trans hcontrol.hamming,
        hinternal.trans hcontrol.internal, ?_, fun _ => ⟨hsize'.trans hsize, ?_⟩⟩,
        hsize'.trans hsize, fun _ => ?_⟩
      · rw [hidx, hstep, hbucket, hcontrol.idx, Nat.mod_eq_of_lt (by omega), Nat.mul_succ]
      · rw [hidx, ← hsize]
        exact hmore
      · unfold fileAfter
        split_ifs <;> rfl
  | finished => rcases hr with h | h <;> cases h

/-- The values a pass can return. -/
theorem NorStep.result {hal : NorHal} {pass : NorPass} {file file' : FFile} {s s' : NorState}
    {r : ReturnValue} (h : NorStep hal pass file s r file' s') :
    (r = .returnOk ∨ r = .taskPeriodOverSoon) ∨ (r = .returnFailed ∨ r = .operationFinished) := by
  cases h with
  | notRead hr => exact hr.elim (fun h => .inl (.inr h)) (fun h => .inr (.inl h))
  | notWritten hr => exact hr.elim (fun h => .inl (.inr h)) (fun h => .inr (.inl h))
  | written => split_ifs <;> simp
  | finished => exact .inr (.inr rfl)

end Engine
end Obsw
