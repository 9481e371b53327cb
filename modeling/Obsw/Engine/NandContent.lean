import Obsw.Engine.NandCopy

/-!
# `Engine.NandContent` — what the NAND flash holds behind a copy

The copy step writes the image page by page: behind `k` pages the flash holds the first `k` of them, in
consecutive pages of consecutive blocks from the target's first block on (`NandContent`, the
invariant), and behind `OPERATION_FINISHED` all of them. This rests on every page that is read being the
file's at the current byte index, which a retried write breaks the same way as in the copy to the NOR flash.
-/

namespace Obsw
namespace Engine

open Memory LittleEndian Loop ImageCopyingEngine

/-! ## The image -/

namespace NandTarget

def slot : NandTarget → ImageSlot
  | bootloader0 => .bootloader0
  | bootloader1 => .bootloader1
  | obswSlot0 => .sdcSlot0
  | obswSlot1 => .sdcSlot1

/-- The source file. -/
def path : NandTarget → Path
  | bootloader0 => (bootloaderRepository, bootloaderName)
  | bootloader1 => (bootloaderRepository, bootloader2Name)
  | obswSlot0 => (swRepository, swSlot0Name)
  | obswSlot1 => (swRepository, swSlot1Name)

/-- The first block. -/
def startBlock : NandTarget → Nat
  | bootloader0 => 0
  | bootloader1 => 1
  | obswSlot0 => 2
  | obswSlot1 => 2

theorem nandStartBlock_slot (target : NandTarget) :
    nandStartBlock target.slot = target.startBlock := by
  cases target <;> rfl

theorem slot_eq_bootloader0 {target : NandTarget} :
    target.slot = .bootloader0 ↔ target = .bootloader0 := by
  cases target <;> decide

end NandTarget

/-- The image of a file: the file, then zeros. The first-stage bootloader has its size in its sixth ARM
    vector. -/
def nandImage (target : NandTarget) (xs : List UInt8) : Mem UInt8 :=
  if target = .bootloader0 then store (store (fun _ => 0) 0 xs) 0x14 (toLE 4 xs.length)
  else store (fun _ => 0) 0 xs

/-- Page `k` of the image. -/
def imagePage (target : NandTarget) (xs : List UInt8) (k : Nat) : Page :=
  load (nandImage target xs) (nandPageSize * k) nandPageSize

/-- The number of pages of a file. -/
def pageCount (n : Nat) : Nat := (n + (nandPageSize - 1)) / nandPageSize

/-- The largest file the step counter can count the pages of. -/
def nandCapacity : Nat := nandPageSize * 2 ^ 16

/-- The bytes that hold the size of the first-stage bootloader. -/
def Patched (target : NandTarget) (i : Nat) : Prop := target = .bootloader0 ∧ 0x14 ≤ i ∧ i < 0x18

variable {target : NandTarget} {xs : List UInt8}

theorem nandImage_unpatched {i : Nat} (h : ¬ Patched target i) :
    nandImage target xs i = store (fun _ => 0) 0 xs i := by
  unfold nandImage
  split_ifs with htarget
  · apply store_frame
    rw [toLE_length]
    by_contra hin
    exact h ⟨htarget, by omega, by omega⟩
  · rfl

theorem nandImage_file {i : Nat} (hi : i < xs.length) (h : ¬ Patched target i) :
    nandImage target xs i = xs[i] := by
  have hat := store_at (m := fun _ => (0 : UInt8)) (a := 0) hi
  rw [nandImage_unpatched h, ← hat, Nat.zero_add]

theorem nandImage_zero {i : Nat} (hi : xs.length ≤ i) (h : ¬ Patched target i) :
    nandImage target xs i = 0 := by
  rw [nandImage_unpatched h, store_frame (.inr (by omega))]

/-! ## The buffer of a page -/

/-- The buffer holds page `k`, up to the size of the first-stage bootloader. -/
def Unpatched (target : NandTarget) (xs : List UInt8) (k : Nat) (buffer : Mem UInt8) : Prop :=
  ∀ i < nandPageSize, ¬ Patched target (nandPageSize * k + i) →
    buffer i = nandImage target xs (nandPageSize * k + i)

/-- Padding leaves what is read alone and sets the rest to 0. -/
theorem padBuffer_spec (e : ImageCopyingEngine) :
    ∃ buffer, padBuffer e = { e with imgBuffer := buffer } ∧
      (∀ i < nandSizeToRead e, buffer i = e.imgBuffer i) ∧
      ∀ i, nandSizeToRead e ≤ i → i < nandPageSize → buffer i = 0 := by
  unfold padBuffer
  split_ifs with hlast
  · refine ⟨_, rfl, fun i hi => store_frame (.inl hi), fun i hle hlt => ?_⟩
    obtain ⟨j, rfl⟩ := Nat.exists_eq_add_of_le hle
    have hj : j < (List.replicate (nandPageSize - nandSizeToRead e) (0 : UInt8)).length := by
      rw [List.length_replicate]
      omega
    rw [fill, store_at hj, List.getElem_replicate]
  · refine ⟨e.imgBuffer, rfl, fun _ _ => rfl, fun i hle hlt => absurd hle ?_⟩
    unfold nandSizeToRead
    rw [if_neg hlast]
    omega

/-- A kept page is still there when it has been padded again. -/
theorem unpatched_of_kept {e : ImageCopyingEngine} {buffer : Mem UInt8} {k : Nat}
    (hsize : e.currentFileSize = xs.length) (hidx : e.currentByteIdx = nandPageSize * k)
    (hkept : load e.imgBuffer 0 nandPageSize = imagePage target xs k)
    (hdata : ∀ i < nandSizeToRead e, buffer i = e.imgBuffer i)
    (hrest : ∀ i, nandSizeToRead e ≤ i → i < nandPageSize → buffer i = 0) :
    Unpatched target xs k buffer := by
  intro i hi hno
  by_cases hread : i < nandSizeToRead e
  · have hcell := List.getElem_of_eq hkept (i := i) (by rwa [load_length])
    unfold imagePage at hcell
    rw [load_getElem, load_getElem, Nat.zero_add] at hcell
    rw [hdata i hread, hcell]
  · rw [hrest i (Nat.le_of_not_lt hread) hi, nandImage_zero _ hno]
    unfold nandSizeToRead at hread
    split_ifs at hread <;> omega

/-- A page that is read at its byte index is the page of the image. -/
theorem unpatched_of_read {e : ImageCopyingEngine} {buffer : Mem UInt8} {k : Nat}
    (hsize : e.currentFileSize = xs.length) (hidx : e.currentByteIdx = nandPageSize * k)
    (hlen : ((xs.drop (nandPageSize * k)).take (nandSizeToRead e)).length = nandSizeToRead e)
    (hrest : ∀ i, nandSizeToRead e ≤ i → i < nandPageSize → buffer i = 0) :
    Unpatched target xs k
      (store buffer 0 ((xs.drop (nandPageSize * k)).take (nandSizeToRead e))) := by
  intro i hi hno
  by_cases hread : i < nandSizeToRead e
  · have hin : i < ((xs.drop (nandPageSize * k)).take (nandSizeToRead e)).length := by omega
    have hfile : nandPageSize * k + i < xs.length := by
      rw [List.length_take, List.length_drop] at hin
      omega
    have hat := store_at (m := buffer) (a := 0) hin
    rw [Nat.zero_add] at hat
    rw [hat, nandImage_file hfile hno, List.getElem_take, List.getElem_drop]
  · rw [store_frame (.inr (by omega)), hrest i (Nat.le_of_not_lt hread) hi, nandImage_zero _ hno]
    unfold nandSizeToRead at hread
    split_ifs at hread <;> omega

/-- What is done in the first step completes the page. -/
theorem beginNandCopy_page {e : ImageCopyingEngine} (hsource : e.sourceSlot = target.slot)
    (hsize : e.currentFileSize = xs.length) (h : Unpatched target xs e.stepCounter e.imgBuffer) :
    load (beginNandCopy e).imgBuffer 0 nandPageSize = imagePage target xs e.stepCounter := by
  refine load_eq_load fun i hi => ?_
  rw [Nat.zero_add]
  by_cases hpatched : Patched target (nandPageSize * e.stepCounter + i)
  · obtain ⟨htarget, hge, hlt⟩ := hpatched
    have hzero : e.stepCounter = 0 := by
      unfold nandPageSize at hlt
      omega
    rw [hzero, Nat.mul_zero, Nat.zero_add] at hge hlt ⊢
    obtain ⟨j, rfl⟩ := Nat.exists_eq_add_of_le hge
    have hj : j < (toLE 4 xs.length).length := by
      rw [toLE_length]
      omega
    unfold beginNandCopy nandImage
    rw [if_pos hzero, if_pos htarget]
    dsimp only
    rw [if_pos (hsource.trans (NandTarget.slot_eq_bootloader0.mpr htarget)), hsize, store_at hj,
      store_at hj]
  · rw [← h i hi hpatched]
    unfold beginNandCopy
    split_ifs with hzero hbootloader
    · apply store_frame
      rw [toLE_length]
      by_contra hin
      rw [hzero, Nat.mul_zero, Nat.zero_add] at hpatched
      exact hpatched ⟨NandTarget.slot_eq_bootloader0.mp (hsource ▸ hbootloader), by omega, by omega⟩
    · rfl
    · rfl

/-! ## Reading a page -/

theorem readPage_ok {pass : NandPass} {file file' : FFile} {e e' : ImageCopyingEngine}
    (h : readPage pass file e = (.returnOk, file', e')) :
    (e.helperFlag1 = true ∧ file' = file ∧ e' = e) ∨
      (e.helperFlag1 = false ∧
        (fRead file (nandSizeToRead e) pass.readGot).1.length = nandSizeToRead e ∧
        file'.bytes = file.bytes ∧
        e' = { e with
          imgBuffer := store e.imgBuffer 0 ((file.bytes.drop file.pos).take (nandSizeToRead e)) }) := by
  unfold readPage at h
  by_cases hflag : e.helperFlag1 = true
  · rw [if_pos hflag] at h
    obtain ⟨_, rfl, rfl⟩ := h
    exact .inl ⟨hflag, rfl, rfl⟩
  · rw [if_neg hflag] at h
    rcases hread : e.readFile pass.readGot (nandSizeToRead e) file with ⟨r, sizeRead, file₁, e₁⟩
    rw [hread] at h
    dsimp only at h
    split_ifs at h with hfailed hshort
    · exact absurd (Prod.mk.inj h).1 hfailed
    · cases h
    · obtain rfl : r = .returnOk := not_not.mp hfailed
      obtain ⟨rfl, _, rfl, rfl⟩ := readFile_ok hread
      obtain ⟨_, rfl, rfl⟩ := h
      have hall := fRead_complete (Nat.le_of_not_lt hshort)
      exact .inr ⟨by simpa using hflag,
        le_antisymm (fRead_length_le _ _ _) (Nat.le_of_not_lt hshort), rfl, by rw [hall]⟩

/-- A page that cannot be read changes the buffer and the error counter only. -/
theorem readPage_failed {pass : NandPass} {file file' : FFile} {e e' : ImageCopyingEngine}
    {r : ReturnValue} (h : readPage pass file e = (r, file', e')) (hr : r ≠ .returnOk) :
    (r = .taskPeriodOverSoon ∨ r = .returnFailed) ∧ e.helperFlag1 = false ∧
      ∃ buffer errors, e' = { e with imgBuffer := buffer, errorCount := errors } := by
  unfold readPage at h
  by_cases hflag : e.helperFlag1 = true
  · rw [if_pos hflag] at h
    exact absurd (Prod.mk.inj h).1.symm hr
  · rw [if_neg hflag] at h
    rcases hread : e.readFile pass.readGot (nandSizeToRead e) file with ⟨r₁, sizeRead, file₁, e₁⟩
    rw [hread] at h
    dsimp only at h
    refine ⟨?_, by simpa using hflag, ?_⟩
    · split_ifs at h with hfailed hshort
      · exact (Prod.mk.inj h).1 ▸ (readFile_failed hread hfailed).1
      · exact .inr (Prod.mk.inj h).1.symm
      · exact absurd (Prod.mk.inj h).1.symm hr
    · split_ifs at h with hfailed hshort
      · obtain ⟨_, _, rfl⟩ := h
        exact ⟨_, _, (readFile_failed hread hfailed).2.2⟩
      · obtain rfl : r₁ = .returnOk := not_not.mp hfailed
        obtain ⟨_, _, rfl⟩ := h
        exact ⟨_, e.errorCount, (readFile_ok hread).2.2.2⟩
      · exact absurd (Prod.mk.inj h).1.symm hr

/-! ## The invariant of the copy step -/

/-- The control state between two passes. The step counter is the number of pages written, until it
    wraps on a file that is too large for it. -/
structure NandControl (target : NandTarget) (n : Nat) (e : ImageCopyingEngine) : Prop where
  source : e.sourceSlot = target.slot
  hamming : e.hammingCode = false
  internal : e.internalState = .step2
  step_lt : e.stepCounter < 2 ^ 16
  first : e.stepCounter = 0 → e.currentByteIdx = 0 ∨ nandCapacity < n
  idx : e.stepCounter ≠ 0 → e.currentByteIdx = nandPageSize * e.stepCounter
  counters : e.stepCounter ≠ 0 → e.helperCounter2 ≤ pagesPerBlock ∧
    pagesPerBlock * e.helperCounter1 + e.helperCounter2 =
      pagesPerBlock * target.startBlock + e.stepCounter
  size : e.stepCounter ≠ 0 → e.currentFileSize = n

/-- The pages written lie in the flash; a kept page is the next one. -/
structure NandContent (target : NandTarget) (xs : List UInt8) (e : ImageCopyingEngine)
    (flash : NandFlash) : Prop where
  pages : ∀ k < e.stepCounter,
    flash (target.startBlock + k / pagesPerBlock) (k % pagesPerBlock) = imagePage target xs k
  kept : e.helperFlag1 = true →
    load e.imgBuffer 0 nandPageSize = imagePage target xs e.stepCounter

/-- The invariant of the copy step. The content follows it for a file whose pages can be counted. -/
structure NandInCopy (target : NandTarget) (xs : List UInt8) (s : NandState) : Prop where
  control : NandControl target xs.length s.engine
  content : xs.length ≤ nandCapacity → NandContent target xs s.engine s.flash

/-- The engine when a page is about to be written. -/
structure PageReady (target : NandTarget) (xs : List UInt8) (e : ImageCopyingEngine) : Prop where
  source : e.sourceSlot = target.slot
  hamming : e.hammingCode = false
  internal : e.internalState = .step2
  step_lt : e.stepCounter < 2 ^ 16
  idx : e.currentByteIdx = nandPageSize * e.stepCounter
  block : e.helperCounter1 = target.startBlock + e.stepCounter / pagesPerBlock
  page : e.helperCounter2 = e.stepCounter % pagesPerBlock
  size : e.currentFileSize = xs.length
  buffer : xs.length ≤ nandCapacity →
    load e.imgBuffer 0 nandPageSize = imagePage target xs e.stepCounter

theorem startBlock_le (target : NandTarget) : target.startBlock ≤ 2 := by
  cases target <;> decide

/-- The page counters name the next page, whichever block the last one was in. -/
theorem nextBlock_counters {e : ImageCopyingEngine} (hpos : e.stepCounter ≠ 0)
    (h : NandControl target xs.length e) :
    (nextBlock e).helperCounter1 = target.startBlock + e.stepCounter / pagesPerBlock ∧
      (nextBlock e).helperCounter2 = e.stepCounter % pagesPerBlock := by
  obtain ⟨hle, hsum⟩ := h.counters hpos
  have hlt := h.step_lt
  have hstart := startBlock_le target
  unfold nextBlock
  unfold pagesPerBlock at *
  split_ifs with hfull
  · dsimp only
    omega
  · omega

/-- Before a page is written, the engine has it in its buffer and names it. -/
theorem pageRead_ready {e : ImageCopyingEngine} (h : NandControl target xs.length e)
    (hsize : e.currentFileSize = xs.length)
    (hbuffer : xs.length ≤ nandCapacity → Unpatched target xs e.stepCounter e.imgBuffer) :
    PageReady target xs (pageRead e) ∧ (pageRead e).stepCounter = e.stepCounter ∧
      (pageRead e).helperFlag1 = true := by
  by_cases hzero : e.stepCounter = 0
  · have hbegin : pageRead e =
        beginNandCopy { e with errorCount := 0, helperFlag1 := true } := by
      unfold pageRead nextBlock
      refine if_neg fun hno => ?_
      unfold beginNandCopy at hno
      rw [if_pos hzero] at hno
      exact Nat.lt_irrefl 0 (hzero ▸ hno.1)
    have hpage : xs.length ≤ nandCapacity → load (beginNandCopy { e with
        errorCount := 0, helperFlag1 := true }).imgBuffer 0 nandPageSize =
          imagePage target xs e.stepCounter := fun hle =>
      beginNandCopy_page (e := { e with errorCount := 0, helperFlag1 := true }) h.source hsize
        (hbuffer hle)
    rw [hbegin]
    unfold beginNandCopy at hpage ⊢
    rw [if_pos hzero] at hpage ⊢
    refine ⟨⟨h.source, h.hamming, h.internal, h.step_lt, ?_, ?_, ?_, hsize, hpage⟩, rfl, rfl⟩
    · rw [hzero, Nat.mul_zero]
    · rw [hzero, Nat.zero_div, Nat.add_zero, ← target.nandStartBlock_slot, h.source]
    · rw [hzero, Nat.zero_mod]
  · have hbegin : pageRead e = nextBlock { e with errorCount := 0, helperFlag1 := true } := by
      unfold pageRead beginNandCopy
      rw [if_neg hzero]
    have hpage : xs.length ≤ nandCapacity →
        load e.imgBuffer 0 nandPageSize = imagePage target xs e.stepCounter := fun hle => by
      have hpage := beginNandCopy_page h.source hsize (hbuffer hle)
      unfold beginNandCopy at hpage
      rwa [if_neg hzero] at hpage
    have hcounters := nextBlock_counters (e := { e with errorCount := 0, helperFlag1 := true }) hzero
      ⟨h.source, h.hamming, h.internal, h.step_lt, h.first, h.idx, h.counters, h.size⟩
    rw [hbegin]
    have hsame : ∀ c₁ c₂, PageReady target xs { e with
        errorCount := 0, helperFlag1 := true, helperCounter1 := c₁, helperCounter2 := c₂ } ↔
        c₁ = target.startBlock + e.stepCounter / pagesPerBlock ∧ c₂ = e.stepCounter % pagesPerBlock :=
      fun c₁ c₂ => ⟨fun hr => ⟨hr.block, hr.page⟩, fun hc => ⟨h.source, h.hamming, h.internal,
        h.step_lt, h.idx hzero, hc.1, hc.2, hsize, hpage⟩⟩
    unfold nextBlock at hcounters ⊢
    split_ifs at hcounters ⊢
    · exact ⟨(hsame _ _).mpr hcounters, rfl, rfl⟩
    · exact ⟨(hsame _ _).mpr hcounters, rfl, rfl⟩

/-! ## Writing a page -/

/-- The pages of the image lie in the flash, from the target's first block on. -/
def PagesWritten (target : NandTarget) (xs : List UInt8) (count : Nat) (flash : NandFlash) : Prop :=
  ∀ k < count,
    flash (target.startBlock + k / pagesPerBlock) (k % pagesPerBlock) = imagePage target xs k

/-- Different pages have different places. -/
theorem page_ne {start k j : Nat} (h : k < j) :
    ¬ (start + k / pagesPerBlock = start + j / pagesPerBlock ∧
      k % pagesPerBlock = j % pagesPerBlock) := by
  unfold pagesPerBlock
  omega

theorem PagesWritten.other {count : Nat} {flash : NandFlash} {o : NandOutcome Page} {data : Page}
    (h : PagesWritten target xs count flash) :
    PagesWritten target xs count (skipBlockWritePage o flash
      (target.startBlock + count / pagesPerBlock) (count % pagesPerBlock) data) := by
  intro k hk
  rw [skipBlockWritePage_other o data (page_ne hk)]
  exact h k hk

theorem PagesWritten.next {count : Nat} {flash : NandFlash}
    (h : PagesWritten target xs count flash) :
    PagesWritten target xs (count + 1) (skipBlockWritePage .done flash
      (target.startBlock + count / pagesPerBlock) (count % pagesPerBlock)
      (imagePage target xs count)) := by
  intro k hk
  rcases Nat.lt_succ_iff_lt_or_eq.mp hk with hlt | rfl
  · exact h.other k hlt
  · exact setPage_same _ _ _ _

/-- When the byte index has passed the size, all pages are there. -/
theorem PagesWritten.all {count : Nat} {flash : NandFlash} (h : PagesWritten target xs count flash)
    (hend : xs.length ≤ nandPageSize * count) : PagesWritten target xs (pageCount xs.length) flash := by
  intro k hk
  apply h k
  unfold pageCount at hk
  unfold nandPageSize at hk hend
  omega

/-- What the pass has established when it returns `r`. -/
def NandPassEnds (target : NandTarget) (xs : List UInt8) (r : ReturnValue) (s : NandState) : Prop :=
  (r = .operationFinished → PagesWritten target xs (pageCount xs.length) s.flash) ∧
    (r = .returnOk ∨ r = .taskPeriodOverSoon →
      NandInCopy target xs s ∧ s.engine.currentFileSize = xs.length)

/-- A page that could not be written is kept. -/
theorem PageReady.notWritten {pass : NandPass} {s : NandState} {errors : Nat} {flash : NandFlash}
    {commands : List NandCommand} (h : PageReady target xs s.engine)
    (hpages : xs.length ≤ nandCapacity → PagesWritten target xs s.engine.stepCounter s.flash)
    (hflash : flash = skipBlockWritePage pass.write s.flash s.engine.helperCounter1
      s.engine.helperCounter2 (load s.engine.imgBuffer 0 nandPageSize)) :
    NandInCopy target xs ⟨{ s.engine with errorCount := errors }, flash, commands⟩ := by
  refine ⟨⟨h.source, h.hamming, h.internal, h.step_lt, fun hzero => .inl ?_, fun _ => h.idx,
    fun _ => ?_, fun _ => h.size⟩, fun hle => ⟨?_, fun _ => h.buffer hle⟩⟩
  · have hstep : s.engine.stepCounter = 0 := hzero
    show s.engine.currentByteIdx = 0
    rw [h.idx, hstep, Nat.mul_zero]
  · show s.engine.helperCounter2 ≤ pagesPerBlock ∧
      pagesPerBlock * s.engine.helperCounter1 + s.engine.helperCounter2 =
        pagesPerBlock * target.startBlock + s.engine.stepCounter
    rw [h.block, h.page]
    unfold pagesPerBlock
    omega
  · rw [hflash, h.block, h.page]
    exact (hpages hle).other

/-- A page that has been written is counted. -/
theorem PageReady.written {s : NandState} {flash : NandFlash} {commands : List NandCommand}
    (h : PageReady target xs s.engine)
    (hpages : xs.length ≤ nandCapacity → PagesWritten target xs s.engine.stepCounter s.flash)
    (hflash : flash = skipBlockWritePage .done s.flash s.engine.helperCounter1
      s.engine.helperCounter2 (load s.engine.imgBuffer 0 nandPageSize))
    (hmore : s.engine.currentByteIdx + nandPageSize < xs.length) :
    NandInCopy target xs ⟨countPage s.engine, flash, commands⟩ := by
  have hidx : s.engine.currentByteIdx = 2048 * s.engine.stepCounter := h.idx
  have hlt := h.step_lt
  have hcap : nandCapacity = 2048 * 65536 := rfl
  have hpage : nandPageSize = 2048 := rfl
  -- on a file whose pages can be counted, the counter does not wrap
  have hwrap : (s.engine.stepCounter + 1) % 2 ^ 16 = s.engine.stepCounter + 1 ∨
      ((s.engine.stepCounter + 1) % 2 ^ 16 = 0 ∧ nandCapacity < xs.length) := by
    omega
  refine ⟨⟨h.source, h.hamming, h.internal, ?_, fun hzero => .inr ?_, fun hpos => ?_, fun hpos => ?_,
    fun _ => h.size⟩, fun hle => ⟨?_, fun hno => (by cases hno)⟩⟩
  · exact Nat.mod_lt _ (by decide)
  · exact (hwrap.resolve_left fun hno => by
      rw [show (s.engine.stepCounter + 1) % 2 ^ 16 = 0 from hzero] at hno
      omega).2
  · obtain hstep := hwrap.resolve_right fun hno => hpos hno.1
    show s.engine.currentByteIdx + nandPageSize = nandPageSize * ((s.engine.stepCounter + 1) % 2 ^ 16)
    rw [hstep, hidx, hpage]
    omega
  · obtain hstep := hwrap.resolve_right fun hno => hpos hno.1
    show (s.engine.helperCounter2 + 1) % 2 ^ 16 ≤ pagesPerBlock ∧
      pagesPerBlock * s.engine.helperCounter1 + (s.engine.helperCounter2 + 1) % 2 ^ 16 =
        pagesPerBlock * target.startBlock + (s.engine.stepCounter + 1) % 2 ^ 16
    rw [hstep, h.block, h.page]
    unfold pagesPerBlock
    omega
  · obtain hstep := hwrap.resolve_right fun hno => Nat.not_lt.mpr hle hno.2
    show PagesWritten target xs ((s.engine.stepCounter + 1) % 2 ^ 16) flash
    rw [hstep, hflash, h.block, h.page, h.buffer hle]
    exact (hpages hle).next

/-- **Page write.** It keeps the page, counts it, or finishes the operation with the whole image. -/
theorem writePage_spec {pass : NandPass} {s s' : NandState} {r : ReturnValue}
    (h : PageReady target xs s.engine)
    (hpages : xs.length ≤ nandCapacity → PagesWritten target xs s.engine.stepCounter s.flash)
    (hwrite : writePage pass s = (r, s')) : NandPassEnds target xs r s' := by
  unfold writePage at hwrite
  dsimp only at hwrite
  by_cases hfailed : pass.write.retval ≠ 0
  · rw [if_pos hfailed] at hwrite
    obtain ⟨rfl, rfl⟩ := Prod.mk.inj hwrite
    refine ⟨fun hno => ?_, fun _ => ⟨h.notWritten hpages rfl, h.size⟩⟩
    split_ifs at hno
  · rw [if_neg hfailed] at hwrite
    obtain hdone := NandOutcome.retval_eq_zero.mp (not_not.mp hfailed)
    rw [hdone] at hwrite
    by_cases hend : (countPage s.engine).currentFileSize ≤ (countPage s.engine).currentByteIdx
    · rw [if_pos hend] at hwrite
      obtain ⟨rfl, rfl⟩ := Prod.mk.inj hwrite
      refine ⟨fun _ => ?_, fun hno => by rcases hno with hno | hno <;> cases hno⟩
      have hlast : xs.length ≤ nandPageSize * (s.engine.stepCounter + 1) := by
        rw [Nat.mul_add, Nat.mul_one, ← h.idx]
        exact h.size ▸ hend
      -- the step counter has counted all pages of a file that is finished
      have hle : xs.length ≤ nandCapacity :=
        hlast.trans (Nat.mul_le_mul_left _ (Nat.succ_le_of_lt h.step_lt))
      refine PagesWritten.all ?_ hlast
      have hnext := (hpages hle).next
      rw [← h.block, ← h.page, ← h.buffer hle] at hnext
      exact hnext
    · rw [if_neg hend] at hwrite
      obtain ⟨rfl, rfl⟩ := Prod.mk.inj hwrite
      refine ⟨fun hno => ?_, fun _ => ⟨h.written hpages rfl ?_, h.size⟩⟩
      · split_ifs at hno
      · exact h.size ▸ Nat.lt_of_not_le hend

/-! ## A pass, a call and a run -/

/-- The pass reads its page: its time is not over, no page is kept, and `f_read` delivers all of it. -/
def ReadsPage (pass : NandPass) (s : NandLoop) : Prop :=
  pass.timedOutBefore = false ∧ s.2.engine.helperFlag1 = false ∧
    (fRead s.1 (nandSizeToRead s.2.engine) pass.readGot).1.length = nandSizeToRead s.2.engine

/-- A page that is read is the file's at the current byte index. -/
def PageInPlace (pass : NandPass) (s : NandLoop) : Prop :=
  ReadsPage pass s → (s.1.bytes.drop s.1.pos).take (nandSizeToRead s.2.engine) =
    (s.1.bytes.drop s.2.engine.currentByteIdx).take (nandSizeToRead s.2.engine)

/-- The invariant of the copy loop: the file is the target's and its size is cached. -/
structure NandCopyLoop (target : NandTarget) (xs : List UInt8) (s : NandLoop) : Prop where
  copy : NandInCopy target xs s.2
  size : s.2.engine.currentFileSize = xs.length
  bytes : s.1.bytes = xs

/-- A page that has been read in place is the next page of the image. -/
theorem NandCopyLoop.unpatched {pass : NandPass} {s : NandLoop} {file : FFile}
    {e : ImageCopyingEngine} (h : NandCopyLoop target xs s) (hgood : PageInPlace pass s)
    (htime : pass.timedOutBefore = false) (hle : xs.length ≤ nandCapacity)
    (hread : readPage pass s.1 (padBuffer s.2.engine) = (.returnOk, file, e)) :
    Unpatched target xs s.2.engine.stepCounter e.imgBuffer := by
  obtain ⟨buffer, hpad, hdata, hrest⟩ := padBuffer_spec s.2.engine
  have hidx : s.2.engine.currentByteIdx = nandPageSize * s.2.engine.stepCounter := by
    by_cases hzero : s.2.engine.stepCounter = 0
    · rw [hzero, Nat.mul_zero]
      exact (h.copy.control.first hzero).resolve_right (Nat.not_lt.mpr hle)
    · exact h.copy.control.idx hzero
  rw [hpad] at hread
  rcases readPage_ok hread with ⟨hflag, _, rfl⟩ | ⟨hflag, hlen, _, rfl⟩
  · exact unpatched_of_kept h.size hidx ((h.copy.content hle).kept hflag) hdata hrest
  · have hplace := hgood ⟨htime, hflag, hlen⟩
    have hcomplete := fRead_complete hlen.ge
    rw [h.bytes, hidx] at hplace
    rw [h.bytes] at hcomplete ⊢
    refine hplace ▸ unpatched_of_read h.size hidx ?_ hrest
    rw [← hplace]
    exact hcomplete ▸ hlen

/-- Reading a page changes the buffer, and the error counter if it fails. -/
theorem NandInCopy.notRead {s : NandState} {buffer : Mem UInt8} {errors : Nat}
    (h : NandInCopy target xs s) (hflag : s.engine.helperFlag1 = false) :
    NandInCopy target xs
      { s with engine := { s.engine with imgBuffer := buffer, errorCount := errors } } := by
  obtain ⟨hcontrol, hcontent⟩ := h
  refine ⟨⟨hcontrol.source, hcontrol.hamming, hcontrol.internal, hcontrol.step_lt, hcontrol.first,
    hcontrol.idx, hcontrol.counters, hcontrol.size⟩, fun hle => ⟨(hcontent hle).pages, ?_⟩⟩
  intro hno
  exact absurd hno (by rw [show s.engine.helperFlag1 = false from hflag]; exact Bool.false_ne_true)

/-- **Pass.** A pass that reads in place keeps the invariant, and it finishes the operation with the
    whole image. -/
theorem performNandCopyAlgorithm_spec {pass : NandPass} {file file' : FFile} {s s' : NandState}
    {r : ReturnValue} (h : NandCopyLoop target xs (file, s)) (hgood : PageInPlace pass (file, s))
    (hpass : performNandCopyAlgorithm pass file s = (r, file', s')) :
    NandPassEnds target xs r s' ∧ (r = .returnOk → file'.bytes = xs) := by
  unfold performNandCopyAlgorithm at hpass
  by_cases htimeout : pass.timedOutBefore = true
  · rw [if_pos htimeout] at hpass
    obtain ⟨rfl, rfl, rfl⟩ := hpass
    exact ⟨⟨fun hno => (by cases hno), fun _ => ⟨h.copy, h.size⟩⟩, fun hno => by cases hno⟩
  · rw [if_neg htimeout] at hpass
    rcases hread : readPage pass file (padBuffer s.engine) with ⟨r₁, file₁, e₁⟩
    obtain ⟨buffer, hpad, _⟩ := padBuffer_spec s.engine
    by_cases hok : r₁ = .returnOk
    · subst hok
      rw [hread] at hpass
      obtain ⟨rfl, rfl, rfl⟩ := hpass
      have hbuffer := fun hle => h.unpatched hgood (by simpa using htimeout) hle hread
      rw [hpad] at hread
      have hcontrol := h.copy.control
      have hsame : ∃ buffer', e₁ = { s.engine with imgBuffer := buffer' } ∧ file'.bytes = xs := by
        rcases readPage_ok hread with ⟨_, rfl, rfl⟩ | ⟨_, _, hbytes, rfl⟩
        · exact ⟨buffer, rfl, h.bytes⟩
        · exact ⟨_, rfl, hbytes.trans h.bytes⟩
      obtain ⟨buffer', rfl, hbytes⟩ := hsame
      obtain ⟨hready, hstep, hflag⟩ := pageRead_ready (e := { s.engine with imgBuffer := buffer' })
        ⟨hcontrol.source, hcontrol.hamming, hcontrol.internal, hcontrol.step_lt, hcontrol.first,
          hcontrol.idx, hcontrol.counters, hcontrol.size⟩ h.size hbuffer
      refine ⟨writePage_spec (s := { s with engine := pageRead _ }) hready (fun hle => ?_) rfl,
        fun _ => hbytes⟩
      show PagesWritten target xs (pageRead _).stepCounter s.flash
      rw [hstep]
      exact (h.copy.content hle).pages
    · obtain ⟨hr, hflag, buffer', errors, he⟩ := readPage_failed hread hok
      have hres : r = r₁ ∧ s' = { s with engine := e₁ } := by
        rw [hread] at hpass
        rcases hr with rfl | rfl <;> obtain ⟨rfl, _, rfl⟩ := hpass <;> exact ⟨rfl, rfl⟩
      obtain ⟨rfl, rfl⟩ := hres
      rw [hpad] at hflag he
      rw [he]
      refine ⟨⟨fun hno => ?_, fun _ => ⟨h.copy.notRead hflag, h.size⟩⟩, fun hno => absurd hno hok⟩
      rcases hr with rfl | rfl <;> cases hno

/-- The copy loop ends as its passes do. -/
theorem nandCopyLoop_ends {passes : List NandPass} {s s' : NandLoop} {r : ReturnValue}
    (h : NandCopyLoop target xs s)
    (hgood : Along PageInPlace (fun _ => true) nandCopyPass passes s)
    (hloop : whileLoop (fun _ => true) nandCopyPass passes s = some (.ret r s')) :
    NandPassEnds target xs r s'.2 := by
  refine (whileLoop_induct (fun _ => true) nandCopyPass (I := NandCopyLoop target xs)
    (Q := fun r t => NandPassEnds target xs r t.2) (fun pass t t' hI _ hg hb => ?_)
    (fun pass t r t' hI _ hg hb => ?_) passes s h hgood).2 r s' hloop
  · rcases hperform : performNandCopyAlgorithm pass t.1 t.2 with ⟨r₁, file₁, s₁⟩
    obtain ⟨⟨_, hnext⟩, hbytes⟩ := performNandCopyAlgorithm_spec hI hg hperform
    unfold nandCopyPass at hb
    rw [hperform] at hb
    cases r₁ <;> cases hb
    obtain ⟨hcopy, hsize⟩ := hnext (.inl rfl)
    exact ⟨hcopy, hsize, hbytes rfl⟩
  · rcases hperform : performNandCopyAlgorithm pass t.1 t.2 with ⟨r₁, file₁, s₁⟩
    have hends := (performNandCopyAlgorithm_spec hI hg hperform).1
    unfold nandCopyPass at hb
    rw [hperform] at hb
    cases r₁ <;> cases hb <;> exact hends

/-- The file the target's source slot stands for. -/
theorem genericFile_nandTarget {e : ImageCopyingEngine} (hsource : e.sourceSlot = target.slot)
    (hhamming : e.hammingCode = false) : genericFile .at91sam9g20Ek e = some target.path := by
  unfold genericFile
  rw [hsource, hhamming]
  cases target <;> rfl

/-- The control state during the erase step. -/
structure NandErasing (target : NandTarget) (e : ImageCopyingEngine) : Prop where
  source : e.sourceSlot = target.slot
  hamming : e.hammingCode = false
  internal : e.internalState = .idle ∨ e.internalState = .step1
  step : e.stepCounter = 0
  idx : e.currentByteIdx = 0
  flag : target = .bootloader0 ∨ target = .bootloader1 → e.helperFlag1 = false

/-- Between two calls the operation is in the erase step or in the copy step. -/
def NandInProgress (target : NandTarget) (xs : List UInt8) (s : NandState) : Prop :=
  NandErasing target s.engine ∨ NandInCopy target xs s

/-- The control state behind the erasure. -/
structure NandErased (target : NandTarget) (e : ImageCopyingEngine) : Prop where
  source : e.sourceSlot = target.slot
  hamming : e.hammingCode = false
  step : e.stepCounter = 0
  idx : e.currentByteIdx = 0
  flag : e.helperFlag1 = false

/-- The copy step starts with the first page. -/
theorem NandErased.inCopy {s : NandState} (h : NandErased target s.engine)
    (hinternal : s.engine.internalState = .step2) : NandInCopy target xs s := by
  refine ⟨⟨h.source, h.hamming, hinternal, by rw [h.step]; decide, fun _ => .inl h.idx,
    fun hno => absurd h.step hno, fun hno => absurd h.step hno, fun hno => absurd h.step hno⟩,
    fun _ => ⟨fun k hk => absurd hk ?_, fun hno => ?_⟩⟩
  · rw [h.step]
    exact Nat.not_lt_zero k
  · rw [h.flag] at hno
    cases hno

/-- The erasure is complete, to be continued, or has failed. -/
def NandErasureEnds (target : NandTarget) (r : ReturnValue) (s : NandState) : Prop :=
  (r = .returnOk ∧ NandErased target s.engine) ∨
    (r = .taskPeriodOverSoon ∧ NandErasing target s.engine) ∨ r = .returnFailed

/-- A pass of the erase loop changes the block counter only. -/
theorem nandErasePass_erasing {pass : NandErasePass} {s : NandState}
    (h : NandErasing target s.engine) :
    (∀ s', nandErasePass pass s = some (.next s') → NandErasing target s'.engine) ∧
      ∀ r s', nandErasePass pass s = some (.ret r s') → NandErasureEnds target r s' := by
  unfold nandErasePass
  dsimp only
  split_ifs with htimeout
  · refine ⟨fun s' heq => (by cases heq), fun r s' heq => ?_⟩
    obtain ⟨rfl, rfl⟩ := Flow.ret.inj (Option.some.inj heq)
    exact .inr (.inl ⟨rfl, h.source, h.hamming, h.internal, h.step, h.idx, h.flag⟩)
  · refine ⟨fun s' heq => ?_, fun r s' heq => (by cases heq)⟩
    obtain rfl := Flow.next.inj (Option.some.inj heq)
    exact ⟨h.source, h.hamming, h.internal, h.step, h.idx, h.flag⟩

/-- **Erase rule.** What the erase loop keeps holds where it ends with all blocks erased, and what its
    passes give when they return holds then; the blocks are only refused before the loop. -/
theorem handleErasingForObsw_induct {card : Card} {call : NandCall} {s s' : NandState}
    {r : ReturnValue} {I : NandState → Prop} {Q : ReturnValue → NandState → Prop}
    (hcached : I (if s.engine.helperFlag1 = true then s
      else { s with engine := cacheRequiredBlocks card s.engine }))
    (hnext : ∀ pass t t', I t → moreBlocks t = true → nandErasePass pass t = some (.next t') → I t')
    (hret : ∀ pass t r t', I t → moreBlocks t = true → nandErasePass pass t = some (.ret r t') →
      Q r t')
    (hcall : handleErasingForObsw card call s = some (r, s')) :
    r = .returnFailed ∧ s' = s ∨ Q r s' ∨
      ∃ t, I t ∧ moreBlocks t = false ∧ r = .returnOk ∧
        s' = { t with engine := { t.engine with stepCounter := 0, helperFlag1 := false } } := by
  unfold handleErasingForObsw at hcall
  by_cases hrepo : s.engine.helperFlag1 = false ∧ call.repository ≠ 0
  · rw [if_pos hrepo] at hcall
    obtain ⟨rfl, rfl⟩ := Prod.mk.inj (Option.some.inj hcall)
    exact .inl ⟨rfl, rfl⟩
  · rw [if_neg hrepo] at hcall
    dsimp only at hcall
    have hrule := whileLoop_induct moreBlocks nandErasePass
      (fun pass t t' hI hmore _ hb => hnext pass t t' hI hmore hb)
      (fun pass t r t' hI hmore _ hb => hret pass t r t' hI hmore hb) call.erases _ hcached
      (along_true _ _)
    split at hcall
    · cases hcall
    · rename_i r₁ s₁ hw
      obtain ⟨rfl, rfl⟩ := Prod.mk.inj (Option.some.inj hcall)
      exact .inr (.inl (hrule.2 _ _ hw))
    · rename_i s₁ hw
      obtain ⟨rfl, rfl⟩ := Prod.mk.inj (Option.some.inj hcall)
      exact .inr (.inr ⟨s₁, (hrule.1 _ hw).1, (hrule.1 _ hw).2, rfl, rfl⟩)

theorem handleErasingForObsw_ends {card : Card} {call : NandCall} {s s' : NandState}
    {r : ReturnValue} (h : NandErasing target s.engine)
    (htarget : ¬ (target = .bootloader0 ∨ target = .bootloader1))
    (hcall : handleErasingForObsw card call s = some (r, s')) : NandErasureEnds target r s' := by
  have hcached : NandErasing target (if s.engine.helperFlag1 = true then s
      else { s with engine := cacheRequiredBlocks card s.engine }).engine := by
    split_ifs
    · exact h
    · exact ⟨h.source, h.hamming, h.internal, h.step, h.idx, fun hno => absurd hno htarget⟩
  rcases handleErasingForObsw_induct (I := fun t => NandErasing target t.engine)
    (Q := NandErasureEnds target) hcached (fun _ _ t' hI _ hb => (nandErasePass_erasing hI).1 t' hb)
    (fun _ _ r t' hI _ hb => (nandErasePass_erasing hI).2 r t' hb) hcall with
    ⟨rfl, _⟩ | hends | ⟨t, hdone, _, rfl, rfl⟩
  · exact .inr (.inr rfl)
  · exact hends
  · exact .inl ⟨rfl, hdone.source, hdone.hamming, rfl, hdone.idx, rfl⟩

theorem eraseForSource_ends {card : Card} {call : NandCall} {s s' : NandState} {r : ReturnValue}
    (h : NandErasing target s.engine) (hcall : eraseForSource card call s = some (r, s')) :
    NandErasureEnds target r s' := by
  have hbootloader : ∀ block, target = .bootloader0 ∨ target = .bootloader1 →
      eraseBootloaderBlock call block s = (r, s') → NandErasureEnds target r s' := by
    intro block htarget heq
    unfold eraseBootloaderBlock at heq
    obtain ⟨rfl, rfl⟩ := Prod.mk.inj heq
    split_ifs
    · exact .inr (.inr rfl)
    · exact .inl ⟨rfl, h.source, h.hamming, h.step, h.idx, h.flag htarget⟩
  unfold eraseForSource at hcall
  rw [h.source] at hcall
  cases target with
  | bootloader0 => exact hbootloader 0 (.inl rfl) (Option.some.inj hcall)
  | bootloader1 => exact hbootloader 1 (.inr rfl) (Option.some.inj hcall)
  | obswSlot0 => exact handleErasingForObsw_ends h (by decide) hcall
  | obswSlot1 => exact handleErasingForObsw_ends h (by decide) hcall

/-- What a call does before the copy step: the countdown ends it, the erasure is complete, or the
    erasure returns something else. -/
theorem nandEraseStep_cases {card : Card} {call : NandCall} {s s' : NandState} {r : ReturnValue}
    (h : s.engine.internalState = .idle ∨ s.engine.internalState = .step1)
    (hcall : nandEraseStep card call s = some (r, s')) :
    ∃ t : NandState, t = { s with engine := { s.engine with internalState := .step1 } } ∧
      ((r = .taskPeriodOverSoon ∧ s' = t) ∨
        (∃ t₁, eraseForSource card call t = some (.returnOk, t₁) ∧
          s' = { t₁ with engine := { t₁.engine with internalState := .step2 } } ∧
          (r = .taskPeriodOverSoon ∨ r = .returnOk)) ∨
        (r ≠ .returnOk ∧ eraseForSource card call t = some (r, s'))) := by
  obtain ⟨t, ht, hcall⟩ : ∃ t : NandState,
      t = { s with engine := { s.engine with internalState := .step1 } } ∧
        handleNandErasure card call t = some (r, s') := by
    unfold nandEraseStep at hcall
    dsimp only at hcall
    rcases h with hidle | hone
    · rw [if_pos hidle, if_pos rfl] at hcall
      exact ⟨_, rfl, hcall⟩
    · have hne : s.engine.internalState ≠ .idle := by
        rw [hone]
        decide
      rw [if_neg hne, if_pos hone] at hcall
      refine ⟨s, ?_, hcall⟩
      rw [← hone]
  refine ⟨t, ht, ?_⟩
  unfold handleNandErasure at hcall
  by_cases htimeout : call.timedOutBefore = true
  · rw [if_pos htimeout] at hcall
    obtain ⟨rfl, rfl⟩ := Prod.mk.inj (Option.some.inj hcall)
    exact .inl ⟨rfl, rfl⟩
  · rw [if_neg htimeout] at hcall
    split at hcall
    · cases hcall
    · rename_i t₁ herase
      obtain ⟨rfl, rfl⟩ := Prod.mk.inj (Option.some.inj hcall)
      refine .inr (.inl ⟨t₁, herase, rfl, ?_⟩)
      split_ifs
      · exact .inl rfl
      · exact .inr rfl
    · rename_i r₁ t₁ hr herase
      obtain ⟨rfl, rfl⟩ := Prod.mk.inj (Option.some.inj hcall)
      exact .inr (.inr ⟨hr, herase⟩)

/-- In the copy step nothing is erased any more. -/
theorem nandEraseStep_step2 {card : Card} {call : NandCall} {s : NandState}
    (h : s.engine.internalState = .step2) : nandEraseStep card call s = some (.returnOk, s) := by
  have hidle : s.engine.internalState ≠ .idle := by
    rw [h]
    decide
  have hone : s.engine.internalState ≠ .step1 := by
    rw [h]
    decide
  unfold nandEraseStep
  rw [if_neg hidle]
  exact if_neg hone

/-- **Erase step.** It leads to the copy step, is to be continued, or fails. -/
theorem nandEraseStep_ends {card : Card} {call : NandCall} {s s' : NandState} {r : ReturnValue}
    (h : NandInProgress target xs s) (hcall : nandEraseStep card call s = some (r, s')) :
    (r = .returnOk ∧ NandInCopy target xs s') ∨
      (r = .taskPeriodOverSoon ∧ NandInProgress target xs s') ∨ r = .returnFailed := by
  rcases h with herasing | hcopy
  · obtain ⟨t, rfl, hends⟩ := nandEraseStep_cases herasing.internal hcall
    have ht : NandErasing target { s.engine with internalState := .step1 } :=
      ⟨herasing.source, herasing.hamming, .inr rfl, herasing.step, herasing.idx, herasing.flag⟩
    rcases hends with ⟨rfl, rfl⟩ | ⟨t₁, herase, rfl, hr⟩ | ⟨hr, herase⟩
    · exact .inr (.inl ⟨rfl, .inl ht⟩)
    · rcases eraseForSource_ends ht herase with ⟨_, hdone⟩ | ⟨hno, _⟩ | hno
      · have hcopy : NandInCopy target xs
            { t₁ with engine := { t₁.engine with internalState := .step2 } } :=
          NandErased.inCopy ⟨hdone.source, hdone.hamming, hdone.step, hdone.idx, hdone.flag⟩ rfl
        rcases hr with rfl | rfl
        · exact .inr (.inl ⟨rfl, .inr hcopy⟩)
        · exact .inl ⟨rfl, hcopy⟩
      · cases hno
      · cases hno
    · rcases eraseForSource_ends ht herase with ⟨hno, _⟩ | ⟨rfl, hsoon⟩ | rfl
      · exact absurd hno hr
      · exact .inr (.inl ⟨rfl, .inl hsoon⟩)
      · exact .inr (.inr rfl)
  · rw [nandEraseStep_step2 hcopy.control.internal] at hcall
    obtain ⟨rfl, rfl⟩ := Prod.mk.inj (Option.some.inj hcall)
    exact .inl ⟨rfl, hcopy⟩

/-- **What a call does**: it ends before the copy step, the file cannot be prepared, or the copy loop
    returns. -/
theorem copySdCardImageToNandFlash_cases {card : Card} {call : NandCall} {s s' : NandState}
    {r : ReturnValue} (hcall : copySdCardImageToNandFlash card call s = some (r, s')) :
    (r ≠ .returnOk ∧ nandEraseStep card call s = some (r, s')) ∨
      ∃ s₁, nandEraseStep card call s = some (.returnOk, s₁) ∧
        (s₁.engine.internalState = .step2 →
          (∃ e, prepareGenericFileInformation .at91sam9g20Ek card call.fs s₁.engine = (.error r, e) ∧
            s' = { s₁ with engine := e }) ∨
          ∃ file e p, prepareGenericFileInformation .at91sam9g20Ek card call.fs s₁.engine =
              (.ok file, e) ∧
            whileLoop (fun _ => true) nandCopyPass call.passes (file, { s₁ with engine := e }) =
              some (.ret r p) ∧ s' = p.2) := by
  unfold copySdCardImageToNandFlash at hcall
  split at hcall
  · cases hcall
  · rename_i s₁ herase
    refine .inr ⟨s₁, herase, fun hstep2 => ?_⟩
    rw [if_pos hstep2] at hcall
    unfold handleSdToNandCopyOperation at hcall
    rcases hprep : prepareGenericFileInformation .at91sam9g20Ek card call.fs s₁.engine with ⟨res, e⟩
    rw [hprep] at hcall
    cases res with
    | error r₁ =>
        obtain ⟨rfl, rfl⟩ := Prod.mk.inj (Option.some.inj hcall)
        exact .inl ⟨e, rfl, rfl⟩
    | ok file =>
        dsimp only at hcall
        split at hcall
        · rename_i r₁ p hloop
          obtain ⟨rfl, rfl⟩ := Prod.mk.inj (Option.some.inj hcall)
          exact .inr ⟨file, e, p, rfl, hloop, rfl⟩
        · cases hcall
  · rename_i r₁ s₁ hr herase
    obtain ⟨rfl, rfl⟩ := Prod.mk.inj (Option.some.inj hcall)
    exact .inl ⟨hr, herase⟩

/-- `good` holds of the passes of the copy loop in a call, from the state in which it is entered. -/
def NandCallGood (good : NandPass → NandLoop → Prop) (card : Card) (call : NandCall)
    (s : NandState) : Prop :=
  ∀ s₁ file e, nandEraseStep card call s = some (.returnOk, s₁) →
    prepareGenericFileInformation .at91sam9g20Ek card call.fs s₁.engine = (.ok file, e) →
    Along good (fun _ => true) nandCopyPass call.passes (file, { s₁ with engine := e })

/-- `good` holds of the passes of the copy loop over a whole run. -/
def NandRunGood (good : NandPass → NandLoop → Prop) (card : Card) : List NandCall → NandState → Prop :=
  Along (NandCallGood good card) (fun _ => true) (nandCall card)

/-- What a call has established when it returns `r`. -/
def NandCallEnds (target : NandTarget) (xs : List UInt8) (r : ReturnValue) (s : NandState) : Prop :=
  (r = .operationFinished → PagesWritten target xs (pageCount xs.length) s.flash) ∧
    (r = .taskPeriodOverSoon → NandInProgress target xs s)

/-- **Call.** -/
theorem copySdCardImageToNandFlash_ends {card : Card} {call : NandCall} {s s' : NandState}
    {r : ReturnValue} (h : NandInProgress target (fileBytes card target.path) s)
    (hgood : NandCallGood PageInPlace card call s)
    (hcall : copySdCardImageToNandFlash card call s = some (r, s')) :
    NandCallEnds target (fileBytes card target.path) r s' := by
  rcases copySdCardImageToNandFlash_cases hcall with ⟨hr, herase⟩ | ⟨s₁, herase, hcopying⟩
  · rcases nandEraseStep_ends h herase with ⟨hno, _⟩ | ⟨rfl, hsoon⟩ | rfl
    · exact absurd hno hr
    · exact ⟨fun hno => (by cases hno), fun _ => hsoon⟩
    · exact ⟨fun hno => (by cases hno), fun hno => by cases hno⟩
  · rcases nandEraseStep_ends h herase with ⟨_, hcopy⟩ | ⟨hno, _⟩ | hno
    · rcases hcopying hcopy.control.internal with ⟨e, hprep, _⟩ | ⟨file, e, p, hprep, hloop, rfl⟩
      · rcases prepareGenericFileInformation_error hprep with rfl | rfl <;>
          exact ⟨fun hno => (by cases hno), fun hno => by cases hno⟩
      · have hpasses := hgood s₁ file e herase hprep
        obtain ⟨path, hpath, he, hfile⟩ := prepareGenericFileInformation_ok hprep
        rw [genericFile_nandTarget hcopy.control.source hcopy.control.hamming] at hpath
        obtain rfl := Option.some.inj hpath
        have hentered : NandCopyLoop target (fileBytes card target.path)
            (file, { s₁ with engine := e }) := by
          obtain ⟨hcontrol, hcontent⟩ := hcopy
          rw [he]
          unfold cacheFileSize
          split_ifs with hzero
          · exact ⟨⟨⟨hcontrol.source, hcontrol.hamming, hcontrol.internal, hcontrol.step_lt,
              hcontrol.first, hcontrol.idx, hcontrol.counters, fun _ => rfl⟩,
              fun hle => ⟨(hcontent hle).pages, (hcontent hle).kept⟩⟩, rfl, by rw [hfile]⟩
          · exact ⟨⟨hcontrol, hcontent⟩, hcontrol.size hzero, by rw [hfile]⟩
        have hends := nandCopyLoop_ends hentered hpasses hloop
        exact ⟨hends.1, fun hsoon => .inr (hends.2 (.inr hsoon)).1⟩
    · cases hno
    · cases hno

theorem nandCall_eq {card : Card} {call : NandCall} {s : NandState}
    {fl : Flow ReturnValue NandState} (h : nandCall card call s = some fl) :
    (∀ s', fl = .next s' → copySdCardImageToNandFlash card call s = some (.taskPeriodOverSoon, s')) ∧
      ∀ r s', fl = .ret r s' → copySdCardImageToNandFlash card call s = some (r, s') := by
  unfold nandCall at h
  split at h
  · cases h
  · rename_i s₁ hcall
    obtain rfl := Option.some.inj h
    exact ⟨fun s' heq => Flow.next.inj heq ▸ hcall, fun r s' heq => by cases heq⟩
  · rename_i r₁ s₁ _ hcall
    obtain rfl := Option.some.inj h
    refine ⟨fun s' heq => (by cases heq), fun r s' heq => ?_⟩
    obtain ⟨rfl, rfl⟩ := Flow.ret.inj heq
    exact hcall

theorem startNandCopy_inProgress {s : NandState} (xs : List UInt8) (e : ImageCopyingEngine)
    (hstart : s.engine = startNandCopy target e) : NandInProgress target xs s := by
  refine .inl ?_
  rw [hstart]
  cases target <;> exact ⟨rfl, rfl, .inl rfl, rfl, rfl, fun _ => rfl⟩

/-- The result of a run is the result of its last call. -/
theorem nandRun_ret {card : Card} {calls : List NandCall} {s s' : NandState} {r : ReturnValue}
    (h : nandRun card calls s = some (r, s')) :
    whileLoop (fun _ => true) (nandCall card) calls s = some (.ret r s') := by
  unfold nandRun at h
  split at h
  · rename_i hw
    obtain ⟨rfl, rfl⟩ := Prod.mk.inj (Option.some.inj h)
    exact hw
  · cases h

/-- **Run.** A copy that has ended with `OPERATION_FINISHED` has written all pages. -/
theorem nandRun_pagesWritten {card : Card} {calls : List NandCall} {s s' : NandState}
    {e : ImageCopyingEngine} (hstart : s.engine = startNandCopy target e)
    (hgood : NandRunGood PageInPlace card calls s)
    (h : nandRun card calls s = some (.operationFinished, s')) :
    PagesWritten target (fileBytes card target.path) (pageCount (fileBytes card target.path).length)
      s'.flash := by
  have hrule := whileLoop_induct (fun _ => true) (nandCall card)
    (I := NandInProgress target (fileBytes card target.path))
    (Q := NandCallEnds target (fileBytes card target.path))
    (fun _ _ s' hI _ hg hb =>
      (copySdCardImageToNandFlash_ends hI hg ((nandCall_eq hb).1 s' rfl)).2 rfl)
    (fun _ _ r s' hI _ hg hb => copySdCardImageToNandFlash_ends hI hg ((nandCall_eq hb).2 r s' rfl))
    calls s (startNandCopy_inProgress _ e hstart) hgood
  exact (hrule.2 _ _ (nandRun_ret h)).1 rfl

/-- **The NAND flash holds the image.** If a copy to the NAND flash ends with `OPERATION_FINISHED`,
    page `k % 64` of block `startBlock + k / 64` holds page `k` of the image, for every page of the
    file, provided every page that was read was the file's at the current byte index. -/
theorem nandCopy_content {card : Card} {calls : List NandCall} {s s' : NandState}
    {e : ImageCopyingEngine} (hstart : s.engine = startNandCopy target e)
    (hgood : NandRunGood PageInPlace card calls s)
    (h : nandRun card calls s = some (.operationFinished, s')) :
    ∀ k < pageCount (fileBytes card target.path).length,
      s'.flash (target.startBlock + k / pagesPerBlock) (k % pagesPerBlock) =
        imagePage target (fileBytes card target.path) k :=
  nandRun_pagesWritten hstart hgood h

/-! ## Two runs -/

def quietNandPass : NandPass := ⟨false, nandPageSize, .done, false⟩

/-- An undisturbed call with these passes of the copy loop. -/
def quietNandCall (passes : List NandPass) : NandCall where
  timedOutBefore := false
  repository := 0
  eraseBootloader := .done
  erases := [⟨.done, false⟩, ⟨.done, false⟩, ⟨.done, false⟩]
  timedOut := false
  fs := quietFs
  passes := passes

/-- A copy of the first slot that has been started. -/
def startedNandState : NandState where
  engine := startNandCopy .obswSlot0 initial
  flash := fun _ _ => erasedPage
  commands := []

/-- The first page of a call is read in place; a pass whose time is over reads none. -/
theorem nandRunGood_of_first {card : Card} {calls : List NandCall}
    (h : ∀ call ∈ calls, ∃ pass rest, call.passes = pass :: rest ∧
      ∀ late ∈ rest, late.timedOutBefore = true) (s : NandState) :
    NandRunGood PageInPlace card calls s := by
  refine along_of_mem (fun call hcall s s₁ file e _ hprep => ?_) s
  obtain ⟨_, _, _, hfile⟩ := prepareGenericFileInformation_ok hprep
  obtain ⟨pass, rest, hpasses, hrest⟩ := h call hcall
  rw [hpasses]
  refine fun _ => ⟨fun _ => by rw [hfile], fun t _ => along_of_mem (fun late hlate _ hread => ?_) t⟩
  exact absurd ((hrest late hlate).symm.trans hread.1) (by decide)

/-- An image of two pages, the second one of a single byte. -/
def twoPages : SdFile where
  bytes := List.replicate nandPageSize 0 ++ [1]
  length_lt := by
    rw [List.length_append, List.length_replicate]
    decide

theorem failedCode_ne_zero : 7 ≠ 0 := by decide

/-- A pass whose page write fails. -/
def failingNandPass : NandPass :=
  { quietNandPass with write := .failed 7 failedCode_ne_zero erasedPage }

/-- The first page write fails once and is retried; the time of that call is over before it reads
    another page. -/
def retriedNandCalls : List NandCall :=
  [quietNandCall [failingNandPass],
    quietNandCall [quietNandPass, { quietNandPass with timedOutBefore := true }],
    quietNandCall [quietNandPass]]

theorem nandRunGood_retried (card : Card) (s : NandState) :
    NandRunGood PageInPlace card retriedNandCalls s := by
  refine nandRunGood_of_first (fun call hcall => ?_) s
  simp only [retriedNandCalls, List.mem_cons, List.not_mem_nil, or_false] at hcall
  rcases hcall with rfl | rfl | rfl <;>
    exact ⟨_, _, rfl, by simp⟩

theorem nandRun_retried :
    ∃ s', nandRun (cardWith NandTarget.obswSlot0.path twoPages) retriedNandCalls startedNandState =
      some (.operationFinished, s') := by
  have hrun : (nandRun (cardWith NandTarget.obswSlot0.path twoPages) retriedNandCalls
      startedNandState).map Prod.fst = some .operationFinished := by decide +kernel
  obtain ⟨⟨_, s'⟩, heq, rfl⟩ := Option.map_eq_some_iff.mp hrun
  exact ⟨s', heq⟩

/-- An image of two pages is copied, with a page write to be made again. -/
theorem nandCopy_content_retried :
    ∃ s', nandRun (cardWith NandTarget.obswSlot0.path twoPages) retriedNandCalls startedNandState =
        some (.operationFinished, s') ∧
      ∀ k < 2, s'.flash 2 k = imagePage .obswSlot0 twoPages.bytes k := by
  have hbytes := fileBytes_cardWith NandTarget.obswSlot0.path twoPages
  obtain ⟨s', hrun⟩ := nandRun_retried
  have hpages := nandCopy_content
    (show startedNandState.engine = startNandCopy .obswSlot0 initial from rfl)
    (nandRunGood_retried _ _) hrun
  rw [hbytes, show pageCount twoPages.bytes.length = 2 by decide +kernel] at hpages
  refine ⟨s', hrun, fun k hk => ?_⟩
  have hlt : k < pagesPerBlock := hk.trans (by decide)
  have hpage := hpages k hk
  rwa [Nat.div_eq_of_lt hlt, Nat.mod_eq_of_lt hlt] at hpage

/-- The calls of the run: the first page write fails once, nothing else does. -/
def retryingNandCalls : List NandCall :=
  [quietNandCall [failingNandPass], quietNandCall [quietNandPass, quietNandPass]]

/-- **A retry repeats its page.** The first page write fails once and is retried in the next call,
    which then reads the first page again as the second one. -/
theorem nandCopy_repeats_page :
    ∃ s', nandRun (cardWith NandTarget.obswSlot0.path twoPages) retryingNandCalls
        startedNandState = some (.operationFinished, s') ∧
      s'.flash 2 1 ≠ imagePage .obswSlot0 twoPages.bytes 1 := by
  have hrun : (nandRun (cardWith NandTarget.obswSlot0.path twoPages) retryingNandCalls
      startedNandState).map (fun t => (t.1, (t.2.flash 2 1)[0]?)) =
        some (.operationFinished, some 0) := by decide +kernel
  obtain ⟨⟨r, s'⟩, heq, hval⟩ := Option.map_eq_some_iff.mp hrun
  obtain ⟨rfl, hcell⟩ := Prod.mk.inj hval
  refine ⟨s', heq, fun hno => ?_⟩
  rw [hno] at hcell
  have himage : (imagePage .obswSlot0 twoPages.bytes 1)[0]? = some 1 := by decide +kernel
  rw [himage] at hcell
  exact absurd hcell (by decide)

end Engine
end Obsw
