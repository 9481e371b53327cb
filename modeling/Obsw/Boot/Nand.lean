import Obsw.Engine.NandContent

/-!
# `Boot.Nand` — loading an image from the NAND flash

`copy_nandflash_image_to_sdram` and `BOOT_NAND_CopyBin` of `at91_boot_from_nand.c`, against the flash
the on-board software has written. The loader walks pages and blocks in the writer's order, except that
it skips a block reported bad at its first page, which the writer does not. Its result is not used: the
image is reported as loaded whatever was read.
-/

namespace Obsw
namespace Boot

open Memory Loop Engine

def bootNandSuccess : Nat := 0
def bootNandErrorGp : Nat := 2

/-- `NandCommon_ERROR_BADBLOCK`. -/
def nandErrorBadBlock : Nat := 12

/-- The size of a block in bytes. -/
def nandBlockSize : Nat := pagesPerBlock * nandPageSize

/-- `NandFlashModel_TranslateAccess`: block, page and offset, each an `unsigned short`. The driver
    library is built with `OP_BOOTSTRAP_on`, which leaves out the check of the bounds. -/
def translateAccess (address : Nat) : Nat × Nat × Nat :=
  let block := address / nandBlockSize % 2 ^ 16
  let address := address - block * nandBlockSize
  let page := address / nandPageSize % 2 ^ 16
  (block, page, (address - page * nandPageSize) % 2 ^ 16)

/-- The variables of `BOOT_NAND_CopyBin` and the SDRAM. `bytesRead` is what is still to be read. -/
structure NandLoad where
  block : Nat
  page : Nat
  ptr : Nat
  bytesRead : Nat
  sdram : Mem UInt8

/-- One `SkipBlockNandFlash_ReadPage` and what the three loops do behind it. A bad block is skipped at
    its first page only. -/
def loadPass (numBlocks : Nat) (flash : NandFlash) (read : NandOutcome Page) (s : NandLoad) :
    Option (Flow Nat NandLoad) :=
  match read with
  | .failed code _ left =>
    let s := { s with sdram := store s.sdram s.ptr left }
    if code = nandErrorBadBlock then
      let s := { s with block := (s.block + 1) % 2 ^ 16 }
      if s.block < numBlocks ∧ s.page = 0 then some (.next s) else some (.ret bootNandErrorGp s)
    else some (.ret bootNandErrorGp s)
  | .done =>
    let s := { s with
      sdram := store s.sdram s.ptr (flash s.block s.page)
      ptr := s.ptr + nandPageSize }
    if s.bytesRead ≤ nandPageSize then some (.ret bootNandSuccess { s with bytesRead := 0 })
    else
      let s := { s with bytesRead := s.bytesRead - nandPageSize }
      if s.page + 1 < pagesPerBlock then some (.next { s with page := s.page + 1 })
      else some (.next { s with page := 0, block := (s.block + 1) % 2 ^ 16 })

/-- The loader is within the device. -/
def withinDevice (numBlocks : Nat) (s : NandLoad) : Bool := decide (s.block < numBlocks)

/-- `BOOT_NAND_CopyBin`, with the outcomes of its page reads. -/
def bootNandCopyBin (numBlocks : Nat) (flash : NandFlash) (reads : List (NandOutcome Page))
    (binaryOffset binarySize targetOffset : Nat) (sdram : Mem UInt8) : Option (Nat × NandLoad) :=
  let start := translateAccess binaryOffset
  let s : NandLoad := ⟨start.1, start.2.1, sdramDestination + targetOffset, binarySize, sdram⟩
  if binaryOffset % 4 ≠ 0 then some (bootNandErrorGp, s)
  else if start.2.1 ≠ 0 ∨ start.2.2 ≠ 0 then some (bootNandErrorGp, s)
  else
    match whileLoop (withinDevice numBlocks) (loadPass numBlocks flash) reads s with
    | none => none
    | some (.ret r s) => some (r, s)
    | some (.next s) => some (bootNandSuccess, s)

/-- `copy_nandflash_image_to_sdram`. -/
def copyNandflashImageToSdram (numBlocks : Nat) (flash : NandFlash)
    (reads : List (NandOutcome Page)) (sourceOffset sourceSize targetOffset : Nat)
    (sdram : Mem UInt8) : Option (Nat × NandLoad) :=
  match bootNandCopyBin numBlocks flash reads sourceOffset sourceSize targetOffset sdram with
  | none => none
  | some (_, s) => some (0, s)

/-! ## What is wanted of a load -/

/-- Success means that the image lies in the SDRAM, and a load that has not read everything is not a
    success. -/
structure LoadCorrect (xs : List UInt8) (destination ret : Nat) (s : NandLoad) : Prop where
  placed : ret = 0 → Holds s.sdram destination xs
  reported : s.bytesRead ≠ 0 → ret ≠ 0

/-- The pages of the image from page `i` on lie within the device and their reads succeed. -/
def PagesReadable (numBlocks n i : Nat) (reads : List (NandOutcome Page)) : Prop :=
  i < pageCount n →
    pagesPerBlock * 2 + pageCount n ≤ pagesPerBlock * numBlocks ∧
      ∀ j < pageCount n - i, reads[j]? = some .done

/-! ## The walk -/

variable {numBlocks n : Nat} {flash : NandFlash} {image : Mem UInt8} {destination : Nat}

/-- The loader is about to read page `i` of the image. -/
structure AtPage (image : Mem UInt8) (n destination i : Nat) (s : NandLoad) : Prop where
  more : i < pageCount n
  block : s.block = 2 + i / pagesPerBlock
  page : s.page = i % pagesPerBlock
  ptr : s.ptr = destination + nandPageSize * i
  bytes : s.bytesRead = n - nandPageSize * i
  placed : Holds s.sdram destination (load image 0 (nandPageSize * i))

theorem lt_of_lt_pageCount {i : Nat} (h : i < pageCount n) : nandPageSize * i < n := by
  unfold pageCount at h
  unfold nandPageSize at h ⊢
  omega

/-- A page of the image continues the image in the SDRAM. -/
theorem AtPage.store {i : Nat} {s : NandLoad} (h : AtPage image n destination i s)
    (hpage : flash s.block s.page = load image (nandPageSize * i) nandPageSize) :
    Holds (store s.sdram s.ptr (flash s.block s.page)) destination
      (load image 0 (nandPageSize * (i + 1))) := by
  rw [Nat.mul_add, Nat.mul_one, load_add, Nat.zero_add, holds_append, load_length, hpage, h.ptr]
  refine ⟨holds_program_disjoint h.placed ?_, holds_store _ _ _⟩
  rw [load_length]
  exact .inl le_rfl

/-- A page that is read is the last one or leads to the next one. -/
theorem loadPass_done (numBlocks : Nat) {i : Nat} {s : NandLoad} (h : AtPage image n destination i s)
    (hpage : flash s.block s.page = load image (nandPageSize * i) nandPageSize)
    (hblock : s.block + 1 < 2 ^ 16) :
    (i + 1 = pageCount n ∧ ∃ s', loadPass numBlocks flash .done s = some (.ret bootNandSuccess s') ∧
        s'.bytesRead = 0 ∧ Holds s'.sdram destination (load image 0 (nandPageSize * (i + 1)))) ∨
      (∃ s', loadPass numBlocks flash .done s = some (.next s') ∧
        AtPage image n destination (i + 1) s') := by
  have hplaced := h.store hpage
  have hbytes : s.bytesRead = n - 2048 * i := h.bytes
  have hmore : 2048 * i < n := lt_of_lt_pageCount h.more
  have hpages : nandPageSize = 2048 := rfl
  have hcount : pageCount n = (n + 2047) / 2048 := rfl
  have hblocks : pagesPerBlock = 64 := rfl
  unfold loadPass
  dsimp only
  by_cases hlast : s.bytesRead ≤ nandPageSize
  · rw [if_pos hlast]
    exact .inl ⟨by omega, _, rfl, rfl, hplaced⟩
  · rw [if_neg hlast]
    have hptr : s.ptr + nandPageSize = destination + nandPageSize * (i + 1) := by
      rw [h.ptr, Nat.mul_add, Nat.mul_one, Nat.add_assoc]
    have hrest : s.bytesRead - nandPageSize = n - nandPageSize * (i + 1) := by
      rw [h.bytes, Nat.mul_add, Nat.mul_one, Nat.sub_sub]
    have hnext : i + 1 < pageCount n := by omega
    have hb : s.block = 2 + i / 64 := h.block
    have hp : s.page = i % 64 := h.page
    by_cases hin : s.page + 1 < pagesPerBlock
    · rw [if_pos hin]
      refine .inr ⟨_, rfl, hnext, ?_, ?_, hptr, hrest, hplaced⟩
      · show s.block = 2 + (i + 1) / 64
        omega
      · show s.page + 1 = (i + 1) % 64
        omega
    · rw [if_neg hin]
      refine .inr ⟨_, rfl, hnext, ?_, ?_, hptr, hrest, hplaced⟩
      · show (s.block + 1) % 2 ^ 16 = 2 + (i + 1) / 64
        omega
      · show 0 = (i + 1) % 64
        omega

/-- A page that is not read ends the load, unless its block is skipped. -/
theorem loadPass_failed (numBlocks : Nat) (flash : NandFlash) {code : Nat} (nonzero : code ≠ 0)
    (left : Page) (s : NandLoad) (hskip : code ≠ nandErrorBadBlock) :
    ∃ s', loadPass numBlocks flash (.failed code nonzero left) s = some (.ret bootNandErrorGp s') ∧
      s'.bytesRead = s.bytesRead := by
  unfold loadPass
  dsimp only
  rw [if_neg hskip]
  exact ⟨_, rfl, rfl⟩

/-- The load has read everything, and the image lies in the SDRAM. -/
def Loaded (image : Mem UInt8) (n destination : Nat) (s : NandLoad) : Prop :=
  s.bytesRead = 0 ∧ Holds s.sdram destination (load image 0 (nandPageSize * pageCount n))

/-- Behind a page that has been read, the other ones are to be readable. -/
theorem pagesReadable_done {i : Nat} {reads : List (NandOutcome Page)} (h : i + 1 < pageCount n) :
    PagesReadable numBlocks n i (.done :: reads) ↔ PagesReadable numBlocks n (i + 1) reads := by
  constructor
  · intro hall hmore
    obtain ⟨hfits, hreads⟩ := hall (by omega)
    exact ⟨hfits, fun j hj => hreads (j + 1) (by omega)⟩
  · intro hall hmore
    obtain ⟨hfits, hreads⟩ := hall h
    refine ⟨hfits, fun j hj => ?_⟩
    cases j with
    | zero => rfl
    | succ j => exact hreads j (by omega)

/-- The state a loop has ended with. -/
def endState {ρ σ : Type} : Flow ρ σ → σ
  | .next s => s
  | .ret _ s => s

/-- **Walk.** From page `i` on, the load reads everything exactly if the pages are readable; where it
    does not, something is left to be read, or a read has reported a bad block. -/
theorem whileLoop_loadPass (hdevice : numBlocks < 2 ^ 16)
    (hflash : ∀ k < pageCount n,
      flash (2 + k / pagesPerBlock) (k % pagesPerBlock) = load image (nandPageSize * k) nandPageSize)
    (reads : List (NandOutcome Page)) :
    ∀ (i : Nat) (s : NandLoad) (fl : Flow Nat NandLoad), AtPage image n destination i s →
      whileLoop (withinDevice numBlocks) (loadPass numBlocks flash) reads s = some fl →
      (PagesReadable numBlocks n i reads → Loaded image n destination (endState fl)) ∧
        (¬ PagesReadable numBlocks n i reads →
          (endState fl).bytesRead ≠ 0 ∨ ∃ read ∈ reads, read.retval = nandErrorBadBlock) := by
  have hblocks : pagesPerBlock = 64 := rfl
  induction reads with
  | nil =>
      intro i s fl h hloop
      have hb : s.block = 2 + i / 64 := h.block
      have hmore := h.more
      unfold whileLoop at hloop
      split_ifs at hloop with hcond
      obtain rfl := Option.some.inj hloop
      have hout : numBlocks ≤ s.block := by
        simpa [withinDevice] using hcond
      refine ⟨fun hreadable => ?_, fun _ => .inl ?_⟩
      · obtain ⟨hfits, _⟩ := hreadable hmore
        rw [hblocks] at hfits
        omega
      · show s.bytesRead ≠ 0
        rw [h.bytes]
        have := lt_of_lt_pageCount hmore
        omega
  | cons read reads ih =>
      intro i s fl h hloop
      have hb : s.block = 2 + i / 64 := h.block
      have hmore := h.more
      have hrest : s.bytesRead ≠ 0 := by
        rw [h.bytes]
        have := lt_of_lt_pageCount hmore
        omega
      by_cases hcond : withinDevice numBlocks s = true
      swap
      · -- the device ends before the image does
        rw [whileLoop_exit (by simpa using hcond)] at hloop
        obtain rfl := Option.some.inj hloop
        have hout : numBlocks ≤ s.block := by
          simpa [withinDevice] using hcond
        refine ⟨fun hreadable => ?_, fun _ => .inl hrest⟩
        obtain ⟨hfits, _⟩ := hreadable hmore
        rw [hblocks] at hfits
        omega
      have hin : s.block < numBlocks := of_decide_eq_true hcond
      cases read with
      | done =>
          have hpage : flash s.block s.page = load image (nandPageSize * i) nandPageSize := by
            rw [h.block, h.page]
            exact hflash i hmore
          rcases loadPass_done numBlocks h hpage (by omega) with
            ⟨hlast, s', hpass, hzero, hplaced⟩ | ⟨s', hpass, hnext⟩
          · rw [whileLoop_ret hcond hpass] at hloop
            obtain rfl := Option.some.inj hloop
            refine ⟨fun _ => ⟨hzero, hlast ▸ hplaced⟩, fun hno => absurd (fun _ => ⟨?_, ?_⟩) hno⟩
            · rw [hblocks]
              omega
            · intro j hj
              obtain rfl : j = 0 := by omega
              rfl
          · rw [whileLoop_next hcond hpass] at hloop
            obtain ⟨hyes, hno⟩ := ih (i + 1) s' fl hnext hloop
            rw [pagesReadable_done hnext.more]
            refine ⟨hyes, fun hunreadable => (hno hunreadable).imp_right ?_⟩
            rintro ⟨read, hmem, hbad⟩
            exact ⟨read, List.mem_cons_of_mem _ hmem, hbad⟩
      | failed code nonzero left =>
          constructor
          · intro hreadable
            have hfirst := (hreadable hmore).2 0 (by omega)
            simp at hfirst
          · intro _
            -- the statement leaves open what follows a bad block
            by_cases hskip : code = nandErrorBadBlock
            · exact .inr ⟨_, List.mem_cons_self, hskip⟩
            · obtain ⟨s', hpass, hbytes⟩ :=
                loadPass_failed numBlocks flash nonzero left s hskip
              rw [whileLoop_ret hcond hpass] at hloop
              obtain rfl := Option.some.inj hloop
              exact .inl (hbytes.trans_ne hrest)

/-! ## The load of the on-board software -/

/-- An image has no patched bytes, so it starts with the file. -/
theorem holds_file_of_image {target : NandTarget} {xs : List UInt8} {m : Mem UInt8} {a len : Nat}
    (htarget : target ≠ .bootloader0) (hlen : xs.length ≤ len)
    (h : Holds m a (load (nandImage target xs) 0 len)) : Holds m a xs := by
  obtain ⟨rest, rfl⟩ := Nat.exists_eq_add_of_le hlen
  unfold nandImage at h
  rw [if_neg htarget, load_add, load_store_same, holds_append] at h
  exact h.1

theorem translateAccess_primaryImage : translateAccess primaryImageNandOffset = (2, 0, 0) := by
  decide

/-- The load of the primary image is the walk from the third block on, and it returns 0. -/
theorem copyNandflashImageToSdram_primary {numBlocks size targetOffset ret : Nat}
    {flash : NandFlash} {reads : List (NandOutcome Page)} {sdram : Mem UInt8} {s : NandLoad}
    (h : copyNandflashImageToSdram numBlocks flash reads primaryImageNandOffset size targetOffset
      sdram = some (ret, s)) :
    ret = 0 ∧ ∃ fl, whileLoop (withinDevice numBlocks) (loadPass numBlocks flash) reads
      ⟨2, 0, sdramDestination + targetOffset, size, sdram⟩ = some fl ∧ endState fl = s := by
  unfold copyNandflashImageToSdram bootNandCopyBin at h
  rw [translateAccess_primaryImage, if_neg (by decide), if_neg (by decide)] at h
  dsimp only at h
  rcases hloop : whileLoop (withinDevice numBlocks) (loadPass numBlocks flash) reads
    ⟨2, 0, sdramDestination + targetOffset, size, sdram⟩ with _ | fl
  · rw [hloop] at h
    cases h
  · rw [hloop] at h
    cases fl with
    | next t =>
        obtain ⟨rfl, rfl⟩ := Prod.mk.inj (Option.some.inj h)
        exact ⟨rfl, _, rfl, rfl⟩
    | ret r t =>
        obtain ⟨rfl, rfl⟩ := Prod.mk.inj (Option.some.inj h)
        exact ⟨rfl, _, rfl, rfl⟩

/-- Of an empty image nothing is left to be read. -/
theorem endState_of_empty {numBlocks : Nat} {flash : NandFlash} {reads : List (NandOutcome Page)}
    {s : NandLoad} {fl : Flow Nat NandLoad} (h : s.bytesRead = 0)
    (hloop : whileLoop (withinDevice numBlocks) (loadPass numBlocks flash) reads s = some fl) :
    (endState fl).bytesRead = 0 := by
  have hpass : ∀ read t fl', t.bytesRead = 0 → loadPass numBlocks flash read t = some fl' →
      (endState fl').bytesRead = 0 := by
    intro read t fl' ht hb
    unfold loadPass at hb
    cases read with
    | done =>
        dsimp only at hb
        rw [if_pos (by rw [ht]; exact Nat.zero_le _)] at hb
        obtain rfl := Option.some.inj hb
        rfl
    | failed code nonzero left =>
        dsimp only at hb
        split_ifs at hb <;> obtain rfl := Option.some.inj hb <;> exact ht
  have hrule := whileLoop_induct (withinDevice numBlocks) (loadPass numBlocks flash)
    (I := fun t => t.bytesRead = 0) (Q := fun _ t => t.bytesRead = 0)
    (fun read t t' hI _ _ hb => hpass read t _ hI hb)
    (fun read t r t' hI _ _ hb => hpass read t _ hI hb) reads s h (along_true _ _)
  cases fl with
  | next t => exact (hrule.1 t hloop).1
  | ret r t => exact hrule.2 r t hloop

/-- **Writer and loader.** A load of the image a finished copy has written is correct if its pages lie
    within the device and their reads succeed; where no read reports a bad block, only then. -/
theorem copyNandflashImage_correct {target : NandTarget} {card : Card} {calls : List NandCall}
    {s s' : NandState} {e : ImageCopyingEngine}
    (htarget : target = .obswSlot0 ∨ target = .obswSlot1)
    (hstart : s.engine = startNandCopy target e) (hgood : NandRunGood PageInPlace card calls s)
    (hcopy : nandRun card calls s = some (.operationFinished, s'))
    {numBlocks targetOffset ret : Nat} (hdevice : numBlocks < 2 ^ 16)
    {reads : List (NandOutcome Page)} {sdram : Mem UInt8} {t : NandLoad}
    (hload : copyNandflashImageToSdram numBlocks s'.flash reads primaryImageNandOffset
      (fileBytes card target.path).length targetOffset sdram = some (ret, t)) :
    (PagesReadable numBlocks (fileBytes card target.path).length 0 reads →
      LoadCorrect (fileBytes card target.path) (sdramDestination + targetOffset) ret t) ∧
    ((∀ read ∈ reads, read.retval ≠ nandErrorBadBlock) →
      LoadCorrect (fileBytes card target.path) (sdramDestination + targetOffset) ret t →
      PagesReadable numBlocks (fileBytes card target.path).length 0 reads) := by
  have hne : target ≠ .bootloader0 ∧ target.startBlock = 2 := by
    rcases htarget with rfl | rfl <;> decide
  have hflash := nandRun_pagesWritten hstart hgood hcopy
  unfold PagesWritten at hflash
  rw [hne.2] at hflash
  obtain ⟨rfl, fl, hloop, rfl⟩ := copyNandflashImageToSdram_primary hload
  by_cases hmore : 0 < pageCount (fileBytes card target.path).length
  · have hat : AtPage (nandImage target (fileBytes card target.path))
        (fileBytes card target.path).length (sdramDestination + targetOffset) 0
        ⟨2, 0, sdramDestination + targetOffset, (fileBytes card target.path).length, sdram⟩ :=
      ⟨hmore, rfl, rfl, rfl, rfl, holds_nil _ _⟩
    obtain ⟨hyes, hno⟩ := whileLoop_loadPass hdevice hflash reads 0 _ fl hat hloop
    constructor
    · intro hreadable
      obtain ⟨hzero, hplaced⟩ := hyes hreadable
      refine ⟨fun _ => holds_file_of_image hne.1 ?_ hplaced, fun hrest => absurd hzero hrest⟩
      unfold pageCount nandPageSize
      omega
    · intro hbad hcorrect
      by_contra hunreadable
      rcases hno hunreadable with hrest | ⟨read, hmem, hskip⟩
      · exact hcorrect.reported hrest rfl
      · exact hbad read hmem hskip
  · -- an empty file has no page, and every load of it is correct
    have hempty : (fileBytes card target.path).length = 0 := by
      unfold pageCount nandPageSize at hmore
      omega
    refine ⟨fun _ => ⟨fun _ => ?_, fun hrest => absurd (endState_of_empty hempty hloop) hrest⟩,
      fun _ _ hno => absurd hno hmore⟩
    rw [List.eq_nil_of_length_eq_zero hempty]
    exact holds_nil _ _

/-- An image of two pages is copied, with a page write to be made again, and loaded. -/
theorem copyNandflashImage_retried :
    ∃ s' t, nandRun (cardWith NandTarget.obswSlot0.path twoPages) retriedNandCalls startedNandState =
        some (.operationFinished, s') ∧
      copyNandflashImageToSdram 2048 s'.flash [.done, .done] primaryImageNandOffset
        (nandPageSize + 1) 0 (fun _ => 0) = some (0, t) ∧
      LoadCorrect twoPages.bytes sdramDestination 0 t := by
  have hbytes := fileBytes_cardWith NandTarget.obswSlot0.path twoPages
  have hlen : twoPages.bytes.length = nandPageSize + 1 := by simp [twoPages]
  obtain ⟨s', hrun⟩ := nandRun_retried
  obtain ⟨t, hload⟩ : ∃ t, copyNandflashImageToSdram 2048 s'.flash [.done, .done]
      primaryImageNandOffset (nandPageSize + 1) 0 (fun _ => 0) = some (0, t) := by
    simp [copyNandflashImageToSdram, bootNandCopyBin, translateAccess, primaryImageNandOffset,
      nandBlockSize, pagesPerBlock, nandPageSize, whileLoop, withinDevice, loadPass]
  have hcorrect := copyNandflashImage_correct (.inl rfl)
    (show startedNandState.engine = startNandCopy .obswSlot0 ImageCopyingEngine.initial from rfl)
    (nandRunGood_retried _ _) hrun (show 2048 < 2 ^ 16 by decide)
    (by rw [hbytes, hlen]; exact hload)
  rw [hbytes, hlen] at hcorrect
  refine ⟨s', t, hrun, hload, hcorrect.1 fun _ => ⟨by decide, fun j hj => ?_⟩⟩
  have hj₂ : j < 2 := hj
  obtain rfl | rfl : j = 0 ∨ j = 1 := by omega
  · rfl
  · rfl

/-- **A load that fails is not reported.** The first page cannot be read, nothing is loaded, and 0 is
    returned. -/
theorem copyNandflashImage_ignores_error :
    ∃ s' t, nandRun (cardWith NandTarget.obswSlot0.path ⟨[7], by decide⟩)
        [quietNandCall [quietNandPass]] startedNandState = some (.operationFinished, s') ∧
      copyNandflashImageToSdram 2048 s'.flash [.failed 6 (by decide) []] primaryImageNandOffset 1 0
        (fun _ => 0) = some (0, t) ∧ ¬ LoadCorrect [7] sdramDestination 0 t := by
  refine ⟨_, _, rfl, rfl, fun hcorrect => hcorrect.reported ?_ rfl⟩
  decide

end Boot
end Obsw
