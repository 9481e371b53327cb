import Obsw.Engine.NandRetry
import Obsw.Lib.Device
import Obsw.Lib.Rounding

/-!
# `Engine.NandBlocks` — the blocks a copy erases and writes

Each bootloader has a block of its own, the images have the blocks behind them. The erase step erases the
block of a bootloader, and for an image two blocks more than the file needs, as a number of eight bits
computed in single precision counts them. The copy step goes on from block to block and never compares.
Up to `maxSize` a file is written to erased blocks of its own (`BlocksRespected`); any longer one is
written to a block that has not been erased.
-/

namespace Obsw
namespace Engine

open Memory LittleEndian Device Loop ImageCopyingEngine

variable {target : NandTarget} {card : Card}

/-! ## The property -/

def NandCommand.block : NandCommand → Nat
  | erase block => block
  | write block _ => block

/-- The blocks reserved for the target. -/
def NandTarget.Reserves : NandTarget → Nat → Prop
  | bootloader0, block => block = 0
  | bootloader1, block => block = 1
  | _, block => 2 ≤ block

/-- The commands keep to the target's blocks, and a block that is written has been erased before. -/
structure BlocksRespected (target : NandTarget) (commands : List NandCommand) : Prop where
  reserved : ∀ c ∈ commands, target.Reserves c.block
  erased : ∀ earlier block page later, commands = earlier ++ .write block page :: later →
    .erase block ∈ earlier

/-- A copy to the target keeps to its blocks in every state a call leaves it in. -/
def BlockSafe (target : NandTarget) (card : Card) : Prop :=
  ∀ (calls : List NandCall) (s s' : NandState) (e : ImageCopyingEngine),
    s.engine = startNandCopy target e → s.commands = [] →
    (passes (fun _ => true) (nandCall card) calls s = some s' →
      BlocksRespected target s'.commands) ∧
    ∀ r, nandRun card calls s = some (r, s') → BlocksRespected target s'.commands

/-! ## Sizes -/

/-- The bytes of a block. -/
def blockSize : Nat := pagesPerBlock * nandPageSize

/-- The number of blocks the erase step erases, from the first block of the target on. -/
def NandTarget.erasedBlocks : NandTarget → Nat → Nat
  | bootloader0, _ | bootloader1, _ => 1
  | _, n => requiredBlocks n + 2

/-- The longest file the erased blocks are enough for. -/
def NandTarget.maxSize : NandTarget → Nat
  | bootloader0 | bootloader1 => blockSize
  | _ => 255 * blockSize + 1

theorem blockSize_eq : blockSize = 131072 := rfl

/-- A size as a `float` is the size in the format with 24 significant bits. -/
theorem floatOfSize_eq (n : Nat) : floatOfSize n = Rounding.nearest 24 n := by
  by_cases hsmall : n < 2 ^ 24
  · rw [Rounding.nearest_of_lt hsmall]
    exact if_pos hsmall
  · have hulp : Rounding.ulp 24 n = 2 ^ (n.log2 - 23) := by
      unfold Rounding.ulp
      rw [show n.log2 + 1 - 24 = n.log2 - 23 by omega]
    unfold floatOfSize Rounding.nearest
    rw [if_neg hsmall, hulp]
    exact if_congr (or_congr Iff.rfl (and_congr_left' eq_comm)) rfl rfl

theorem requiredBlocks_eq (n : Nat) :
    requiredBlocks n = (Rounding.nearest 24 n + 131071) / 131072 % 256 := by
  unfold requiredBlocks
  rw [floatOfSize_eq]
  rfl

theorem requiredBlocks_lt (n : Nat) : requiredBlocks n < 256 := Nat.mod_lt _ (by decide)

/-- The size of a file is rounded by less than a page. -/
theorem nearest_size {n : Nat} (h : n < 2 ^ 31) :
    n ≤ Rounding.nearest 24 n + 128 ∧ Rounding.nearest 24 n ≤ n + 128 := by
  have hulp : Rounding.ulp 24 n ≤ 128 := by
    have hlog : n.log2 < 31 := by
      rcases Nat.eq_zero_or_pos n with rfl | hpos
      · decide
      · exact (Nat.log2_lt (Nat.ne_of_gt hpos)).mpr h
    calc Rounding.ulp 24 n = 2 ^ (n.log2 + 1 - 24) := rfl
      _ ≤ 2 ^ 7 := Nat.pow_le_pow_right (by decide) (by omega)
  have hfloor := Rounding.floor_le_nearest 24 n
  have hceil := Rounding.nearest_le_ceil 24 n
  have hdiv := Nat.div_add_mod n (Rounding.ulp 24 n)
  have hmod := Nat.mod_lt n (Rounding.ulp_pos 24 n)
  rw [Nat.add_mul, Nat.one_mul] at hceil
  rw [Nat.mul_comm] at hdiv
  omega

/-- **The erased blocks are enough for the files up to `maxSize`.** -/
theorem le_maxSize_iff (target : NandTarget) {n : Nat} (h : n < 2 ^ 31) :
    n ≤ target.maxSize ↔ n ≤ blockSize * target.erasedBlocks n := by
  have hobsw : n ≤ 255 * 131072 + 1 ↔ n ≤ 131072 * (requiredBlocks n + 2) := by
    obtain ⟨hlow, hhigh⟩ := nearest_size h
    rw [requiredBlocks_eq]
    constructor
    · intro hle
      -- the size one byte behind 255 blocks is rounded to 255 blocks
      have hround := Rounding.nearest_mono (p := 24) (by decide) hle
      rw [show Rounding.nearest 24 (255 * 131072 + 1) = 255 * 131072 from by decide +kernel] at hround
      omega
    · intro hle
      by_contra hlt
      have hround := Rounding.nearest_mono (p := 24) (by decide)
        (show 255 * 131072 + 2 ≤ n by omega)
      rw [show Rounding.nearest 24 (255 * 131072 + 2) = 255 * 131072 + 2 from by decide +kernel]
        at hround
      omega
  cases target with
  | bootloader0 | bootloader1 => exact Iff.rfl
  | obswSlot0 | obswSlot1 => exact hobsw

theorem erasedBlocks_pos (target : NandTarget) (n : Nat) : 0 < target.erasedBlocks n := by
  cases target <;> exact Nat.succ_pos _

theorem erasedBlocks_le (target : NandTarget) (n : Nat) : target.erasedBlocks n ≤ 257 := by
  have hlt := requiredBlocks_lt n
  cases target with
  | bootloader0 | bootloader1 => exact (by decide : 1 ≤ 257)
  | obswSlot0 | obswSlot1 =>
      show requiredBlocks n + 2 ≤ 257
      omega

/-! ## The log of a copy -/

/-- The erase commands of the first `k` blocks of a target. -/
def blockErasures (target : NandTarget) (k : Nat) : List NandCommand :=
  (List.range k).map fun i => .erase (target.startBlock + i)

theorem blockErasures_succ (target : NandTarget) (k : Nat) :
    blockErasures target (k + 1) = blockErasures target k ++ [.erase (target.startBlock + k)] := by
  simp [blockErasures, List.range_succ]

theorem mem_blockErasures {k : Nat} {c : NandCommand} :
    c ∈ blockErasures target k ↔ ∃ i < k, c = .erase (target.startBlock + i) := by
  simp only [blockErasures, List.mem_map, List.mem_range]
  exact ⟨fun ⟨i, hlt, h⟩ => ⟨i, hlt, h.symm⟩, fun ⟨i, hlt, h⟩ => ⟨i, hlt, h.symm⟩⟩

/-- A write to one of the first `k` blocks of a target. -/
def InBlocks (target : NandTarget) (k : Nat) (c : NandCommand) : Prop :=
  ∃ i page, i < k ∧ c = .write (target.startBlock + i) page

/-- The log behind `k` erase commands: they are followed by writes only if they are all, and the writes
    go to the blocks that have been erased. -/
def BlockLog (target : NandTarget) (n k : Nat) (commands : List NandCommand) : Prop :=
  k ≤ target.erasedBlocks n ∧ ∃ writes, commands = blockErasures target k ++ writes ∧
    ∀ c ∈ writes, InBlocks target k c

theorem reserves_startBlock_add {n i : Nat} (h : i < target.erasedBlocks n) :
    target.Reserves (target.startBlock + i) := by
  cases target with
  | bootloader0 | bootloader1 =>
      obtain rfl : i = 0 := Nat.lt_one_iff.mp h
      rfl
  | obswSlot0 | obswSlot1 => exact Nat.le_add_right 2 i

/-- **Such a log keeps to the target's blocks.** -/
theorem BlockLog.respected {n k : Nat} {commands : List NandCommand}
    (h : BlockLog target n k commands) : BlocksRespected target commands := by
  obtain ⟨hk, writes, rfl, hwrites⟩ := h
  constructor
  · intro c hc
    rcases List.mem_append.mp hc with herase | hwrite
    · obtain ⟨i, hi, rfl⟩ := mem_blockErasures.mp herase
      exact reserves_startBlock_add (Nat.lt_of_lt_of_le hi hk)
    · obtain ⟨i, page, hi, rfl⟩ := hwrites c hwrite
      exact reserves_startBlock_add (Nat.lt_of_lt_of_le hi hk)
  · intro earlier block page later heq
    obtain ⟨⟨more, rfl⟩, hmem⟩ := exists_append_of_notMem heq fun hc => by
      obtain ⟨_, _, hno⟩ := mem_blockErasures.mp hc
      cases hno
    obtain ⟨i, _, hi, hwrite⟩ := hwrites _ hmem
    obtain ⟨rfl, rfl⟩ := NandCommand.write.inj hwrite
    exact List.mem_append_left _ (mem_blockErasures.mpr ⟨i, hi, rfl⟩)

theorem BlockLog.write {n k i page : Nat} {commands : List NandCommand}
    (h : BlockLog target n k commands) (hi : i < k) :
    BlockLog target n k (commands ++ [.write (target.startBlock + i) page]) := by
  obtain ⟨hk, writes, rfl, hwrites⟩ := h
  refine ⟨hk, writes ++ [_], List.append_assoc _ _ _, fun c hc => ?_⟩
  rcases List.mem_append.mp hc with hc | hc
  · exact hwrites c hc
  · exact ⟨i, page, hi, List.mem_singleton.mp hc⟩

theorem blockLog_erasures {n k : Nat} (h : k ≤ target.erasedBlocks n) :
    BlockLog target n k (blockErasures target k) :=
  ⟨h, [], (List.append_nil _).symm, fun c hc => by cases hc⟩

/-! ## The erase step -/

/-- The log during the erase step: the blocks erased so far. -/
structure ErasingLog (target : NandTarget) (n : Nat) (s : NandState) : Prop where
  counted : s.engine.helperFlag1 = true → s.engine.helperCounter1 ≤ s.engine.helperCounter2 ∧
    s.engine.helperCounter2 = target.erasedBlocks n
  log : s.commands = blockErasures target
    (if s.engine.helperFlag1 then s.engine.helperCounter1 else 0)

/-- What the log holds when the erasure returns `r`. -/
def ErasureLogged (target : NandTarget) (n : Nat) (r : ReturnValue) (s : NandState) : Prop :=
  (r = .returnOk ∧ s.commands = blockErasures target (target.erasedBlocks n)) ∨
    (r = .taskPeriodOverSoon ∧ ErasingLog target n s) ∨
    (r = .returnFailed ∧ ∃ k, BlockLog target n k s.commands)

theorem ErasingLog.blockLog {n : Nat} {s : NandState} (h : ErasingLog target n s) :
    ∃ k, BlockLog target n k s.commands := by
  rw [h.log]
  refine ⟨_, blockLog_erasures ?_⟩
  by_cases hflag : s.engine.helperFlag1 = true
  · obtain ⟨hle, heq⟩ := h.counted hflag
    rw [if_pos hflag]
    exact heq ▸ hle
  · rw [if_neg hflag]
    exact Nat.zero_le _

/-- A pass of the erase loop erases the next block. -/
theorem nandErasePass_log {n : Nat} {pass : NandErasePass} {s : NandState}
    {fl : Flow ReturnValue NandState} (hstart : target.startBlock = 2) (h : ErasingLog target n s)
    (hflag : s.engine.helperFlag1 = true) (hmore : moreBlocks s = true)
    (hpass : nandErasePass pass s = some fl) :
    ∃ s', (fl = .next s' ∨ fl = .ret .taskPeriodOverSoon s') ∧ ErasingLog target n s' ∧
      s'.engine.helperFlag1 = true := by
  obtain ⟨hle, heq⟩ := h.counted hflag
  have hlt : s.engine.helperCounter1 < s.engine.helperCounter2 := of_decide_eq_true hmore
  have hmax := erasedBlocks_le target n
  have hnext : (s.engine.helperCounter1 + 1) % 2 ^ 16 = s.engine.helperCounter1 + 1 := by omega
  have hblock : (s.engine.helperCounter1 + 2) % 2 ^ 16 =
      target.startBlock + s.engine.helperCounter1 := by omega
  have hlog := h.log
  rw [if_pos hflag] at hlog
  have hlog' : ErasingLog target n
      { engine := { s.engine with helperCounter1 := (s.engine.helperCounter1 + 1) % 2 ^ 16 }
        flash := skipBlockEraseBlock pass.erase s.flash ((s.engine.helperCounter1 + 2) % 2 ^ 16)
        commands := s.commands ++ [.erase ((s.engine.helperCounter1 + 2) % 2 ^ 16)] } := by
    refine ⟨fun _ => ⟨?_, heq⟩, ?_⟩
    · show (s.engine.helperCounter1 + 1) % 2 ^ 16 ≤ s.engine.helperCounter2
      omega
    · show s.commands ++ _ = blockErasures target (if s.engine.helperFlag1 = true then _ else 0)
      rw [if_pos hflag, hnext, blockErasures_succ, hlog, hblock]
  unfold nandErasePass at hpass
  dsimp only at hpass
  split_ifs at hpass with htimeout
  · exact ⟨_, .inr (Option.some.inj hpass).symm, hlog', hflag⟩
  · exact ⟨_, .inl (Option.some.inj hpass).symm, hlog', hflag⟩

theorem handleErasingForObsw_log {call : NandCall} {s s' : NandState} {r : ReturnValue}
    (herasing : NandErasing target s.engine) (hstart : target.startBlock = 2)
    (h : ErasingLog target (fileBytes card target.path).length s)
    (hcall : handleErasingForObsw card call s = some (r, s')) :
    ErasureLogged target (fileBytes card target.path).length r s' := by
  -- behind the caching, the counters belong to the file
  have hcached : ErasingLog target (fileBytes card target.path).length
      (if s.engine.helperFlag1 = true then s
        else { s with engine := cacheRequiredBlocks card s.engine }) ∧
      (if s.engine.helperFlag1 = true then s
        else { s with engine := cacheRequiredBlocks card s.engine }).engine.helperFlag1 = true := by
    split_ifs with hflag
    · exact ⟨h, hflag⟩
    · have hlog := h.log
      rw [if_neg hflag] at hlog
      refine ⟨⟨fun _ => ⟨Nat.zero_le _, ?_⟩, hlog⟩, rfl⟩
      unfold cacheRequiredBlocks
      dsimp only
      rw [herasing.source]
      cases target with
      | bootloader0 | bootloader1 => exact absurd hstart (by decide)
      | obswSlot0 | obswSlot1 => rfl
  rcases handleErasingForObsw_induct
    (I := fun t => ErasingLog target (fileBytes card target.path).length t ∧
      t.engine.helperFlag1 = true)
    (Q := ErasureLogged target (fileBytes card target.path).length) hcached
    (fun _ _ t' hI hmore hb => by
      obtain ⟨t₁, hfl, hlog⟩ := nandErasePass_log hstart hI.1 hI.2 hmore hb
      rcases hfl with hfl | hfl
      · exact Flow.next.inj hfl ▸ hlog
      · cases hfl)
    (fun _ _ r₁ t' hI hmore hb => by
      obtain ⟨t₁, hfl, hlog⟩ := nandErasePass_log hstart hI.1 hI.2 hmore hb
      rcases hfl with hfl | hfl
      · cases hfl
      · obtain ⟨rfl, rfl⟩ := Flow.ret.inj hfl
        exact .inr (.inl ⟨rfl, hlog.1⟩)) hcall with
    ⟨rfl, rfl⟩ | hends | ⟨s₁, ⟨hlog, hflag⟩, hdone, rfl, rfl⟩
  · exact .inr (.inr ⟨rfl, h.blockLog⟩)
  · exact hends
  · obtain ⟨hle, heq⟩ := hlog.counted hflag
    have hnot := of_decide_eq_false hdone
    refine .inl ⟨rfl, ?_⟩
    have hall := hlog.log
    rw [if_pos hflag, show s₁.engine.helperCounter1 =
      target.erasedBlocks (fileBytes card target.path).length by omega] at hall
    exact hall

theorem eraseForSource_log {call : NandCall} {s s' : NandState} {r : ReturnValue}
    (herasing : NandErasing target s.engine)
    (h : ErasingLog target (fileBytes card target.path).length s)
    (hcall : eraseForSource card call s = some (r, s')) :
    ErasureLogged target (fileBytes card target.path).length r s' := by
  have hbootloader : target = .bootloader0 ∨ target = .bootloader1 →
      eraseBootloaderBlock call target.startBlock s = (r, s') →
        ErasureLogged target (fileBytes card target.path).length r s' := by
    intro htarget heq
    have hone : target.erasedBlocks (fileBytes card target.path).length = 1 := by
      rcases htarget with rfl | rfl <;> rfl
    have hlog := h.log
    rw [if_neg (by rw [herasing.flag htarget]; decide)] at hlog
    have hall : s.commands ++ [.erase target.startBlock] = blockErasures target 1 := by
      rw [blockErasures_succ, hlog]
      rfl
    unfold eraseBootloaderBlock at heq
    obtain ⟨rfl, rfl⟩ := Prod.mk.inj heq
    split_ifs
    · refine .inr (.inr ⟨rfl, 1, ?_⟩)
      show BlockLog target _ 1 (s.commands ++ [.erase target.startBlock])
      rw [hall]
      exact blockLog_erasures (Nat.le_of_eq hone.symm)
    · exact .inl ⟨rfl, hone.symm ▸ hall⟩
  unfold eraseForSource at hcall
  rw [herasing.source] at hcall
  cases target with
  | bootloader0 => exact hbootloader (.inl rfl) (Option.some.inj hcall)
  | bootloader1 => exact hbootloader (.inr rfl) (Option.some.inj hcall)
  | obswSlot0 => exact handleErasingForObsw_log herasing rfl h hcall
  | obswSlot1 => exact handleErasingForObsw_log herasing rfl h hcall

/-! ## The copy step -/

/-- The position of the copy step: as many pages as counted lie behind the byte index, and the next one
    is the next page of the target's blocks. -/
structure Position (target : NandTarget) (n : Nat) (e : ImageCopyingEngine) : Prop where
  source : e.sourceSlot = target.slot
  hamming : e.hammingCode = false
  internal : e.internalState = .step2
  idx : e.currentByteIdx = nandPageSize * e.stepCounter
  page : nextPage e =
    (target.startBlock + e.stepCounter / pagesPerBlock, e.stepCounter % pagesPerBlock)
  size : e.stepCounter ≠ 0 → e.currentFileSize = n ∧ e.currentByteIdx < n

variable {n : Nat}

/-- The first page is that of the target's first block. -/
theorem NandErased.position {e : ImageCopyingEngine} (h : NandErased target e)
    (hinternal : e.internalState = .step2) : Position target n e := by
  refine ⟨h.source, h.hamming, hinternal, ?_, ?_, fun hno => absurd h.step hno⟩
  · rw [h.idx, h.step, Nat.mul_zero]
  · rw [nextPage_first h.step, h.source, target.nandStartBlock_slot, h.step]
    rfl

/-- Reading a page, padding the buffer and failing do not move it. -/
theorem Position.moved {e : ImageCopyingEngine} (h : Position target n e) (buffer : Mem UInt8)
    (errors : Nat) : Position target n { e with imgBuffer := buffer, errorCount := errors } := by
  have hpage : nextPage { e with imgBuffer := buffer, errorCount := errors } = nextPage e :=
    nextPage_congr rfl rfl rfl rfl
  exact ⟨h.source, h.hamming, h.internal, h.idx, hpage.trans h.page, h.size⟩

theorem pageRead_idx {e : ImageCopyingEngine} (h : e.currentByteIdx = nandPageSize * e.stepCounter) :
    (pageRead e).currentByteIdx = e.currentByteIdx ∧
      (pageRead e).currentFileSize = e.currentFileSize := by
  unfold pageRead nextBlock beginNandCopy
  by_cases hzero : e.stepCounter = 0
  · have hidx : e.currentByteIdx = 0 := by rw [h, hzero, Nat.mul_zero]
    rw [if_pos hzero]
    split_ifs <;> exact ⟨hidx.symm, rfl⟩
  · rw [if_neg hzero]
    split_ifs <;> exact ⟨rfl, rfl⟩

/-- A page that could not be written is the next one still. -/
theorem Position.notWritten {e : ImageCopyingEngine} (h : Position target n e) :
    Position target n (pageRead e).countError := by
  obtain ⟨_, _, hsource, hhamming, hinternal, hstep⟩ := pageRead_fields e
  obtain ⟨hidx, hsize⟩ := pageRead_idx h.idx
  refine ⟨hsource.trans h.source, hhamming.trans h.hamming, hinternal.trans h.internal, ?_, ?_, ?_⟩
  · show (pageRead e).currentByteIdx = nandPageSize * (pageRead e).stepCounter
    rw [hidx, hstep, h.idx]
  · show nextPage (pageRead e).countError = (target.startBlock + (pageRead e).stepCounter / pagesPerBlock,
      (pageRead e).stepCounter % pagesPerBlock)
    rw [hstep, ← h.page, ← nextPage_pageRead e]
    exact nextPage_congr rfl rfl rfl rfl
  · show (pageRead e).stepCounter ≠ 0 →
      (pageRead e).currentFileSize = n ∧ (pageRead e).currentByteIdx < n
    rw [hstep, hidx, hsize]
    exact h.size

theorem startBlock_lt (target : NandTarget) : target.startBlock < 3 := by
  have hle := startBlock_le target
  omega

/-- What counting a page leaves as it is. -/
theorem countPage_fields (e : ImageCopyingEngine) :
    (countPage e).sourceSlot = e.sourceSlot ∧ (countPage e).hammingCode = e.hammingCode ∧
      (countPage e).internalState = e.internalState ∧
      (countPage e).currentFileSize = e.currentFileSize :=
  ⟨rfl, rfl, rfl, rfl⟩

/-- Behind a page that has been written comes the next one. -/
theorem Position.written {e : ImageCopyingEngine} (h : Position target n e)
    (hsize : e.currentFileSize = n) (hstep : e.stepCounter + 1 < 2 ^ 16)
    (hmore : (countPage (pageRead e)).currentByteIdx < n) :
    Position target n (countPage (pageRead e)) ∧
      (countPage (pageRead e)).stepCounter = e.stepCounter + 1 := by
  obtain ⟨_, _, hsource, hhamming, hinternal, hsame⟩ := pageRead_fields e
  obtain ⟨hidx, hsize'⟩ := pageRead_idx h.idx
  obtain ⟨hslot, hcode, hstate, hfile⟩ := countPage_fields (pageRead e)
  have hnext : (countPage (pageRead e)).stepCounter = e.stepCounter + 1 := by
    show ((pageRead e).stepCounter + 1) % 2 ^ 16 = _
    rw [hsame]
    exact Nat.mod_eq_of_lt hstep
  refine ⟨⟨hslot.trans (hsource.trans h.source), hcode.trans (hhamming.trans h.hamming),
    hstate.trans (hinternal.trans h.internal), ?_, ?_,
    fun _ => ⟨hfile.trans (hsize'.trans hsize), hmore⟩⟩, hnext⟩
  · rw [hnext]
    show (pageRead e).currentByteIdx + nandPageSize = _
    rw [hidx, h.idx, Nat.mul_add, Nat.mul_one]
  · have hstart := startBlock_lt target
    have hblock : (pageRead e).helperCounter1 =
        target.startBlock + e.stepCounter / pagesPerBlock := (Prod.mk.inj h.page).1
    have hpage : (pageRead e).helperCounter2 = e.stepCounter % pagesPerBlock :=
      (Prod.mk.inj h.page).2
    rw [nextPage_later (by rw [hnext]; exact Nat.succ_ne_zero _), hnext]
    show (if ((pageRead e).helperCounter2 + 1) % 2 ^ 16 = pagesPerBlock
      then (((pageRead e).helperCounter1 + 1) % 2 ^ 16, 0)
      else ((pageRead e).helperCounter1, ((pageRead e).helperCounter2 + 1) % 2 ^ 16)) = _
    rw [hblock, hpage]
    unfold pagesPerBlock
    split_ifs with hfull <;> refine Prod.ext ?_ ?_ <;> dsimp only <;> omega

/-- What a pass leaves behind when it returns `r`: it has written the next page or nothing, and the copy
    step goes on from its position. -/
def PassLogged (target : NandTarget) (n : Nat) (r : ReturnValue) (s s' : NandState) : Prop :=
  (∃ commands, Adds s s' commands ∧ (commands = [] ∨ commands =
    [.write (target.startBlock + s.engine.stepCounter / pagesPerBlock)
      (s.engine.stepCounter % pagesPerBlock)])) ∧
    (r = .returnOk ∨ r = .taskPeriodOverSoon →
      Position target n s'.engine ∧ s'.engine.currentFileSize = n)

theorem writePage_logged {pass : NandPass} {s s' : NandState} {e : ImageCopyingEngine}
    {r : ReturnValue} (h : Position target n e) (hsize : e.currentFileSize = n)
    (hstep : e.stepCounter + 1 < 2 ^ 16) (hsame : e.stepCounter = s.engine.stepCounter)
    (hwrite : writePage pass { s with engine := pageRead e } = (r, s')) :
    PassLogged target n r s s' := by
  have hcommand : NandCommand.write (pageRead e).helperCounter1 (pageRead e).helperCounter2 =
      .write (target.startBlock + s.engine.stepCounter / pagesPerBlock)
        (s.engine.stepCounter % pagesPerBlock) := by
    obtain ⟨hblock, hpage⟩ := Prod.mk.inj h.page
    rw [hblock, hpage, hsame]
  have hread := (pageRead_idx h.idx).2
  unfold writePage at hwrite
  dsimp only at hwrite
  rw [hcommand] at hwrite
  by_cases hfailed : pass.write.retval ≠ 0
  · rw [if_pos hfailed] at hwrite
    obtain ⟨_, rfl⟩ := Prod.mk.inj hwrite
    exact ⟨⟨_, rfl, .inr rfl⟩, fun _ => ⟨h.notWritten, hread.trans hsize⟩⟩
  · rw [if_neg hfailed] at hwrite
    by_cases hend : (countPage (pageRead e)).currentFileSize ≤ (countPage (pageRead e)).currentByteIdx
    · rw [if_pos hend] at hwrite
      obtain ⟨rfl, rfl⟩ := Prod.mk.inj hwrite
      exact ⟨⟨_, rfl, .inr rfl⟩, fun hno => by rcases hno with hno | hno <;> cases hno⟩
    · rw [if_neg hend] at hwrite
      obtain ⟨_, rfl⟩ := Prod.mk.inj hwrite
      have hmore : (countPage (pageRead e)).currentByteIdx < n := by
        have hlt := Nat.lt_of_not_le hend
        rwa [show (countPage (pageRead e)).currentFileSize = n from hread.trans hsize] at hlt
      exact ⟨⟨_, rfl, .inr rfl⟩, fun _ => ⟨(h.written hsize hstep hmore).1, hread.trans hsize⟩⟩

/-- **Pass.** -/
theorem performNandCopyAlgorithm_logged {pass : NandPass} {file file' : FFile} {s s' : NandState}
    {r : ReturnValue} (h : Position target n s.engine) (hsize : s.engine.currentFileSize = n)
    (hstep : s.engine.stepCounter + 1 < 2 ^ 16)
    (hpass : performNandCopyAlgorithm pass file s = (r, file', s')) :
    PassLogged target n r s s' := by
  have hnothing : Adds s s [] := (List.append_nil _).symm
  unfold performNandCopyAlgorithm at hpass
  by_cases htimeout : pass.timedOutBefore = true
  · rw [if_pos htimeout] at hpass
    obtain ⟨_, _, rfl⟩ := hpass
    exact ⟨⟨[], hnothing, .inl rfl⟩, fun _ => ⟨h, hsize⟩⟩
  · rw [if_neg htimeout] at hpass
    obtain ⟨buffer, hpad, _⟩ := padBuffer_spec s.engine
    rcases hread : readPage pass file (padBuffer s.engine) with ⟨r₁, file₁, e₁⟩
    by_cases hok : r₁ = .returnOk
    · subst hok
      rw [hread] at hpass
      obtain ⟨rfl, _, rfl⟩ := hpass
      rw [hpad] at hread
      obtain ⟨buffer', rfl⟩ : ∃ buffer', e₁ = { s.engine with imgBuffer := buffer' } := by
        rcases readPage_ok hread with ⟨_, _, rfl⟩ | ⟨_, _, _, rfl⟩
        · exact ⟨_, rfl⟩
        · exact ⟨_, rfl⟩
      exact writePage_logged (h.moved buffer' s.engine.errorCount) hsize hstep rfl rfl
    · obtain ⟨hr, _, buffer', errors, he⟩ := readPage_failed hread hok
      have hres : s' = { s with engine := e₁ } := by
        rw [hread] at hpass
        rcases hr with rfl | rfl <;> obtain ⟨_, _, rfl⟩ := hpass <;> rfl
      rw [hpad] at he
      rw [hres, he]
      exact ⟨⟨[], (List.append_nil _).symm, .inl rfl⟩, fun _ => ⟨h.moved buffer' errors, hsize⟩⟩

/-! ## Files up to `maxSize` -/

/-- Between two calls: the log of the step the operation is in. -/
def BlocksInProgress (target : NandTarget) (n : Nat) (s : NandState) : Prop :=
  (NandErasing target s.engine ∧ ErasingLog target n s) ∨
    (Position target n s.engine ∧ BlockLog target n (target.erasedBlocks n) s.commands)

/-- The next page lies in a block that has been erased, and can be counted. -/
theorem Position.inBlocks {e : ImageCopyingEngine} (h : Position target n e)
    (hfit : n ≤ blockSize * target.erasedBlocks n) :
    e.stepCounter / pagesPerBlock < target.erasedBlocks n ∧ e.stepCounter + 1 < 2 ^ 16 := by
  have hpos := erasedBlocks_pos target n
  have hle := erasedBlocks_le target n
  rw [blockSize_eq] at hfit
  unfold pagesPerBlock
  by_cases hzero : e.stepCounter = 0
  · rw [hzero]
    exact ⟨hpos, by decide⟩
  · have hlt := (h.size hzero).2
    rw [h.idx] at hlt
    unfold nandPageSize at hlt
    omega

/-- The copy loop keeps to the erased blocks. -/
theorem nandCopyLoop_blocks {passes : List NandPass} {p p' : NandLoop} {r : ReturnValue}
    (hfit : n ≤ blockSize * target.erasedBlocks n) (h : Position target n p.2.engine)
    (hsize : p.2.engine.currentFileSize = n)
    (hlog : BlockLog target n (target.erasedBlocks n) p.2.commands)
    (hloop : whileLoop (fun _ => true) nandCopyPass passes p = some (.ret r p')) :
    BlockLog target n (target.erasedBlocks n) p'.2.commands ∧
      (r = .taskPeriodOverSoon → Position target n p'.2.engine) := by
  have hpass : ∀ (pass : NandPass) (t : NandLoop), Position target n t.2.engine →
      BlockLog target n (target.erasedBlocks n) t.2.commands → t.2.engine.currentFileSize = n →
      ∀ r₁ file₁ s₁, performNandCopyAlgorithm pass t.1 t.2 = (r₁, file₁, s₁) →
        BlockLog target n (target.erasedBlocks n) s₁.commands ∧
          (r₁ = .returnOk ∨ r₁ = .taskPeriodOverSoon →
            Position target n s₁.engine ∧ s₁.engine.currentFileSize = n) := by
    intro pass t hpos hcommands hcached r₁ file₁ s₁ hperform
    obtain ⟨hblock, hcount⟩ := hpos.inBlocks hfit
    obtain ⟨⟨commands, hadds, hnext⟩, hgoes⟩ :=
      performNandCopyAlgorithm_logged hpos hcached hcount hperform
    refine ⟨?_, hgoes⟩
    rw [show s₁.commands = t.2.commands ++ commands from hadds]
    rcases hnext with rfl | rfl
    · rwa [List.append_nil]
    · exact hcommands.write hblock
  refine (whileLoop_induct (fun _ => true) nandCopyPass
    (I := fun t => Position target n t.2.engine ∧
      BlockLog target n (target.erasedBlocks n) t.2.commands ∧ t.2.engine.currentFileSize = n)
    (Q := fun r t => BlockLog target n (target.erasedBlocks n) t.2.commands ∧
      (r = .taskPeriodOverSoon → Position target n t.2.engine))
    (fun pass t t' hI _ _ hb => ?_) (fun pass t r t' hI _ _ hb => ?_) passes p
    ⟨h, hlog, hsize⟩ (along_true _ _)).2 r p' hloop
  · rcases hperform : performNandCopyAlgorithm pass t.1 t.2 with ⟨r₁, file₁, s₁⟩
    obtain ⟨hcommands, hgoes⟩ := hpass pass t hI.1 hI.2.1 hI.2.2 r₁ file₁ s₁ hperform
    unfold nandCopyPass at hb
    rw [hperform] at hb
    cases r₁ <;> cases hb
    obtain ⟨hpos, hcached⟩ := hgoes (.inl rfl)
    exact ⟨hpos, hcommands, hcached⟩
  · rcases hperform : performNandCopyAlgorithm pass t.1 t.2 with ⟨r₁, file₁, s₁⟩
    obtain ⟨hcommands, hgoes⟩ := hpass pass t hI.1 hI.2.1 hI.2.2 r₁ file₁ s₁ hperform
    unfold nandCopyPass at hb
    rw [hperform] at hb
    cases r₁ <;> cases hb <;> exact ⟨hcommands, fun hsoon => (hgoes (.inr hsoon)).1⟩

/-- The erase step is to be continued, or the copy step is entered with all blocks erased. -/
theorem nandEraseStep_blocks {call : NandCall} {s s' : NandState} {r : ReturnValue}
    (h : BlocksInProgress target (fileBytes card target.path).length s)
    (hcall : nandEraseStep card call s = some (r, s')) :
    (∃ k, BlockLog target (fileBytes card target.path).length k s'.commands) ∧
      (r = .taskPeriodOverSoon →
        BlocksInProgress target (fileBytes card target.path).length s') ∧
      (r = .returnOk → Position target (fileBytes card target.path).length s'.engine ∧
        BlockLog target (fileBytes card target.path).length
          (target.erasedBlocks (fileBytes card target.path).length) s'.commands) := by
  rcases h with ⟨herasing, hlog⟩ | ⟨hpos, hlog⟩
  · obtain ⟨t, rfl, hends⟩ := nandEraseStep_cases herasing.internal hcall
    have ht : NandErasing target { s.engine with internalState := .step1 } :=
      ⟨herasing.source, herasing.hamming, .inr rfl, herasing.step, herasing.idx, herasing.flag⟩
    have htlog : ErasingLog target (fileBytes card target.path).length
        { s with engine := { s.engine with internalState := .step1 } } := ⟨hlog.counted, hlog.log⟩
    rcases hends with ⟨rfl, rfl⟩ | ⟨t₁, herase, rfl, hr⟩ | ⟨hr, herase⟩
    · exact ⟨htlog.blockLog, fun _ => .inl ⟨ht, htlog⟩, fun hno => by cases hno⟩
    · rcases eraseForSource_log ht htlog herase with ⟨_, hall⟩ | ⟨hno, _⟩ | ⟨hno, _⟩
      · have hblocks : BlockLog target (fileBytes card target.path).length
            (target.erasedBlocks (fileBytes card target.path).length) t₁.commands := by
          rw [hall]
          exact blockLog_erasures (Nat.le_refl _)
        have hpos : Position target (fileBytes card target.path).length
            { t₁.engine with internalState := .step2 } := by
          rcases eraseForSource_ends ht herase with ⟨_, hdone⟩ | ⟨hno, _⟩ | hno
          · exact NandErased.position
              ⟨hdone.source, hdone.hamming, hdone.step, hdone.idx, hdone.flag⟩ rfl
          · cases hno
          · cases hno
        exact ⟨⟨_, hblocks⟩, fun _ => .inr ⟨hpos, hblocks⟩, fun _ => ⟨hpos, hblocks⟩⟩
      · cases hno
      · cases hno
    · rcases eraseForSource_log ht htlog herase with ⟨hno, _⟩ | ⟨rfl, hsoon⟩ | ⟨rfl, hfailed⟩
      · exact absurd hno hr
      · refine ⟨hsoon.blockLog, fun _ => .inl ⟨?_, hsoon⟩, fun hno => by cases hno⟩
        rcases eraseForSource_ends ht herase with ⟨hno, _⟩ | ⟨_, hgoes⟩ | hno
        · cases hno
        · exact hgoes
        · cases hno
      · exact ⟨hfailed, fun hno => (by cases hno), fun hno => by cases hno⟩
  · rw [nandEraseStep_step2 hpos.internal] at hcall
    obtain ⟨rfl, rfl⟩ := Prod.mk.inj (Option.some.inj hcall)
    exact ⟨⟨_, hlog⟩, fun hno => (by cases hno), fun _ => ⟨hpos, hlog⟩⟩

/-- Preparing the file keeps the position and caches the size. -/
theorem Position.prepared {env : FsEnv} {e e' : ImageCopyingEngine} {file : FFile}
    (h : Position target (fileBytes card target.path).length e)
    (hprep : prepareGenericFileInformation .at91sam9g20Ek card env e = (.ok file, e')) :
    Position target (fileBytes card target.path).length e' ∧
      e'.currentFileSize = (fileBytes card target.path).length := by
  obtain ⟨path, hpath, rfl, _⟩ := prepareGenericFileInformation_ok hprep
  rw [genericFile_nandTarget h.source h.hamming] at hpath
  obtain rfl := Option.some.inj hpath
  by_cases hzero : e.stepCounter = 0
  · have hpage : nextPage { e with currentFileSize := fFilelength card target.path } = nextPage e :=
      nextPage_congr rfl rfl rfl rfl
    unfold cacheFileSize
    rw [if_pos hzero]
    exact ⟨⟨h.source, h.hamming, h.internal, h.idx, hpage.trans h.page,
      fun hno => absurd hzero hno⟩, rfl⟩
  · unfold cacheFileSize
    rw [if_neg hzero]
    exact ⟨h, (h.size hzero).1⟩

/-- **Call.** -/
theorem copySdCardImageToNandFlash_blocks {call : NandCall} {s s' : NandState} {r : ReturnValue}
    (hfit : (fileBytes card target.path).length ≤
      blockSize * target.erasedBlocks (fileBytes card target.path).length)
    (h : BlocksInProgress target (fileBytes card target.path).length s)
    (hcall : copySdCardImageToNandFlash card call s = some (r, s')) :
    (∃ k, BlockLog target (fileBytes card target.path).length k s'.commands) ∧
      (r = .taskPeriodOverSoon →
        BlocksInProgress target (fileBytes card target.path).length s') := by
  rcases copySdCardImageToNandFlash_cases hcall with ⟨_, herase⟩ | ⟨s₁, herase, hcopying⟩
  · obtain ⟨hlog, hsoon, _⟩ := nandEraseStep_blocks h herase
    exact ⟨hlog, hsoon⟩
  · obtain ⟨hpos, hlog⟩ := (nandEraseStep_blocks h herase).2.2 rfl
    rcases hcopying hpos.internal with ⟨e, hprep, rfl⟩ | ⟨file, e, p, hprep, hloop, rfl⟩
    · refine ⟨⟨_, hlog⟩, fun hno => ?_⟩
      rcases prepareGenericFileInformation_error hprep with rfl | rfl <;> cases hno
    · obtain ⟨hentered, hsize⟩ := hpos.prepared hprep
      obtain ⟨hlog', hgoes⟩ := nandCopyLoop_blocks (p := (file, { s₁ with engine := e })) hfit
        hentered hsize hlog hloop
      exact ⟨⟨_, hlog'⟩, fun hsoon => .inr ⟨hgoes hsoon, hlog'⟩⟩

theorem blockSafe_of_le (hle : (fileBytes card target.path).length ≤ target.maxSize) :
    BlockSafe target card := by
  intro calls s s' e hstart hempty
  have hfit := (le_maxSize_iff target (fFilelength_lt card target.path)).mp hle
  have hprogress : BlocksInProgress target (fileBytes card target.path).length s := by
    refine .inl ⟨?_, ?_, ?_⟩
    · rw [hstart]
      cases target <;> exact ⟨rfl, rfl, .inl rfl, rfl, rfl, fun _ => rfl⟩
    · rw [hstart]
      intro hno
      cases target <;> cases hno
    · rw [hempty, hstart]
      cases target <;> rfl
  have hnext : ∀ call t t', BlocksInProgress target (fileBytes card target.path).length t →
      nandCall card call t = some (.next t') →
      BlocksInProgress target (fileBytes card target.path).length t' := fun call t t' hI hb =>
    (copySdCardImageToNandFlash_blocks hfit hI ((nandCall_eq hb).1 t' rfl)).2 rfl
  constructor
  · intro h
    have hreached := passes_induct (fun call t t' hI (_ : True) hb => hnext call t t' hI hb)
      calls s s' hprogress (along_true _ _) h
    rcases hreached with ⟨_, hlog⟩ | ⟨_, hlog⟩
    · obtain ⟨k, hlog⟩ := hlog.blockLog
      exact hlog.respected
    · exact hlog.respected
  · intro r h
    have hrule := whileLoop_induct (fun _ => true) (nandCall card)
      (I := BlocksInProgress target (fileBytes card target.path).length)
      (Q := fun _ t => ∃ k, BlockLog target (fileBytes card target.path).length k t.commands)
      (fun call t t' hI _ _ hb => hnext call t t' hI hb)
      (fun _ _ r t' hI _ _ hb =>
        (copySdCardImageToNandFlash_blocks hfit hI ((nandCall_eq hb).2 r t' rfl)).1)
      calls s hprogress (along_true _ _)
    obtain ⟨k, hlog⟩ := hrule.2 _ _ (nandRun_ret h)
    exact hlog.respected

/-! ## Longer files -/

/-- At page `k` of a file, nothing having gone wrong: the page is about to be read. -/
structure AtNandPage (target : NandTarget) (xs : List UInt8) (k : Nat) (p : NandLoop) : Prop where
  position : Position target xs.length p.2.engine
  size : p.2.engine.currentFileSize = xs.length
  step : p.2.engine.stepCounter = k
  unread : p.2.engine.helperFlag1 = false
  bytes : p.1.bytes = xs
  pos : p.1.pos = p.2.engine.currentByteIdx

/-- A pass that reads and writes its page. -/
structure QuietNandPass (pass : NandPass) : Prop where
  time : pass.timedOutBefore = false
  got : nandPageSize ≤ pass.readGot
  write : pass.write = .done

theorem nandSizeToRead_le (e : ImageCopyingEngine) : nandSizeToRead e ≤ nandPageSize := by
  unfold nandSizeToRead
  split_ifs
  · omega
  · exact Nat.le_refl _

/-- The next page of a file is read as a whole. -/
theorem readPage_quiet {pass : NandPass} (file : FFile) (e : ImageCopyingEngine)
    (hq : QuietNandPass pass) (hunread : e.helperFlag1 = false)
    (hsize : e.currentFileSize = file.bytes.length) (hpos : file.pos = e.currentByteIdx)
    (hlt : e.currentByteIdx < file.bytes.length) :
    ∃ buffer, readPage pass file e =
      (.returnOk, ⟨file.bytes, file.pos + nandSizeToRead e⟩, { e with imgBuffer := buffer }) := by
  have hfits : file.pos + nandSizeToRead e ≤ file.bytes.length ∧ nandSizeToRead e ≠ 0 := by
    unfold nandSizeToRead nandPageSize
    split_ifs <;> omega
  have hlength : (fRead file (nandSizeToRead e) pass.readGot).1.length = nandSizeToRead e :=
    fRead_length ((nandSizeToRead_le e).trans hq.got) hfits.1
  refine ⟨store e.imgBuffer 0 (fRead file (nandSizeToRead e) pass.readGot).1, ?_⟩
  unfold readPage
  rw [if_neg (by rw [hunread]; decide), readFile_eq e (by rw [hlength]; exact hfits.2)]
  dsimp only
  rw [if_neg (not_not.mpr rfl), if_neg (Nat.not_lt.mpr (Nat.le_of_eq hlength.symm)), fRead_file,
    hlength]

/-- **Quiet pass.** It writes its page; the copy is finished, interrupted or at the next page. -/
theorem AtNandPage.pass {xs : List UInt8} {k : Nat} {pass : NandPass} {p : NandLoop}
    (h : AtNandPage target xs k p) (hq : QuietNandPass pass) (hlt : nandPageSize * k < xs.length)
    (hk : k + 1 < 2 ^ 16) :
    ∃ file' s', performNandCopyAlgorithm pass p.1 p.2 =
        (if xs.length ≤ nandPageSize * (k + 1) then .operationFinished
          else if pass.timedOut then .taskPeriodOverSoon else .returnOk, file', s') ∧
      Adds p.2 s' [.write (target.startBlock + k / pagesPerBlock) (k % pagesPerBlock)] ∧
      (nandPageSize * (k + 1) < xs.length → AtNandPage target xs (k + 1) (file', s')) := by
  obtain ⟨hpos, hsize, rfl, hunread, hbytes, hplace⟩ := h
  obtain ⟨buffer, hpad, _⟩ := padBuffer_spec p.2.engine
  have hsizes : nandSizeToRead { p.2.engine with imgBuffer := buffer } = nandSizeToRead p.2.engine :=
    rfl
  obtain ⟨buffer', hread⟩ := readPage_quiet p.1
    { p.2.engine with imgBuffer := buffer } hq hunread (by rw [hbytes]; exact hsize) hplace
    (by rw [hbytes]; exact hpos.idx ▸ hlt)
  have hmoved := hpos.moved buffer' p.2.engine.errorCount
  obtain ⟨hidx, hcached⟩ := pageRead_idx hmoved.idx
  have hcount : (countPage (pageRead { p.2.engine with imgBuffer := buffer' })).currentByteIdx =
      nandPageSize * (p.2.engine.stepCounter + 1) := by
    show (pageRead { p.2.engine with imgBuffer := buffer' }).currentByteIdx + nandPageSize = _
    rw [hidx, Nat.mul_add, Nat.mul_one]
    exact congrArg (· + nandPageSize) hpos.idx
  have hfile : (countPage (pageRead { p.2.engine with imgBuffer := buffer' })).currentFileSize =
      xs.length := hcached.trans hsize
  have hcommand : NandCommand.write
      (pageRead { p.2.engine with imgBuffer := buffer' }).helperCounter1
      (pageRead { p.2.engine with imgBuffer := buffer' }).helperCounter2 =
        .write (target.startBlock + p.2.engine.stepCounter / pagesPerBlock)
          (p.2.engine.stepCounter % pagesPerBlock) := by
    obtain ⟨hblock, hpage⟩ := Prod.mk.inj hmoved.page
    rw [hblock, hpage]
  unfold performNandCopyAlgorithm
  rw [if_neg (by rw [hq.time]; decide), hpad, hread]
  dsimp only
  unfold writePage
  dsimp only
  have hdone : ¬ (NandOutcome.done : NandOutcome Page).retval ≠ 0 := not_not.mpr rfl
  rw [hcommand, hq.write, if_neg hdone, hcount, hfile]
  by_cases hend : xs.length ≤ nandPageSize * (p.2.engine.stepCounter + 1)
  · rw [if_pos hend, if_pos hend]
    exact ⟨_, _, rfl, rfl, fun hno => absurd hend (Nat.not_le.mpr hno)⟩
  · rw [if_neg hend, if_neg hend]
    refine ⟨_, _, rfl, rfl, fun hmore => ?_⟩
    obtain ⟨hnext, hstep⟩ := hmoved.written hsize hk (by rw [hcount]; exact hmore)
    refine ⟨hnext, hfile, hstep, rfl, hbytes, ?_⟩
    show p.1.pos + nandSizeToRead _ =
      (countPage (pageRead { p.2.engine with imgBuffer := buffer' })).currentByteIdx
    have hidx' := hpos.idx
    rw [hcount, hplace, hsizes, hidx']
    unfold nandSizeToRead
    rw [hsize, hidx', if_neg]
    · rw [Nat.mul_add, Nat.mul_one]
    · rw [Nat.mul_add, Nat.mul_one] at hmore
      omega

/-- Quiet passes write one page after the other. -/
theorem passes_quietNand {xs : List UInt8} {k : Nat} (m : Nat) {p : NandLoop}
    (h : AtNandPage target xs k p) (hlt : nandPageSize * (k + m) < xs.length)
    (hk : k + m < 2 ^ 16) :
    ∃ p', passes (fun _ => true) nandCopyPass (List.replicate m quietNandPass) p = some p' ∧
      AtNandPage target xs (k + m) p' ∧
      ∃ commands, Adds p.2 p'.2 commands ∧ ∀ b, NandCommand.erase b ∉ commands := by
  induction m generalizing k p with
  | zero => exact ⟨p, rfl, h, [], (List.append_nil _).symm, fun b hb => by cases hb⟩
  | succ m ih =>
      have hquiet : QuietNandPass quietNandPass := ⟨rfl, Nat.le_refl _, rfl⟩
      have hmono : nandPageSize * (k + 1) ≤ nandPageSize * (k + (m + 1)) :=
        Nat.mul_le_mul_left _ (by omega)
      have hmono' : nandPageSize * k ≤ nandPageSize * (k + (m + 1)) :=
        Nat.mul_le_mul_left _ (by omega)
      obtain ⟨file', s', hperform, hadds, hnext⟩ := h.pass hquiet (by omega) (by omega)
      rw [if_neg (by omega)] at hperform
      have hpass : nandCopyPass quietNandPass p = some (.next (file', s')) := by
        unfold nandCopyPass
        rw [hperform]
        rfl
      have hsum : k + 1 + m = k + (m + 1) := by omega
      obtain ⟨p', hpasses, hat, commands, hmore, hnone⟩ :=
        ih (hnext (by omega)) (by rw [hsum]; exact hlt) (by omega)
      refine ⟨p', (passes_cons rfl hpass).trans hpasses, hsum ▸ hat, _, hadds.trans hmore, ?_⟩
      intro b hb
      rcases List.mem_append.mp hb with hb | hb
      · cases List.mem_singleton.mp hb
      · exact hnone b hb

/-- The call that gets to the page behind the erased blocks, and is interrupted there. -/
def overlongNandCall (target : NandTarget) (n : Nat) : NandCall :=
  { quietNandCall (List.replicate (pagesPerBlock * target.erasedBlocks n) quietNandPass ++
      [{ quietNandPass with timedOut := true }]) with
    erases := List.replicate 257 ⟨.done, false⟩ }

/-- A copy that has been started. -/
def startedNandCopy (target : NandTarget) : NandState where
  engine := startNandCopy target initial
  flash := fun _ _ => erasedPage
  commands := []

/-- Without timeouts the erase loop reaches its end. -/
theorem whileLoop_erases (m : Nat) {s : NandState} (hm : s.engine.helperCounter2 ≤ m)
    (hlt : m < 2 ^ 16) :
    ∃ s', whileLoop moreBlocks nandErasePass (List.replicate m ⟨.done, false⟩) s = some (.next s') := by
  obtain ⟨s', hloop, _⟩ := whileLoop_terminates (I := fun t => t.engine.helperCounter2 ≤ m)
    moreBlocks nandErasePass (List.replicate m ⟨.done, false⟩)
    (fun t => t.engine.helperCounter2 - t.engine.helperCounter1)
    (fun t _ hmore => Nat.sub_pos_of_lt (of_decide_eq_true hmore))
    (fun pass hpass t hI hmore => by
      obtain rfl := List.eq_of_mem_replicate hpass
      have hmore := of_decide_eq_true hmore
      have hnext : (t.engine.helperCounter1 + 1) % 2 ^ 16 = t.engine.helperCounter1 + 1 := by omega
      refine ⟨_, rfl, hI, ?_⟩
      show t.engine.helperCounter2 - (t.engine.helperCounter1 + 1) % 2 ^ 16 < _
      omega) s hm (by rw [List.length_replicate]; omega)
  exact ⟨s', hloop⟩

/-- Without timeouts all blocks of an image are erased in one call. -/
theorem handleErasingForObsw_erases {call : NandCall} {t : NandState} (card : Card)
    (hflag : t.engine.helperFlag1 = false) (hrepository : call.repository = 0)
    (herases : call.erases = List.replicate 257 ⟨.done, false⟩) :
    ∃ t₁, handleErasingForObsw card call t = some (.returnOk, t₁) := by
  have hbound : (cacheRequiredBlocks card t.engine).helperCounter2 ≤ 257 := by
    have hlt := requiredBlocks_lt (cacheRequiredBlocks card t.engine).currentFileSize
    show requiredBlocks (cacheRequiredBlocks card t.engine).currentFileSize + 2 ≤ 257
    omega
  obtain ⟨t₁, hloop⟩ := whileLoop_erases 257
    (s := { t with engine := cacheRequiredBlocks card t.engine }) hbound (by decide)
  unfold handleErasingForObsw
  rw [hflag, if_neg (fun hno => hno.2 hrepository), if_neg Bool.false_ne_true]
  dsimp only
  rw [herases, hloop]
  exact ⟨_, rfl⟩

/-- In the call, the copy step is entered with the blocks erased. -/
theorem nandEraseStep_overlong (target : NandTarget) (card : Card) (m : Nat) :
    ∃ s', nandEraseStep card (overlongNandCall target m) (startedNandCopy target) =
        some (.returnOk, s') ∧
      Position target (fileBytes card target.path).length s'.engine ∧
      s'.engine.helperFlag1 = false ∧ s'.engine.stepCounter = 0 ∧
      s'.commands = blockErasures target
        (target.erasedBlocks (fileBytes card target.path).length) := by
  obtain ⟨t, ht⟩ : ∃ t : NandState, t =
      { startedNandCopy target with
        engine := { (startedNandCopy target).engine with internalState := .step1 } } := ⟨_, rfl⟩
  have herasing : NandErasing target t.engine := by
    rw [ht]
    cases target <;> exact ⟨rfl, rfl, .inr rfl, rfl, rfl, fun _ => rfl⟩
  have hflag : t.engine.helperFlag1 = false := by
    rw [ht]
    cases target <;> rfl
  have hlog : ErasingLog target (fileBytes card target.path).length t := by
    refine ⟨fun hno => absurd hno (by rw [hflag]; decide), ?_⟩
    rw [hflag, ht]
    rfl
  obtain ⟨t₁, herase⟩ : ∃ t₁, eraseForSource card (overlongNandCall target m) t =
      some (.returnOk, t₁) := by
    unfold eraseForSource
    rw [herasing.source]
    cases target with
    | bootloader0 | bootloader1 => exact ⟨_, rfl⟩
    | obswSlot0 | obswSlot1 => exact handleErasingForObsw_erases card hflag rfl rfl
  have hstep : nandEraseStep card (overlongNandCall target m) (startedNandCopy target) =
      some (.returnOk, { t₁ with engine := { t₁.engine with internalState := .step2 } }) := by
    have hidle : (startedNandCopy target).engine.internalState = .idle := by cases target <;> rfl
    unfold nandEraseStep
    dsimp only
    rw [if_pos hidle, if_pos rfl, ← ht]
    unfold handleNandErasure
    rw [if_neg (show ¬ (overlongNandCall target m).timedOutBefore = true from Bool.false_ne_true),
      herase]
    rfl
  refine ⟨_, hstep, ?_⟩
  rcases eraseForSource_ends herasing herase with ⟨_, hdone⟩ | ⟨hno, _⟩ | hno
  · rcases eraseForSource_log herasing hlog herase with ⟨_, hall⟩ | ⟨hno, _⟩ | ⟨hno, _⟩
    · exact ⟨NandErased.position
        ⟨hdone.source, hdone.hamming, hdone.step, hdone.idx, hdone.flag⟩ rfl, hdone.flag, hdone.step,
        hall⟩
    · cases hno
    · cases hno
  · cases hno
  · cases hno

/-- **A longer file is written to a block that was not erased**, in a run in which nothing fails. -/
theorem not_blockSafe_of_lt (hlt : target.maxSize < (fileBytes card target.path).length) :
    ¬ BlockSafe target card := by
  intro hsafe
  have hexceeds : blockSize * target.erasedBlocks (fileBytes card target.path).length <
      (fileBytes card target.path).length := Nat.lt_of_not_le fun hle =>
    Nat.not_le.mpr hlt ((le_maxSize_iff target (fFilelength_lt card target.path)).mpr hle)
  obtain ⟨n, hn⟩ : ∃ n, n = target.erasedBlocks (fileBytes card target.path).length := ⟨_, rfl⟩
  have hbound : n ≤ 257 := hn ▸ erasedBlocks_le target _
  rw [← hn, blockSize_eq] at hexceeds
  obtain ⟨s₁, herase, hpos, hflag, hzero, hlog⟩ :=
    nandEraseStep_overlong target card (fileBytes card target.path).length
  have hprep := prepareGenericFileInformation_quiet card
    (genericFile_nandTarget hpos.source hpos.hamming) (by omega : 0 < (fileBytes card target.path).length)
  obtain ⟨hentered, hsize⟩ := hpos.prepared hprep
  have hsame : (cacheFileSize card target.path s₁.engine).stepCounter = 0 ∧
      (cacheFileSize card target.path s₁.engine).helperFlag1 = false := by
    unfold cacheFileSize
    rw [if_pos hzero]
    exact ⟨hzero, hflag⟩
  have hat : AtNandPage target (fileBytes card target.path) 0
      (⟨fileBytes card target.path, s₁.engine.currentByteIdx⟩,
        { s₁ with engine := cacheFileSize card target.path s₁.engine }) :=
    ⟨hentered, hsize, hsame.1, hsame.2, rfl, (cacheFileSize_currentByteIdx _ _ _).symm⟩
  have hpage : nandPageSize * (0 + pagesPerBlock * n) < (fileBytes card target.path).length := by
    unfold nandPageSize pagesPerBlock
    omega
  have hcount : 0 + pagesPerBlock * n + 1 < 2 ^ 16 := by
    unfold pagesPerBlock
    omega
  obtain ⟨p, hpasses, hatp, commands, hadds, hnone⟩ :=
    passes_quietNand (pagesPerBlock * n) hat hpage (by omega)
  obtain ⟨file', s', hperform, hwrite, _⟩ := hatp.pass
    (show QuietNandPass { quietNandPass with timedOut := true } from ⟨rfl, Nat.le_refl _, rfl⟩) hpage hcount
  rw [Nat.zero_add, Nat.mul_div_cancel_left n (by decide : 0 < pagesPerBlock), Nat.mul_mod_right] at hwrite
  -- the block of this page is not among the erased ones
  have hbad : ¬ BlocksRespected target s'.commands := by
    intro hrespected
    have hmem := hrespected.erased p.2.commands (target.startBlock + n) 0 [] hwrite
    rw [show p.2.commands = _ ++ commands from hadds] at hmem
    rcases List.mem_append.mp hmem with hmem | hmem
    · rw [show NandState.commands { s₁ with engine := cacheFileSize card target.path s₁.engine } =
        blockErasures target n from hlog.trans (by rw [hn])] at hmem
      obtain ⟨i, hi, heq⟩ := mem_blockErasures.mp hmem
      have hsum := NandCommand.erase.inj heq
      omega
    · exact hnone _ hmem
  have hloop (r : ReturnValue)
      (hr : nandCopyPass { quietNandPass with timedOut := true } p = some (.ret r (file', s'))) :
      copySdCardImageToNandFlash card (overlongNandCall target (fileBytes card target.path).length)
        (startedNandCopy target) = some (r, s') := by
    unfold copySdCardImageToNandFlash
    rw [herase]
    dsimp only
    rw [if_pos hpos.internal]
    unfold handleSdToNandCopyOperation
    rw [show (overlongNandCall target (fileBytes card target.path).length).fs = quietFs from rfl,
      hprep]
    dsimp only
    rw [show (overlongNandCall target (fileBytes card target.path).length).passes =
      List.replicate (pagesPerBlock * n) quietNandPass ++ [{ quietNandPass with timedOut := true }] from
        hn ▸ rfl, whileLoop_append hpasses, whileLoop_ret rfl hr]
  have hstart : (startedNandCopy target).engine = startNandCopy target initial := rfl
  -- the file ends with this page, or the call is to be continued
  by_cases hlast : (fileBytes card target.path).length ≤
      nandPageSize * (0 + pagesPerBlock * n + 1)
  · rw [if_pos hlast] at hperform
    have hend : nandCall card (overlongNandCall target (fileBytes card target.path).length)
        (startedNandCopy target) = some (.ret .operationFinished s') := by
      unfold nandCall
      rw [hloop .operationFinished (by unfold nandCopyPass; rw [hperform])]
    have hrun : nandRun card [overlongNandCall target (fileBytes card target.path).length]
        (startedNandCopy target) = some (.operationFinished, s') := by
      unfold nandRun
      rw [whileLoop_ret rfl hend]
    exact hbad ((hsafe _ _ _ _ hstart rfl).2 _ hrun)
  · rw [if_neg hlast, if_pos rfl] at hperform
    have hnext : nandCall card (overlongNandCall target (fileBytes card target.path).length)
        (startedNandCopy target) = some (.next s') := by
      unfold nandCall
      rw [hloop .taskPeriodOverSoon (by unfold nandCopyPass; rw [hperform])]
    have hrun : passes (fun _ => true) (nandCall card)
        [overlongNandCall target (fileBytes card target.path).length] (startedNandCopy target) =
          some s' := passes_cons rfl hnext
    exact hbad ((hsafe _ _ _ _ hstart rfl).1 hrun)

/-- **Blocks of a copy.** A copy to the NAND flash writes only blocks of its target that have been erased
    in the same run, over every schedule, exactly if the file is not longer than `maxSize`. -/
theorem nandCopy_blockSafe_iff (target : NandTarget) (card : Card) :
    BlockSafe target card ↔ (fileBytes card target.path).length ≤ target.maxSize :=
  ⟨fun h => Nat.le_of_not_lt fun hlt => not_blockSafe_of_lt hlt h, blockSafe_of_le⟩

/-- A first-stage bootloader that is a byte longer than its block. -/
def largeBootloader : SdFile where
  bytes := List.replicate (blockSize + 1) 0
  length_lt := by
    rw [List.length_replicate]
    decide

/-- Such a bootloader is written to the block of the second one, which has not been erased. -/
theorem nandCopy_leaves_first_block :
    ¬ BlockSafe .bootloader0 (cardWith NandTarget.bootloader0.path largeBootloader) := by
  apply not_blockSafe_of_lt
  rw [fileBytes_cardWith]
  show _ < (List.replicate _ _).length
  rw [List.length_replicate]
  exact Nat.lt_succ_self _

end Engine
end Obsw
