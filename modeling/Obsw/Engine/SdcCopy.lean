import Obsw.Engine.Core
import Obsw.Lib.Loop

/-!
# `Engine.SdcCopy` — copying an image to the other slot of the SD card

`copySdcImgToSdc` of `ImageCopyingEngine.cpp`. Both files are reopened in each call, the source at the
current byte index and the target for appending; the first call deletes an old target. Each pass reads
a bucket and appends it to the target. The result of `f_write` is looked at and nothing follows from
it, nor is the result of `f_delete` looked at, and the step counter that marks the first call is a
`uint16_t`.
-/

namespace Obsw
namespace Engine

open Memory Loop ImageCopyingEngine

/-- `imgBuffer->size()` of a board. -/
def Board.imgBufferSize : Board → Nat
  | iobc => norflashSmallSectorSize
  | at91sam9g20Ek => nandPageSize

/-- The engine and the active card. -/
structure SdcState where
  engine : ImageCopyingEngine
  card : Card

/-- One pass of the copy loop. -/
structure SdcPass where
  /-- the most `f_read` delivers -/
  readGot : Nat
  /-- the most `f_write` accepts -/
  accepted : Nat
  timedOut : Bool

/-- One call of `copySdcImgToSdc`. -/
structure SdcCall where
  fs : FsEnv
  deleteFails : Bool
  openTargetFails : Bool
  passes : List SdcPass

/-- The target file, in the directory of the source file. -/
def sdcTargetPath (sourceSlot : ImageSlot) : Path :=
  (if sourceSlot = .bootloader0 ∨ sourceSlot = .bootloader1 then bootloaderRepository
    else swRepository,
    if sourceSlot = .sdcSlot0 then swSlot1Name else swSlot0Name)

/-- The size of the next bucket. -/
def sdcSizeToRead (board : Board) (e : ImageCopyingEngine) : Nat :=
  if board.imgBufferSize < e.currentFileSize - e.currentByteIdx then board.imgBufferSize
  else e.currentFileSize - e.currentByteIdx

/-- The opened source file and the state, which the copy loop passes on. -/
abbrev SdcLoop := FFile × SdcState

/-- One pass of the copy loop. -/
def sdcPass (board : Board) (target : Path) (pass : SdcPass) (s : SdcLoop) :
    Option (Flow ReturnValue SdcLoop) :=
  match readFile pass.readGot s.2.engine (sdcSizeToRead board s.2.engine) s.1 with
  | (.returnOk, bytesRead, file, e) =>
    let e := { e with currentByteIdx := e.currentByteIdx + bytesRead }
    let card := fWrite s.2.card target (load e.imgBuffer 0 bytesRead) pass.accepted
    let e := e.countStep
    if e.currentFileSize ≤ e.currentByteIdx then
      let e := { e with lastFinishedState := e.imageHandlerState }
      some (.ret .operationFinished (file, { engine := e.reset, card := card }))
    else if pass.timedOut then some (.ret .taskPeriodOverSoon (file, { engine := e, card := card }))
    else some (.next (file, { engine := e, card := card }))
  | (r, _, file, e) => some (.ret r (file, { s.2 with engine := e }))

/-- The card when the copy loop starts: the first call deletes the target, each one opens it. -/
def sdcOpenTarget (call : SdcCall) (e : ImageCopyingEngine) (card : Card) : Card :=
  fOpenAppend
    (if e.stepCounter = 0 ∧ ¬ call.deleteFails then fDelete card (sdcTargetPath e.sourceSlot)
      else card)
    (sdcTargetPath e.sourceSlot)

/-- `copySdcImgToSdc`. -/
def copySdcImgToSdc (board : Board) (call : SdcCall) (s : SdcState) :
    Option (ReturnValue × SdcState) :=
  match prepareGenericFileInformation board s.card call.fs s.engine with
  | (.error r, e) => some (r, { s with engine := e })
  | (.ok file, e) =>
    if call.openTargetFails then
      -- the old target has been deleted by then
      some (.returnFailed, { engine := e, card :=
        if e.stepCounter = 0 ∧ ¬ call.deleteFails then fDelete s.card (sdcTargetPath e.sourceSlot)
        else s.card })
    else
      match whileLoop (fun _ => true) (sdcPass board (sdcTargetPath e.sourceSlot)) call.passes
          (file, { engine := e, card := sdcOpenTarget call e s.card }) with
      | none => none
      | some (.ret r s) => some (r, s.2)
      | some (.next s) => some (.returnOk, s.2)

/-- One call of the operation: it goes on in the next cycle or it has ended. -/
def sdcCall (board : Board) (call : SdcCall) (s : SdcState) : Option (Flow ReturnValue SdcState) :=
  match copySdcImgToSdc board call s with
  | none => none
  | some (.taskPeriodOverSoon, s) => some (.next s)
  | some (r, s) => some (.ret r s)

/-- The operation, one call in each cycle until it ends. -/
def sdcRun (board : Board) (calls : List SdcCall) (s : SdcState) : Option (ReturnValue × SdcState) :=
  match whileLoop (fun _ => true) (sdcCall board) calls s with
  | some (.ret r s) => some (r, s)
  | _ => none

/-- Start the copy of a slot on a reset engine. -/
def startSdcCopy (slot : ImageSlot) (e : ImageCopyingEngine) : ImageCopyingEngine :=
  (startSdcToSdcOperation e.reset slot).2

/-! ## A pass -/

/-- The next bucket of the source file, as far as it is read. -/
def sdcBucket (board : Board) (pass : SdcPass) (s : SdcLoop) : List UInt8 :=
  (fRead s.1 (sdcSizeToRead board s.2.engine) pass.readGot).1

/-- The state behind the `f_write` of a pass. -/
def sdcWritten (board : Board) (target : Path) (pass : SdcPass) (s : SdcLoop) : SdcLoop :=
  (⟨s.1.bytes, s.1.pos + (sdcBucket board pass s).length⟩,
    { engine := countStep { s.2.engine with
        imgBuffer := store s.2.engine.imgBuffer 0 (sdcBucket board pass s)
        currentByteIdx := s.2.engine.currentByteIdx + (sdcBucket board pass s).length }
      card := fWrite s.2.card target (sdcBucket board pass s) pass.accepted })

/-- The state behind a finished operation. -/
def SdcState.finish (s : SdcState) : SdcState :=
  { s with engine := reset { s.engine with lastFinishedState := s.engine.imageHandlerState } }

/-- A pass that reads something appends it. -/
theorem sdcPass_read {board : Board} {target : Path} {pass : SdcPass} {s : SdcLoop}
    (h : (sdcBucket board pass s).length ≠ 0) :
    sdcPass board target pass s = some (
      if s.2.engine.currentFileSize ≤ (sdcWritten board target pass s).2.engine.currentByteIdx then
        .ret .operationFinished
          ((sdcWritten board target pass s).1, (sdcWritten board target pass s).2.finish)
      else if pass.timedOut then .ret .taskPeriodOverSoon (sdcWritten board target pass s)
      else .next (sdcWritten board target pass s)) := by
  unfold sdcPass
  rw [readFile_eq _ h]
  dsimp only
  rw [load_store_same, apply_ite some, apply_ite some]
  rfl

/-- A pass that reads nothing ends the call and changes the error counter and the buffer only. -/
theorem sdcPass_notRead {board : Board} (target : Path) {pass : SdcPass} {s : SdcLoop}
    (h : (sdcBucket board pass s).length = 0) :
    ∃ r s', sdcPass board target pass s = some (.ret r s') ∧
      (r = .taskPeriodOverSoon ∨ r = .returnFailed) ∧ s'.2 = { s.2 with
        engine := countError { s.2.engine with
          imgBuffer := store s.2.engine.imgBuffer 0 (sdcBucket board pass s) } } := by
  rcases hread : readFile pass.readGot s.2.engine (sdcSizeToRead board s.2.engine) s.1 with
    ⟨r, bytesRead, file, e⟩
  have hfailed : r ≠ .returnOk := by
    rintro rfl
    obtain ⟨rfl, hpos, _⟩ := readFile_ok hread
    exact hpos h
  obtain ⟨hr, _, rfl⟩ := readFile_failed hread hfailed
  refine ⟨r, (file, { s.2 with engine := countError { s.2.engine with
    imgBuffer := store s.2.engine.imgBuffer 0 (sdcBucket board pass s) } }), ?_, hr, rfl⟩
  unfold sdcPass
  rw [hread]
  rcases hr with rfl | rfl <;> rfl

/-! ## The condition on a run -/

/-- `f_write` accepts all of the bucket the pass reads. -/
def WriteComplete (board : Board) (pass : SdcPass) (s : SdcLoop) : Prop :=
  (sdcBucket board pass s).length ≤ pass.accepted

/-- A call that starts the copy finds no bytes at the target or deletes them, and one in the middle of
    the copy, which the wrapped step counter takes for the first one, does not delete them. -/
def TargetOpened (call : SdcCall) (s : SdcState) : Prop :=
  s.engine.stepCounter = 0 →
    if s.engine.currentByteIdx = 0 then
      call.deleteFails = false ∨ fileBytes s.card (sdcTargetPath s.engine.sourceSlot) = []
    else call.deleteFails = true

/-- The condition on a call: the target is opened as it should be, and every write is complete. -/
def SdcCallGood (board : Board) (call : SdcCall) (s : SdcState) : Prop :=
  TargetOpened call s ∧
    ∀ file e, prepareGenericFileInformation board s.card call.fs s.engine = (.ok file, e) →
      Along (WriteComplete board) (fun _ => true) (sdcPass board (sdcTargetPath e.sourceSlot))
        call.passes (file, { engine := e, card := sdcOpenTarget call e s.card })

/-! ## What has been copied -/

/-- The file an operation of the slot reads. -/
theorem genericFile_congr {board : Board} {e e' : ImageCopyingEngine}
    (hsource : e'.sourceSlot = e.sourceSlot) (hhamming : e'.hammingCode = e.hammingCode) :
    genericFile board e' = genericFile board e := by
  unfold genericFile
  rw [hsource, hhamming]

/-- The target is another file than the source. -/
theorem genericFile_ne_sdcTargetPath {board : Board} {e : ImageCopyingEngine} {path : Path}
    (hhamming : e.hammingCode = false) (h : genericFile board e = some path) :
    path ≠ sdcTargetPath e.sourceSlot := by
  unfold genericFile at h
  rw [hhamming] at h
  rintro rfl
  cases hslot : e.sourceSlot <;> rw [hslot] at h <;> cases board <;> revert h <;> decide

section Copied

variable (slot : ImageSlot) (path : Path) (source : Option SdFile)

/-- The members of the engine and the source file, which the copy does not change. -/
structure SdcSource (s : SdcState) : Prop where
  slot : s.engine.sourceSlot = slot
  hamming : s.engine.hammingCode = false
  file : s.card path = source

/-- The first `currentByteIdx` bytes of `xs` are the target file. -/
structure SdcCopied (xs : List UInt8) (s : SdcState) : Prop where
  size : s.engine.currentFileSize = xs.length
  idx : s.engine.currentByteIdx ≤ xs.length
  target : s.card (sdcTargetPath slot) ≠ none
  bytes : fileBytes s.card (sdcTargetPath slot) = xs.take s.engine.currentByteIdx

/-- The invariant of the copy loop. -/
structure SdcLoopInv (xs : List UInt8) (s : SdcLoop) : Prop where
  source : SdcSource slot path source s.2
  bytes : s.1.bytes = xs
  pos : s.1.pos = s.2.engine.currentByteIdx
  first : s.2.engine.currentByteIdx = 0 → s.2.engine.stepCounter = 0
  copied : SdcCopied slot xs s.2

/-- The invariant between two calls: the copy has not been started, or a part has been copied. -/
structure SdcInProgress (xs : List UInt8) (s : SdcState) : Prop where
  source : SdcSource slot path source s
  first : s.engine.currentByteIdx = 0 → s.engine.stepCounter = 0
  copied : s.engine.currentByteIdx ≠ 0 → SdcCopied slot xs s

end Copied

variable {board : Board} {slot : ImageSlot} {path : Path} {source : Option SdFile}
  {xs : List UInt8}

theorem SdcLoopInv.inProgress {s : SdcLoop} (h : SdcLoopInv slot path source xs s) :
    SdcInProgress slot path source xs s.2 := ⟨h.source, h.first, fun _ => h.copied⟩

/-- A complete write of the bucket that has been read continues the target. -/
theorem SdcLoopInv.written {pass : SdcPass} {s : SdcLoop} (h : SdcLoopInv slot path source xs s)
    (hne : path ≠ sdcTargetPath slot) (hlt : xs.length < 2 ^ 31)
    (hpos : (sdcBucket board pass s).length ≠ 0) (hgood : WriteComplete board pass s) :
    SdcLoopInv slot path source xs (sdcWritten board (sdcTargetPath slot) pass s) := by
  have hread : sdcBucket board pass s =
      (xs.drop s.2.engine.currentByteIdx).take (sdcBucket board pass s).length := by
    have hrun := fRead_eq_take s.1 (sdcSizeToRead board s.2.engine) pass.readGot
    rwa [h.bytes, h.pos] at hrun
  have hidx : s.2.engine.currentByteIdx + (sdcBucket board pass s).length ≤ xs.length := by
    have hlen := congrArg List.length hread
    rw [List.length_take, List.length_drop] at hlen
    have := h.copied.idx
    omega
  have happend : fileBytes s.2.card (sdcTargetPath slot) ++ sdcBucket board pass s =
      xs.take (s.2.engine.currentByteIdx + (sdcBucket board pass s).length) := by
    rw [h.copied.bytes, List.take_add]
    exact congrArg _ hread
  refine ⟨⟨h.source.slot, h.source.hamming, (fWrite_other _ _ hne).trans h.source.file⟩, h.bytes,
    congrArg (· + _) h.pos, fun hno => absurd (Nat.eq_zero_of_add_eq_zero_left hno) hpos,
    ⟨h.copied.size, hidx, fWrite_exists _ _ h.copied.target, ?_⟩⟩
  show fileBytes (fWrite _ _ _ _) _ = xs.take (_ + _)
  rw [← happend]
  apply fileBytes_fWrite h.copied.target hgood
  rw [happend, List.length_take]
  omega

/-- What the operation has established when a pass or a call returns `r`. -/
def SdcEnds (slot : ImageSlot) (path : Path) (source : Option SdFile) (xs : List UInt8)
    (r : ReturnValue) (s : SdcState) : Prop :=
  (r = .taskPeriodOverSoon → SdcInProgress slot path source xs s) ∧
    (r = .operationFinished → s.card (sdcTargetPath slot) ≠ none ∧
      fileBytes s.card (sdcTargetPath slot) = xs)

/-- **Pass.** A pass whose write is complete continues the target, and it finishes the operation with
    the whole file. -/
theorem sdcPass_copied {pass : SdcPass} {s : SdcLoop} (h : SdcLoopInv slot path source xs s)
    (hne : path ≠ sdcTargetPath slot) (hlt : xs.length < 2 ^ 31)
    (hgood : WriteComplete board pass s) :
    (∀ s', sdcPass board (sdcTargetPath slot) pass s = some (.next s') →
        SdcLoopInv slot path source xs s') ∧
      ∀ r s', sdcPass board (sdcTargetPath slot) pass s = some (.ret r s') →
        SdcEnds slot path source xs r s'.2 := by
  by_cases hpos : (sdcBucket board pass s).length ≠ 0
  · have hinv := h.written hne hlt hpos hgood
    rw [sdcPass_read hpos]
    split_ifs with hend htimeout
    · refine ⟨fun s' heq => (by cases heq), fun r s' heq => ?_⟩
      obtain ⟨rfl, rfl⟩ := Flow.ret.inj (Option.some.inj heq)
      refine ⟨fun hno => (by cases hno), fun _ => ⟨hinv.copied.target, hinv.copied.bytes.trans ?_⟩⟩
      exact List.take_of_length_le (h.copied.size ▸ hend)
    · refine ⟨fun s' heq => (by cases heq), fun r s' heq => ?_⟩
      obtain ⟨rfl, rfl⟩ := Flow.ret.inj (Option.some.inj heq)
      exact ⟨fun _ => hinv.inProgress, fun hno => by cases hno⟩
    · refine ⟨fun s' heq => ?_, fun r s' heq => (by cases heq)⟩
      obtain rfl := Flow.next.inj (Option.some.inj heq)
      exact hinv
  · obtain ⟨r₁, s₁, hpass, hr, hs⟩ := sdcPass_notRead (sdcTargetPath slot) (not_not.mp hpos)
    rw [hpass]
    refine ⟨fun s' heq => (by cases heq), fun r s' heq => ?_⟩
    obtain ⟨rfl, rfl⟩ := Flow.ret.inj (Option.some.inj heq)
    constructor
    · intro _
      rw [hs]
      exact ⟨⟨h.source.slot, h.source.hamming, h.source.file⟩, h.first,
        fun _ => ⟨h.copied.size, h.copied.idx, h.copied.target, h.copied.bytes⟩⟩
    · intro hno
      rcases hr with rfl | rfl <;> cases hno

/-! ## A call and a run -/

theorem SdcEnds.of_ne {r : ReturnValue} {s : SdcState} (hsoon : r ≠ .taskPeriodOverSoon)
    (hfinished : r ≠ .operationFinished) : SdcEnds slot path source xs r s :=
  ⟨fun h => absurd h hsoon, fun h => absurd h hfinished⟩

/-- The first call opens an empty target, each further one the target as it was left. -/
theorem sdcOpenTarget_copied {call : SdcCall} {s : SdcState} {e : ImageCopyingEngine}
    (h : SdcInProgress slot path source xs s) (hxs : fileBytes s.card path = xs)
    (he : e = cacheFileSize s.card path s.engine) (hgood : TargetOpened call s) :
    SdcCopied slot xs { engine := e, card := sdcOpenTarget call e s.card } := by
  have hslot : e.sourceSlot = slot := by
    rw [he, cacheFileSize]
    split_ifs <;> exact h.source.slot
  have hstep : e.stepCounter = s.engine.stepCounter := by
    rw [he, cacheFileSize]
    split_ifs <;> rfl
  have hidx : e.currentByteIdx = s.engine.currentByteIdx := by
    rw [he, cacheFileSize_currentByteIdx]
  have hsize : e.currentFileSize = xs.length := by
    rw [he, cacheFileSize]
    split_ifs with hzero
    · exact congrArg _ hxs
    · exact (h.copied fun hno => hzero (h.first hno)).size
  refine ⟨hsize, ?_, ?_, ?_⟩
  · show e.currentByteIdx ≤ xs.length
    by_cases hzero : s.engine.currentByteIdx = 0
    · omega
    · exact hidx ▸ (h.copied hzero).idx
  · unfold sdcOpenTarget
    rw [hslot]
    exact fOpenAppend_exists _ _
  · show fileBytes (sdcOpenTarget call e s.card) _ = xs.take e.currentByteIdx
    unfold sdcOpenTarget
    rw [hslot, fileBytes_fOpenAppend, hstep, hidx]
    by_cases hzero : s.engine.currentByteIdx = 0
    · have hopened := hgood (h.first hzero)
      rw [if_pos hzero, h.source.slot] at hopened
      rw [hzero, List.take_zero, h.first hzero]
      split_ifs with hdelete
      · unfold fDelete fileBytes
        rw [Card.set_same]
      · exact hopened.resolve_left fun hno => hdelete ⟨rfl, by rw [hno]; exact Bool.false_ne_true⟩
    · have hkept : ¬ (s.engine.stepCounter = 0 ∧ ¬ call.deleteFails = true) := by
        rintro ⟨hfirst, hdelete⟩
        have hopened := hgood hfirst
        rw [if_neg hzero] at hopened
        exact hdelete hopened
      rw [if_neg hkept]
      exact (h.copied hzero).bytes

/-- **Call.** A good call leaves a copy in progress, or finishes it with the whole file. -/
theorem copySdcImgToSdc_copied {call : SdcCall} {s s' : SdcState} {r : ReturnValue}
    (h : SdcInProgress slot path source xs s) (hpath : genericFile board s.engine = some path)
    (hxs : fileBytes s.card path = xs) (hgood : SdcCallGood board call s)
    (hcall : copySdcImgToSdc board call s = some (r, s')) : SdcEnds slot path source xs r s' := by
  obtain ⟨htarget, hpasses⟩ := hgood
  have hne : path ≠ sdcTargetPath slot :=
    h.source.slot ▸ genericFile_ne_sdcTargetPath h.source.hamming hpath
  have hlt : xs.length < 2 ^ 31 := hxs ▸ fFilelength_lt s.card path
  unfold copySdcImgToSdc at hcall
  rcases hprep : prepareGenericFileInformation board s.card call.fs s.engine with ⟨res, e⟩
  rw [hprep] at hcall
  cases res with
  | error r₁ =>
      obtain ⟨rfl, _⟩ := Prod.mk.inj (Option.some.inj hcall)
      rcases prepareGenericFileInformation_error hprep with rfl | rfl <;>
        exact .of_ne (by decide) (by decide)
  | ok file =>
      have hloop := hpasses file e hprep
      obtain ⟨path', hpath', he, hfile⟩ := prepareGenericFileInformation_ok hprep
      obtain rfl : path = path' := Option.some.inj (hpath.symm.trans hpath')
      have hopened := sdcOpenTarget_copied h hxs he htarget
      have hslot : e.sourceSlot = slot := by
        rw [he, cacheFileSize]
        split_ifs <;> exact h.source.slot
      dsimp only at hcall
      by_cases hfails : call.openTargetFails = true
      · rw [if_pos hfails] at hcall
        obtain ⟨rfl, _⟩ := Prod.mk.inj (Option.some.inj hcall)
        exact .of_ne (by decide) (by decide)
      · rw [if_neg hfails, hslot] at hcall
        rw [hslot] at hloop
        have hstart : SdcLoopInv slot path source xs
            (file, { engine := e, card := sdcOpenTarget call e s.card }) := by
          refine ⟨⟨hslot, ?_, ?_⟩, by rw [hfile]; exact hxs, by rw [hfile], ?_, hopened⟩
          · rw [he, cacheFileSize]
            split_ifs <;> exact h.source.hamming
          · show sdcOpenTarget call e s.card path = source
            unfold sdcOpenTarget
            rw [hslot, fOpenAppend_other hne]
            split_ifs
            · rw [fDelete_other hne, h.source.file]
            · exact h.source.file
          · rw [he, cacheFileSize_currentByteIdx, cacheFileSize]
            split_ifs <;> exact h.first
        have hrule := whileLoop_induct (fun _ => true) (sdcPass board (sdcTargetPath slot))
          (I := SdcLoopInv slot path source xs)
          (Q := fun r t => SdcEnds slot path source xs r t.2)
          (fun _ _ _ hI _ hg hb => (sdcPass_copied hI hne hlt hg).1 _ hb)
          (fun _ _ _ _ hI _ hg hb => (sdcPass_copied hI hne hlt hg).2 _ _ hb) _ _ hstart hloop
        split at hcall
        · cases hcall
        · rename_i r₁ t hw
          obtain ⟨rfl, rfl⟩ := Prod.mk.inj (Option.some.inj hcall)
          exact hrule.2 _ _ hw
        · obtain ⟨rfl, _⟩ := Prod.mk.inj (Option.some.inj hcall)
          exact .of_ne (by decide) (by decide)

/-- `sdcCall` goes on with the state `copySdcImgToSdc` leaves behind `TASK_PERIOD_OVER_SOON`. -/
theorem sdcCall_next {call : SdcCall} {s s' : SdcState}
    (h : sdcCall board call s = some (.next s')) :
    copySdcImgToSdc board call s = some (.taskPeriodOverSoon, s') := by
  unfold sdcCall at h
  split at h
  · cases h
  · rename_i hcall
    obtain rfl := Flow.next.inj (Option.some.inj h)
    exact hcall
  · cases h

theorem sdcCall_ret {call : SdcCall} {s s' : SdcState} {r : ReturnValue}
    (h : sdcCall board call s = some (.ret r s')) : copySdcImgToSdc board call s = some (r, s') := by
  unfold sdcCall at h
  split at h
  · cases h
  · cases h
  · rename_i hcall
    obtain ⟨rfl, rfl⟩ := Flow.ret.inj (Option.some.inj h)
    exact hcall

/-- An operation without a source file fails. -/
theorem copySdcImgToSdc_noFile {call : SdcCall} {s s' : SdcState} {r : ReturnValue}
    (hpath : genericFile board s.engine = none)
    (h : copySdcImgToSdc board call s = some (r, s')) :
    r = .returnFailed ∨ r = .fErrNotfound := by
  unfold copySdcImgToSdc at h
  rcases hprep : prepareGenericFileInformation board s.card call.fs s.engine with ⟨res, e⟩
  rw [hprep] at h
  cases res with
  | error r₁ =>
      obtain ⟨rfl, _⟩ := Prod.mk.inj (Option.some.inj h)
      exact prepareGenericFileInformation_error hprep
  | ok file =>
      obtain ⟨path, hsome, _⟩ := prepareGenericFileInformation_ok hprep
      rw [hpath] at hsome
      cases hsome

theorem startSdcCopy_inProgress (s : SdcState) {e : ImageCopyingEngine} (path : Path)
    (hstart : s.engine = startSdcCopy slot e) :
    SdcInProgress slot path (s.card path) (fileBytes s.card path) s where
  source := ⟨by rw [hstart]; rfl, by rw [hstart]; rfl, rfl⟩
  first _ := by rw [hstart]; rfl
  copied hno := absurd (by rw [hstart]; rfl) hno

/-- The result of a run is the result of its last call. -/
theorem sdcRun_ret {calls : List SdcCall} {s s' : SdcState} {r : ReturnValue}
    (h : sdcRun board calls s = some (r, s')) :
    whileLoop (fun _ => true) (sdcCall board) calls s = some (.ret r s') := by
  unfold sdcRun at h
  split at h
  · rename_i hw
    obtain ⟨rfl, rfl⟩ := Prod.mk.inj (Option.some.inj h)
    exact hw
  · cases h

/-- **Copy from slot to slot.** If the copy ends with `OPERATION_FINISHED`, the target file holds
    exactly the bytes of the source file, provided every `f_write` accepted all it was given, the first
    call found no bytes at the target or deleted them, and no later call deleted them. -/
theorem sdcRun_copies {calls : List SdcCall} {s s' : SdcState} {e : ImageCopyingEngine}
    (hstart : s.engine = startSdcCopy slot e)
    (hgood : Along (SdcCallGood board) (fun _ => true) (sdcCall board) calls s)
    (h : sdcRun board calls s = some (.operationFinished, s')) :
    ∃ path, genericFile board s.engine = some path ∧ s'.card (sdcTargetPath slot) ≠ none ∧
      fileBytes s'.card (sdcTargetPath slot) = fileBytes s.card path := by
  have hrun := sdcRun_ret h
  cases hpath : genericFile board s.engine with
  | none =>
      -- the first call fails, so there is no other one
      have hrule := whileLoop_induct (fun _ => true) (sdcCall board)
        (I := fun t => genericFile board t.engine = none)
        (Q := fun r _ => r = .returnFailed ∨ r = .fErrNotfound)
        (fun _ _ _ hI _ _ hb => (copySdcImgToSdc_noFile hI (sdcCall_next hb)).elim
          (fun hno => by cases hno) (fun hno => by cases hno))
        (fun _ _ _ _ hI _ _ hb => copySdcImgToSdc_noFile hI (sdcCall_ret hb)) calls s hpath hgood
      rcases hrule.2 _ _ hrun with hno | hno <;> cases hno
  | some path =>
      have hbegin := startSdcCopy_inProgress s path hstart
      have hcall : ∀ call t t' r, SdcInProgress slot path (s.card path) (fileBytes s.card path) t →
          SdcCallGood board call t → copySdcImgToSdc board call t = some (r, t') →
          SdcEnds slot path (s.card path) (fileBytes s.card path) r t' := by
        intro call t t' r hI hg hb
        have hpath' : genericFile board t.engine = some path := hpath ▸
          genericFile_congr (hI.source.slot.trans hbegin.source.slot.symm)
            (hI.source.hamming.trans hbegin.source.hamming.symm)
        exact copySdcImgToSdc_copied hI hpath' (fileBytes_congr hI.source.file) hg hb
      have hrule := whileLoop_induct (fun _ => true) (sdcCall board)
        (I := SdcInProgress slot path (s.card path) (fileBytes s.card path))
        (Q := SdcEnds slot path (s.card path) (fileBytes s.card path))
        (fun _ _ _ hI _ hg hb => (hcall _ _ _ _ hI hg (sdcCall_next hb)).1 rfl)
        (fun _ _ _ _ hI _ hg hb => hcall _ _ _ _ hI hg (sdcCall_ret hb)) calls s hbegin hgood
      exact ⟨path, rfl, (hrule.2 _ _ hrun).2 rfl⟩

/-! ## Two runs -/

/-- The card with an image of two bytes in the first slot. -/
def twoByteImage : Card := cardWith (swRepository, swSlot0Name) ⟨[7, 8], by decide⟩

/-- A copy of the first slot that has been started. -/
def twoByteCopy : SdcState where
  engine := startSdcCopy .sdcSlot0 initial
  card := twoByteImage

/-- A call that is over after one byte has been read, of which `f_write` accepts `accepted` bytes. -/
def oneByteCall (accepted : Nat) : SdcCall where
  fs := quietFs
  deleteFails := false
  openTargetFails := false
  passes := [⟨1, accepted, true⟩]

/-- Both bytes are copied if `f_write` accepts them: one in the first call, which runs out of time, and one in the
    second call, which opens both files again. -/
theorem sdcRun_copies_two_bytes :
    ∃ s', sdcRun .iobc [oneByteCall 1, oneByteCall 1] twoByteCopy = some (.operationFinished, s') ∧
      ∃ path, genericFile .iobc twoByteCopy.engine = some path ∧
        s'.card (sdcTargetPath .sdcSlot0) ≠ none ∧
        fileBytes s'.card (sdcTargetPath .sdcSlot0) = fileBytes twoByteCopy.card path := by
  have hwrite : ∀ s : SdcLoop, WriteComplete .iobc ⟨1, 1, true⟩ s := fun s =>
    Nat.le_trans (List.length_take_le _ _) (Nat.min_le_right _ _)
  have hgood : Along (SdcCallGood .iobc) (fun _ => true) (sdcCall .iobc)
      [oneByteCall 1, oneByteCall 1] twoByteCopy := by
    refine fun _ => ⟨⟨fun _ => .inl rfl, fun _ _ _ _ => ⟨hwrite _, fun _ _ => trivial⟩⟩, fun s' hs' => ?_⟩
    obtain rfl := Flow.next.inj (Option.some.inj hs')
    -- the step counter is 1, so the target stays
    exact fun _ => ⟨⟨fun hfirst => absurd hfirst (by decide), fun _ _ _ _ => ⟨hwrite _, fun _ _ => trivial⟩⟩,
      fun _ _ => trivial⟩
  exact ⟨_, rfl, sdcRun_copies rfl hgood rfl⟩

/-- **A write that fails is not noticed.** `f_write` accepts nothing of the second bucket, and the copy is finished
    with a target that is one byte short. -/
theorem sdcRun_ignores_write :
    ∃ s', sdcRun .iobc [oneByteCall 1, oneByteCall 0] twoByteCopy = some (.operationFinished, s') ∧
      genericFile .iobc twoByteCopy.engine = some (swRepository, swSlot0Name) ∧
      fileBytes s'.card (sdcTargetPath .sdcSlot0) = [7] ∧
      fileBytes twoByteCopy.card (swRepository, swSlot0Name) = [7, 8] := ⟨_, rfl, rfl, rfl, rfl⟩

end Engine
end Obsw
