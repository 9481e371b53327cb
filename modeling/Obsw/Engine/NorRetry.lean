import Obsw.Engine.NorQuiet

/-!
# `Engine.NorRetry` — a copy to the NOR flash whose first write fails once

The call in which the write of the first bucket fails keeps the bucket (`norCall_failing`), and the next
call writes it without reading (`copyPass_kept`), so that the file stays where it is. What becomes of
the bucket behind it depends on the read that follows: if it delivers nothing, it is made again in the
next call, which opens the file at the right place (`norRun_retried`).
-/

namespace Obsw
namespace Engine

open Memory LittleEndian Device Fram Loop ImageCopyingEngine

variable {target : NorTarget} {xs : List UInt8} {card : Card}

/-! ## Passes -/

/-- A pass whose write fails and leaves the flash as it was. -/
def failingPass : NorPass := { quietPass with write := .failed (-1) (by decide) [] }

/-- A pass in which `f_read` delivers nothing. -/
def unreadPass : NorPass := { quietPass with readGot := 0 }

/-- The engine behind the failed write: the first bucket is kept and one error is counted. -/
structure KeptFirst (target : NorTarget) (n : Nat) (e : ImageCopyingEngine) : Prop where
  control : CopyControl target n e
  idx : e.currentByteIdx = 0
  flag : e.helperFlag1 = true
  errors : e.errorCount = 1

/-- A written bucket that is not the last one counts no error. -/
theorem writeBucket_errorCount (hal : NorHal) {pass : NorPass} {s : NorState}
    (hwrite : pass.write = .done)
    (hmore : s.engine.currentByteIdx + bucketSize s.engine < s.engine.currentFileSize) :
    (writeBucket hal pass s).2.engine.errorCount = s.engine.errorCount := by
  unfold writeBucket
  dsimp only
  rw [if_neg (by rw [hwrite]; decide), if_neg]
  · rfl
  · exact Nat.not_le.mpr hmore

/-- The call in which the write of the first bucket fails keeps the bucket. -/
theorem norCall_failing (hal : NorHal) {s : NorState} {e : ImageCopyingEngine}
    (hstart : s.engine = startNorCopy target e) (hpos : 0 < (fileBytes card target.path).length) :
    ∃ s', norCall hal card (quietCall target [failingPass]) s = some (.next s') ∧
      KeptFirst target (fileBytes card target.path).length s'.engine := by
  obtain ⟨_, t, _, hat, hidx, herrors, _, _, hcall⟩ :=
    copySdCardImageToNorFlash_quiet hal [failingPass] hstart hpos
  rcases hperform : performNorCopyOperation hal failingPass t.1 t.2 with ⟨r, file', s'⟩
  obtain ⟨hr, hcount⟩ : r = .taskPeriodOverSoon ∧ s'.engine.errorCount = 1 := by
    have h := performNorCopyOperation_retry hal failingPass hat le_rfl
      (by simp [failingPass]) herrors
    rwa [hperform] at h
  have hstep := hat.step hperform
  have hcontrol := (hstep.control hat.control hat.size hat.lt (by omega) (.inr hr)).1
  have hkept : s'.engine.currentByteIdx = t.2.engine.currentByteIdx ∧
      s'.engine.helperFlag1 = true := by
    cases hstep with
    | notRead _ _ hshort => exact absurd hshort (by rw [hat.read le_rfl]; exact lt_irrefl _)
    | notWritten _ _ _ hsame hflag' => exact ⟨hsame.idx, hflag'⟩
    | written _ hwrite => cases hwrite
    | finished _ hwrite => cases hwrite
  refine ⟨s', ?_, hcontrol, hkept.1.trans hidx, hkept.2, hcount⟩
  have hpass : copyPass hal failingPass t = some (.ret .taskPeriodOverSoon (file', s')) := by
    unfold copyPass
    rw [hperform, hr]
  unfold norCall
  rw [hcall]
  unfold copyLoop
  rw [whileLoop_ret rfl hpass]

/-- The copy loop with the first bucket written and the next one to be read, wherever the file is. -/
structure FirstWritten (target : NorTarget) (xs : List UInt8) (s : NorLoop) : Prop where
  control : CopyControl target xs.length s.2.engine
  size : s.2.engine.currentFileSize = xs.length
  idx : s.2.engine.currentByteIdx = norflashSmallSectorSize
  flag : s.2.engine.helperFlag1 = false
  errors : s.2.engine.errorCount = 1

/-- A kept bucket is written without a read, so the file stays where it is. -/
theorem copyPass_kept (hal : NorHal) {s : NorLoop} (h : KeptFirst target xs.length s.2.engine)
    (hsize : s.2.engine.currentFileSize = xs.length) (hmore : norflashSmallSectorSize < xs.length) :
    ∃ s', copyPass hal quietPass s = some (.next s') ∧ s'.1 = s.1 ∧ FirstWritten target xs s' := by
  have hbucket : bucketSize s.2.engine = norflashSmallSectorSize := by
    unfold bucketSize
    rw [hsize, h.idx, if_neg (by omega)]
  -- the pass is the write of the kept bucket
  have hengine := storeBinarySize_engine quietPass s.2
  have hread : readBucket quietPass s.1 s.2.engine = (.returnOk, s.1, s.2.engine) := if_pos h.flag
  have hkept : performNorCopyOperation hal quietPass s.1 s.2 =
      ((writeBucket hal quietPass (storeBinarySize quietPass s.2)).1, s.1,
        (writeBucket hal quietPass (storeBinarySize quietPass s.2)).2) := by
    unfold performNorCopyOperation
    rw [if_neg (by rw [hsize]; omega)]
    dsimp only
    rw [hengine, hread, ← hengine]
  have herrors : (writeBucket hal quietPass (storeBinarySize quietPass s.2)).2.engine.errorCount =
      (storeBinarySize quietPass s.2).engine.errorCount :=
    writeBucket_errorCount hal rfl (by rw [hengine, h.idx, hbucket, hsize]; omega)
  rw [hengine, h.errors] at herrors
  rcases hperform : performNorCopyOperation hal quietPass s.1 s.2 with ⟨r, file', s'⟩
  have hresult := hkept.symm.trans hperform
  have hfile : file' = s.1 := (Prod.mk.inj (Prod.mk.inj hresult).2).1.symm
  rw [(Prod.mk.inj (Prod.mk.inj hresult).2).2] at herrors
  have hstep := performNorCopyOperation_step (by omega) (by rw [hbucket]; decide) hperform
  have hcontrol' := hstep.control h.control hsize (by rw [h.idx]; omega) (by rw [h.idx]; omega)
  cases hstep with
  | notRead _ hno => exact absurd h.flag (by rw [hno]; decide)
  | notWritten _ _ hwrite => exact absurd rfl hwrite
  | finished _ _ hlast =>
      rw [hbucket, h.idx, hsize] at hlast
      omega
  | written _ _ _ _ _ _ _ hidx' _ hflag' =>
      obtain ⟨hctl, hsize', _⟩ := hcontrol' (.inl rfl)
      refine ⟨(fileAfter s.1 s.2.engine, s'), ?_, hfile, hctl, hsize', ?_, hflag', herrors⟩
      · unfold copyPass
        rw [hperform]
        rfl
      · rw [hidx', h.idx, hbucket, Nat.zero_add]

/-- A read that delivers nothing is to be made again in the next call. -/
theorem copyPass_unread (hal : NorHal) {s : NorLoop} (h : FirstWritten target xs s)
    (hmore : norflashSmallSectorSize < xs.length) :
    ∃ s', copyPass hal unreadPass s = some (.ret .taskPeriodOverSoon s') ∧
      CopyControl target xs.length s'.2.engine ∧
      s'.2.engine.currentByteIdx = norflashSmallSectorSize ∧ s'.2.engine.helperFlag1 = false := by
  have hempty : (fRead s.1 (bucketSize s.2.engine) unreadPass.readGot).1 = [] := by
    simp [fRead, FFile.chunk, unreadPass]
  have hpos : 0 < bucketSize s.2.engine := bucketSize_pos (by rw [h.size, h.idx]; exact hmore)
  have hfailed : (s.2.engine.readFile unreadPass.readGot (bucketSize s.2.engine) s.1).1 =
      .taskPeriodOverSoon := by
    unfold readFile
    dsimp only
    rw [hempty, if_pos List.length_nil]
    refine if_neg ?_
    show ¬ 3 ≤ (s.2.engine.errorCount + 1) % 2 ^ 8
    rw [h.errors]
    decide
  have hread : (readBucket unreadPass s.1 s.2.engine).1 = .taskPeriodOverSoon := by
    unfold readBucket
    rw [if_neg (by rw [h.flag]; decide)]
    dsimp only
    rw [if_pos (by rw [hfailed]; decide)]
    exact hfailed
  rcases hperform : performNorCopyOperation hal unreadPass s.1 s.2 with ⟨r, file', s'⟩
  obtain rfl : r = .taskPeriodOverSoon := by
    unfold performNorCopyOperation at hperform
    rw [if_neg (by rw [h.size]; omega)] at hperform
    dsimp only at hperform
    rw [storeBinarySize_engine] at hperform
    rcases hbucket : readBucket unreadPass s.1 s.2.engine with ⟨r₁, file₁, e₁⟩
    rw [hbucket] at hread hperform
    obtain rfl : r₁ = .taskPeriodOverSoon := hread
    exact (Prod.mk.inj hperform).1.symm
  refine ⟨(file', s'), ?_, ?_⟩
  · unfold copyPass
    rw [hperform]
  · -- no bucket is filled
    have hunfilled : ∀ bs, ¬ Filled unreadPass s.1 s.2.engine bs := by
      intro bs hfilled
      have hlength := hfilled.length
      rw [hfilled.read h.flag, hempty, List.length_nil] at hlength
      omega
    cases performNorCopyOperation_step (by rw [h.size]; omega) hpos hperform with
    | notRead _ _ _ hsame hflag' =>
        exact ⟨h.control.of_same hsame h.size (by rw [h.idx]; exact hmore), hsame.idx.trans h.idx, hflag'⟩
    | notWritten _ hfilled => exact absurd hfilled (hunfilled _)

/-! ## The run -/

/-- An image of two buckets, the second one of a single byte. -/
def twoBuckets : SdFile where
  bytes := List.replicate norflashSmallSectorSize 0 ++ [1]
  length_lt := by
    rw [List.length_append, List.length_replicate]
    decide

theorem twoBuckets_length : twoBuckets.bytes.length = norflashSmallSectorSize + 1 := by
  simp [twoBuckets]

/-- The first write fails once, and so does the first read behind it; nothing else does. -/
def retriedCalls (target : NorTarget) : List NorCall :=
  [quietCall target [failingPass], quietCall target [quietPass, unreadPass],
    quietCall target [quietPass]]

/-- The operation between two calls, with the first bucket written. -/
structure AtSecond (target : NorTarget) (n : Nat) (e : ImageCopyingEngine) : Prop where
  control : CopyControl target n e
  idx : e.currentByteIdx = norflashSmallSectorSize
  flag : e.helperFlag1 = false

/-- The state in which a later call enters the copy loop. -/
def resumed (card : Card) (target : NorTarget) (s : NorState) : NorLoop :=
  (⟨fileBytes card target.path, s.engine.currentByteIdx⟩, { s with
    engine := { s.engine with currentFileSize := (fileBytes card target.path).length } })

/-- A condition on the passes of a resumed call is one on its copy loop. -/
theorem callGood_resumed {good : NorPass → NorLoop → Prop} (hal : NorHal) {ps : List NorPass}
    {s : NorState} (h : CopyControl target (fileBytes card target.path).length s.engine)
    (hpos : 0 < (fileBytes card target.path).length)
    (hgood : Along good (fun _ => true) (copyPass hal) ps (resumed card target s)) :
    CallGood good hal card (quietCall target ps) s := by
  intro s₁ file e herase hprep
  rw [NorInvariant.eraseStep_of_step2 hal card _ h.internal] at herase
  obtain ⟨_, rfl⟩ := Prod.mk.inj (Option.some.inj herase)
  have henter : enterStep2 s = s := by
    unfold enterStep2
    rw [← h.internal]
  rw [henter, show (quietCall target ps).fs = quietFs from rfl, prepare_quiet h rfl hpos] at hprep
  obtain ⟨hfile, rfl⟩ := Prod.mk.inj hprep
  obtain rfl := Except.ok.inj hfile
  rw [henter]
  exact hgood

theorem AtSecond.atBucket {s : NorState}
    (h : AtSecond target (fileBytes card target.path).length s.engine)
    (hmore : norflashSmallSectorSize < (fileBytes card target.path).length) :
    AtBucket target (fileBytes card target.path) (resumed card target s) :=
  ⟨h.control.cacheSize, rfl, lt_of_eq_of_lt h.idx hmore, h.flag, rfl, rfl⟩

/-- The states of the run: behind the first call, behind the retried write, behind the second call and
    at the end. -/
structure Retried (hal : NorHal) (card : Card) (target : NorTarget) (s s₁ : NorState) (t : NorLoop)
    (s₂ s' : NorState) : Prop where
  failed : norCall hal card (quietCall target [failingPass]) s = some (.next s₁)
  kept : KeptFirst target (fileBytes card target.path).length s₁.engine
  written : copyPass hal quietPass (resumed card target s₁) = some (.next t)
  first : FirstWritten target (fileBytes card target.path) t
  retried : norCall hal card (quietCall target [quietPass, unreadPass]) s₁ = some (.next s₂)
  second : AtSecond target (fileBytes card target.path).length s₂.engine
  finished : norCall hal card (quietCall target [quietPass]) s₂ = some (.ret .operationFinished s')

theorem exists_retried (hal : NorHal) {s : NorState} {e : ImageCopyingEngine}
    (hstart : s.engine = startNorCopy target e)
    (hmore : norflashSmallSectorSize < (fileBytes card target.path).length)
    (hlast : (fileBytes card target.path).length ≤ norflashSmallSectorSize + norflashSmallSectorSize) :
    ∃ s₁ t s₂ s', Retried hal card target s s₁ t s₂ s' := by
  have hpos := Nat.zero_lt_of_lt hmore
  obtain ⟨s₁, hfailed, hkept⟩ := norCall_failing hal hstart hpos
  -- the second call
  obtain ⟨t, hwritten, _, hfirst⟩ := copyPass_kept hal (s := resumed card target s₁)
    ⟨hkept.control.cacheSize, hkept.idx, hkept.flag, hkept.errors⟩ rfl hmore
  obtain ⟨t₂, hunread, hcontrol, hidx, hflag⟩ := copyPass_unread hal hfirst hmore
  have hretried : norCall hal card (quietCall target [quietPass, unreadPass]) s₁ =
      some (.next t₂.2) := by
    unfold norCall
    rw [copySdCardImageToNorFlash_resumed hal [quietPass, unreadPass] hkept.control hpos]
    unfold copyLoop
    have hpasses : whileLoop (fun _ => true) (copyPass hal) [quietPass, unreadPass]
        (resumed card target s₁) = some (.ret .taskPeriodOverSoon t₂) :=
      (whileLoop_next rfl hwritten).trans (whileLoop_ret rfl hunread)
    unfold resumed at hpasses
    rw [hpasses]
  -- the third call
  have hsecond : AtSecond target (fileBytes card target.path).length t₂.2.engine :=
    ⟨hcontrol, hidx, hflag⟩
  have hat := hsecond.atBucket hmore
  obtain ⟨t₃, _, hpass⟩ := copyPass_last hal hat quietPass_quiet
    (by rw [show (resumed card target t₂.2).2.engine.currentByteIdx = _ from hidx]; exact hlast)
  refine ⟨s₁, t, t₂.2, t₃.2, hfailed, hkept, hwritten, hfirst, hretried, hsecond, ?_⟩
  unfold norCall
  rw [copySdCardImageToNorFlash_resumed hal [quietPass] hcontrol hpos]
  unfold copyLoop
  have hloop : whileLoop (fun _ => true) (copyPass hal) [quietPass] (resumed card target t₂.2) =
      some (.ret .operationFinished t₃) :=
    whileLoop_ret rfl hpass
  unfold resumed at hloop
  rw [hloop]

/-- **The retried copy is finished.** -/
theorem Retried.norRun {hal : NorHal} {s s₁ s₂ s' : NorState} {t : NorLoop}
    (h : Retried hal card target s s₁ t s₂ s') :
    norRun hal card (retriedCalls target) s = some (.operationFinished, s') := by
  have hcalls : whileLoop (fun _ => true) (norCall hal card) (retriedCalls target) s =
      some (.ret .operationFinished s') :=
    (whileLoop_next rfl h.failed).trans
      ((whileLoop_next rfl h.retried).trans (whileLoop_ret rfl h.finished))
  unfold Engine.norRun
  rw [hcalls]

end Engine
end Obsw
