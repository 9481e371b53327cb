import Obsw.Engine.NandContent

/-!
# `Engine.NandRetry` — page writes that keep failing

`performNandCopyAlgorithm` gives a page up at the third failed attempt: so `errorCount` says, and the
check behind the write. But the counter is set to 0 in front of every write, so that it is 1 behind a
failed one and the check never holds. The page is kept and retried in every call from then on.
-/

namespace Obsw
namespace Engine

open Memory LittleEndian Loop ImageCopyingEngine

variable {target : NandTarget} {card : Card}

/-! ## Attempts -/

/-- The calls that follow, up to the value the operation ends with. -/
def nandCalls (card : Card) : List NandCall → NandState → Option (Flow ReturnValue NandState)
  | [],            s => some (.next s)
  | call :: calls, s =>
    match nandCall card call s with
    | some (.next s) => nandCalls card calls s
    | fl => fl

/-- The operation from a point of the copy loop on: the rest of the call, then further calls. -/
def nandFrom (card : Card) (passes : List NandPass) (calls : List NandCall) (p : NandLoop) :
    Option (Flow ReturnValue NandState) :=
  match whileLoop (fun _ => true) nandCopyPass passes p with
  | some (.ret .taskPeriodOverSoon p) => nandCalls card calls p.2
  | some (.ret r p) => some (.ret r p.2)
  | _ => none

/-- The page writes attempted since the point. There is nothing else the copy step commands. -/
def attempts (p : NandLoop) (s : NandState) : Nat := s.commands.length - p.2.commands.length

/-- A call in which every page write fails. -/
def WritesFail (call : NandCall) : Prop := ∀ pass ∈ call.passes, pass.write.retval ≠ 0

/-- A call that gets to a page write: the file can be opened, and there is time for a pass. -/
def GetsToWrite (call : NandCall) : Prop :=
  call.fs = quietFs ∧ ∃ pass passes, call.passes = pass :: passes ∧ pass.timedOutBefore = false

/-- A point of the copy at which a page is written and the write fails. -/
structure FailingWrite (target : NandTarget) (pass : NandPass) (p : NandLoop) : Prop where
  source : p.2.engine.sourceSlot = target.slot
  hamming : p.2.engine.hammingCode = false
  internal : p.2.engine.internalState = .step2
  time : pass.timedOutBefore = false
  page : (readPage pass p.1 (padBuffer p.2.engine)).1 = .returnOk
  write : pass.write.retval ≠ 0

/-- From this point on the copy ends with a failure code, in the call of the third attempt. -/
def EndsAtThirdAttempt (card : Card) (passes : List NandPass) (calls : List NandCall)
    (p : NandLoop) : Prop :=
  ∃ r s, nandFrom card passes calls p = some (.ret r s) ∧ r ≠ .returnOk ∧ r ≠ .operationFinished ∧
    attempts p s = 3 ∧
      ∀ earlier s₂, earlier <+: calls → nandFrom card passes earlier p = some (.next s₂) →
        attempts p s₂ < 3

/-! ## The page that is written -/

/-- Block and page of the next write. -/
def nextPage (e : ImageCopyingEngine) : Nat × Nat :=
  ((pageRead e).helperCounter1, (pageRead e).helperCounter2)

theorem nextPage_first {e : ImageCopyingEngine} (h : e.stepCounter = 0) :
    nextPage e = (nandStartBlock e.sourceSlot, 0) := by
  unfold nextPage pageRead nextBlock beginNandCopy
  rw [if_pos h, if_neg]
  rintro ⟨hpos, _⟩
  exact absurd hpos (by rw [show e.stepCounter = 0 from h]; decide)

theorem nextPage_later {e : ImageCopyingEngine} (h : e.stepCounter ≠ 0) :
    nextPage e = if e.helperCounter2 = pagesPerBlock
      then ((e.helperCounter1 + 1) % 2 ^ 16, 0) else (e.helperCounter1, e.helperCounter2) := by
  unfold nextPage pageRead nextBlock beginNandCopy
  rw [if_neg h]
  by_cases hfull : e.helperCounter2 = pagesPerBlock
  · rw [if_pos ⟨Nat.pos_of_ne_zero h, hfull⟩, if_pos hfull]
  · rw [if_neg fun hno => hfull hno.2, if_neg hfull]

/-- The page depends on the source, the step counter and the page counters. -/
theorem nextPage_congr {e e' : ImageCopyingEngine} (hsource : e'.sourceSlot = e.sourceSlot)
    (hstep : e'.stepCounter = e.stepCounter) (hblock : e'.helperCounter1 = e.helperCounter1)
    (hpage : e'.helperCounter2 = e.helperCounter2) : nextPage e' = nextPage e := by
  by_cases hzero : e.stepCounter = 0
  · rw [nextPage_first hzero, nextPage_first (hstep.trans hzero), hsource]
  · rw [nextPage_later hzero, nextPage_later fun h => hzero (hstep.symm.trans h), hblock, hpage]

@[simp] theorem nextPage_buffer (e : ImageCopyingEngine) (buffer : Mem UInt8) :
    nextPage { e with imgBuffer := buffer } = nextPage e := nextPage_congr rfl rfl rfl rfl

/-- Before a write, the error counter is 0 and the page is kept. -/
theorem pageRead_fields (e : ImageCopyingEngine) :
    (pageRead e).errorCount = 0 ∧ (pageRead e).helperFlag1 = true ∧
      (pageRead e).sourceSlot = e.sourceSlot ∧ (pageRead e).hammingCode = e.hammingCode ∧
      (pageRead e).internalState = e.internalState ∧
      (pageRead e).stepCounter = e.stepCounter := by
  unfold pageRead nextBlock beginNandCopy
  split_ifs <;> exact ⟨rfl, rfl, rfl, rfl, rfl, rfl⟩

/-- The page that is kept is the one that is written again. -/
theorem nextPage_pageRead (e : ImageCopyingEngine) : nextPage (pageRead e) = nextPage e := by
  obtain ⟨_, _, hsource, _, _, hstep⟩ := pageRead_fields e
  by_cases hzero : e.stepCounter = 0
  · rw [nextPage_first hzero, nextPage_first (hstep.trans hzero), hsource]
  · rw [nextPage_later (e := pageRead e) fun h => hzero (hstep.symm.trans h)]
    show (if (nextPage e).2 = pagesPerBlock then (((nextPage e).1 + 1) % 2 ^ 16, 0)
      else nextPage e) = nextPage e
    refine if_neg fun hfull => ?_
    rw [nextPage_later hzero] at hfull
    split_ifs at hfull with h
    · exact absurd (show 0 = pagesPerBlock from hfull) (by decide)
    · exact h hfull

/-! ## A failed attempt -/

/-- Between two attempts: the page `(b, k)` is kept. -/
structure Retrying (target : NandTarget) (b k : Nat) (e : ImageCopyingEngine) : Prop where
  source : e.sourceSlot = target.slot
  hamming : e.hammingCode = false
  internal : e.internalState = .step2
  kept : e.helperFlag1 = true
  page : nextPage e = (b, k)

/-- What a call or a pass adds to the commands. -/
def Adds (s s' : NandState) (commands : List NandCommand) : Prop :=
  s'.commands = s.commands ++ commands

/-- **Failed write.** The counter that was 0 in front of it is 1 behind it: never 3. -/
theorem writePage_failed {pass : NandPass} {e : ImageCopyingEngine} (s : NandState)
    (hsource : e.sourceSlot = target.slot) (hhamming : e.hammingCode = false)
    (hinternal : e.internalState = .step2) (hfailed : pass.write.retval ≠ 0) :
    ∃ s', writePage pass { s with engine := pageRead e } = (.taskPeriodOverSoon, s') ∧
      Retrying target (nextPage e).1 (nextPage e).2 s'.engine ∧ s'.engine.errorCount = 1 ∧
      Adds s s' [.write (nextPage e).1 (nextPage e).2] := by
  obtain ⟨herrors, hkept, hsame, hham, hint, hstep⟩ := pageRead_fields e
  have hone : (pageRead e).countError.errorCount = 1 := by
    show ((pageRead e).errorCount + 1) % 2 ^ 8 = 1
    rw [herrors]
    rfl
  unfold writePage
  dsimp only
  rw [if_pos hfailed, if_neg (by rw [hone]; decide)]
  refine ⟨_, rfl, ⟨hsame.trans hsource, hham.trans hhamming, hint.trans hinternal, hkept, ?_⟩, hone,
    rfl⟩
  exact (nextPage_congr rfl rfl rfl rfl).trans (nextPage_pageRead e)

/-- The attempt at which the writes start to fail. -/
theorem FailingWrite.first {pass : NandPass} {p : NandLoop} (h : FailingWrite target pass p) :
    ∃ file s', performNandCopyAlgorithm pass p.1 p.2 = (.taskPeriodOverSoon, file, s') ∧
      Retrying target (nextPage p.2.engine).1 (nextPage p.2.engine).2 s'.engine ∧
      Adds p.2 s' [.write (nextPage p.2.engine).1 (nextPage p.2.engine).2] := by
  obtain ⟨buffer, hpad, _⟩ := padBuffer_spec p.2.engine
  have hpage := h.page
  rw [hpad] at hpage
  rcases hread : readPage pass p.1 { p.2.engine with imgBuffer := buffer } with ⟨r, file, e⟩
  rw [hread] at hpage
  obtain rfl : r = .returnOk := hpage
  -- reading the page changes the buffer only
  obtain ⟨buffer', rfl⟩ : ∃ buffer', e = { p.2.engine with imgBuffer := buffer' } := by
    rcases readPage_ok hread with ⟨_, _, rfl⟩ | ⟨_, _, _, rfl⟩
    · exact ⟨_, rfl⟩
    · exact ⟨_, rfl⟩
  obtain ⟨s', hwrite, hretry, _, hadds⟩ :=
    writePage_failed (e := { p.2.engine with imgBuffer := buffer' }) p.2 h.source h.hamming
      h.internal h.write
  refine ⟨file, s', ?_, ?_, ?_⟩
  · unfold performNandCopyAlgorithm
    rw [if_neg (by rw [h.time]; decide), hpad, hread]
    dsimp only
    rw [hwrite]
  · rwa [nextPage_buffer] at hretry
  · rwa [nextPage_buffer] at hadds

variable {b k : Nat}

/-- **Retried attempt.** A pass that finds the page kept has no time for it, or writes it again. -/
theorem Retrying.pass {pass : NandPass} {s : NandState} (h : Retrying target b k s.engine)
    (file : FFile) (hfailed : pass.write.retval ≠ 0) :
    ∃ s', performNandCopyAlgorithm pass file s = (.taskPeriodOverSoon, file, s') ∧
      Retrying target b k s'.engine ∧
      Adds s s' (if pass.timedOutBefore then [] else [.write b k]) := by
  unfold performNandCopyAlgorithm
  by_cases htime : pass.timedOutBefore = true
  · rw [if_pos htime, if_pos htime]
    exact ⟨s, rfl, h, (List.append_nil _).symm⟩
  · rw [if_neg htime, if_neg htime]
    obtain ⟨buffer, hpad, _⟩ := padBuffer_spec s.engine
    have hread : readPage pass file { s.engine with imgBuffer := buffer } =
        (.returnOk, file, { s.engine with imgBuffer := buffer }) := if_pos h.kept
    obtain ⟨s', hwrite, hretry, _, hadds⟩ :=
      writePage_failed (e := { s.engine with imgBuffer := buffer }) s h.source h.hamming h.internal
        hfailed
    rw [nextPage_buffer, h.page] at hretry hadds
    refine ⟨s', ?_, hretry, hadds⟩
    rw [hpad, hread]
    dsimp only
    rw [hwrite]

/-! ## A call -/

/-- The operation in the copy step: the call only opens the file and copies. -/
theorem copySdCardImageToNandFlash_step2 (card : Card) (call : NandCall) {s : NandState}
    (h : s.engine.internalState = .step2) :
    copySdCardImageToNandFlash card call s = handleSdToNandCopyOperation card call s := by
  unfold copySdCardImageToNandFlash
  rw [nandEraseStep_step2 h]
  exact if_pos h

/-- Preparing the file keeps what a retry depends on. -/
theorem Retrying.prepared {env : FsEnv} {e e' : ImageCopyingEngine} {file : FFile}
    (h : Retrying target b k e)
    (hprep : prepareGenericFileInformation .at91sam9g20Ek card env e = (.ok file, e')) :
    Retrying target b k e' := by
  obtain ⟨path, _, rfl, _⟩ := prepareGenericFileInformation_ok hprep
  have hpage : nextPage (cacheFileSize card path e) = nextPage e := by
    unfold cacheFileSize
    split_ifs
    · exact nextPage_congr rfl rfl rfl rfl
    · rfl
  have hsame := hpage.trans h.page
  unfold cacheFileSize at hsame ⊢
  split_ifs at hsame ⊢
  · exact ⟨h.source, h.hamming, h.internal, h.kept, hsame⟩
  · exact h

/-- A copy loop whose first pass retries the page is left by it. -/
theorem Retrying.loop {pass : NandPass} {s : NandState} (h : Retrying target b k s.engine)
    (passes : List NandPass) (file : FFile) (hfailed : pass.write.retval ≠ 0) :
    ∃ s', whileLoop (fun _ => true) nandCopyPass (pass :: passes) (file, s) =
        some (.ret .taskPeriodOverSoon (file, s')) ∧ Retrying target b k s'.engine ∧
      Adds s s' (if pass.timedOutBefore then [] else [.write b k]) := by
  obtain ⟨s', hperform, hretry, hadds⟩ := h.pass file hfailed
  refine ⟨s', whileLoop_ret rfl ?_, hretry, hadds⟩
  unfold nandCopyPass
  rw [hperform]

/-- **Call.** While the writes fail, a call that ends the operation has not tried to write, and one
    that goes on has tried at most once. -/
theorem Retrying.call {call : NandCall} {s : NandState} {fl : Flow ReturnValue NandState}
    (h : Retrying target b k s.engine) (hfail : WritesFail call)
    (hcall : nandCall card call s = some fl) :
    (∃ s' commands, fl = .next s' ∧ Retrying target b k s'.engine ∧ Adds s s' commands ∧
      commands.length ≤ 1) ∨ ∃ r s', fl = .ret r s' ∧ s'.commands = s.commands := by
  have hcopy := copySdCardImageToNandFlash_step2 card call h.internal
  obtain ⟨hnext, hret⟩ := nandCall_eq hcall
  rw [hcopy] at hnext hret
  unfold handleSdToNandCopyOperation at hnext hret
  rcases hprep : prepareGenericFileInformation .at91sam9g20Ek card call.fs s.engine with ⟨res, e⟩
  rw [hprep] at hnext hret
  cases res with
  | error r =>
      cases fl with
      | next s' =>
          have hsoon := (Prod.mk.inj (Option.some.inj (hnext s' rfl))).1
          rcases prepareGenericFileInformation_error hprep with rfl | rfl <;> cases hsoon
      | ret r' s' =>
          obtain ⟨_, rfl⟩ := Prod.mk.inj (Option.some.inj (hret r' s' rfl))
          exact .inr ⟨r', _, rfl, rfl⟩
  | ok file =>
      have hretry := h.prepared hprep
      dsimp only at hnext hret
      rcases hpasses : call.passes with _ | ⟨pass, passes⟩
      · rw [hpasses] at hnext hret
        cases fl with
        | next s' => cases hnext s' rfl
        | ret r' s' => cases hret r' s' rfl
      · obtain ⟨s₁, hloop, hretry₁, hadds⟩ := Retrying.loop (s := { s with engine := e }) hretry
          passes file (hfail pass (by rw [hpasses]; exact List.mem_cons_self))
        rw [hpasses, hloop] at hnext hret
        cases fl with
        | next s' =>
            obtain ⟨_, rfl⟩ := Prod.mk.inj (Option.some.inj (hnext s' rfl))
            refine .inl ⟨_, _, rfl, hretry₁, hadds, ?_⟩
            split_ifs
            · exact Nat.zero_le 1
            · exact Nat.le_refl 1
        | ret r' s' =>
            obtain ⟨rfl, rfl⟩ := Prod.mk.inj (Option.some.inj (hret r' s' rfl))
            -- the call has returned with TASK_PERIOD_OVER_SOON, so the operation goes on
            unfold nandCall at hcall
            rw [hcopy, handleSdToNandCopyOperation, hprep] at hcall
            dsimp only at hcall
            rw [hpasses, hloop] at hcall
            cases Option.some.inj hcall

/-- A call that gets to the page tries to write it, and the operation goes on. -/
theorem Retrying.attempt {call : NandCall} {s : NandState} (h : Retrying target b k s.engine)
    (hfile : card target.path ≠ none) (hgets : GetsToWrite call) (hfail : WritesFail call) :
    ∃ s', nandCall card call s = some (.next s') ∧ Retrying target b k s'.engine ∧
      Adds s s' [.write b k] := by
  obtain ⟨hquiet, pass, passes, hpasses, htime⟩ := hgets
  have hpath := genericFile_nandTarget h.source h.hamming
  have hprep : prepareGenericFileInformation .at91sam9g20Ek card call.fs s.engine =
      (.ok ⟨fileBytes card target.path, (cacheFileSize card target.path s.engine).currentByteIdx⟩,
        cacheFileSize card target.path s.engine) := by
    unfold prepareGenericFileInformation
    rw [hquiet, if_neg (show ¬ quietFs.changeDirectory ≠ 0 from not_not.mpr rfl), hpath]
    dsimp only
    rw [if_neg (by simpa [quietFs] using hfile),
      if_neg (show ¬ quietFs.seek ≠ 0 from not_not.mpr rfl)]
  obtain ⟨s₁, hloop, hretry, hadds⟩ := Retrying.loop
    (s := { s with engine := cacheFileSize card target.path s.engine }) (h.prepared hprep) passes
    ⟨fileBytes card target.path, (cacheFileSize card target.path s.engine).currentByteIdx⟩
    (hfail pass (by rw [hpasses]; exact List.mem_cons_self))
  rw [htime] at hadds
  refine ⟨s₁, ?_, hretry, hadds⟩
  unfold nandCall
  rw [copySdCardImageToNandFlash_step2 card call h.internal, handleSdToNandCopyOperation, hprep]
  dsimp only
  rw [hpasses, hloop]

/-! ## Runs -/

theorem Adds.trans {s s₁ s₂ : NandState} {xs ys : List NandCommand} (h : Adds s s₁ xs)
    (h' : Adds s₁ s₂ ys) : Adds s s₂ (xs ++ ys) := by
  unfold Adds at *
  rw [h', h, List.append_assoc]

/-- The rest of the call in which the writes start to fail. -/
theorem FailingWrite.nandFrom {pass : NandPass} {p : NandLoop} (h : FailingWrite target pass p)
    (card : Card) (passes : List NandPass) :
    ∃ s₁, (∀ calls, nandFrom card (pass :: passes) calls p = nandCalls card calls s₁) ∧
      Retrying target (nextPage p.2.engine).1 (nextPage p.2.engine).2 s₁.engine ∧
      Adds p.2 s₁ [.write (nextPage p.2.engine).1 (nextPage p.2.engine).2] := by
  obtain ⟨file, s₁, hperform, hretry, hadds⟩ := h.first
  refine ⟨s₁, fun calls => ?_, hretry, hadds⟩
  have hpass : nandCopyPass pass p = some (.ret .taskPeriodOverSoon (file, s₁)) := by
    unfold nandCopyPass
    rw [hperform]
  unfold Engine.nandFrom
  rw [whileLoop_ret rfl hpass]

/-- **Run.** While the writes fail, the call that ends the operation has not tried to write. -/
theorem Retrying.run {calls : List NandCall} {s s' : NandState} {r : ReturnValue}
    (h : Retrying target b k s.engine) (hfail : ∀ call ∈ calls, WritesFail call)
    (hrun : nandCalls card calls s = some (.ret r s')) :
    ∃ earlier s₂, earlier <+: calls ∧ nandCalls card earlier s = some (.next s₂) ∧
      s'.commands = s₂.commands := by
  induction calls generalizing s with
  | nil => cases Option.some.inj hrun
  | cons call calls ih =>
      unfold nandCalls at hrun
      rcases Option.eq_none_or_eq_some (nandCall card call s) with hcall | ⟨fl, hcall⟩
      · rw [hcall] at hrun
        cases hrun
      · rw [hcall] at hrun
        rcases h.call (hfail call List.mem_cons_self) hcall with
          ⟨s₁, _, rfl, hretry, _⟩ | ⟨r₁, s₁, rfl, hsame⟩
        · obtain ⟨earlier, s₂, hprefix, hnext, hcommands⟩ :=
            ih hretry (fun c hc => hfail c (List.mem_cons_of_mem _ hc)) hrun
          refine ⟨call :: earlier, s₂, List.cons_prefix_cons.mpr ⟨rfl, hprefix⟩, ?_, hcommands⟩
          unfold nandCalls
          rw [hcall]
          exact hnext
        · obtain ⟨_, rfl⟩ := Flow.ret.inj (Option.some.inj hrun)
          exact ⟨[], s, List.nil_prefix, rfl, hsame⟩

/-- Calls that get to the page try to write it once each, and the operation goes on. -/
theorem Retrying.attempts {calls : List NandCall} {s : NandState}
    (h : Retrying target b k s.engine) (hfile : card target.path ≠ none)
    (hgets : ∀ call ∈ calls, GetsToWrite call) (hfail : ∀ call ∈ calls, WritesFail call) :
    ∃ s', nandCalls card calls s = some (.next s') ∧
      Adds s s' (List.replicate calls.length (.write b k)) := by
  induction calls generalizing s with
  | nil => exact ⟨s, rfl, (List.append_nil _).symm⟩
  | cons call calls ih =>
      obtain ⟨s₁, hcall, hretry, hadds⟩ :=
        h.attempt hfile (hgets call List.mem_cons_self) (hfail call List.mem_cons_self)
      obtain ⟨s', hrest, hmore⟩ := ih hretry (fun c hc => hgets c (List.mem_cons_of_mem _ hc))
        fun c hc => hfail c (List.mem_cons_of_mem _ hc)
      refine ⟨s', ?_, hadds.trans hmore⟩
      unfold nandCalls
      rw [hcall]
      exact hrest

/-- **A page is retried for ever.** When the page writes of a copy start to fail, whatever the file and
    the point, the copy does not end at the third attempt, and not at any other: as often as it is
    called, it tries to write the same page once more. -/
theorem failing_writes_retried {pass : NandPass} {passes : List NandPass} {calls : List NandCall}
    {p : NandLoop} (h : FailingWrite target pass p) (hfail : ∀ call ∈ calls, WritesFail call) :
    ¬ EndsAtThirdAttempt card (pass :: passes) calls p ∧
      (card target.path ≠ none → (∀ call ∈ calls, GetsToWrite call) →
        ∃ s, nandFrom card (pass :: passes) calls p = some (.next s) ∧
          s.commands = p.2.commands ++ List.replicate (calls.length + 1)
            (.write (nextPage p.2.engine).1 (nextPage p.2.engine).2)) := by
  obtain ⟨s₁, hfrom, hretry, hadds⟩ := h.nandFrom card passes
  constructor
  · rintro ⟨r, s', hrun, _, _, hthree, hearlier⟩
    rw [hfrom] at hrun
    obtain ⟨earlier, s₂, hprefix, hnext, hsame⟩ := hretry.run hfail hrun
    have hlt := hearlier earlier s₂ hprefix ((hfrom earlier).trans hnext)
    unfold attempts at hthree hlt
    rw [hsame] at hthree
    omega
  · intro hfile hgets
    obtain ⟨s', hrun, hmore⟩ := hretry.attempts hfile hgets hfail
    exact ⟨s', (hfrom calls).trans hrun, hadds.trans hmore⟩

/-! ## A run -/

def failingNandCall : NandCall := quietNandCall [failingNandPass]

theorem oneByte_length_lt : [(7 : UInt8)].length < 2 ^ 31 := by decide

/-- An image of one byte in the first slot. -/
def oneByteCard : Card := cardWith NandTarget.obswSlot0.path ⟨[7], oneByte_length_lt⟩

/-- The point at which its only page is to be written: three blocks have been erased. -/
def firstPage : NandLoop :=
  (⟨[7], 0⟩, {
    engine := { startNandCopy .obswSlot0 initial with
      internalState := .step2
      currentFileSize := 1
      helperCounter1 := 3
      helperCounter2 := 3 }
    flash := [2, 3, 4].foldl (skipBlockEraseBlock .done) startedNandState.flash
    commands := [.erase 2, .erase 3, .erase 4] })

theorem failingWrite_firstPage : FailingWrite .obswSlot0 failingNandPass firstPage :=
  ⟨rfl, rfl, rfl, rfl, by decide, by decide⟩

theorem writesFail_failingNandCalls : ∀ call ∈ [failingNandCall, failingNandCall], WritesFail call := by
  intro call hcall
  obtain rfl : call = failingNandCall := by simpa using hcall
  intro pass hpass
  obtain rfl : pass = failingNandPass := List.mem_singleton.mp hpass
  exact failingWrite_firstPage.write

/-- The third attempt at a page is followed by the next one. -/
theorem failing_writes_retried_once_more :
    ¬ EndsAtThirdAttempt oneByteCard [failingNandPass] [failingNandCall, failingNandCall] firstPage ∧
      ∃ s, nandFrom oneByteCard [failingNandPass] [failingNandCall, failingNandCall] firstPage =
          some (.next s) ∧
        s.commands = firstPage.2.commands ++ List.replicate 3
          (.write (nextPage firstPage.2.engine).1 (nextPage firstPage.2.engine).2) := by
  obtain ⟨hends, hruns⟩ := @failing_writes_retried _ oneByteCard _ [] _ _
    failingWrite_firstPage writesFail_failingNandCalls
  refine ⟨hends, hruns (by decide) fun call hcall => ?_⟩
  obtain rfl : call = failingNandCall := by simpa using hcall
  exact ⟨rfl, failingNandPass, [], rfl, rfl⟩

/-- **Three attempts are not the end.** The only page of the image is written in the first call, and
    the write fails in this call and in the two that follow; the copy goes on. -/
theorem third_attempt_goes_on :
    FailingWrite .obswSlot0 failingNandPass firstPage ∧
      (∀ call ∈ [failingNandCall, failingNandCall], WritesFail call) ∧
      nandCall oneByteCard failingNandCall startedNandState =
        nandFrom oneByteCard [failingNandPass] [] firstPage ∧
      (∃ s, nandFrom oneByteCard [failingNandPass] [failingNandCall, failingNandCall] firstPage =
        some (.next s) ∧ attempts firstPage s = 3) ∧
      ¬ EndsAtThirdAttempt oneByteCard [failingNandPass] [failingNandCall, failingNandCall] firstPage := by
  have hrun : ∃ s, nandFrom oneByteCard [failingNandPass] [failingNandCall, failingNandCall] firstPage =
      some (.next s) ∧ attempts firstPage s = 3 := ⟨_, rfl, rfl⟩
  refine ⟨failingWrite_firstPage, writesFail_failingNandCalls, rfl, hrun, ?_⟩
  rintro ⟨r, s', hends, _⟩
  obtain ⟨s, hnext, _⟩ := hrun
  rw [hnext] at hends
  cases Option.some.inj hends

end Engine
end Obsw
