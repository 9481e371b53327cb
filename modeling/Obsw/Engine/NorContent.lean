import Obsw.Engine.NorRetry

/-!
# `Engine.NorContent` — what the NOR flash holds behind a copy

The copy step writes the file bucket by bucket, so behind `k` bytes the flash holds the first `k` bytes
of the file (`norContent`, the invariant), and behind `OPERATION_FINISHED` all of it. This rests on every
bucket being read at the current byte index. A retried write breaks it: the call that retries has
opened the file at the byte index of the kept bucket and does not read it again, so the next bucket
read in the same call is that one once more.
-/

namespace Obsw
namespace Engine

open Memory LittleEndian Device Fram Loop ImageCopyingEngine

variable {hal : NorHal} {target : NorTarget} {xs : List UInt8}

/-! ## The condition on a pass -/

/-- The pass reads its bucket: none is kept, and `f_read` delivers all of it. -/
def ReadsBucket (pass : NorPass) (s : NorLoop) : Prop :=
  s.2.engine.helperFlag1 = false ∧
    (fRead s.1 (bucketSize s.2.engine) pass.readGot).1.length = bucketSize s.2.engine

/-- A bucket that is read is the file's at the current byte index, and no bucket is written
    successfully at the address `getBaseAddress` gives outside its tables. -/
def ReadsInPlace (hal : NorHal) (pass : NorPass) (s : NorLoop) : Prop :=
  (ReadsBucket pass s → (s.1.bytes.drop s.1.pos).take (bucketSize s.2.engine) =
    (s.1.bytes.drop s.2.engine.currentByteIdx).take (bucketSize s.2.engine)) ∧
  (s.2.engine.helperFlag1 = true ∨ ReadsBucket pass s → pass.write = .done →
    writeAddress hal s.2.engine ≠ 0xffffffff)

theorem Filled.readsBucket {pass : NorPass} {file : FFile} {s : NorState} {bs : List UInt8}
    (h : Filled pass file s.engine bs) (hflag : s.engine.helperFlag1 = false) :
    ReadsBucket pass (file, s) := by
  refine ⟨hflag, ?_⟩
  rw [← h.read hflag]
  exact h.length

theorem Filled.available {pass : NorPass} {file : FFile} {s : NorState} {bs : List UInt8}
    (h : Filled pass file s.engine bs) :
    s.engine.helperFlag1 = true ∨ ReadsBucket pass (file, s) := by
  cases hflag : s.engine.helperFlag1 with
  | true => exact .inl rfl
  | false => exact .inr (h.readsBucket hflag)

/-! ## The invariant -/

/-- The first `idx` bytes of the file lie in the flash; a kept bucket is the next one. -/
structure ContentInv (target : NorTarget) (xs : List UInt8) (idx : Nat) (flag : Bool)
    (buffer flash : Mem UInt8) : Prop where
  bound : idx ≤ target.reserved
  holds : Holds flash target.base (xs.take idx)
  kept : flag = true → load buffer 0 (min norflashSmallSectorSize (xs.length - idx)) =
    (xs.drop idx).take (min norflashSmallSectorSize (xs.length - idx))

theorem bucketSize_eq_min {e : ImageCopyingEngine} (hsize : e.currentFileSize = xs.length) :
    bucketSize e = min norflashSmallSectorSize (xs.length - e.currentByteIdx) := by
  unfold bucketSize
  rw [hsize]
  split_ifs <;> omega

/-- Under the condition, the bucket a pass writes is the next one of the file. -/
theorem ContentInv.bucket {pass : NorPass} {file : FFile} {s : NorState} {bs : List UInt8}
    (h : ContentInv target xs s.engine.currentByteIdx s.engine.helperFlag1 s.engine.imgBuffer s.flash)
    (hsize : s.engine.currentFileSize = xs.length) (hbytes : file.bytes = xs)
    (hgood : ReadsInPlace hal pass (file, s)) (hfilled : Filled pass file s.engine bs) :
    bs = (xs.drop s.engine.currentByteIdx).take (bucketSize s.engine) := by
  cases hflag : s.engine.helperFlag1 with
  | true =>
      rw [hfilled.kept hflag, bucketSize_eq_min hsize]
      exact h.kept hflag
  | false =>
      have hplace := hgood.1 (hfilled.readsBucket hflag)
      rw [hbytes] at hplace
      rw [hfilled.bytes hflag, hbytes, hplace]

/-- A bucket is written behind what has been copied, whether it fits or not. -/
theorem base_add_idx_le_writeAddress (hal : NorHal) {n : Nat} {e : ImageCopyingEngine}
    (hcontrol : CopyControl target n e) (hbound : e.currentByteIdx ≤ target.reserved) :
    target.base + e.currentByteIdx ≤ writeAddress hal e := by
  by_cases hlt : e.currentByteIdx < target.reserved
  · rw [writeAddress_eq hcontrol hlt]
  · have hstep := hcontrol.step_lt hbound
    rw [writeAddress_beyond hcontrol (Nat.le_of_not_lt hlt) (by omega)]
    have hreserved := target.reserved_le
    have hbase : target.base ≤ 0x20000 := by cases target <;> decide
    omega

/-- A write that succeeds under the condition lies within the reserved size. -/
theorem idx_lt_reserved_of_write {pass : NorPass} {file : FFile} {s : NorState} {n : Nat}
    {bs : List UInt8} (hfilled : Filled pass file s.engine bs)
    (hcontrol : CopyControl target n s.engine) (hbound : s.engine.currentByteIdx ≤ target.reserved)
    (hgood : ReadsInPlace hal pass (file, s)) (hwrite : pass.write = .done) :
    s.engine.currentByteIdx < target.reserved := by
  by_contra hge
  have hstep : s.engine.stepCounter < 256 := by
    have := hcontrol.step_lt hbound
    omega
  exact hgood.2 hfilled.available hwrite (writeAddress_beyond hcontrol (Nat.le_of_not_lt hge) hstep)

/-- Buckets fill the reserved size exactly. -/
theorem idx_add_bucket_le_reserved {n : Nat} {e : ImageCopyingEngine}
    (hcontrol : CopyControl target n e) (hlt : e.currentByteIdx < target.reserved) :
    e.currentByteIdx + bucketSize e ≤ target.reserved := by
  have hidx : e.currentByteIdx = 8192 * e.stepCounter := hcontrol.idx
  have hle : bucketSize e ≤ 8192 := bucketSize_le e
  by_cases htarget : target = .bootloader
  · subst htarget
    have hreserved := NorTarget.bootloader_spec.2.1
    omega
  · have hreserved := (NorTarget.obsw_spec htarget).2.2.1
    omega

/-- A written bucket continues the file in the flash. -/
theorem holds_written {pass : NorPass} {file : FFile} {s : NorState} {bs : List UInt8}
    (hprogram : ∀ old new, hal.program old new = new)
    (hcontrol : CopyControl target xs.length s.engine) (hsize : s.engine.currentFileSize = xs.length)
    (hlt : s.engine.currentByteIdx < xs.length) (hbytes : file.bytes = xs)
    (hinv : ContentInv target xs s.engine.currentByteIdx s.engine.helperFlag1 s.engine.imgBuffer
      s.flash)
    (hgood : ReadsInPlace hal pass (file, s)) (hwrite : pass.write = .done)
    (hfilled : Filled pass file s.engine bs) :
    Holds (program hal.program s.flash (writeAddress hal s.engine) bs) target.base
      (xs.take (s.engine.currentByteIdx + bucketSize s.engine)) := by
  have hover : hal.program = fun _ new => new := funext fun old => funext fun new => hprogram old new
  rw [writeAddress_eq hcontrol (idx_lt_reserved_of_write hfilled hcontrol hinv.bound hgood hwrite),
    hinv.bucket hsize hbytes hgood hfilled, hover]
  exact holds_take_store hlt.le hinv.holds

/-- The size and CRC fields lie behind a bootloader that ends before them. -/
theorem holds_writeBootloaderSizeAndCrc {pass : NorPass} {s : NorState}
    (h : Holds s.flash 0 xs) (hle : xs.length ≤ norflashBlSizeStart) :
    Holds (writeBootloaderSizeAndCrc hal pass s).flash 0 xs := by
  have hcrc : norflashBlSizeStart ≤ norflashBlCrc16Start := by decide
  exact WriteOutcome.holds_apply_disjoint (WriteOutcome.holds_apply_disjoint h (by omega)) (by omega)

/-- **Content invariant.** -/
def norContent (hprogram : ∀ old new, hal.program old new = new)
    (hfits : target = .bootloader → xs.length ≤ norflashBlSizeStart) :
    NorInvariant hal target xs (ReadsInPlace hal) where
  Erasing _ _ _ := True
  Copying idx flag buffer flash _ := ContentInv target xs idx flag buffer flash
  Ended r flash _ := r = .operationFinished → Holds flash target.base xs
  erase _ _ := trivial
  eraseFails _ _ _ := fun h => by cases h
  erasingEnds _ := fun h => by cases h
  switch _ := ⟨Nat.zero_le _, holds_nil _ _, fun h => by cases h⟩
  bound h := h.bound
  pass {pass file s r file' s'} hgood hcontrol hsize hlt hbytes hinv hstep := by
    cases hstep with
    | notRead hr hflag _ hsame hflag' hflash _ =>
        constructor
        · intro _
          rw [hsame.idx, hflag', hflash]
          exact ⟨hinv.bound, hinv.holds, fun h => by cases h⟩
        · intro h
          rintro rfl
          rcases hr with h | h <;> cases h
    | notWritten hr hfilled _ hsame hflag' hkept hflash _ =>
        constructor
        · intro _
          rw [hsame.idx, hflash]
          refine ⟨hinv.bound, WriteOutcome.holds_apply_disjoint hinv.holds (.inl ?_), fun _ => ?_⟩
          · have hle := base_add_idx_le_writeAddress hal hcontrol hinv.bound
            rw [List.length_take]
            omega
          · rw [← bucketSize_eq_min hsize, hkept]
            exact hinv.bucket hsize hbytes hgood hfilled
        · intro h
          rintro rfl
          rcases hr with h | h <;> cases h
    | written hfilled hwrite _ _ _ _ _ hidx _ hflag' hflash _ =>
        constructor
        · intro _
          have hreserved := idx_lt_reserved_of_write hfilled hcontrol hinv.bound hgood hwrite
          rw [hidx, hflag', hflash]
          exact ⟨idx_add_bucket_le_reserved hcontrol hreserved,
            holds_written hprogram hcontrol hsize hlt hbytes hinv hgood hwrite hfilled,
            fun h => by cases h⟩
        · intro h
          split_ifs at h <;> rcases h with h | h <;> cases h
    | finished hfilled hwrite hlast _ hflash₁ _ hflash _ =>
        refine ⟨fun h => (by rcases h with h | h <;> cases h), fun _ _ => ?_⟩
        have hwritten := holds_written hprogram hcontrol hsize hlt hbytes hinv hgood hwrite hfilled
        rw [bucketSize_of_last (hsize ▸ hlt) hlast, hsize, List.take_length, ← hflash₁] at hwritten
        rw [hflash, hcontrol.source]
        by_cases htarget : target = .bootloader
        · subst htarget
          exact holds_writeBootloaderSizeAndCrc hwritten (hfits rfl)
        · rw [if_neg (NorTarget.obsw_spec htarget).1]
          exact hwritten
  copyingEnds hr _ := by
    rintro rfl
    rcases hr with h | h <;> cases h

/-- **The flash holds the file.** If a copy to the NOR flash ends with `OPERATION_FINISHED`, the flash
    holds the file from the target's base address on, provided every bucket that was read was read at
    the current byte index, no write succeeded at the address outside the tables, and a bootloader
    ends before its size field. -/
theorem norCopy_content {card : Card} {calls : List NorCall} {s s' : NorState}
    {e : ImageCopyingEngine} (hprogram : ∀ old new, hal.program old new = new)
    (hfits : target = .bootloader → (fileBytes card target.path).length ≤ norflashBlSizeStart)
    (hstart : s.engine = startNorCopy target e) (hgood : RunGood (ReadsInPlace hal) hal card calls s)
    (h : norRun hal card calls s = some (.operationFinished, s')) :
    Holds s'.flash target.base (fileBytes card target.path) :=
  (norContent hprogram hfits).norRun_ended
    ((norContent hprogram hfits).startNorCopy_inProgress e hstart trivial) hgood h rfl

/-! ## A run -/

/-- In a call that does not start with a kept bucket, every bucket is read in place. -/
theorem along_readsInPlace {xs : List UInt8} (hfits : xs.length ≤ target.reserved)
    (ps : List NorPass) {s : NorLoop} (h : AtBucket target xs s) :
    Along (ReadsInPlace hal) (fun _ => true) (copyPass hal) ps s := by
  refine along_of_invariant (I := AtBucket target xs) (fun pass t ht _ => ?_)
    (fun pass t t' ht _ hb => ?_) ps s h
  · refine ⟨fun _ => by rw [ht.pos], fun _ _ => ?_⟩
    have hlt := ht.lt
    have hbase : target.base + target.reserved ≤ 0x100000 := by cases target <;> decide
    rw [writeAddress_eq ht.control (by omega)]
    omega
  · have hlt := ht.lt
    rcases hperform : performNorCopyOperation hal pass t.1 t.2 with ⟨r, file', s'⟩
    unfold copyPass at hb
    rw [hperform] at hb
    cases r <;> cases hb
    exact (ht.next (by omega) (.inl rfl) hperform).atBucket

/-- In the retried copy the only bucket that would be misplaced is not read. -/
theorem runGood_retried {card : Card} {s s₁ s₂ s' : NorState} {t : NorLoop} {e : ImageCopyingEngine}
    (hstart : s.engine = startNorCopy target e)
    (hmore : norflashSmallSectorSize < (fileBytes card target.path).length)
    (hfits : (fileBytes card target.path).length ≤ target.reserved)
    (h : Retried hal card target s s₁ t s₂ s') :
    RunGood (ReadsInPlace hal) hal card (retriedCalls target) s := by
  have hpos := Nat.zero_lt_of_lt hmore
  have hfirst := h.first
  have hbase : target.base + target.reserved ≤ 0x100000 := by cases target <;> decide
  refine fun _ => ⟨fun s₀ file e' herase hprep => ?_, fun r hr => ?_⟩
  · obtain ⟨s₂, herase', hcopy⟩ := eraseStep_quiet hal card [failingPass] hstart
    obtain rfl : s₀ = s₂ := by
      rw [herase] at herase'
      exact (Prod.mk.inj (Option.some.inj herase')).2
    exact along_readsInPlace hfits _ (hcopy.atBucket hpos hprep).1
  rw [h.failed] at hr
  obtain rfl := Flow.next.inj (Option.some.inj hr)
  refine fun _ => ⟨callGood_resumed hal h.kept.control hpos ?_, fun r hr => ?_⟩
  · -- the kept bucket is written in place, and the read behind it delivers nothing
    refine fun _ => ⟨⟨fun hread => absurd (h.kept.flag.symm.trans hread.1) (by decide), fun _ _ => ?_⟩,
      fun t' ht => fun _ => ⟨?_, fun _ _ => trivial⟩⟩
    · have hidx : (resumed card target s₁).2.engine.currentByteIdx = 0 := h.kept.idx
      have hcontrol : CopyControl target (fileBytes card target.path).length
          (resumed card target s₁).2.engine := h.kept.control.cacheSize
      rw [writeAddress_eq hcontrol (by rw [hidx]; omega), hidx]
      omega
    · rw [h.written] at ht
      obtain rfl := Flow.next.inj (Option.some.inj ht)
      have hunread : ¬ ReadsBucket unreadPass t := by
        intro hread
        have hbucket : 0 < bucketSize t.2.engine :=
          bucketSize_pos (by rw [hfirst.size, hfirst.idx]; exact hmore)
        have hlength := hread.2
        simp only [fRead, FFile.chunk, unreadPass, Nat.min_zero, List.take_zero,
          List.length_nil] at hlength
        omega
      refine ⟨fun hread => absurd hread hunread, fun hready => ?_⟩
      rcases hready with hflag | hread
      · exact absurd (hfirst.flag.symm.trans hflag) (by decide)
      · exact absurd hread hunread
  rw [h.retried] at hr
  obtain rfl := Flow.next.inj (Option.some.inj hr)
  exact fun _ => ⟨callGood_resumed hal h.second.control hpos
    (along_readsInPlace hfits _ (h.second.atBucket hmore)), fun _ _ => trivial⟩

/-- An image of two buckets is copied, with a write and a read to be made again. -/
theorem norCopy_content_retried :
    ∃ s', norRun overwritingNorHal (cardWith NorTarget.obswSlot0.path twoBuckets)
        (retriedCalls .obswSlot0) (startedState .obswSlot0) = some (.operationFinished, s') ∧
      Holds s'.flash binaryBaseAddress twoBuckets.bytes := by
  have hbytes := fileBytes_cardWith NorTarget.obswSlot0.path twoBuckets
  have hstart : (startedState .obswSlot0).engine = startNorCopy .obswSlot0 initial := rfl
  generalize cardWith NorTarget.obswSlot0.path twoBuckets = card at hbytes ⊢
  have hlen : (fileBytes card NorTarget.obswSlot0.path).length = norflashSmallSectorSize + 1 := by
    rw [hbytes, twoBuckets_length]
  have hmore : norflashSmallSectorSize < (fileBytes card NorTarget.obswSlot0.path).length := by
    rw [hlen]
    decide
  obtain ⟨s₁, t, s₂, s', hretried⟩ := exists_retried overwritingNorHal hstart hmore
    (by rw [hlen]; decide)
  have hholds := norCopy_content (fun _ _ => rfl) (fun h => absurd h (by decide)) hstart
    (runGood_retried hstart hmore (by rw [hlen]; decide) hretried) hretried.norRun
  rw [hbytes] at hholds
  exact ⟨s', hretried.norRun, hholds⟩

/-! ## A retry -/

/-- A last bucket read at the start of the file is the start of the file. -/
theorem copyPass_misplaced (hal : NorHal) {s : NorLoop} (h : FirstWritten target xs s)
    (hbytes : s.1.bytes = xs) (hpos : s.1.pos = 0)
    (hmore : norflashSmallSectorSize < xs.length)
    (hlast : xs.length ≤ 2 * norflashSmallSectorSize) (htarget : target ≠ .bootloader) :
    ∃ s', copyPass hal quietPass s = some (.ret .operationFinished s') ∧
      s'.2.flash = program hal.program s.2.flash (target.base + norflashSmallSectorSize)
        (xs.take (xs.length - norflashSmallSectorSize)) := by
  obtain ⟨hcontrol, hsize, hidx, hflag, _⟩ := h
  have hbucket : bucketSize s.2.engine = xs.length - norflashSmallSectorSize := by
    unfold bucketSize
    rw [hsize, hidx]
    split_ifs <;> omega
  have hread : (fRead s.1 (bucketSize s.2.engine) quietPass.readGot).1.length =
      bucketSize s.2.engine :=
    fRead_length (bucketSize_le _) (by rw [hbucket, hbytes, hpos]; omega)
  have haddr : writeAddress hal s.2.engine = target.base + norflashSmallSectorSize := by
    have hreserved := (NorTarget.obsw_spec htarget).2.2.1
    rw [writeAddress_eq hcontrol (by rw [hidx, hreserved]; decide), hidx]
  rcases hperform : performNorCopyOperation hal quietPass s.1 s.2 with ⟨r, file', s'⟩
  have hstep := performNorCopyOperation_step (by omega) (by omega) hperform
  cases hstep with
  | notRead _ _ hshort => exact absurd hshort (by rw [hread]; exact lt_irrefl _)
  | notWritten _ _ hwrite => exact absurd rfl hwrite
  | written _ _ hno =>
      rw [hidx, hbucket, hsize] at hno
      omega
  | finished hfilled _ _ _ hflash₁ _ hflash =>
      refine ⟨(fileAfter s.1 s.2.engine, s'), ?_, ?_⟩
      · unfold copyPass
        rw [hperform]
      · show s'.flash = _
        rw [hflash, hcontrol.source, if_neg (NorTarget.obsw_spec htarget).1, hflash₁, haddr,
          hfilled.bytes hflag, hbytes, hpos, hbucket, List.drop_zero]

/-- The calls of the run: the first write fails once, nothing else does. -/
def retryingCalls : List NorCall :=
  [quietCall .obswSlot0 [failingPass], quietCall .obswSlot0 [quietPass, quietPass]]

/-- **A retry repeats its bucket.** The write of the first bucket fails once and is retried in the
    next call, which then reads the first bucket again as the second one. -/
theorem norCopy_repeats_bucket :
    ∃ s', norRun overwritingNorHal (cardWith NorTarget.obswSlot0.path twoBuckets) retryingCalls
        (startedState .obswSlot0) = some (.operationFinished, s') ∧
      ¬ Holds s'.flash NorTarget.obswSlot0.base
        (fileBytes (cardWith NorTarget.obswSlot0.path twoBuckets) NorTarget.obswSlot0.path) := by
  have hbytes := fileBytes_cardWith NorTarget.obswSlot0.path twoBuckets
  have hstart : (startedState .obswSlot0).engine = startNorCopy .obswSlot0 initial := rfl
  generalize cardWith NorTarget.obswSlot0.path twoBuckets = card at hbytes ⊢
  have hlen : (fileBytes card NorTarget.obswSlot0.path).length = norflashSmallSectorSize + 1 := by
    rw [hbytes, twoBuckets_length]
  obtain ⟨s₁, hcall₁, hkept⟩ := norCall_failing overwritingNorHal hstart (by rw [hlen]; decide)
  -- the second call writes the kept bucket and goes on to read
  have hcall₂ := copySdCardImageToNorFlash_resumed overwritingNorHal [quietPass, quietPass]
    hkept.control (by rw [hlen]; decide)
  obtain ⟨t₁, hpass₁, hfile₁, hfirst⟩ := copyPass_kept overwritingNorHal
    (s := resumed card .obswSlot0 s₁) ⟨hkept.control.cacheSize, hkept.idx, hkept.flag, hkept.errors⟩
    rfl (by rw [hlen]; decide)
  obtain ⟨t₂, hpass₂, hflash⟩ := copyPass_misplaced overwritingNorHal hfirst
    (by rw [hfile₁]; rfl) (by rw [hfile₁]; exact hkept.idx) (by rw [hlen]; decide)
    (by rw [hlen]; decide) (show NorTarget.obswSlot0 ≠ .bootloader by decide)
  refine ⟨t₂.2, ?_, ?_⟩
  · have hloop : norCall overwritingNorHal card (quietCall .obswSlot0 [quietPass, quietPass]) s₁ =
        some (.ret .operationFinished t₂.2) := by
      rw [norCall, hcall₂, copyLoop]
      have hpasses : whileLoop (fun _ => true) (copyPass overwritingNorHal) [quietPass, quietPass]
          (resumed card .obswSlot0 s₁) = some (.ret .operationFinished t₂) :=
        (whileLoop_next rfl hpass₁).trans (whileLoop_ret rfl hpass₂)
      unfold resumed at hpasses
      rw [hpasses]
    have hcalls : whileLoop (fun _ => true) (norCall overwritingNorHal card) retryingCalls
        (startedState .obswSlot0) = some (.ret .operationFinished t₂.2) :=
      (whileLoop_next rfl hcall₁).trans (whileLoop_ret rfl hloop)
    rw [norRun, hcalls]
  · -- the flash holds the first byte of the file where the last one belongs
    rw [hflash, hbytes]
    intro hholds
    have hcell := holds_iff.mp hholds norflashSmallSectorSize (by rw [twoBuckets_length]; decide)
    have hfirst : twoBuckets.bytes.take (twoBuckets.bytes.length - norflashSmallSectorSize) = [0] := by
      rw [twoBuckets_length, Nat.add_sub_cancel_left]
      rfl
    rw [hfirst] at hcell
    have hat : program overwritingNorHal.program t₁.2.flash
        (NorTarget.obswSlot0.base + norflashSmallSectorSize) [0]
        (NorTarget.obswSlot0.base + norflashSmallSectorSize + 0) = overwritingNorHal.program _ 0 :=
      program_at (by decide)
    rw [Nat.add_zero] at hat
    rw [hat] at hcell
    simp [twoBuckets, overwritingNorHal] at hcell

end Engine
end Obsw
