import Obsw.Boot.Check
import Obsw.Engine.NorRetry

/-!
# `Engine.NorCheck` — a copied bootloader passes its own check

The on-board software writes the size and the CRC of a bootloader behind it, the bootloader reads them
on startup. Both work on the flash as it reads, so the check passes whatever the flash holds, as long as
the two fields take the values written to them: the erase step leaves them blank (`FieldsErased`), and a
file that ends before them does not touch them. A longer file does.
-/

namespace Obsw
namespace Engine

open Memory LittleEndian Device Loop ImageCopyingEngine Boot

variable {hal : NorHal} {xs : List UInt8}

/-! ## The size and CRC fields -/

/-- The cells of the two fields are erased. -/
def FieldsErased (flash : Mem UInt8) : Prop :=
  ∀ i, norflashBlSizeStart ≤ i → i < bootloaderReservedSize → flash i = 0xff

theorem fields_spec : norflashBlSizeStart = 0x1FFFA ∧ norflashBlCrc16Start = 0x1FFFE ∧
    bootloaderReservedSize = 0x20000 := ⟨rfl, rfl, rfl⟩

/-- A write that ends before the fields leaves them erased. -/
theorem FieldsErased.apply {outcome : WriteOutcome UInt8} {flash : Mem UInt8} {a : Nat}
    {bs : List UInt8} (h : FieldsErased flash) (hle : a + bs.length ≤ norflashBlSizeStart) :
    FieldsErased (outcome.apply hal.program flash a bs) := by
  intro i hstart hend
  rw [WriteOutcome.apply_frame (.inr (by omega))]
  exact h i hstart hend

/-- Erasing the last sector of the bootloader erases the fields. -/
theorem fieldsErased_eraseSector (flash : Mem UInt8) :
    FieldsErased (eraseSector .done flash (hal.sectorAddress 8)) := by
  have haddr : hal.sectorAddress 8 = 65536 := hal.sectorAddress_eq (by decide)
  have hsize : sectorSize (sectorOf 65536) = 65536 := by decide
  obtain ⟨hs, _, he⟩ := fields_spec
  intro i hstart hend
  obtain ⟨k, rfl⟩ : ∃ k, i = 65536 + k := Nat.exists_eq_add_of_le (by omega)
  unfold eraseSector
  rw [haddr, WriteOutcome.apply_done, hsize]
  have hk : k < (List.replicate 65536 (0xff : UInt8)).length := by
    rw [List.length_replicate]
    omega
  rw [program_at hk]
  exact List.getElem_replicate _

/-- What `writeBootloaderSizeAndCrc` does to erased fields. -/
theorem writeBootloaderSizeAndCrc_flash {pass : NorPass} {s : NorState}
    (hprogram : ∀ b, hal.program 0xff b = b) (h : FieldsErased s.flash)
    (hsize : pass.writeSize = .done) (hcrc : pass.writeCrc = .done) :
    (writeBootloaderSizeAndCrc hal pass s).flash =
      norflashBlCrc16.write (norflashBlSize.write s.flash s.engine.currentFileSize)
        (hal.crc16ccitt (load (norflashBlSize.write s.flash s.engine.currentFileSize) 0
          s.engine.currentFileSize)).toNat := by
  obtain ⟨hs, hc, he⟩ := fields_spec
  have hwrite : program hal.program s.flash norflashBlSizeStart (toLE 4 s.engine.currentFileSize) =
      norflashBlSize.write s.flash s.engine.currentFileSize := by
    refine program_eq_store fun i hi => ?_
    rw [toLE_length] at hi
    rw [h _ (by omega) (by omega)]
    exact hprogram _
  unfold writeBootloaderSizeAndCrc
  dsimp only
  rw [hsize, hcrc, WriteOutcome.apply_done, WriteOutcome.apply_done, hwrite]
  refine program_eq_store fun i hi => ?_
  rw [toLE_length] at hi
  rw [show norflashBlSize.write s.flash s.engine.currentFileSize (norflashBlCrc16Start + i) = 0xff from
    (store_frame (.inr (by rw [toLE_length]; show norflashBlSizeStart + 4 ≤ _; omega))).trans
      (h _ (by omega) (by omega))]
  exact hprogram _

/-- The fields hold the size of the file and the CRC of as many bytes of the flash. -/
def FieldsWritten (hal : NorHal) (n : Nat) (flash : Mem UInt8) : Prop :=
  norflashBlSize.read flash = n ∧
    norflashBlCrc16.read flash = (hal.crc16ccitt (load flash 0 n)).toNat

theorem fieldsWritten {pass : NorPass} {s : NorState} {n : Nat}
    (hprogram : ∀ b, hal.program 0xff b = b) (h : FieldsErased s.flash)
    (hn : s.engine.currentFileSize = n) (hle : n ≤ norflashBlSizeStart)
    (hsize : pass.writeSize = .done) (hcrc : pass.writeCrc = .done) :
    FieldsWritten hal n (writeBootloaderSizeAndCrc hal pass s).flash := by
  obtain ⟨hs, hc, _⟩ := fields_spec
  rw [writeBootloaderSizeAndCrc_flash hprogram h hsize hcrc, hn]
  have hdisjoint : norflashBlSize.Disjoint norflashBlCrc16 := by decide
  -- the fields lie behind the bytes the CRC is computed of
  have hload : ∀ flash : Mem UInt8, ∀ v, load (norflashBlCrc16.write flash v) 0 n = load flash 0 n :=
    fun flash v => load_store_disjoint (.inl (by show 0 + n ≤ norflashBlCrc16Start; omega))
  refine ⟨?_, ?_⟩
  · rw [Field.read_write_disjoint hdisjoint, Field.read_write]
    apply Nat.mod_eq_of_lt
    show n < 256 ^ 4
    omega
  · rw [hload, Field.read_write]
    apply Nat.mod_eq_of_lt
    exact (hal.crc16ccitt (load (norflashBlSize.write s.flash n) 0 n)).toNat_lt

/-! ## The invariant -/

/-- The two writes behind the bootloader succeed. -/
def FieldWritesDone (pass : NorPass) (_ : NorLoop) : Prop :=
  pass.writeSize = .done ∧ pass.writeCrc = .done

/-- A bucket of a bootloader that ends before the fields is written before them. -/
theorem FieldsErased.applyBucket (hal : NorHal) (outcome : WriteOutcome UInt8) {pass : NorPass} {file : FFile}
    {s : NorState} {bs : List UInt8} (h : FieldsErased s.flash) (hle : xs.length ≤ norflashBlSizeStart)
    (hcontrol : CopyControl .bootloader xs.length s.engine)
    (hsize : s.engine.currentFileSize = xs.length) (hlt : s.engine.currentByteIdx < xs.length)
    (hfilled : Filled pass file s.engine bs) :
    FieldsErased (outcome.apply hal.program s.flash (writeAddress hal s.engine) bs) := by
  obtain ⟨hs, _, _⟩ := fields_spec
  obtain ⟨hbase, hreserved, _⟩ := NorTarget.bootloader_spec
  have hbucket := idx_add_bucketSize_le hsize hlt
  apply h.apply
  rw [writeAddress_eq hcontrol (by omega), hfilled.length]
  omega

/-- **Field invariant.** From the last sector erased up to the end, the fields are blank. -/
def norFields (hprogram : ∀ b, hal.program 0xff b = b) (hle : xs.length ≤ norflashBlSizeStart) :
    NorInvariant hal .bootloader xs FieldWritesDone where
  Erasing step flash _ := step = NorTarget.bootloader.eraseSteps → FieldsErased flash
  Copying idx _ _ flash _ := idx ≤ xs.length ∧ FieldsErased flash
  Ended r flash _ := r = .operationFinished → FieldsWritten hal xs.length flash
  erase {step flash _} _ _ hlast := by
    obtain rfl : step = 8 := Nat.succ.inj hlast
    exact fieldsErased_eraseSector flash
  eraseFails _ _ _ := fun h => by cases h
  erasingEnds _ := fun h => by cases h
  switch h := ⟨Nat.zero_le _, h rfl⟩
  bound h := h.1.trans (hle.trans (by decide))
  pass {pass file s r file' s'} hgood hcontrol hsize hlt hbytes hinv hstep := by
    cases hstep with
    | notRead hr _ _ hsame _ hflash _ =>
        constructor
        · intro _
          rw [hsame.idx, hflash]
          exact hinv
        · intro h
          rintro rfl
          rcases hr with h | h <;> cases h
    | notWritten hr hfilled _ hsame _ _ hflash _ =>
        constructor
        · intro _
          rw [hsame.idx, hflash]
          exact ⟨hinv.1, hinv.2.applyBucket hal _ hle hcontrol hsize hlt hfilled⟩
        · intro h
          rintro rfl
          rcases hr with h | h <;> cases h
    | written hfilled _ hmore _ _ _ _ hidx _ _ hflash _ =>
        constructor
        · intro _
          rw [hidx, hflash]
          refine ⟨by omega, ?_⟩
          exact hinv.2.applyBucket hal .done hle hcontrol hsize hlt hfilled
        · intro h
          split_ifs at h <;> rcases h with h | h <;> cases h
    | finished hfilled _ _ hsize₁ hflash₁ _ hflash _ =>
        refine ⟨fun h => (by rcases h with h | h <;> cases h), fun _ _ => ?_⟩
        -- the last bucket leaves the fields blank, so both writes take
        have herased := hinv.2.applyBucket hal .done hle hcontrol hsize hlt hfilled
        rw [WriteOutcome.apply_done, ← hflash₁] at herased
        rw [hflash, hcontrol.source, if_pos (show NorTarget.bootloader.slot = .bootloader0 from rfl)]
        exact fieldsWritten hprogram herased (hsize₁.trans hsize) hle hgood.1 hgood.2
  copyingEnds hr _ := by
    rintro rfl
    rcases hr with h | h <;> cases h

/-- **A copied bootloader passes its check.** If the copy of a bootloader that ends before the size
    field is finished and the two fields could be written, the CRC the bootloader computes on startup
    is the stored one, and it does not jump to the image. -/
theorem norCopy_passes_check {card : Card} {calls : List NorCall} {s s' : NorState}
    {e : ImageCopyingEngine} (hprogram : ∀ b, hal.program 0xff b = b)
    (hcrc : ∀ bytes, hal.crc16ccitt bytes = crc16ccittDefaultStartCrc bytes)
    (hle : (fileBytes card NorTarget.bootloader.path).length ≤ norflashBlSizeStart)
    (hstart : s.engine = startNorCopy .bootloader e)
    (hgood : RunGood FieldWritesDone hal card calls s)
    (h : norRun hal card calls s = some (.operationFinished, s')) (sdram : Mem UInt8) :
    CrcFieldMatches s'.flash ∧ performBootloaderCheck s'.flash sdram = .crcMatches := by
  have herase : NorTarget.bootloader.eraseSteps ≠ 0 := by decide
  obtain ⟨hsize, hfield⟩ := (norFields hprogram hle).norRun_ended
    ((norFields hprogram hle).startNorCopy_inProgress e hstart fun hno => absurd hno.symm herase)
    hgood h rfl
  have hmatches : CrcFieldMatches s'.flash := by
    unfold CrcFieldMatches
    rw [hsize, hfield, hcrc]
  exact ⟨hmatches, (performBootloaderCheck_matches_iff s'.flash sdram).mpr hmatches⟩

/-- The driver of the flash with the CRC function of the bootloader. -/
def checkedNorHal : NorHal := iobcNorHal crc16ccittDefaultStartCrc

theorem checkedNorHal_program (b : UInt8) : checkedNorHal.program 0xff b = b := by
  show 0xff &&& b = b
  apply UInt8.toBitVec_inj.mp
  exact BitVec.allOnes_and

/-- The retried copy writes the two fields. -/
theorem fieldWritesDone_retried {card : Card} (s : NorState) :
    RunGood FieldWritesDone hal card (retriedCalls .bootloader) s := by
  refine runGood_of_mem (fun call hcall pass hpass t => ?_) s
  simp only [retriedCalls, quietCall, List.mem_cons, List.not_mem_nil, or_false] at hcall
  rcases hcall with rfl | rfl | rfl <;>
    simp only [List.mem_cons, List.not_mem_nil, or_false] at hpass
  · exact hpass ▸ ⟨rfl, rfl⟩
  · rcases hpass with rfl | rfl <;> exact ⟨rfl, rfl⟩
  · exact hpass ▸ ⟨rfl, rfl⟩

/-- A bootloader of two buckets, copied with a write and a read to be made again, passes its check. -/
theorem norCopy_passes_check_retried :
    ∃ s', norRun checkedNorHal (cardWith NorTarget.bootloader.path twoBuckets)
        (retriedCalls .bootloader) (startedState .bootloader) = some (.operationFinished, s') ∧
      CrcFieldMatches s'.flash ∧ performBootloaderCheck s'.flash (fun _ => 0) = .crcMatches := by
  have hbytes := fileBytes_cardWith NorTarget.bootloader.path twoBuckets
  generalize cardWith NorTarget.bootloader.path twoBuckets = card at hbytes ⊢
  have hlen : (fileBytes card NorTarget.bootloader.path).length = norflashSmallSectorSize + 1 := by
    rw [hbytes, twoBuckets_length]
  have hstart : (startedState .bootloader).engine = startNorCopy .bootloader initial := rfl
  obtain ⟨_, _, _, s', hretried⟩ := exists_retried checkedNorHal hstart (by rw [hlen]; decide)
    (by rw [hlen]; decide)
  exact ⟨s', hretried.norRun, norCopy_passes_check checkedNorHal_program (fun _ => rfl)
    (by rw [hlen]; decide) hstart (fieldWritesDone_retried _) hretried.norRun (fun _ => 0)⟩

/-! ## A bootloader that reaches the fields -/

/-- A programmed cell that is 0 stays 0. -/
theorem program_zero {m : Mem UInt8} {a i : Nat} {bs : List UInt8} (h : m i = 0) :
    program checkedNorHal.program m a bs i = 0 := by
  by_cases hi : a ≤ i ∧ i < a + bs.length
  · obtain ⟨k, rfl⟩ := Nat.exists_eq_add_of_le hi.1
    rw [program_at (by omega), h]
    exact UInt8.zero_and
  · rw [program_frame (by omega), h]

theorem writeBootloaderSizeAndCrc_zero {pass : NorPass} {s : NorState} {i : Nat}
    (hsize : pass.writeSize = .done) (hcrc : pass.writeCrc = .done) (h : s.flash i = 0) :
    (writeBootloaderSizeAndCrc checkedNorHal pass s).flash i = 0 := by
  unfold writeBootloaderSizeAndCrc
  dsimp only
  rw [hsize, hcrc, WriteOutcome.apply_done, WriteOutcome.apply_done]
  exact program_zero (program_zero h)

/-- A cell programmed with 0 is 0. -/
theorem program_zeros {m : Mem UInt8} {a i : Nat} {bs : List UInt8} (h : ∀ b ∈ bs, b = 0)
    (hi : a ≤ i) (hi' : i < a + bs.length) : program checkedNorHal.program m a bs i = 0 := by
  obtain ⟨k, rfl⟩ := Nat.exists_eq_add_of_le hi
  have hk : k < bs.length := by omega
  rw [program_at hk, h _ (List.getElem_mem hk)]
  exact UInt8.and_zero

/-- A file of zeros as long as the reserved space. -/
def zeroBootloader : SdFile where
  bytes := List.replicate bootloaderReservedSize 0
  length_lt := by
    rw [List.length_replicate]
    decide

theorem zeroBootloader_bytes :
    zeroBootloader.bytes = List.replicate bootloaderReservedSize 0 := rfl

theorem zeroBootloader_zeros (b : UInt8) (h : b ∈ zeroBootloader.bytes) : b = 0 := by
  rw [zeroBootloader_bytes] at h
  exact List.eq_of_mem_replicate h

/-- The last bucket of the file leaves the fields at 0. -/
theorem fields_zero {card : Card} {t : NorLoop} {s' : NorState} {file' : FFile}
    (hbytes : fileBytes card NorTarget.bootloader.path = zeroBootloader.bytes)
    (hat : AtBucket .bootloader (fileBytes card NorTarget.bootloader.path) t)
    (hstep : NorStep checkedNorHal quietPass t.1 t.2 .operationFinished file' s') :
    ∀ i, norflashBlSizeStart ≤ i → i < bootloaderReservedSize → s'.flash i = 0 := by
  obtain ⟨hs, _, he⟩ := fields_spec
  have hlen : (fileBytes card NorTarget.bootloader.path).length = 0x20000 := by
    rw [hbytes, zeroBootloader_bytes, List.length_replicate, he]
  have hidx : t.2.engine.currentByteIdx = 8192 * t.2.engine.stepCounter := hat.control.idx
  have hsize := hat.size
  have hlt := hat.lt
  intro i hi hi'
  cases hstep with
  | notRead hr => rcases hr with h | h <;> cases h
  | notWritten hr => rcases hr with h | h <;> cases h
  | @finished _ _ bs hfilled _ hlast _ hflash₁ _ hflash =>
      have hend := bucketSize_of_last (by omega) hlast
      have hle : bucketSize t.2.engine ≤ 8192 := bucketSize_le _
      obtain ⟨hbase, hreserved, _⟩ := NorTarget.bootloader_spec
      have haddr : writeAddress checkedNorHal t.2.engine = t.2.engine.currentByteIdx := by
        rw [writeAddress_eq hat.control (by omega), hbase, Nat.zero_add]
      have hzeros : ∀ b ∈ bs, b = 0 := fun b hb => by
        rw [hfilled.bytes hat.flag, hat.bytes, hbytes] at hb
        exact zeroBootloader_zeros b (List.mem_of_mem_drop (List.mem_of_mem_take hb))
      have hbs := hfilled.length
      rw [hflash, hat.control.source, if_pos (show NorTarget.bootloader.slot = .bootloader0 from rfl)]
      apply writeBootloaderSizeAndCrc_zero rfl rfl
      rw [hflash₁, haddr]
      exact program_zeros hzeros (by omega) (by omega)

/-- **A bootloader that reaches the fields fails its check.** The size and the CRC cannot be written
    over the zeros of the file. -/
theorem norCopy_fails_check :
    ∃ s', norRun checkedNorHal (cardWith NorTarget.bootloader.path zeroBootloader)
        [quietCall .bootloader (quietPasses bootloaderReservedSize)] (startedState .bootloader) =
          some (.operationFinished, s') ∧
      ¬ CrcFieldMatches s'.flash ∧ performBootloaderCheck s'.flash (fun _ => 0) ≠ .crcMatches := by
  have hbytes := fileBytes_cardWith NorTarget.bootloader.path zeroBootloader
  generalize cardWith NorTarget.bootloader.path zeroBootloader = card at hbytes ⊢
  have hlen : (fileBytes card NorTarget.bootloader.path).length = bootloaderReservedSize := by
    rw [hbytes, zeroBootloader_bytes, List.length_replicate]
  have hstart : (startedState .bootloader).engine = startNorCopy .bootloader initial := rfl
  obtain ⟨t, s', hat, hstep, hrun⟩ := norRun_quiet checkedNorHal hstart (by rw [hlen]; decide)
    (by rw [hlen]; decide)
  rw [hlen] at hrun
  have hzero := fields_zero hbytes hat hstep
  obtain ⟨hs, hc, he⟩ := fields_spec
  -- a size of 0 and a CRC of 0, which is not the CRC of no bytes
  have hsize : norflashBlSize.read s'.2.flash = 0 :=
    Field.read_congr (m := fun _ => 0) fun i hi => hzero _ (Nat.le_add_right _ _) (by
      have hi4 : i < 4 := hi
      show norflashBlSizeStart + i < _
      omega)
  have hcrc : norflashBlCrc16.read s'.2.flash = 0 :=
    Field.read_congr (m := fun _ => 0) fun i hi => hzero _ (by
      show norflashBlSizeStart ≤ norflashBlCrc16Start + i
      omega) (by
      have hi2 : i < 2 := hi
      show norflashBlCrc16Start + i < _
      omega)
  have hfails : ¬ CrcFieldMatches s'.2.flash := by
    unfold CrcFieldMatches
    rw [hsize, hcrc, show load s'.2.flash 0 0 = [] from rfl]
    decide
  exact ⟨s'.2, hrun, hfails, fun h => hfails ((performBootloaderCheck_matches_iff _ _).mp h)⟩

end Engine
end Obsw
