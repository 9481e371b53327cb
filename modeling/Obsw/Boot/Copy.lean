import Obsw.Boot.Logic
import Obsw.SdCard

/-!
# `Boot.Copy` — one boot of the iOBC

The copy of the selected image into SDRAM and its hamming code check (`boot_sd.c`, `hamming_logic.c`,
`main_norflash.c`), up to the point where the bootloader jumps or restarts. What the file system, the
FRAM driver and the hamming code routine answer during the boot is the environment `BootEnv`.
-/

namespace Obsw
namespace Boot

open Memory LittleEndian Device Fram

/-- What `Hamming_Verify256x` reports. -/
inductive HammingResult where
  | noError
  | errorSinglebit
  | errorEcc
  | errorMultiplebits
  deriving DecidableEq, Repr

/-- The answers of devices and libraries during one boot. -/
structure BootEnv where
  /-- `fram_start_no_os_no_interrupt` -/
  framStart : Int
  norFlash : Mem UInt8
  /-- what the SDRAM holds at power-up -/
  sdram : Mem UInt8
  cards : VolumeId → Card
  openFilesystem : Int
  selectSdCard : VolumeId → Int
  changeDirectory : VolumeId → String → Int
  /-- `f_getlasterror` behind `f_open` -/
  openError : VolumeId → Path → Int
  /-- the most `f_read` delivers -/
  readGot : Nat
  /-- third argument of `handle_hamming_code_check`, which `boot_sd.c` does not pass -/
  hamCodeSizeArg : Nat
  /-- `Hamming_Verify256x` may correct bits of the data -/
  hammingVerify256x : Mem UInt8 → Nat → Mem UInt8 → HammingResult × Mem UInt8

/-- How a boot goes on behind the copy operation: it returns and jumps, or it restarts. -/
inductive BootEnd where
  | returned (result : Int)
  | restarted
  deriving DecidableEq, Repr

/-! ## `initialize_all_iobc_peripherals` -/

/-- The state in which a boot enters the copy operation. The block is read also when the FRAM driver
    did not start. -/
def initializeAllIobcPeripherals (env : BootEnv) (fram : Mem UInt8) : BootState :=
  let block := framNoOsBlockingReadBootloaderBlock fram
  { fram := fram
    blFramBlock := block.2
    framFaulty := decide (env.framStart ≠ 0) || decide (block.1 ≠ 0)
    sdram := env.sdram
    hammingCodeBuf := fun _ => 0
    sram0Status := none }

/-! ## `hamming_logic.c` -/

/-- `read_hamming_code`. -/
def readHammingCode (s : BootState) (slotType : SlotType) (hamCodeSize : Nat) : Int × BootState :=
  match framNoOsBlockingReadHamCode s.fram slotType s.hammingCodeBuf imagesHammingReservedSize 0
      hamCodeSize with
  | (0, buf) => (0, { s with hammingCodeBuf := buf })
  | (_, buf) => (-1, { s with hammingCodeBuf := buf })

/-- The zero bytes that pad an image to a multiple of 256. -/
def fillAmount (imageSize : Nat) : Nat :=
  if imageSize % 256 ≠ 0 then 256 - imageSize % 256 else 0

/-- `size_to_check`: the size of the padded image, of type `size_t`. -/
def sizeToCheck (imageSize : Nat) : Nat := (imageSize + fillAmount imageSize) % 2 ^ 32

/-- `handle_hamming_code_check`. -/
def handleHammingCodeCheck (env : BootEnv) (s : BootState) (slotType : SlotType)
    (imageSize hamCodeSize : Nat) : Int × BootState :=
  if slotType = .bootloader0 then (-1, s)
  else
    match readHammingCode s slotType hamCodeSize with
    | (0, s) =>
      let sdram := fill s.sdram (sdramDestination + imageSize) (fillAmount imageSize) 0
      let verified := env.hammingVerify256x sdram (sizeToCheck imageSize) s.hammingCodeBuf
      let s := { s with sdram := verified.2 }
      match verified.1 with
      | .errorSinglebit => (1, s)
      | .errorEcc => (2, s)
      | .errorMultiplebits => (3, s)
      | .noError => (0, s)
    | (result, s) => (result, s)

/-- `handle_hamming_code_result`: only a multibit error keeps the bootloader from jumping. -/
def handleHammingCodeResult (s : BootState) (result : Int) : Int × BootState :=
  if result = 0 then (result, { s with sram0Status := some .ok })
  else if result = -1 then (0, { s with sram0Status := some .framIssues })
  else if result = 1 then (0, { s with sram0Status := some .hammingErrorSingleBit })
  else if result = 2 then (0, { s with sram0Status := some .hammingErrorEcc })
  else if result = 3 then (-1, { s with sram0Status := some .hammingErrorMultibit })
  else (0, s)

/-! ## `boot_sd.c` -/

/-- The volume chosen by `copy_with_hcc_lib`. -/
def currentVolume (bootSelect : BootSelect) : VolumeId :=
  if bootSelect = .sdCard1Slot1 ∨ bootSelect = .sdCard1Slot0 then .sdCard1 else .sdCard0

/-- The file name chosen by `copy_with_hcc_lib`. The condition tests one selection twice. -/
def slotName (bootSelect : BootSelect) : String :=
  if bootSelect = .sdCard0Slot1 ∨ bootSelect = .sdCard0Slot1 then swSlot1Name else swSlot0Name

/-- `copy_with_hcc_lib`: the result, the image size and the state behind the copy. -/
def copyWithHccLib (env : BootEnv) (s : BootState) (bootSelect : BootSelect) :
    Int × Nat × BootState :=
  let volume := currentVolume bootSelect
  let path := (swRepository, slotName bootSelect)
  if env.openFilesystem ≠ 0 then (-1, 0, s)
  else if env.selectSdCard volume ≠ 0 then (-1, 0, s)
  else if env.changeDirectory volume swRepository ≠ 0 then (-1, 0, s)
  else if env.openError volume path ≠ 0 then (-1, 0, s)
  else
    let filelength := fFilelength (env.cards volume) path
    if filelength = 0 then (-1, 0, s)
    else
      let data := (fRead ⟨fileBytes (env.cards volume) path, 0⟩ filelength env.readGot).1
      -- what a short read delivers is in the SDRAM all the same
      let s := { s with sdram := store s.sdram sdramDestination data }
      if data.length ≠ filelength then (-1, filelength, s)
      else (0, filelength, s)

/-- `copy_sdcard_binary_to_sdram`. -/
def copySdcardBinaryToSdram (env : BootEnv) (s : BootState) (bootSelect : BootSelect)
    (useHamming : Bool) : Int × BootState :=
  if bootSelect = .norFlash then (-1, s)
  else
    match copyWithHccLib env s bootSelect with
    | (0, imageSize, s) =>
      if useHamming then
        let check := match bootSelect with
          | .sdCard0Slot0 => handleHammingCodeCheck env s .sdc0Sl0 imageSize env.hamCodeSizeArg
          | .sdCard0Slot1 => handleHammingCodeCheck env s .sdc0Sl1 imageSize env.hamCodeSizeArg
          | .sdCard1Slot0 => handleHammingCodeCheck env s .sdc1Sl0 imageSize env.hamCodeSizeArg
          | .sdCard1Slot1 => handleHammingCodeCheck env s .sdc1Sl1 imageSize env.hamCodeSizeArg
          | .norFlash => (0, s)
        handleHammingCodeResult check.2 check.1
      else (0, s)
    | (result, _, s) => (result, s)

/-! ## `main_norflash.c` -/

/-- `copy_norflash_binary_to_sdram`. -/
def copyNorflashBinaryToSdram (env : BootEnv) (s : BootState) (copySize : Nat)
    (useHamming : Bool) : Int × BootState :=
  let hamSize := s.blFramBlock.norFlashHammingCodeSize.toNat
  let useHamming := useHamming && !(hamSize == 0 || hamSize == 0xff)
  let s := { s with
    sdram := store s.sdram sdramDestination (load env.norFlash binaryBaseAddress copySize) }
  if useHamming then
    let imageSize := s.blFramBlock.norFlashBinarySize.toNat
    let hamCodeSize := s.blFramBlock.norFlashHammingCodeSize.toNat
    -- an invalid size still jumps to the binary
    if imageSize = 0 ∨ imageSize = 0xffffffff then (0, s)
    else if hamCodeSize = 0 ∨ hamCodeSize = 0xffffffff then (0, s)
    else
      let check := handleHammingCodeCheck env s .flashSlot imageSize hamCodeSize
      handleHammingCodeResult check.2 check.1
  else (0, s)

/-- The selection at the head of `perform_iobc_copy_operation_to_sdram`. -/
def performSelection (s : BootState) : BootSelect × Bool :=
  if s.framFaulty then (.norFlash, false) else determineBootSelect s.blFramBlock s.framFaulty

/-- `perform_iobc_copy_operation_to_sdram` from the selection on. On a failed copy the handlers
    `handle_problematic_…_copy_result` count the reboot and do not return. -/
def performSelectedCopy (env : BootEnv) (s : BootState) (bootSelect : BootSelect)
    (useHamming : Bool) : BootEnd × BootState :=
  let useHamming := if useHamming then localHammingFlagCheck s.blFramBlock bootSelect else useHamming
  if bootSelect = .norFlash then
    let copied := copyNorflashBinaryToSdram env s primaryImageReservedSize useHamming
    let counted := incrementRebootCounterNoOs copied.2 .flashSlot
    if copied.1 ≠ 0 then (.restarted, counted.2) else (.returned counted.1, counted.2)
  else
    let copied := copySdcardBinaryToSdram env s bootSelect useHamming
    let counted := incrementSdcLocRebootCounter copied.2 bootSelect
    if copied.1 ≠ 0 then (.restarted, counted.2) else (.returned counted.1, counted.2)

/-- `perform_iobc_copy_operation_to_sdram`. -/
def performIobcCopyOperationToSdram (env : BootEnv) (s : BootState) : BootEnd × BootState :=
  performSelectedCopy env s (performSelection s).1 (performSelection s).2

/-- One boot, from the FRAM as the last one left it. -/
def boot (env : BootEnv) (fram : Mem UInt8) : BootEnd × BootState :=
  performIobcCopyOperationToSdram env (initializeAllIobcPeripherals env fram)

/-! ## What the copy leaves alone -/

/-- Between the selection and the increment of the counter, the FRAM and the block read from it stay as they
    are. -/
structure KeepsFram (s s' : BootState) : Prop where
  fram : s'.fram = s.fram
  block : s'.blFramBlock = s.blFramBlock

namespace KeepsFram

variable {s s₁ s₂ : BootState}

theorem refl (s : BootState) : KeepsFram s s := ⟨rfl, rfl⟩

theorem trans (h₁ : KeepsFram s s₁) (h₂ : KeepsFram s₁ s₂) : KeepsFram s s₂ :=
  ⟨h₂.fram.trans h₁.fram, h₂.block.trans h₁.block⟩

end KeepsFram

theorem readHammingCode_keepsFram (s : BootState) (slotType : SlotType) (hamCodeSize : Nat) :
    KeepsFram s (readHammingCode s slotType hamCodeSize).2 := by
  unfold readHammingCode
  split <;> exact ⟨rfl, rfl⟩

theorem handleHammingCodeCheck_keepsFram (env : BootEnv) (s : BootState) (slotType : SlotType)
    (imageSize hamCodeSize : Nat) :
    KeepsFram s (handleHammingCodeCheck env s slotType imageSize hamCodeSize).2 := by
  have hread := readHammingCode_keepsFram s slotType hamCodeSize
  unfold handleHammingCodeCheck
  split_ifs
  · exact .refl s
  · split
    · rename_i s₁ heq
      rw [heq] at hread
      dsimp only
      split <;> exact ⟨hread.fram, hread.block⟩
    · rename_i s₁ _ heq
      rw [heq] at hread
      exact hread

theorem handleHammingCodeResult_keepsFram (s : BootState) (result : Int) :
    KeepsFram s (handleHammingCodeResult s result).2 := by
  unfold handleHammingCodeResult
  split_ifs <;> exact ⟨rfl, rfl⟩

/-- The file system gets as far as reading the file `copy_with_hcc_lib` looks for. -/
def ReachesRead (env : BootEnv) (image : BootSelect) : Prop :=
  env.openFilesystem = 0 ∧ env.selectSdCard (currentVolume image) = 0 ∧
    env.changeDirectory (currentVolume image) swRepository = 0 ∧
    env.openError (currentVolume image) (swRepository, slotName image) = 0 ∧
    fFilelength (env.cards (currentVolume image)) (swRepository, slotName image) ≠ 0

theorem copyWithHccLib_keepsFram (env : BootEnv) (s : BootState) (image : BootSelect) :
    KeepsFram s (copyWithHccLib env s image).2.2 := by
  unfold copyWithHccLib
  dsimp only
  split_ifs <;> exact ⟨rfl, rfl⟩

theorem copyNorflashBinaryToSdram_keepsFram (env : BootEnv) (s : BootState) (copySize : Nat)
    (useHamming : Bool) : KeepsFram s (copyNorflashBinaryToSdram env s copySize useHamming).2 := by
  unfold copyNorflashBinaryToSdram
  dsimp only
  split_ifs
  · exact ⟨rfl, rfl⟩
  · exact ⟨rfl, rfl⟩
  · refine .trans ?_ (handleHammingCodeResult_keepsFram _ _)
    -- the check starts from a state that differs from `s` in the SDRAM only
    have hcheck := handleHammingCodeCheck_keepsFram env
      { s with sdram := (store s.sdram sdramDestination (load env.norFlash binaryBaseAddress copySize)) }
      .flashSlot s.blFramBlock.norFlashBinarySize.toNat s.blFramBlock.norFlashHammingCodeSize.toNat
    exact ⟨hcheck.fram, hcheck.block⟩
  · exact ⟨rfl, rfl⟩

/-- Each branch passes the slot of the selection it tests. -/
theorem copySdcardBinaryToSdram_eq (env : BootEnv) (s : BootState) {bootSelect : BootSelect}
    (hnor : bootSelect ≠ .norFlash) (useHamming : Bool) :
    copySdcardBinaryToSdram env s bootSelect useHamming =
      let copied := copyWithHccLib env s bootSelect
      if copied.1 ≠ 0 then (copied.1, copied.2.2)
      else if useHamming then
        let check := handleHammingCodeCheck env copied.2.2 (sdcLocSlotType bootSelect) copied.2.1
          env.hamCodeSizeArg
        handleHammingCodeResult check.2 check.1
      else (0, copied.2.2) := by
  unfold copySdcardBinaryToSdram
  rw [if_neg hnor]
  rcases copyWithHccLib env s bootSelect with ⟨result, imageSize, s₁⟩
  by_cases hzero : result = 0
  · subst hzero
    cases bootSelect with
    | norFlash => exact absurd rfl hnor
    | _ => rfl
  · dsimp only
    rw [if_pos hzero]
    split
    · rename_i heq
      exact absurd (Prod.mk.inj heq).1 hzero
    · rename_i heq
      cases heq
      rfl

theorem copySdcardBinaryToSdram_keepsFram (env : BootEnv) (s : BootState) {image : BootSelect}
    (hnor : image ≠ .norFlash) (useHamming : Bool) :
    KeepsFram s (copySdcardBinaryToSdram env s image useHamming).2 := by
  have hcopy := copyWithHccLib_keepsFram env s image
  rw [copySdcardBinaryToSdram_eq env s hnor]
  dsimp only
  split_ifs
  · exact hcopy
  · exact hcopy.trans ((handleHammingCodeCheck_keepsFram ..).trans (handleHammingCodeResult_keepsFram _ _))
  · exact hcopy

/-- The slot whose counter is incremented for an image. -/
def slotTypeOf : BootSelect → SlotType
  | .norFlash => .flashSlot
  | image => sdcLocSlotType image

/-- **Shape of a boot.** The copy keeps the FRAM; then the counter of the image is incremented, whether the
    boot jumps or restarts. -/
theorem performSelectedCopy_counts (env : BootEnv) (s : BootState) (image : BootSelect)
    (useHamming : Bool) :
    ∃ s₁, KeepsFram s s₁ ∧
      (performSelectedCopy env s image useHamming).2 =
        (incrementRebootCounterNoOs s₁ (slotTypeOf image)).2 := by
  unfold performSelectedCopy
  dsimp only
  generalize (if useHamming = true then localHammingFlagCheck s.blFramBlock image else useHamming) = checks
  by_cases hnor : image = .norFlash
  · refine ⟨_, copyNorflashBinaryToSdram_keepsFram env s primaryImageReservedSize checks, ?_⟩
    subst hnor
    rw [if_pos rfl]
    split_ifs <;> rfl
  · have hslot : slotTypeOf image = sdcLocSlotType image := by
      cases image <;> first | rfl | exact absurd rfl hnor
    refine ⟨_, copySdcardBinaryToSdram_keepsFram env s hnor checks, ?_⟩
    rw [if_neg hnor, hslot]
    split_ifs <;> rfl

end Boot
end Obsw
