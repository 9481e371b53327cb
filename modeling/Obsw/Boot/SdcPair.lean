import Obsw.Boot.HammingCheck

/-!
# `Boot.SdcPair` — one SD card boot, one image

A card and a slot stand for one image: its file, its hamming flag, its hamming code region in the FRAM and
its reboot counter (`Image`). The bootloader decodes the selection anew for each of them. `Image.boot` says
what is to come of a boot that uses nothing but what belongs to the image; the bootloader does just that,
but for one file name: `copy_with_hcc_lib` tests `BOOT_SD_CARD_0_SLOT_1` twice, so slot 1 of card 1 copies
the slot 0 file of that card.
-/

namespace Obsw
namespace Boot

open Memory LittleEndian Fram

/-- The image slots of a card (`SdSlots`). -/
inductive SdSlot where
  | slot0
  | slot1
  deriving DecidableEq, Repr

/-- The boot selection for a card and a slot. -/
def sdcBootSelect : VolumeId → SdSlot → BootSelect
  | .sdCard0, .slot0 => .sdCard0Slot0
  | .sdCard0, .slot1 => .sdCard0Slot1
  | .sdCard1, .slot0 => .sdCard1Slot0
  | .sdCard1, .slot1 => .sdCard1Slot1

/-! ## What belongs to a card and a slot -/

/-- An image of a card: its file, and its flag, its code region and its counter in the FRAM. -/
structure Image where
  volume : VolumeId
  file : Path
  hammingFlag : Field
  hammingCode : Nat
  rebootCounter : Field

/-- The image file of a slot, the same name on both cards. -/
def imageFile : SdSlot → Path
  | .slot0 => (swRepository, swSlot0Name)
  | .slot1 => (swRepository, swSlot1Name)

def imageOf : VolumeId → SdSlot → Image
  | .sdCard0, .slot0 =>
    ⟨.sdCard0, imageFile .slot0, sdc0ImageSlot0HammingFlag, sdc0Slot0HammingAddr, sdc0ImageSlot0RebootCounter⟩
  | .sdCard0, .slot1 =>
    ⟨.sdCard0, imageFile .slot1, sdc0ImageSlot1HammingFlag, sdc0Slot1HammingAddr, sdc0ImageSlot1RebootCounter⟩
  | .sdCard1, .slot0 =>
    ⟨.sdCard1, imageFile .slot0, sdc1ImageSlot0HammingFlag, sdc1Slot0HammingAddr, sdc1ImageSlot0RebootCounter⟩
  | .sdCard1, .slot1 =>
    ⟨.sdCard1, imageFile .slot1, sdc1ImageSlot1HammingFlag, sdc1Slot1HammingAddr, sdc1ImageSlot1RebootCounter⟩

/-! ## The boot of an image -/

/-- What the file system delivers of a file: bytes, and whether they are the whole file. -/
structure Delivery where
  bytes : List UInt8
  whole : Bool
  deriving DecidableEq, Repr

def delivery (env : BootEnv) (volume : VolumeId) (file : Path) : Delivery :=
  if env.openFilesystem = 0 ∧ env.selectSdCard volume = 0 ∧ env.changeDirectory volume file.1 = 0 ∧
      env.openError volume file = 0 then
    let bytes := fileBytes (env.cards volume) file
    ⟨bytes.take env.readGot, decide (bytes ≠ [] ∧ bytes.length ≤ env.readGot)⟩
  else ⟨[], false⟩

/-- What a boot leaves in the memories. -/
structure Leaves where
  sdram : Mem UInt8
  fram : Mem UInt8
  sram0Status : Option SramStatus

/-- A code of this size can be read from the region of an image: a longer one is clamped. -/
def CodeLoads (hamCodeSize : Nat) : Prop :=
  hamCodeSize ≠ 0 ∧
    (imagesHammingReservedSize < hamCodeSize % 2 ^ 32 ∨ hamCodeSize ≤ imagesHammingReservedSize)

instance (hamCodeSize : Nat) : Decidable (CodeLoads hamCodeSize) := inferInstanceAs (Decidable (_ ∧ _))

/-- The status for the primary software. -/
def HammingResult.status : HammingResult → SramStatus
  | .noError => .ok
  | .errorSinglebit => .hammingErrorSingleBit
  | .errorEcc => .hammingErrorEcc
  | .errorMultiplebits => .hammingErrorMultibit

namespace Image

/-- The SDRAM behind the copy of the file. -/
def copied (image : Image) (env : BootEnv) (sdram : Mem UInt8) : Mem UInt8 :=
  store sdram sdramDestination (delivery env image.volume image.file).bytes

/-- The FRAM behind the boot: the counter of the image counts it. -/
def counted (image : Image) (fram : Mem UInt8) : Mem UInt8 :=
  image.rebootCounter.write fram (nextRebootCounter (.ofNat (image.rebootCounter.read fram))).toNat

/-- The code is checked: both flags are set. -/
def Checked (image : Image) (fram : Mem UInt8) (useHamming : Bool) : Prop :=
  useHamming = true ∧ image.hammingFlag.read fram = framTrue

instance (image : Image) (fram : Mem UInt8) (useHamming : Bool) : Decidable (image.Checked fram useHamming) :=
  inferInstanceAs (Decidable (_ ∧ _))

/-- What the hamming code routine makes of the padded image and the code in its region. -/
def verified (image : Image) (env : BootEnv) (fram : Mem UInt8) : HammingResult × Mem UInt8 :=
  let size := (delivery env image.volume image.file).bytes.length
  env.hammingVerify256x
    (fill (image.copied env env.sdram) (sdramDestination + size) (fillAmount size) 0) (sizeToCheck size)
    (store (fun _ => 0) 0 (load fram image.hammingCode (polledSize env.hamCodeSizeArg)))

/-- A boot of the image, with nothing but what belongs to it. -/
def boot (image : Image) (env : BootEnv) (fram : Mem UInt8) (useHamming : Bool) : BootEnd × Leaves :=
  if (delivery env image.volume image.file).whole = false then
    (.restarted, ⟨image.copied env env.sdram, image.counted fram, none⟩)
  else if ¬ image.Checked fram useHamming then
    (.returned 0, ⟨image.copied env env.sdram, image.counted fram, none⟩)
  else if ¬ CodeLoads env.hamCodeSizeArg then
    (.returned 0, ⟨image.copied env env.sdram, image.counted fram, some .framIssues⟩)
  else
    (if (image.verified env fram).1 = .errorMultiplebits then .restarted else .returned 0,
      ⟨(image.verified env fram).2, image.counted fram, some (image.verified env fram).1.status⟩)

/-- All that matters of a file is what is delivered of it. -/
theorem boot_congr {image image' : Image} {env : BootEnv} {fram : Mem UInt8} {useHamming : Bool}
    (hfile : delivery env image.volume image.file = delivery env image'.volume image'.file)
    (hflag : image.hammingFlag = image'.hammingFlag) (hcode : image.hammingCode = image'.hammingCode)
    (hcounter : image.rebootCounter = image'.rebootCounter) :
    image.boot env fram useHamming = image'.boot env fram useHamming := by
  obtain ⟨volume, file, hammingFlag, hammingCode, rebootCounter⟩ := image
  obtain ⟨volume', file', hammingFlag', hammingCode', rebootCounter'⟩ := image'
  dsimp only at hfile hflag hcode hcounter
  subst hflag hcode hcounter
  simp only [boot, verified, copied, counted, Checked, hfile]
  rfl

end Image

/-- What the bootloader leaves of a boot of a selection. -/
def bootSelected (env : BootEnv) (fram : Mem UInt8) (bootSelect : BootSelect) (useHamming : Bool) :
    BootEnd × Leaves :=
  let booted := performSelectedCopy env (initializeAllIobcPeripherals env fram) bootSelect useHamming
  (booted.1, ⟨booted.2.sdram, booted.2.fram, booted.2.sram0Status⟩)

/-- The bootloader copies the file of the image, and all of the boot is that of the image. -/
structure BootsImage (env : BootEnv) (fram : Mem UInt8) (volume : VolumeId) (slot : SdSlot)
    (useHamming : Bool) : Prop where
  copied : ∀ s, (copyWithHccLib env s (sdcBootSelect volume slot)).2.2.sdram =
    (imageOf volume slot).copied env s.sdram
  whole : ∀ s, (copyWithHccLib env s (sdcBootSelect volume slot)).1 = 0 ↔
    (delivery env volume (imageFile slot)).whole = true
  booted : bootSelected env fram (sdcBootSelect volume slot) useHamming =
    (imageOf volume slot).boot env fram useHamming

/-! ## The copy -/

/-- The image the bootloader boots: what belongs to the selection, but for the file. -/
def chosenImage (volume : VolumeId) (slot : SdSlot) : Image :=
  { imageOf volume slot with file := (swRepository, slotName (sdcBootSelect volume slot)) }

theorem currentVolume_sdcBootSelect (volume : VolumeId) (slot : SdSlot) :
    currentVolume (sdcBootSelect volume slot) = volume := by
  cases volume <;> cases slot <;> rfl

theorem imageOf_volume (volume : VolumeId) (slot : SdSlot) : (imageOf volume slot).volume = volume := by
  cases volume <;> cases slot <;> rfl

theorem imageOf_file (volume : VolumeId) (slot : SdSlot) : (imageOf volume slot).file = imageFile slot := by
  cases volume <;> cases slot <;> rfl

/-- **The copy of the file.** `copy_with_hcc_lib` stores what the file system delivers of the file it looks
    for, and succeeds exactly if that is all of it. -/
theorem copyWithHccLib_delivery (env : BootEnv) (s : BootState) (image : BootSelect) :
    let file := delivery env (currentVolume image) (swRepository, slotName image)
    (copyWithHccLib env s image).2.2 = { s with sdram := store s.sdram sdramDestination file.bytes } ∧
      ((copyWithHccLib env s image).1 = 0 ↔ file.whole = true) ∧
      (file.whole = true → (copyWithHccLib env s image).2.1 = file.bytes.length) := by
  dsimp only
  unfold copyWithHccLib delivery
  dsimp only
  by_cases hopen : env.openFilesystem = 0 ∧ env.selectSdCard (currentVolume image) = 0 ∧
      env.changeDirectory (currentVolume image) swRepository = 0 ∧
      env.openError (currentVolume image) (swRepository, slotName image) = 0
  · obtain ⟨hfs, hselect, hdirectory, herror⟩ := id hopen
    rw [if_pos hopen, if_neg (not_not.mpr hfs), if_neg (not_not.mpr hselect), if_neg (not_not.mpr hdirectory),
      if_neg (not_not.mpr herror)]
    unfold fFilelength fRead FFile.chunk
    generalize fileBytes (env.cards (currentVolume image)) (swRepository, slotName image) = bytes
    have htake : (bytes.drop 0).take (min bytes.length env.readGot) = bytes.take env.readGot := by
      rw [List.drop_zero, Nat.min_comm, ← List.take_eq_take_min]
    dsimp only
    rw [htake, List.length_take]
    by_cases hempty : bytes = []
    · subst hempty
      simp
    · have hlength : bytes.length ≠ 0 := fun h => hempty (List.length_eq_zero_iff.mp h)
      rw [if_neg hlength]
      by_cases hgot : bytes.length ≤ env.readGot
      · rw [if_neg (by omega)]
        simp [hempty, hgot]
      · rw [if_pos (by omega)]
        simp [hgot]
  · rw [if_neg hopen]
    split_ifs with hfs hselect hdirectory herror
    any_goals simp
    all_goals exact absurd ⟨not_not.mp hfs, not_not.mp hselect, not_not.mp hdirectory, not_not.mp herror⟩ hopen

section Boot

variable {env : BootEnv} {fram : Mem UInt8} {volume : VolumeId} {slot : SdSlot} {useHamming : Bool}

theorem localHammingFlagCheck_sdcBootSelect (fram : Mem UInt8) (volume : VolumeId) (slot : SdSlot) :
    localHammingFlagCheck (readBootloaderGroup fram) (sdcBootSelect volume slot) =
      decide ((imageOf volume slot).hammingFlag.read fram = framTrue) := by
  have hflag : ∀ f : Field, f.size = 2 → decide ((UInt16.ofNat (f.read fram)).toNat = framTrue) =
      decide (f.read fram = framTrue) := fun f hf => by rw [toNat_ofNat_read hf]
  cases volume <;> cases slot <;> exact hflag _ rfl

theorem determineHamCodeAddress_sdcBootSelect (volume : VolumeId) (slot : SdSlot) :
    determineHamCodeAddress (sdcLocSlotType (sdcBootSelect volume slot)) =
      (imageOf volume slot).hammingCode := by
  cases volume <;> cases slot <;> rfl

theorem incrementSdcLocRebootCounter_eq (s : BootState) (volume : VolumeId) (slot : SdSlot)
    (hblock : s.blFramBlock = readBootloaderGroup s.fram) :
    incrementSdcLocRebootCounter s (sdcBootSelect volume slot) =
      (0, { s with fram := (imageOf volume slot).counted s.fram }) := by
  unfold incrementSdcLocRebootCounter incrementRebootCounterNoOs
  rw [hblock]
  cases volume <;> cases slot <;> rfl

/-- What the check makes of the image, once its file was copied. -/
theorem checked_eq (env : BootEnv) (s : BootState) (volume : VolumeId) (slot : SdSlot) (size : Nat)
    (hbuf : s.hammingCodeBuf = fun _ => 0) :
    let check := handleHammingCodeCheck env s (sdcLocSlotType (sdcBootSelect volume slot)) size
      env.hamCodeSizeArg
    let verified := env.hammingVerify256x (fill s.sdram (sdramDestination + size) (fillAmount size) 0)
      (sizeToCheck size)
      (store (fun _ => 0) 0 (load s.fram (imageOf volume slot).hammingCode (polledSize env.hamCodeSizeArg)))
    let judged := handleHammingCodeResult check.2 check.1
    if CodeLoads env.hamCodeSizeArg then
      (judged.1 = 0 ↔ verified.1 ≠ .errorMultiplebits) ∧ judged.2.sdram = verified.2 ∧
        judged.2.sram0Status = some verified.1.status
    else judged.1 = 0 ∧ judged.2.sdram = s.sdram ∧ judged.2.sram0Status = some .framIssues := by
  have hslot : sdcLocSlotType (sdcBootSelect volume slot) ≠ .bootloader0 := by
    cases volume <;> cases slot <;> decide
  have hregion : determineHamCodeAddress (sdcLocSlotType (sdcBootSelect volume slot)) ≠ 0 := by
    cases volume <;> cases slot <;> decide
  have hloads : CodeLoads env.hamCodeSizeArg ↔
      LoadsCode (sdcLocSlotType (sdcBootSelect volume slot)) env.hamCodeSizeArg := by
    have hreserved : hamCodeReservedSize (sdcLocSlotType (sdcBootSelect volume slot)) =
        imagesHammingReservedSize := by
      cases volume <;> cases slot <;> rfl
    have hsize : imagesHammingReservedSize = 10752 := rfl
    unfold CodeLoads LoadsCode clampHamSize
    rw [hreserved]
    split <;> omega
  have hok := readHammingCode_ok_iff s (sdcLocSlotType (sdcBootSelect volume slot)) env.hamCodeSizeArg
  dsimp only
  rw [handleHammingCodeCheck_eq]
  unfold checkVerification
  by_cases hcode : CodeLoads env.hamCodeSizeArg
  · obtain ⟨hsdram, hloaded⟩ := readHammingCode_loaded s hregion (hloads.mp hcode)
    have hzero := hok.mpr ⟨hregion, hloads.mp hcode⟩
    rw [if_pos hcode, if_neg (not_or.mpr ⟨hslot, not_not.mpr hzero⟩)]
    dsimp only
    rw [hsdram, hloaded, hbuf, determineHamCodeAddress_sdcBootSelect]
    generalize env.hammingVerify256x _ _ _ = verified
    obtain ⟨result, sdram⟩ := verified
    cases result <;> simp [handleHammingCodeResult, hammingResultCode, HammingResult.status]
  · have hnot : (readHammingCode s (sdcLocSlotType (sdcBootSelect volume slot)) env.hamCodeSizeArg).1 ≠ 0 :=
      fun h => hcode (hloads.mpr (hok.mp h).2)
    rw [if_neg hcode, if_pos (Or.inr hnot)]
    obtain ⟨hresult, hsdram⟩ := readHammingCode_failed hnot
    dsimp only
    rw [if_neg hslot, hresult]
    exact ⟨rfl, hsdram, rfl⟩

theorem sdcBootSelect_ne_norFlash (volume : VolumeId) (slot : SdSlot) :
    sdcBootSelect volume slot ≠ .norFlash := by
  cases volume <;> cases slot <;> decide

/-- A boot goes by its copy, and counts it. -/
theorem bootSelected_copied (env : BootEnv) (fram : Mem UInt8) (volume : VolumeId) (slot : SdSlot)
    (useHamming : Bool) :
    let checks := if useHamming then
      decide ((imageOf volume slot).hammingFlag.read fram = framTrue) else useHamming
    let copied := copySdcardBinaryToSdram env (initializeAllIobcPeripherals env fram)
      (sdcBootSelect volume slot) checks
    bootSelected env fram (sdcBootSelect volume slot) useHamming =
      (if copied.1 ≠ 0 then .restarted else .returned 0,
        ⟨copied.2.sdram, (imageOf volume slot).counted fram, copied.2.sram0Status⟩) := by
  have hnor := sdcBootSelect_ne_norFlash volume slot
  have hblock : (initializeAllIobcPeripherals env fram).blFramBlock = readBootloaderGroup fram := rfl
  unfold bootSelected performSelectedCopy
  dsimp only
  rw [if_neg hnor, hblock, localHammingFlagCheck_sdcBootSelect]
  generalize (if useHamming = true then
    decide ((imageOf volume slot).hammingFlag.read fram = framTrue) else useHamming) = checks
  have hkeeps := copySdcardBinaryToSdram_keepsFram env (initializeAllIobcPeripherals env fram) hnor checks
  have hfram : (copySdcardBinaryToSdram env (initializeAllIobcPeripherals env fram)
      (sdcBootSelect volume slot) checks).2.fram = fram := hkeeps.fram
  rw [incrementSdcLocRebootCounter_eq _ volume slot (by rw [hkeeps.block, hkeeps.fram]; rfl), hfram]
  split_ifs <;> rfl

/-- What is copied, and checked if it is the whole file. -/
theorem copySdcardBinaryToSdram_delivery (env : BootEnv) (s : BootState) (volume : VolumeId) (slot : SdSlot)
    (checks : Bool) :
    let file := delivery env volume (swRepository, slotName (sdcBootSelect volume slot))
    let behind := { s with sdram := store s.sdram sdramDestination file.bytes }
    let check := handleHammingCodeCheck env behind (sdcLocSlotType (sdcBootSelect volume slot))
      file.bytes.length env.hamCodeSizeArg
    (file.whole = false → (copySdcardBinaryToSdram env s (sdcBootSelect volume slot) checks).1 ≠ 0 ∧
        (copySdcardBinaryToSdram env s (sdcBootSelect volume slot) checks).2 = behind) ∧
      (file.whole = true → copySdcardBinaryToSdram env s (sdcBootSelect volume slot) checks =
        if checks then handleHammingCodeResult check.2 check.1 else (0, behind)) := by
  obtain ⟨hcopied, hwhole, hlength⟩ := copyWithHccLib_delivery env s (sdcBootSelect volume slot)
  rw [currentVolume_sdcBootSelect] at hcopied hwhole hlength
  rw [copySdcardBinaryToSdram_eq _ _ (sdcBootSelect_ne_norFlash volume slot)]
  dsimp only
  rw [hcopied]
  constructor
  · intro hpart
    have hfailed : (copyWithHccLib env s (sdcBootSelect volume slot)).1 ≠ 0 := by
      intro h
      rw [hwhole.mp h] at hpart
      cases hpart
    rw [if_pos hfailed]
    exact ⟨hfailed, rfl⟩
  · intro hdone
    rw [if_neg (not_not.mpr (hwhole.mpr hdone)), hlength hdone]

/-- **The shape of a boot.** It is the boot of the image with the file that was chosen. -/
theorem bootSelected_eq (env : BootEnv) (fram : Mem UInt8) (volume : VolumeId) (slot : SdSlot)
    (useHamming : Bool) :
    bootSelected env fram (sdcBootSelect volume slot) useHamming =
      (chosenImage volume slot).boot env fram useHamming := by
  have hfile : delivery env (chosenImage volume slot).volume (chosenImage volume slot).file =
      delivery env volume (swRepository, slotName (sdcBootSelect volume slot)) :=
    congrArg (fun v => delivery env v _) (imageOf_volume volume slot)
  have hchecks : (if useHamming = true then
      decide ((imageOf volume slot).hammingFlag.read fram = framTrue) else useHamming) =
        decide ((chosenImage volume slot).Checked fram useHamming) := by
    cases useHamming <;> simp [Image.Checked, chosenImage]
  rw [bootSelected_copied, hchecks]
  obtain ⟨hpart, hdone⟩ := copySdcardBinaryToSdram_delivery env (initializeAllIobcPeripherals env fram) volume
    slot (decide ((chosenImage volume slot).Checked fram useHamming))
  unfold Image.boot Image.verified Image.copied
  rw [hfile]
  generalize delivery env volume (swRepository, slotName (sdcBootSelect volume slot)) = file at hpart hdone ⊢
  have hcheck := checked_eq env { initializeAllIobcPeripherals env fram with
    sdram := store (initializeAllIobcPeripherals env fram).sdram sdramDestination file.bytes }
    volume slot file.bytes.length rfl
  cases hwhole : file.whole with
  | false =>
      obtain ⟨hfailed, hbehind⟩ := hpart hwhole
      rw [if_pos hfailed, hbehind, if_pos rfl]
      rfl
  | true =>
      rw [hdone hwhole, if_neg (show ¬ true = false by decide)]
      by_cases hchecked : (chosenImage volume slot).Checked fram useHamming
      · rw [decide_eq_true hchecked, if_pos rfl, if_neg (not_not.mpr hchecked)]
        dsimp only at hcheck
        by_cases hcode : CodeLoads env.hamCodeSizeArg
        · rw [if_pos hcode] at hcheck
          obtain ⟨hresult, hsdram, hstatus⟩ := hcheck
          rw [if_neg (not_not.mpr hcode), hsdram, hstatus]
          exact congrArg₂ Prod.mk (if_congr ((not_congr hresult).trans not_not) rfl rfl) rfl
        · rw [if_neg hcode] at hcheck
          obtain ⟨hresult, hsdram, hstatus⟩ := hcheck
          rw [if_pos hcode, hresult, hsdram, hstatus]
          rfl
      · rw [decide_eq_false hchecked, if_neg (show ¬ false = true by decide), if_pos hchecked]
        rfl

end Boot

/-- Cards with an image of two bytes in each slot, different in the two slots. -/
def twoImagesEnv : BootEnv where
  framStart := 0
  norFlash := fun _ => 0xff
  sdram := fun _ => 0
  cards := fun _ path =>
    if path = imageFile .slot0 then some ⟨[1, 2], by decide⟩
    else if path = imageFile .slot1 then some ⟨[3, 4], by decide⟩
    else none
  openFilesystem := 0
  selectSdCard := fun _ => 0
  changeDirectory := fun _ _ => 0
  openError := fun _ _ => 0
  readGot := 2
  hamCodeSizeArg := 0
  hammingVerify256x := fun data _ _ => (.noError, data)

end Boot
end Obsw
