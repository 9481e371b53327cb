import Obsw.Boot.Counters

/-!
# `Boot.HammingCheck` — what is handed to the hamming code routine

`Hamming_Verify256x` reads three bytes of code for every 256 bytes of data. A boot calls it at most once,
with the padded image and the buffer the code was read to (`boot_calls`). Neither the callers nor
`handle_hamming_code_check` compare the sizes of the image and of the code, and `boot_sd.c` does not pass
the size of the code at all (`verification_covered_iff`).
-/

namespace Obsw
namespace Boot

open Memory LittleEndian Device Fram

/-! ## The call -/

/-- The arguments of a call of `Hamming_Verify256x`. -/
structure Verification where
  data : Mem UInt8
  size : Nat
  code : Mem UInt8

/-- The call made by `handle_hamming_code_check`. -/
def checkVerification (s : BootState) (slotType : SlotType) (imageSize hamCodeSize : Nat) :
    Option Verification :=
  if slotType = .bootloader0 ∨ (readHammingCode s slotType hamCodeSize).1 ≠ 0 then none
  else
    let s := (readHammingCode s slotType hamCodeSize).2
    some ⟨fill s.sdram (sdramDestination + imageSize) (fillAmount imageSize) 0, sizeToCheck imageSize,
      s.hammingCodeBuf⟩

/-- The sizes of the NOR flash image and of its code look as if they were set. -/
structure SizesSet (bl : BootloaderGroup) : Prop where
  codeSize : bl.norFlashHammingCodeSize.toNat ≠ 0 ∧ bl.norFlashHammingCodeSize.toNat ≠ 0xff ∧
    bl.norFlashHammingCodeSize.toNat ≠ 0xffffffff
  binarySize : bl.norFlashBinarySize.toNat ≠ 0 ∧ bl.norFlashBinarySize.toNat ≠ 0xffffffff

instance (bl : BootloaderGroup) : Decidable (SizesSet bl) :=
  decidable_of_iff
    ((bl.norFlashHammingCodeSize.toNat ≠ 0 ∧ bl.norFlashHammingCodeSize.toNat ≠ 0xff ∧
        bl.norFlashHammingCodeSize.toNat ≠ 0xffffffff) ∧
      bl.norFlashBinarySize.toNat ≠ 0 ∧ bl.norFlashBinarySize.toNat ≠ 0xffffffff)
    ⟨fun h => ⟨h.1, h.2⟩, fun h => ⟨h.codeSize, h.binarySize⟩⟩

/-- The call made by `copy_norflash_binary_to_sdram`. -/
def norflashVerification (env : BootEnv) (s : BootState) (copySize : Nat) (useHamming : Bool) :
    Option Verification :=
  if useHamming = true ∧ SizesSet s.blFramBlock then
    checkVerification
      { s with sdram := store s.sdram sdramDestination (load env.norFlash binaryBaseAddress copySize) }
      .flashSlot s.blFramBlock.norFlashBinarySize.toNat s.blFramBlock.norFlashHammingCodeSize.toNat
  else none

/-- The call made by `copy_sdcard_binary_to_sdram`. -/
def sdcardVerification (env : BootEnv) (s : BootState) (bootSelect : BootSelect) (useHamming : Bool) :
    Option Verification :=
  if bootSelect = .norFlash then none
  else
    match copyWithHccLib env s bootSelect with
    | (0, imageSize, s) =>
      if useHamming then checkVerification s (sdcLocSlotType bootSelect) imageSize env.hamCodeSizeArg
      else none
    | (_, _, _) => none

/-- The call made behind the selection. -/
def selectedVerification (env : BootEnv) (s : BootState) (bootSelect : BootSelect) (useHamming : Bool) :
    Option Verification :=
  let useHamming := if useHamming then localHammingFlagCheck s.blFramBlock bootSelect else useHamming
  if bootSelect = .norFlash then norflashVerification env s primaryImageReservedSize useHamming
  else sdcardVerification env s bootSelect useHamming

/-- The call made by a boot. -/
def bootVerification (env : BootEnv) (fram : Mem UInt8) : Option Verification :=
  let s := initializeAllIobcPeripherals env fram
  selectedVerification env s (performSelection s).1 (performSelection s).2

/-! ## A boot makes this call and no other -/

abbrev Verifier := Mem UInt8 → Nat → Mem UInt8 → HammingResult × Mem UInt8

def Verifier.answer (verify : Verifier) (v : Verification) : HammingResult × Mem UInt8 :=
  verify v.data v.size v.code

/-- The same environment with another routine. -/
def BootEnv.withVerifier (env : BootEnv) (verify : Verifier) : BootEnv :=
  { env with hammingVerify256x := verify }

section

variable {α β : Type} {f : Verifier → α × BootState} {call : Option Verification}

/-- All that matters of the routine is its answer to this call, and the SDRAM is left as it leaves it. -/
structure Calls (f : Verifier → α × BootState) (call : Option Verification) : Prop where
  decided : ∀ verify verify' : Verifier, (∀ v, call = some v → verify.answer v = verify'.answer v) →
    f verify = f verify'
  sdram : ∀ verify v, call = some v → (f verify).2.sdram = (verify.answer v).2

theorem Calls.none (h : ∀ verify verify', f verify = f verify') : Calls f none :=
  ⟨fun verify verify' _ => h verify verify', fun _ _ hv => by cases hv⟩

/-- What follows does not call the routine, and leaves the SDRAM alone. -/
theorem Calls.map {g : α × BootState → β × BootState} (h : Calls f call)
    (hg : ∀ r, (g r).2.sdram = r.2.sdram) : Calls (fun verify => g (f verify)) call := by
  constructor
  · intro verify verify' hanswer
    exact congrArg g (h.decided verify verify' hanswer)
  · intro verify v hv
    exact (hg (f verify)).trans (h.sdram verify v hv)

end

/-- What `handle_hamming_code_check` makes of an answer. -/
def hammingResultCode : HammingResult → Int
  | .errorSinglebit => 1
  | .errorEcc => 2
  | .errorMultiplebits => 3
  | .noError => 0

theorem handleHammingCodeCheck_eq (env : BootEnv) (s : BootState) (slotType : SlotType)
    (imageSize hamCodeSize : Nat) :
    handleHammingCodeCheck env s slotType imageSize hamCodeSize =
      match checkVerification s slotType imageSize hamCodeSize with
      | none => if slotType = .bootloader0 then (-1, s) else readHammingCode s slotType hamCodeSize
      | some v =>
        (hammingResultCode (env.hammingVerify256x v.data v.size v.code).1,
          { (readHammingCode s slotType hamCodeSize).2 with
            sdram := (env.hammingVerify256x v.data v.size v.code).2 }) := by
  unfold handleHammingCodeCheck checkVerification
  by_cases hslot : slotType = .bootloader0
  · rw [if_pos hslot, if_pos (Or.inl hslot)]
    exact (if_pos hslot).symm
  rw [if_neg hslot]
  rcases readHammingCode s slotType hamCodeSize with ⟨result, s₁⟩
  split
  · rename_i s₂ heq
    obtain ⟨rfl, rfl⟩ := Prod.mk.inj heq
    rw [if_neg (not_or.mpr ⟨hslot, fun h => h rfl⟩)]
    dsimp only
    cases (env.hammingVerify256x (fill s₁.sdram (sdramDestination + imageSize) (fillAmount imageSize) 0)
      (sizeToCheck imageSize) s₁.hammingCodeBuf).1 <;> rfl
  · rename_i hne heq
    obtain ⟨rfl, rfl⟩ := Prod.mk.inj heq
    rw [if_pos (Or.inr hne)]
    exact (if_neg hslot).symm

theorem handleHammingCodeCheck_calls (env : BootEnv) (s : BootState) (slotType : SlotType)
    (imageSize hamCodeSize : Nat) :
    Calls (fun verify => handleHammingCodeCheck (env.withVerifier verify) s slotType imageSize hamCodeSize)
      (checkVerification s slotType imageSize hamCodeSize) := by
  constructor
  · intro verify verify' hanswer
    rw [handleHammingCodeCheck_eq, handleHammingCodeCheck_eq]
    cases hcall : checkVerification s slotType imageSize hamCodeSize with
    | none => rfl
    | some v =>
        have hsame : verify v.data v.size v.code = verify' v.data v.size v.code := hanswer v hcall
        dsimp only [BootEnv.withVerifier]
        rw [hsame]
  · intro verify v hv
    rw [handleHammingCodeCheck_eq, hv]
    rfl

theorem handleHammingCodeResult_sdram (s : BootState) (result : Int) :
    (handleHammingCodeResult s result).2.sdram = s.sdram := by
  unfold handleHammingCodeResult
  split_ifs <;> rfl

theorem copyNorflashBinaryToSdram_calls (env : BootEnv) (s : BootState) (copySize : Nat)
    (useHamming : Bool) :
    Calls (fun verify => copyNorflashBinaryToSdram (env.withVerifier verify) s copySize useHamming)
      (norflashVerification env s copySize useHamming) := by
  unfold norflashVerification copyNorflashBinaryToSdram
  by_cases hset : useHamming = true ∧ SizesSet s.blFramBlock
  · rw [if_pos hset]
    have huse : (useHamming && !(s.blFramBlock.norFlashHammingCodeSize.toNat == 0 ||
        s.blFramBlock.norFlashHammingCodeSize.toNat == 0xff)) = true := by
      simp [hset.1, hset.2.codeSize.1, hset.2.codeSize.2.1]
    have hbinary := not_or.mpr hset.2.binarySize
    have hcode := not_or.mpr ⟨hset.2.codeSize.1, hset.2.codeSize.2.2⟩
    simp only [huse, if_true, if_neg hbinary, if_neg hcode]
    exact (handleHammingCodeCheck_calls env
      { s with sdram := store s.sdram sdramDestination (load env.norFlash binaryBaseAddress copySize) }
      .flashSlot s.blFramBlock.norFlashBinarySize.toNat s.blFramBlock.norFlashHammingCodeSize.toNat).map
      (g := fun check => handleHammingCodeResult check.2 check.1)
      fun r => handleHammingCodeResult_sdram r.2 r.1
  · rw [if_neg hset]
    have hcases : (useHamming && !(s.blFramBlock.norFlashHammingCodeSize.toNat == 0 ||
        s.blFramBlock.norFlashHammingCodeSize.toNat == 0xff)) = true →
        ¬ (s.blFramBlock.norFlashBinarySize.toNat = 0 ∨
          s.blFramBlock.norFlashBinarySize.toNat = 0xffffffff) →
        s.blFramBlock.norFlashHammingCodeSize.toNat = 0 ∨
          s.blFramBlock.norFlashHammingCodeSize.toNat = 0xffffffff := by
      intro huse hbinary
      by_contra hcode
      simp only [Bool.and_eq_true, Bool.not_eq_true', Bool.or_eq_false_iff, beq_eq_false_iff_ne] at huse
      exact hset ⟨huse.1, ⟨huse.2.1, huse.2.2, (not_or.mp hcode).2⟩, not_or.mp hbinary⟩
    dsimp only
    split_ifs with huse hbinary hcode
    · exact Calls.none fun _ _ => rfl
    · exact Calls.none fun _ _ => rfl
    · exact absurd (hcases huse hbinary) hcode
    · exact Calls.none fun _ _ => rfl

theorem copySdcardBinaryToSdram_calls (env : BootEnv) (s : BootState) {bootSelect : BootSelect}
    (hnor : bootSelect ≠ .norFlash) (useHamming : Bool) :
    Calls (fun verify => copySdcardBinaryToSdram (env.withVerifier verify) s bootSelect useHamming)
      (sdcardVerification env s bootSelect useHamming) := by
  have hcopy : ∀ verify, copyWithHccLib (env.withVerifier verify) s bootSelect =
      copyWithHccLib env s bootSelect := fun _ => rfl
  unfold sdcardVerification
  simp only [copySdcardBinaryToSdram_eq _ _ hnor, if_neg hnor, hcopy]
  rcases copyWithHccLib env s bootSelect with ⟨result, imageSize, s₁⟩
  by_cases hzero : result = 0
  · subst hzero
    cases useHamming with
    | false => exact Calls.none fun _ _ => rfl
    | true =>
        exact (handleHammingCodeCheck_calls env s₁ (sdcLocSlotType bootSelect) imageSize
          env.hamCodeSizeArg).map (g := fun check => handleHammingCodeResult check.2 check.1)
          fun r => handleHammingCodeResult_sdram r.2 r.1
  · simp only [ne_eq, hzero, not_false_eq_true, if_true]
    exact Calls.none fun _ _ => rfl

/-- The end of a boot: the reboot is counted, and a copy that failed restarts. -/
theorem performSelectedCopy_calls (env : BootEnv) (s : BootState) (bootSelect : BootSelect)
    (useHamming : Bool) :
    Calls (fun verify => performSelectedCopy (env.withVerifier verify) s bootSelect useHamming)
      (selectedVerification env s bootSelect useHamming) := by
  have hend : ∀ (slotType : SlotType) (copied : Int × BootState),
      (if copied.1 ≠ 0 then (BootEnd.restarted, (incrementRebootCounterNoOs copied.2 slotType).2)
        else (.returned (incrementRebootCounterNoOs copied.2 slotType).1,
          (incrementRebootCounterNoOs copied.2 slotType).2)).2.sdram = copied.2.sdram := by
    intro slotType copied
    split_ifs <;> rfl
  unfold selectedVerification performSelectedCopy
  dsimp only
  by_cases hnor : bootSelect = .norFlash
  · simp only [if_pos hnor]
    exact (copyNorflashBinaryToSdram_calls env _ primaryImageReservedSize _).map (hend .flashSlot)
  · simp only [if_neg hnor]
    exact (copySdcardBinaryToSdram_calls env _ hnor _).map (hend (sdcLocSlotType bootSelect))

/-- **The call of a boot.** A boot depends on the routine in its answer to this call only. -/
theorem boot_calls (env : BootEnv) (fram : Mem UInt8) :
    Calls (fun verify => boot (env.withVerifier verify) fram) (bootVerification env fram) :=
  performSelectedCopy_calls env (initializeAllIobcPeripherals env fram)
    (performSelection (initializeAllIobcPeripherals env fram)).1
    (performSelection (initializeAllIobcPeripherals env fram)).2

/-! ## What is promised -/

/-- The routine is handed whole blocks, all of the image, and no more blocks than there is code for in the
    buffer and in what was stored. -/
structure Verification.Covered (v : Verification) (imageSize codeSize : Nat) : Prop where
  aligned : 256 ∣ v.size
  whole : imageSize ≤ v.size
  inBuffer : 3 * (v.size / 256) ≤ imagesHammingReservedSize
  stored : 3 * (v.size / 256) ≤ codeSize

/-- The length of the selected image. -/
def imageLength (env : BootEnv) (bl : BootloaderGroup) : BootSelect → Nat
  | .norFlash => bl.norFlashBinarySize.toNat
  | image => fFilelength (env.cards (currentVolume image)) (swRepository, slotName image)

/-- The stored size of the code of the selected image. -/
def storedCodeSize (bl : BootloaderGroup) : BootSelect → Nat
  | .norFlash => bl.norFlashHammingCodeSize.toNat
  | .sdCard0Slot0 => bl.sdc0ImageSlot0HammingSize.toNat
  | .sdCard0Slot1 => bl.sdc0ImageSlot1HammingSize.toNat
  | .sdCard1Slot0 => bl.sdc1ImageSlot0HammingSize.toNat
  | .sdCard1Slot1 => bl.sdc1ImageSlot1HammingSize.toNat

/-- The image a boot selects. -/
def selectedImage (env : BootEnv) (fram : Mem UInt8) : BootSelect :=
  (performSelection (initializeAllIobcPeripherals env fram)).1

/-- If the routine is called, the call is covered by the code of the image. -/
def VerificationCovered (env : BootEnv) (fram : Mem UInt8) : Prop :=
  ∀ v, bootVerification env fram = some v →
    v.Covered (imageLength env (readBootloaderGroup fram) (selectedImage env fram))
      (storedCodeSize (readBootloaderGroup fram) (selectedImage env fram))

/-- A code of this size can be read: it is clamped to its region. -/
def LoadsCode (slotType : SlotType) (hamCodeSize : Nat) : Prop :=
  hamCodeSize ≠ 0 ∧ clampHamSize slotType 0 hamCodeSize ≤ imagesHammingReservedSize

/-- Both flags are set, and the image and some code can be read. -/
structure Verifies (env : BootEnv) (fram : Mem UInt8) : Prop where
  globalFlag : (performSelection (initializeAllIobcPeripherals env fram)).2 = true
  localFlag : localHammingFlagCheck (readBootloaderGroup fram) (selectedImage env fram) = true
  norFlash : selectedImage env fram = .norFlash → SizesSet (readBootloaderGroup fram)
  sdCard : selectedImage env fram ≠ .norFlash → ReachesRead env (selectedImage env fram) ∧
    imageLength env (readBootloaderGroup fram) (selectedImage env fram) ≤ env.readGot ∧
    LoadsCode (sdcLocSlotType (selectedImage env fram)) env.hamCodeSizeArg

/-- Where the code is checked, there are three bytes of it for each block of the image. -/
def CodeSuffices (env : BootEnv) (fram : Mem UInt8) : Prop :=
  Verifies env fram →
    imageLength env (readBootloaderGroup fram) (selectedImage env fram) ≤
      256 * (min (storedCodeSize (readBootloaderGroup fram) (selectedImage env fram))
        imagesHammingReservedSize / 3)

/-! ## When the call is made -/

theorem sizeToCheck_aligned (imageSize : Nat) : 256 ∣ sizeToCheck imageSize := by
  unfold sizeToCheck fillAmount
  split <;> omega

/-- Whole blocks cover an image exactly if it is not longer than the blocks there is code for. -/
theorem covered_iff {v : Verification} {imageSize codeSize : Nat} (hsize : v.size = sizeToCheck imageSize) :
    v.Covered imageSize codeSize ↔
      imageSize ≤ 256 * (min codeSize imagesHammingReservedSize / 3) := by
  constructor
  · rintro ⟨⟨blocks, hblocks⟩, hwhole, hbuffer, hstored⟩
    rw [hblocks, Nat.mul_div_cancel_left _ (by decide)] at hbuffer hstored
    rw [hblocks] at hwhole
    omega
  · intro h
    have hreserved : imagesHammingReservedSize = 10752 := rfl
    have hpadded : sizeToCheck imageSize = 256 * ((imageSize + 255) / 256) := by
      unfold sizeToCheck fillAmount
      split <;> omega
    refine ⟨hsize ▸ sizeToCheck_aligned imageSize, ?_, ?_, ?_⟩
    all_goals
      rw [hsize, hpadded]
      omega

theorem readHammingCode_ok_iff (s : BootState) (slotType : SlotType) (hamCodeSize : Nat) :
    (readHammingCode s slotType hamCodeSize).1 = 0 ↔
      determineHamCodeAddress slotType ≠ 0 ∧ LoadsCode slotType hamCodeSize := by
  unfold readHammingCode framNoOsBlockingReadHamCode framNoOsReadHamChecks LoadsCode
  split_ifs with haddress hsize hcapacity
  · exact iff_of_false (show ¬ (-1 : Int) = 0 by decide) fun h => h.1 haddress
  · exact iff_of_false (show ¬ (-1 : Int) = 0 by decide) fun h => h.2.1 hsize
  · exact iff_of_false (show ¬ (-1 : Int) = 0 by decide) fun h => absurd hcapacity (Nat.not_lt.mpr h.2.2)
  · exact iff_of_true rfl ⟨haddress, hsize, Nat.not_lt.mp hcapacity⟩

theorem readHammingCode_loaded (s : BootState) {slotType : SlotType} {hamCodeSize : Nat}
    (haddress : determineHamCodeAddress slotType ≠ 0) (hloads : LoadsCode slotType hamCodeSize) :
    (readHammingCode s slotType hamCodeSize).2.sdram = s.sdram ∧
      (readHammingCode s slotType hamCodeSize).2.hammingCodeBuf =
        store s.hammingCodeBuf 0
          (load s.fram (determineHamCodeAddress slotType) (polledSize hamCodeSize)) := by
  unfold readHammingCode framNoOsBlockingReadHamCode framNoOsReadHamChecks
  rw [if_neg haddress, if_neg hloads.1, if_neg (Nat.not_lt.mpr hloads.2)]
  exact ⟨rfl, rfl⟩

/-- A code that cannot be read is an issue of the FRAM. -/
theorem readHammingCode_failed {s : BootState} {slotType : SlotType} {hamCodeSize : Nat}
    (h : (readHammingCode s slotType hamCodeSize).1 ≠ 0) :
    (readHammingCode s slotType hamCodeSize).1 = -1 ∧
      (readHammingCode s slotType hamCodeSize).2.sdram = s.sdram := by
  unfold readHammingCode at h ⊢
  split at h
  · exact absurd rfl h
  · exact ⟨rfl, rfl⟩

/-- The call is made exactly under this condition, for an image of this size. -/
structure MadeFor (call : Option Verification) (p : Prop) (imageSize : Nat) : Prop where
  made : (∃ v, call = some v) ↔ p
  size : ∀ v, call = some v → v.size = sizeToCheck imageSize

section

variable {call : Option Verification} {p q : Prop} {imageSize : Nat}

theorem MadeFor.none (h : ¬ p) : MadeFor none p imageSize :=
  ⟨iff_of_false (fun ⟨_, hv⟩ => by cases hv) h, fun _ hv => by cases hv⟩

theorem MadeFor.congr (h : MadeFor call p imageSize) (hpq : p ↔ q) : MadeFor call q imageSize :=
  ⟨h.made.trans hpq, h.size⟩

end

theorem checkVerification_madeFor (s : BootState) {slotType : SlotType} (imageSize hamCodeSize : Nat)
    (hregion : determineHamCodeAddress slotType ≠ 0) (hslot : slotType ≠ .bootloader0) :
    MadeFor (checkVerification s slotType imageSize hamCodeSize) (LoadsCode slotType hamCodeSize)
      imageSize := by
  unfold checkVerification
  have hread := readHammingCode_ok_iff s slotType hamCodeSize
  by_cases hloads : LoadsCode slotType hamCodeSize
  · have hzero := hread.mpr ⟨hregion, hloads⟩
    rw [if_neg (not_or.mpr ⟨hslot, not_not.mpr hzero⟩)]
    exact ⟨iff_of_true ⟨_, rfl⟩ hloads, fun v hv => by rw [← Option.some.inj hv]⟩
  · have hne : (readHammingCode s slotType hamCodeSize).1 ≠ 0 := fun h => hloads (hread.mp h).2
    rw [if_pos (Or.inr hne)]
    exact MadeFor.none hloads

/-- A stored size is clamped to the region. -/
theorem loadsCode_flashSlot {hamCodeSize : UInt32} (h : hamCodeSize.toNat ≠ 0) :
    LoadsCode .flashSlot hamCodeSize.toNat := by
  refine ⟨h, ?_⟩
  have hlt := hamCodeSize.toNat_lt
  have hreserved : hamCodeReservedSize .flashSlot = imagesHammingReservedSize := rfl
  have hsize : imagesHammingReservedSize = 10752 := rfl
  unfold clampHamSize
  split <;> omega

theorem norflashVerification_madeFor (env : BootEnv) (s : BootState) (copySize : Nat) (useHamming : Bool) :
    MadeFor (norflashVerification env s copySize useHamming)
      (useHamming = true ∧ SizesSet s.blFramBlock) s.blFramBlock.norFlashBinarySize.toNat := by
  unfold norflashVerification
  split
  · rename_i hset
    apply (checkVerification_madeFor _ _ _ (by decide) (by decide)).congr
    exact iff_of_true (loadsCode_flashSlot hset.2.codeSize.1) hset
  · rename_i hset
    exact MadeFor.none hset

/-- The copy from a card succeeds exactly if the whole file can be read. -/
theorem copyWithHccLib_ok (env : BootEnv) (s : BootState) (image : BootSelect)
    (h : ReachesRead env image ∧ fFilelength (env.cards (currentVolume image))
      (swRepository, slotName image) ≤ env.readGot) :
    ∃ s₁, copyWithHccLib env s image =
      (0, fFilelength (env.cards (currentVolume image)) (swRepository, slotName image), s₁) := by
  obtain ⟨⟨hfs, hsel, hdir, hopen, hlen⟩, hgot⟩ := h
  unfold copyWithHccLib
  dsimp only
  rw [if_neg (not_not.mpr hfs), if_neg (not_not.mpr hsel), if_neg (not_not.mpr hdir),
    if_neg (not_not.mpr hopen), if_neg hlen]
  rw [if_neg (not_not.mpr (fRead_length hgot (Nat.le_of_eq (Nat.zero_add _))))]
  exact ⟨_, rfl⟩

theorem copyWithHccLib_failed (env : BootEnv) (s : BootState) (image : BootSelect)
    (h : ¬ (ReachesRead env image ∧ fFilelength (env.cards (currentVolume image))
      (swRepository, slotName image) ≤ env.readGot)) :
    (copyWithHccLib env s image).1 = -1 := by
  unfold copyWithHccLib
  dsimp only
  split_ifs with hfs hsel hdir hopen hlen hread
  · rfl
  · rfl
  · rfl
  · rfl
  · rfl
  · rfl
  · refine absurd ⟨⟨not_not.mp hfs, not_not.mp hsel, not_not.mp hdir, not_not.mp hopen, hlen⟩, ?_⟩ h
    have hlength := not_not.mp hread
    simp only [fRead, FFile.chunk, List.length_take] at hlength
    omega

theorem sdcardVerification_madeFor (env : BootEnv) (s : BootState) {image : BootSelect}
    (hnor : image ≠ .norFlash) (useHamming : Bool) :
    MadeFor (sdcardVerification env s image useHamming)
      (useHamming = true ∧ ReachesRead env image ∧
        fFilelength (env.cards (currentVolume image)) (swRepository, slotName image) ≤ env.readGot ∧
        LoadsCode (sdcLocSlotType image) env.hamCodeSizeArg)
      (fFilelength (env.cards (currentVolume image)) (swRepository, slotName image)) := by
  have hslot : determineHamCodeAddress (sdcLocSlotType image) ≠ 0 ∧
      sdcLocSlotType image ≠ .bootloader0 := by
    cases image <;> decide
  unfold sdcardVerification
  rw [if_neg hnor]
  by_cases hcopy : ReachesRead env image ∧ fFilelength (env.cards (currentVolume image))
      (swRepository, slotName image) ≤ env.readGot
  · obtain ⟨s₁, heq⟩ := copyWithHccLib_ok env s image hcopy
    rw [heq]
    cases useHamming with
    | false => exact MadeFor.none fun h => by cases h.1
    | true =>
        apply (checkVerification_madeFor s₁ _ env.hamCodeSizeArg hslot.1 hslot.2).congr
        exact ⟨fun h => ⟨rfl, hcopy.1, hcopy.2, h⟩, fun h => h.2.2.2⟩
  · have hfailed := copyWithHccLib_failed env s image hcopy
    generalize copyWithHccLib env s image = copied at hfailed ⊢
    obtain ⟨result, length, s₁⟩ := copied
    obtain rfl : result = -1 := hfailed
    exact MadeFor.none fun h => hcopy ⟨h.2.1, h.2.2.1⟩

theorem imageLength_sdCard (env : BootEnv) (bl : BootloaderGroup) {image : BootSelect}
    (hnor : image ≠ .norFlash) :
    imageLength env bl image = fFilelength (env.cards (currentVolume image)) (swRepository, slotName image) := by
  cases image with
  | norFlash => exact absurd rfl hnor
  | _ => rfl

theorem selectedVerification_madeFor (env : BootEnv) (s : BootState) (image : BootSelect)
    (useHamming : Bool) :
    MadeFor (selectedVerification env s image useHamming)
      ((useHamming = true ∧ localHammingFlagCheck s.blFramBlock image = true) ∧
        (image = .norFlash → SizesSet s.blFramBlock) ∧
        (image ≠ .norFlash → ReachesRead env image ∧ imageLength env s.blFramBlock image ≤ env.readGot ∧
          LoadsCode (sdcLocSlotType image) env.hamCodeSizeArg))
      (imageLength env s.blFramBlock image) := by
  have hflags : (if useHamming = true then localHammingFlagCheck s.blFramBlock image else useHamming) = true ↔
      useHamming = true ∧ localHammingFlagCheck s.blFramBlock image = true := by
    cases useHamming <;> simp
  unfold selectedVerification
  dsimp only
  generalize (if useHamming = true then localHammingFlagCheck s.blFramBlock image else useHamming) = checks
    at hflags ⊢
  rw [← hflags]
  by_cases hnor : image = .norFlash
  · subst hnor
    rw [if_pos rfl]
    apply (norflashVerification_madeFor env s primaryImageReservedSize checks).congr
    exact ⟨fun h => ⟨h.1, fun _ => h.2, fun hne => absurd rfl hne⟩, fun h => ⟨h.1, h.2.1 rfl⟩⟩
  · rw [if_neg hnor, imageLength_sdCard env _ hnor]
    apply (sdcardVerification_madeFor env s hnor checks).congr
    exact ⟨fun h => ⟨h.1, fun heq => absurd heq hnor, fun _ => h.2⟩, fun h => ⟨h.1, h.2.2 hnor⟩⟩

theorem bootVerification_madeFor (env : BootEnv) (fram : Mem UInt8) :
    MadeFor (bootVerification env fram) (Verifies env fram)
      (imageLength env (readBootloaderGroup fram) (selectedImage env fram)) := by
  refine (selectedVerification_madeFor env (initializeAllIobcPeripherals env fram) (selectedImage env fram)
    (performSelection (initializeAllIobcPeripherals env fram)).2).congr ?_
  exact ⟨fun h => ⟨h.1.1, h.1.2, h.2.1, h.2.2⟩,
    fun h => ⟨⟨h.globalFlag, h.localFlag⟩, h.norFlash, h.sdCard⟩⟩

/-- **Coverage of the check.** What a boot hands to the routine is covered by the code exactly if the
    stored size of the code suffices for the image, wherever a check is made. -/
theorem verification_covered_iff (env : BootEnv) (fram : Mem UInt8) :
    VerificationCovered env fram ↔ CodeSuffices env fram := by
  have hmade := bootVerification_madeFor env fram
  constructor
  · intro h hverifies
    obtain ⟨v, hv⟩ := hmade.made.mpr hverifies
    exact (covered_iff (hmade.size v hv)).mp (h v hv)
  · intro h v hv
    exact (covered_iff (hmade.size v hv)).mpr (h (hmade.made.mp ⟨v, hv⟩))

/-- A FRAM of zeros but for both flags, a NOR flash image of one block and a stored code of one byte. -/
def oneByteCode : Mem UInt8 :=
  norFlashHammingCodeSize.write (norFlashBinarySize.write (norFlashHammingFlag.write
    (globalHammingFlag.write (fun _ => 0) framTrue) framTrue) 0x100) 1

/-- One byte of code is taken for the code of a whole block. -/
theorem one_byte_verified : ¬ ∀ (env : BootEnv) (fram : Mem UInt8), VerificationCovered env fram := by
  intro h
  have hverifies : Verifies bareEnv oneByteCode :=
    ⟨by decide, by decide, fun _ => by decide, fun hne => absurd (by decide) hne⟩
  obtain ⟨v, hv⟩ := (bootVerification_madeFor bareEnv oneByteCode).made.mpr hverifies
  have hsize := (bootVerification_madeFor bareEnv oneByteCode).size v hv
  have hstored := (h bareEnv oneByteCode v hv).stored
  rw [hsize] at hstored
  revert hstored
  decide

end Boot
end Obsw
