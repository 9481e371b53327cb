import Obsw.At91.HammingErrors
import Obsw.Boot.HammingCheck

/-!
# `Boot.HammingJump` — what a boot makes of bit errors

A boot whose hamming code routine is the one of `hamming.c`. Only a multibit error keeps it from jumping
(`boot_ends`), also where the routine gave up at a wrong code before it came to a block with an error.
With at most one error in each block and its code a boot always jumps, and the image in the SDRAM is the
original one exactly if no block with an error lies behind a wrong code (`boot_image_intact_iff`).
-/

namespace Obsw
namespace Boot

open Memory LittleEndian Device Fram At91 ByteBits ParityChecks

/-! ## When a boot restarts -/

/-- A result is zero exactly if the routine did not answer a multibit error. -/
def Ends (f : Verifier → Int × BootState) (call : Option Verification) : Prop :=
  ∀ verify v, call = some v → ((f verify).1 = 0 ↔ (verify.answer v).1 ≠ .errorMultiplebits)

theorem Ends.none {f : Verifier → Int × BootState} : Ends f none := fun _ _ h => by cases h

theorem handleHammingCodeResult_code (s : BootState) (result : HammingResult) :
    (handleHammingCodeResult s (hammingResultCode result)).1 = 0 ↔ result ≠ .errorMultiplebits := by
  cases result <;> simp [handleHammingCodeResult, hammingResultCode]

theorem checked_ends (env : BootEnv) (s : BootState) (slotType : SlotType) (imageSize hamCodeSize : Nat) :
    Ends (fun verify => handleHammingCodeResult
        (handleHammingCodeCheck (env.withVerifier verify) s slotType imageSize hamCodeSize).2
        (handleHammingCodeCheck (env.withVerifier verify) s slotType imageSize hamCodeSize).1)
      (checkVerification s slotType imageSize hamCodeSize) := by
  intro verify v hv
  dsimp only
  rw [handleHammingCodeCheck_eq, hv]
  exact handleHammingCodeResult_code _ _

theorem copyNorflashBinaryToSdram_ends (env : BootEnv) (s : BootState) (copySize : Nat)
    (useHamming : Bool) :
    Ends (fun verify => copyNorflashBinaryToSdram (env.withVerifier verify) s copySize useHamming)
      (norflashVerification env s copySize useHamming) := by
  unfold norflashVerification copyNorflashBinaryToSdram
  split_ifs with hset
  · have huse : (useHamming && !(s.blFramBlock.norFlashHammingCodeSize.toNat == 0 ||
        s.blFramBlock.norFlashHammingCodeSize.toNat == 0xff)) = true := by
      simp [hset.1, hset.2.codeSize.1, hset.2.codeSize.2.1]
    have hbinary := not_or.mpr hset.2.binarySize
    have hcode := not_or.mpr ⟨hset.2.codeSize.1, hset.2.codeSize.2.2⟩
    simp only [huse, if_true, if_neg hbinary, if_neg hcode]
    exact checked_ends env
      { s with sdram := store s.sdram sdramDestination (load env.norFlash binaryBaseAddress copySize) }
      .flashSlot s.blFramBlock.norFlashBinarySize.toNat s.blFramBlock.norFlashHammingCodeSize.toNat
  · exact Ends.none

theorem copySdcardBinaryToSdram_ends (env : BootEnv) (s : BootState) {bootSelect : BootSelect}
    (hnor : bootSelect ≠ .norFlash) (useHamming : Bool) :
    Ends (fun verify => copySdcardBinaryToSdram (env.withVerifier verify) s bootSelect useHamming)
      (sdcardVerification env s bootSelect useHamming) := by
  have hcopy : ∀ verify, copyWithHccLib (env.withVerifier verify) s bootSelect =
      copyWithHccLib env s bootSelect := fun _ => rfl
  unfold sdcardVerification
  simp only [copySdcardBinaryToSdram_eq _ _ hnor, if_neg hnor, hcopy]
  rcases copyWithHccLib env s bootSelect with ⟨result, imageSize, s₁⟩
  by_cases hzero : result = 0
  · subst hzero
    cases useHamming with
    | false => exact Ends.none
    | true => exact checked_ends env s₁ (sdcLocSlotType bootSelect) imageSize env.hamCodeSizeArg
  · simp only [ne_eq, hzero, not_false_eq_true, if_true]
    exact Ends.none

/-- **The end of a boot.** Where the routine is called, only a multibit error makes the boot restart. -/
theorem boot_ends (env : BootEnv) (fram : Mem UInt8) (verify : Verifier) {v : Verification}
    (hcall : bootVerification env fram = some v) :
    (boot (env.withVerifier verify) fram).1 = .restarted ↔
      (verify.answer v).1 = .errorMultiplebits := by
  have hrestarted : ∀ (slotType : SlotType) (copied : Int × BootState),
      (if copied.1 ≠ 0 then (BootEnd.restarted, (incrementRebootCounterNoOs copied.2 slotType).2)
        else (.returned (incrementRebootCounterNoOs copied.2 slotType).1,
          (incrementRebootCounterNoOs copied.2 slotType).2)).1 = .restarted ↔ ¬ copied.1 = 0 := by
    intro slotType copied
    split_ifs with h
    · exact iff_of_true rfl h
    · exact iff_of_false (fun hend => by cases hend) h
  have hboot : boot (env.withVerifier verify) fram =
      performSelectedCopy (env.withVerifier verify) (initializeAllIobcPeripherals env fram)
        (performSelection (initializeAllIobcPeripherals env fram)).1
        (performSelection (initializeAllIobcPeripherals env fram)).2 := rfl
  rw [hboot]
  unfold bootVerification selectedVerification at hcall
  unfold performSelectedCopy
  dsimp only at hcall ⊢
  by_cases hnor : (performSelection (initializeAllIobcPeripherals env fram)).1 = .norFlash
  · rw [if_pos hnor] at hcall ⊢
    rw [hrestarted, copyNorflashBinaryToSdram_ends env _ _ _ verify v hcall, not_not]
  · rw [if_neg hnor] at hcall ⊢
    refine (hrestarted (sdcLocSlotType _) _).trans ?_
    rw [copySdcardBinaryToSdram_ends env _ hnor _ verify v hcall, not_not]

/-! ## The routine of `hamming.c` -/

/-- `Hamming_Verify256x` as `handle_hamming_code_check` calls it, on the image in the SDRAM. -/
def hammingRoutine : Verifier := fun sdram size codes =>
  (hammingVerify256x (size / 256 + 1) sdram sdramDestination (.ofNat size) codes 0).getD (.noError, sdram)

/-- The size handed over is a number of blocks, and the loop ends. -/
theorem bootVerification_size (env : BootEnv) (fram : Mem UInt8) {v : Verification}
    (hcall : bootVerification env fram = some v) :
    v.size = 256 * (v.size / 256) ∧ 256 * (v.size / 256) < 2 ^ 32 := by
  have hsize := (bootVerification_madeFor env fram).size v hcall
  have haligned := sizeToCheck_aligned
    (imageLength env (readBootloaderGroup fram) (selectedImage env fram))
  rw [← hsize] at haligned
  have hlt : v.size < 2 ^ 32 := by
    rw [hsize]
    exact Nat.mod_lt _ (by decide)
  exact ⟨(Nat.mul_div_cancel' haligned).symm, by omega⟩

/-- At most one error in each block of what is handed to the routine, and its code. -/
def OneErrorEach (original : Mem UInt8) (v : Verification) : Prop :=
  ∀ k < v.size / 256, OneError original v.data sdramDestination v.code 0 k

theorem hammingRoutine_answer {env : BootEnv} {fram : Mem UInt8} {v : Verification}
    (hcall : bootVerification env fram = some v) {original : Mem UInt8} (hone : OneErrorEach original v) :
    hammingRoutine.answer v =
      (verifyResult original v.data sdramDestination v.code 0 (v.size / 256),
        withBytes v.data sdramDestination (256 * stopAt original v.code 0 (v.size / 256)) original) := by
  obtain ⟨hsize, hlt⟩ := bootVerification_size env fram hcall
  have hrun := hammingVerify256x_run hlt (Nat.lt_succ_self _) hone
  rw [← hsize] at hrun
  unfold Verifier.answer hammingRoutine
  rw [hrun]
  rfl

/-- What is read back of restored bytes is what was stored, exactly if nothing else was wrong. -/
theorem load_withBytes_iff {mem original : Mem UInt8} {data m n : Nat} (hm : m ≤ n) :
    load (withBytes mem data m original) data n = load original 0 n ↔
      withBytes mem data m original = withBytes mem data n original := by
  constructor
  · intro hload
    funext address
    rw [withBytes_apply mem data n]
    split_ifs with hin
    · obtain ⟨i, rfl⟩ := Nat.exists_eq_add_of_le hin.1
      have hi : i < n := by omega
      have hat := congrArg (·[i]?) hload
      simp only [load, List.getElem?_map, List.getElem?_range hi, Option.map_some, Option.some.injEq,
        Nat.zero_add] at hat
      rw [hat, Nat.add_sub_cancel_left]
    · rw [withBytes_apply, if_neg (by omega)]
  · intro hsame
    rw [hsame]
    refine load_eq_load fun i hi => ?_
    rw [withBytes_apply, if_pos (by omega), Nat.add_sub_cancel_left, Nat.zero_add]

/-- **Bit errors and the jump.** With at most one error in each block of the image and its code, a boot that
    checks the code jumps, and it jumps to the original image exactly if no block with an error in its data
    lies at or behind one with an error in its code. -/
theorem boot_image_intact_iff (env : BootEnv) (fram original : Mem UInt8) (v : Verification)
    (hcall : bootVerification env fram = some v) (hone : OneErrorEach original v) :
    (boot (env.withVerifier hammingRoutine) fram).1 ≠ .restarted ∧
      (load (boot (env.withVerifier hammingRoutine) fram).2.sdram sdramDestination v.size =
          load original 0 v.size ↔
        CodeErrorsLast original v.data sdramDestination v.code 0 (v.size / 256)) := by
  have hanswer := hammingRoutine_answer hcall hone
  constructor
  · rw [ne_eq, boot_ends env fram hammingRoutine hcall, hanswer]
    unfold verifyResult
    split_ifs <;> decide
  · have hsdram := (boot_calls env fram).sdram hammingRoutine v hcall
    have hstop : 256 * stopAt original v.code 0 (v.size / 256) ≤ 256 * (v.size / 256) :=
      Nat.mul_le_mul_left 256 stopAt_le
    rw [hsdram, hanswer, (bootVerification_size env fram hcall).1,
      Nat.mul_div_cancel_left _ (by decide), load_withBytes_iff hstop, withBytes_stop_iff stopAt_le,
      codeErrorsLast_iff]

/-! ## One such boot -/

/-- A board whose NOR flash has a wrong bit in the second block of its image. -/
def flippedEnv : BootEnv :=
  { bareEnv with norFlash := Function.update bareEnv.norFlash (binaryBaseAddress + 259) 0xfe }

/-- The code of two blocks of ones, with a wrong bit in that of the first. -/
def flippedCode : List UInt8 := [0xff, 0xfe, 0xff, 0xff, 0xff, 0xff]

/-- A FRAM with both flags set, the size of an image of two blocks in the NOR flash, and its code. -/
def flippedFram : Mem UInt8 :=
  norFlashHammingCodeSize.write (norFlashBinarySize.write (norFlashHammingFlag.write
    (globalHammingFlag.write (store (fun _ => 0) norFlashHammingAddr flippedCode) framTrue)
      framTrue) 0x200) 6

/-- What `Hamming_Verify256x` is handed on this board. -/
def flippedCheck : Verification where
  data := fill (store flippedEnv.sdram sdramDestination
    (load flippedEnv.norFlash binaryBaseAddress primaryImageReservedSize)) (sdramDestination + 0x200) 0 0
  size := 0x200
  code := store (fun _ => 0) 0 (load flippedFram norFlashHammingAddr 6)

theorem bootVerification_flippedFram : bootVerification flippedEnv flippedFram = some flippedCheck := by
  have hselect : performSelection (initializeAllIobcPeripherals flippedEnv flippedFram) =
      (.norFlash, true) := by decide
  have hblock : (initializeAllIobcPeripherals flippedEnv flippedFram).blFramBlock =
      readBootloaderGroup flippedFram := rfl
  have hlocal : localHammingFlagCheck (readBootloaderGroup flippedFram) .norFlash = true := by decide
  have hbinary : (readBootloaderGroup flippedFram).norFlashBinarySize.toNat = 0x200 := by decide
  have hcode : (readBootloaderGroup flippedFram).norFlashHammingCodeSize.toNat = 6 := by decide
  have hset : SizesSet (readBootloaderGroup flippedFram) := by decide
  have hfill : fillAmount 0x200 = 0 := by decide
  have hsize : sizeToCheck 0x200 = 0x200 := by decide
  have hpolled : polledSize 6 = 6 := by decide
  have hloads : LoadsCode .flashSlot 6 := ⟨by decide, by decide⟩
  have hregion : determineHamCodeAddress .flashSlot ≠ 0 := by decide
  unfold bootVerification selectedVerification norflashVerification
  simp only [hselect, hblock, hlocal, if_true, if_pos hset, true_and]
  unfold checkVerification
  rw [hbinary, hcode, if_neg (by decide)]
  dsimp only
  have hfram : (initializeAllIobcPeripherals flippedEnv flippedFram).fram = flippedFram := rfl
  have hsdram : (initializeAllIobcPeripherals flippedEnv flippedFram).sdram = flippedEnv.sdram := rfl
  have hbuf : (initializeAllIobcPeripherals flippedEnv flippedFram).hammingCodeBuf = fun _ => 0 := rfl
  have haddress : determineHamCodeAddress .flashSlot = norFlashHammingAddr := rfl
  rw [hfill, hsize, (readHammingCode_loaded _ hregion hloads).1, (readHammingCode_loaded _ hregion hloads).2,
    hfram, hsdram, hbuf, haddress, hpolled]
  unfold flippedCheck
  rfl

theorem flippedCheck_data : ∀ i < 512, flippedCheck.data (sdramDestination + i) = flippedAt 259 i := by
  intro i hi
  have hlen : (load flippedEnv.norFlash binaryBaseAddress primaryImageReservedSize).length =
      primaryImageReservedSize := load_length _ _ _
  have hin : i < primaryImageReservedSize :=
    Nat.lt_of_lt_of_le hi (show 512 ≤ primaryImageReservedSize by decide)
  simp only [flippedCheck, fill, List.replicate_zero, store_nil]
  rw [store_at (by rw [hlen]; exact hin), load_getElem]
  by_cases heq : i = 259
  · subst heq
    simp [flippedEnv, flippedAt]
  · have hne : binaryBaseAddress + i ≠ binaryBaseAddress + 259 := fun h => heq (Nat.add_left_cancel h)
    rw [flippedAt, Function.update_of_ne heq]
    unfold flippedEnv
    dsimp only
    rw [Function.update_of_ne hne]
    rfl

theorem flippedCheck_code : ∀ j < 6, flippedCheck.code (0 + j) = flippedAt 1 j := by decide

/-- The boot jumps, and the wrong code of the first block keeps the second one from being corrected. -/
theorem flippedCheck_image_intact_iff :
    ((boot (flippedEnv.withVerifier hammingRoutine) flippedFram).1 ≠ .restarted ∧
      (load (boot (flippedEnv.withVerifier hammingRoutine) flippedFram).2.sdram sdramDestination
          flippedCheck.size = load ones 0 flippedCheck.size ↔
        CodeErrorsLast ones flippedCheck.data sdramDestination flippedCheck.code 0
          (flippedCheck.size / 256))) ∧
      ¬ CodeErrorsLast ones flippedCheck.data sdramDestination flippedCheck.code 0
        (flippedCheck.size / 256) :=
  ⟨boot_image_intact_iff flippedEnv flippedFram ones flippedCheck bootVerification_flippedFram
    (flipped_oneError flippedCheck_data flippedCheck_code),
    flipped_not_codeErrorsLast flippedCheck_data flippedCheck_code⟩

end Boot
end Obsw
