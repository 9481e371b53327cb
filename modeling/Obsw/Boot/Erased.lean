import Obsw.Boot.Copy
import Obsw.Boot.Policy

/-!
# `Boot.Erased` — booting from an erased FRAM

`FRAMApi.h` says that an uninitialised field has the value 0xff, and `CommonFRAM.h` that such a preferred
card means none. The fields that are compared with 0xff have two bytes, so an erased one is 0xffff: a
reboot counter counts as used up and wraps to 0 when it is incremented, and the preferred card is card 1.
Which erased fields the boot treats as zero is exactly `ErasedHarmless` (`erasedIsZero_iff`).
-/

namespace Obsw
namespace Boot

open Memory LittleEndian Fram Budget

/-! ## Erased fields -/

/-- The fields of the group the bootloader reads. -/
inductive GroupField where
  | preferredSdCard
  | globalHammingFlag
  | norFlashHammingFlag
  | sdc0ImageSlot0HammingFlag
  | sdc0ImageSlot1HammingFlag
  | sdc1ImageSlot0HammingFlag
  | sdc1ImageSlot1HammingFlag
  | norFlashRebootCounter
  | sdc0ImageSlot0RebootCounter
  | sdc0ImageSlot1RebootCounter
  | sdc1ImageSlot0RebootCounter
  | sdc1ImageSlot1RebootCounter
  | norFlashBinarySize
  | norFlashHammingCodeSize
  | sdc0ImageSlot0HammingSize
  | sdc0ImageSlot1HammingSize
  | sdc1ImageSlot0HammingSize
  | sdc1ImageSlot1HammingSize
  | softwareUpdateAvailable
  | softwareUpdateInVolume0
  | softwareUpdateInVolume1
  deriving DecidableEq, Repr

/-- All bytes of a field are the same. -/
structure Blank where
  two : UInt16
  four : UInt32
  one : UInt8

/-- The fields of a subset are filled. -/
def fillFields (blank : Blank) (subset : GroupField → Bool) (bl : BootloaderGroup) :
    BootloaderGroup where
  preferredSdCard := bif subset .preferredSdCard then blank.two else bl.preferredSdCard
  globalHammingFlag := bif subset .globalHammingFlag then blank.two else bl.globalHammingFlag
  norFlashHammingFlag := bif subset .norFlashHammingFlag then blank.two else bl.norFlashHammingFlag
  sdc0ImageSlot0HammingFlag :=
    bif subset .sdc0ImageSlot0HammingFlag then blank.two else bl.sdc0ImageSlot0HammingFlag
  sdc0ImageSlot1HammingFlag :=
    bif subset .sdc0ImageSlot1HammingFlag then blank.two else bl.sdc0ImageSlot1HammingFlag
  sdc1ImageSlot0HammingFlag :=
    bif subset .sdc1ImageSlot0HammingFlag then blank.two else bl.sdc1ImageSlot0HammingFlag
  sdc1ImageSlot1HammingFlag :=
    bif subset .sdc1ImageSlot1HammingFlag then blank.two else bl.sdc1ImageSlot1HammingFlag
  norFlashRebootCounter :=
    bif subset .norFlashRebootCounter then blank.two else bl.norFlashRebootCounter
  sdc0ImageSlot0RebootCounter :=
    bif subset .sdc0ImageSlot0RebootCounter then blank.two else bl.sdc0ImageSlot0RebootCounter
  sdc0ImageSlot1RebootCounter :=
    bif subset .sdc0ImageSlot1RebootCounter then blank.two else bl.sdc0ImageSlot1RebootCounter
  sdc1ImageSlot0RebootCounter :=
    bif subset .sdc1ImageSlot0RebootCounter then blank.two else bl.sdc1ImageSlot0RebootCounter
  sdc1ImageSlot1RebootCounter :=
    bif subset .sdc1ImageSlot1RebootCounter then blank.two else bl.sdc1ImageSlot1RebootCounter
  norFlashBinarySize := bif subset .norFlashBinarySize then blank.four else bl.norFlashBinarySize
  norFlashHammingCodeSize :=
    bif subset .norFlashHammingCodeSize then blank.four else bl.norFlashHammingCodeSize
  sdc0ImageSlot0HammingSize :=
    bif subset .sdc0ImageSlot0HammingSize then blank.four else bl.sdc0ImageSlot0HammingSize
  sdc0ImageSlot1HammingSize :=
    bif subset .sdc0ImageSlot1HammingSize then blank.four else bl.sdc0ImageSlot1HammingSize
  sdc1ImageSlot0HammingSize :=
    bif subset .sdc1ImageSlot0HammingSize then blank.four else bl.sdc1ImageSlot0HammingSize
  sdc1ImageSlot1HammingSize :=
    bif subset .sdc1ImageSlot1HammingSize then blank.four else bl.sdc1ImageSlot1HammingSize
  softwareUpdateAvailable :=
    bif subset .softwareUpdateAvailable then blank.one else bl.softwareUpdateAvailable
  softwareUpdateInVolume0 :=
    bif subset .softwareUpdateInVolume0 then blank.one else bl.softwareUpdateInVolume0
  softwareUpdateInVolume1 :=
    bif subset .softwareUpdateInVolume1 then blank.one else bl.softwareUpdateInVolume1

/-- The fields of the subset are erased: all their bytes are 0xff. -/
def erased (subset : GroupField → Bool) (bl : BootloaderGroup) : BootloaderGroup :=
  fillFields ⟨0xffff, 0xffffffff, 0xff⟩ subset bl

/-- They are zero. -/
def zeroed (subset : GroupField → Bool) (bl : BootloaderGroup) : BootloaderGroup :=
  fillFields ⟨0, 0, 0⟩ subset bl

/-- Erased fields act as zeros: the same image is selected, and the same counter is written. -/
structure ErasedIsZero (subset : GroupField → Bool) (bl : BootloaderGroup) : Prop where
  select : ∀ framFaulty, (determineBootSelect (erased subset bl) framFaulty).1 =
    (determineBootSelect (zeroed subset bl) framFaulty).1
  counters : ∀ (s : BootState) slotType,
    (incrementRebootCounterNoOs { s with blFramBlock := erased subset bl } slotType).2.fram =
      (incrementRebootCounterNoOs { s with blFramBlock := zeroed subset bl } slotType).2.fram

/-- The preferred card decides which image is booted. -/
structure PreferredSelects (bl : BootloaderGroup) : Prop where
  update : ∀ image ∈ requestedUpdate bl, bootloaderMaxRebootCounter ≤ rebootCounterOf bl image
  norFlash : bootloaderMaxRebootCounter ≤ rebootCounterOf bl .norFlash
  sdc0 : rebootCounterOf bl .sdCard0Slot0 < bootloaderMaxRebootCounter
  sdc1 : rebootCounterOf bl .sdCard1Slot0 < bootloaderMaxRebootCounter

/-- The field of an image's reboot counter. -/
def counterField : BootSelect → GroupField
  | .norFlash => .norFlashRebootCounter
  | .sdCard0Slot0 => .sdc0ImageSlot0RebootCounter
  | .sdCard0Slot1 => .sdc0ImageSlot1RebootCounter
  | .sdCard1Slot0 => .sdc1ImageSlot0RebootCounter
  | .sdCard1Slot1 => .sdc1ImageSlot1RebootCounter

/-- No reboot counter is erased, and the preferred card only where it does not decide. -/
structure ErasedHarmless (subset : GroupField → Bool) (bl : BootloaderGroup) : Prop where
  counters : ∀ image, subset (counterField image) = false
  preferred : subset .preferredSdCard = true → ¬ PreferredSelects (zeroed subset bl)

/-! ## Counters -/

section

variable {subset : GroupField → Bool} {bl : BootloaderGroup}

theorem imgRebootCounter_fill (blank : Blank) (image : BootSelect) :
    imgRebootCounter (fillFields blank subset bl) (slotTypeOf image) =
      bif subset (counterField image) then blank.two else imgRebootCounter bl (slotTypeOf image) := by
  cases image <;> rfl

theorem rebootCounterOf_fill (blank : Blank) {image : BootSelect}
    (h : subset (counterField image) = false) :
    rebootCounterOf (fillFields blank subset bl) image = rebootCounterOf bl image := by
  have hcell : ∀ a b : UInt16, (bif subset (counterField image) then a else b) = b := by
    intro a b
    rw [h]
    rfl
  cases image
  all_goals exact congrArg UInt16.toNat (hcell _ _)

/-- The low byte of the counter that is written. -/
theorem increment_cell (s : BootState) (slotType : SlotType) :
    (incrementRebootCounterNoOs s slotType).2.fram (determineImgRebootCounterAddr slotType) =
      UInt8.ofNat (nextRebootCounter (imgRebootCounter s.blFramBlock slotType)).toNat := by
  show store s.fram _ (toLE 2 _) (determineImgRebootCounterAddr slotType + 0) = _
  rw [store_at (by rw [toLE_length]; decide)]
  rfl

/-- An erased counter is incremented to 0, a zero counter to 1. -/
theorem erased_counter_written {image : BootSelect} (h : subset (counterField image) = true)
    (s : BootState) :
    (incrementRebootCounterNoOs { s with blFramBlock := erased subset bl } (slotTypeOf image)).2.fram ≠
      (incrementRebootCounterNoOs { s with blFramBlock := zeroed subset bl }
        (slotTypeOf image)).2.fram := by
  intro heq
  have hvalue : ∀ blank, imgRebootCounter (fillFields blank subset bl) (slotTypeOf image) = blank.two := by
    intro blank
    rw [imgRebootCounter_fill, h]
    rfl
  have hcell := congrFun heq (determineImgRebootCounterAddr (slotTypeOf image))
  rw [increment_cell, increment_cell] at hcell
  dsimp only at hcell
  rw [erased, zeroed, hvalue, hvalue] at hcell
  exact absurd hcell (by decide)

theorem counters_written (h : ∀ image, subset (counterField image) = false) (s : BootState)
    (slotType : SlotType) :
    (incrementRebootCounterNoOs { s with blFramBlock := erased subset bl } slotType).2.fram =
      (incrementRebootCounterNoOs { s with blFramBlock := zeroed subset bl } slotType).2.fram := by
  have hsame : imgRebootCounter (erased subset bl) slotType =
      imgRebootCounter (zeroed subset bl) slotType := by
    have hfill : ∀ image, imgRebootCounter (erased subset bl) (slotTypeOf image) =
        imgRebootCounter (zeroed subset bl) (slotTypeOf image) := by
      intro image
      rw [erased, zeroed, imgRebootCounter_fill, imgRebootCounter_fill, h image]
      rfl
    cases slotType with
    | flashSlot => exact hfill .norFlash
    | sdc0Sl0 => exact hfill .sdCard0Slot0
    | sdc0Sl1 => exact hfill .sdCard0Slot1
    | sdc1Sl0 => exact hfill .sdCard1Slot0
    | sdc1Sl1 => exact hfill .sdCard1Slot1
    | bootloader0 => rfl
    | bootloader1 => rfl
  show (framNoOsBlockingIncrementImgRebootCounter s.fram slotType
    (nextRebootCounter (imgRebootCounter (erased subset bl) slotType))).2 = _
  rw [hsame]
  rfl

/-! ## Selection -/

/-- The policy, for a given preferred card. -/
def pickWith (bl : BootloaderGroup) (volume : VolumeId) : Option BootSelect :=
  pick (rebootCounterOf bl) bootloaderMaxRebootCounter
    ((requestedUpdate bl).toList ++ [.norFlash, slot0 volume, slot0 (otherVolume volume)])

theorem determineBootSelect_pickWith (bl : BootloaderGroup) :
    (determineBootSelect bl false).1 = (pickWith bl (preferredVolume bl)).getD .norFlash := by
  rw [determineBootSelect_eq]
  show _ = (policyPick bl).getD .norFlash
  cases policyPick bl <;> rfl

theorem pickWith_eq (bl : BootloaderGroup) (volume : VolumeId) :
    pickWith bl volume =
      (pick (rebootCounterOf bl) bootloaderMaxRebootCounter (requestedUpdate bl).toList).or
        (pick (rebootCounterOf bl) bootloaderMaxRebootCounter
          [.norFlash, slot0 volume, slot0 (otherVolume volume)]) := pick_append _ _

/-- Where the preferred card decides, its primary image is picked. -/
theorem pickWith_of_selects (h : PreferredSelects bl) (volume : VolumeId) :
    pickWith bl volume = some (slot0 volume) := by
  have hupdate : pick (rebootCounterOf bl) bootloaderMaxRebootCounter (requestedUpdate bl).toList = none :=
    pick_eq_none.mpr fun image himage => h.update image (Option.mem_toList.mp himage)
  have hlt : rebootCounterOf bl (slot0 volume) < bootloaderMaxRebootCounter := by
    cases volume with
    | sdCard0 => exact h.sdc0
    | sdCard1 => exact h.sdc1
  rw [pickWith_eq, hupdate, Option.none_or, pick_cons_of_le h.norFlash, pick_cons_of_lt hlt]

/-- Elsewhere it does not matter. -/
theorem pickWith_of_not_selects (h : ¬ PreferredSelects bl) :
    pickWith bl .sdCard0 = pickWith bl .sdCard1 := by
  rw [pickWith_eq, pickWith_eq]
  cases hupdate : pick (rebootCounterOf bl) bootloaderMaxRebootCounter (requestedUpdate bl).toList with
  | some image => rfl
  | none =>
      rw [Option.none_or, Option.none_or]
      by_cases hnor : rebootCounterOf bl .norFlash < bootloaderMaxRebootCounter
      · rw [pick_cons_of_lt hnor, pick_cons_of_lt hnor]
      · have hnor' := Nat.le_of_not_lt hnor
        rw [pick_cons_of_le hnor', pick_cons_of_le hnor']
        dsimp only [slot0, otherVolume]
        by_cases h0 : rebootCounterOf bl .sdCard0Slot0 < bootloaderMaxRebootCounter
        · by_cases h1 : rebootCounterOf bl .sdCard1Slot0 < bootloaderMaxRebootCounter
          · refine absurd ⟨fun image himage => ?_, hnor', h0, h1⟩ h
            exact pick_eq_none.mp hupdate image (Option.mem_toList.mpr himage)
          · rw [pick_cons_of_lt h0, pick_cons_of_le (Nat.le_of_not_lt h1), pick_cons_of_lt h0]
        · have h0' := Nat.le_of_not_lt h0
          rw [pick_cons_of_le h0']
          by_cases h1 : rebootCounterOf bl .sdCard1Slot0 < bootloaderMaxRebootCounter
          · rw [pick_cons_of_lt h1, pick_cons_of_lt h1]
          · have h1' := Nat.le_of_not_lt h1
            rw [pick_cons_of_le h1', pick_cons_of_le h1', pick_cons_of_le h0']

/-- An erased flag is not set, as a zero flag. -/
theorem requestedUpdate_erased : requestedUpdate (erased subset bl) = requestedUpdate (zeroed subset bl) := by
  unfold requestedUpdate erased zeroed fillFields
  cases subset .softwareUpdateAvailable <;> cases subset .softwareUpdateInVolume0 <;>
    cases subset .softwareUpdateInVolume1 <;> rfl

theorem pickWith_erased (h : ∀ image, subset (counterField image) = false) (volume : VolumeId) :
    pickWith (erased subset bl) volume = pickWith (zeroed subset bl) volume := by
  have hcounter : rebootCounterOf (erased subset bl) = rebootCounterOf (zeroed subset bl) := by
    funext image
    rw [erased, zeroed, rebootCounterOf_fill _ (h image), rebootCounterOf_fill _ (h image)]
  rw [pickWith, pickWith, hcounter, requestedUpdate_erased]

theorem preferredVolume_fill (blank : Blank) :
    preferredVolume (fillFields blank subset bl) =
      if subset .preferredSdCard = true then
        (if blank.two.toNat ∈ [0, 1, 0xff] then .sdCard0 else .sdCard1)
      else preferredVolume bl := by
  unfold preferredVolume fillFields
  cases subset .preferredSdCard <;> rfl

/-- A boot before anything was done. -/
def anyState : BootState where
  fram := fun _ => 0
  blFramBlock := readBootloaderGroup fun _ => 0
  framFaulty := false
  sdram := fun _ => 0
  hammingCodeBuf := fun _ => 0
  sram0Status := none

/-- **Erased fields.** They act as zeros exactly if no reboot counter is erased, and the preferred card
    only where it does not decide which image is booted. -/
theorem erasedIsZero_iff (subset : GroupField → Bool) (bl : BootloaderGroup) :
    ErasedIsZero subset bl ↔ ErasedHarmless subset bl := by
  constructor
  · intro h
    have hcounters : ∀ image, subset (counterField image) = false := by
      intro image
      by_contra hne
      have hset : subset (counterField image) = true := by simpa using hne
      exact erased_counter_written hset anyState (h.counters anyState (slotTypeOf image))
    refine ⟨hcounters, fun hpreferred hselects => ?_⟩
    have hselect := h.select false
    have hcard1 : preferredVolume (erased subset bl) = .sdCard1 := by
      rw [erased, preferredVolume_fill, if_pos hpreferred]
      decide
    have hcard0 : preferredVolume (zeroed subset bl) = .sdCard0 := by
      rw [zeroed, preferredVolume_fill, if_pos hpreferred]
      decide
    rw [determineBootSelect_pickWith, determineBootSelect_pickWith, pickWith_erased hcounters, hcard1,
      hcard0, pickWith_of_selects hselects, pickWith_of_selects hselects] at hselect
    cases hselect
  · intro h
    refine ⟨fun framFaulty => ?_, counters_written h.counters⟩
    cases framFaulty with
    | true => rfl
    | false =>
        rw [determineBootSelect_pickWith, determineBootSelect_pickWith, pickWith_erased h.counters]
        cases hpreferred : subset .preferredSdCard with
        | false =>
            rw [erased, zeroed, preferredVolume_fill, preferredVolume_fill, hpreferred]
            rfl
        | true =>
            have hany := pickWith_of_not_selects (h.preferred hpreferred)
            have hvolume : ∀ v, pickWith (zeroed subset bl) v = pickWith (zeroed subset bl) .sdCard0 := by
              intro v
              cases v with
              | sdCard0 => rfl
              | sdCard1 => exact hany.symm
            rw [hvolume, hvolume (preferredVolume (zeroed subset bl))]

/-- An erased NOR flash counter lets the boot pass over the NOR flash. -/
theorem erased_counter_skips_norFlash : ¬ ∀ subset bl, ErasedIsZero subset bl := by
  intro h
  have hselect := (h (fun f => decide (f = .norFlashRebootCounter))
    (readBootloaderGroup fun _ => 0)).select false
  exact absurd hselect (by decide)

end

end Boot
end Obsw
