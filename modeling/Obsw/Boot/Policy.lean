import Obsw.Boot.Logic
import Obsw.Lib.Budget

/-!
# `Boot.Policy` — the boot selection is a priority list with a budget of tries

What `determine_boot_select` is for: the requested update, the NOR flash, slot 0 of the preferred card
and slot 0 of the other card are tried in this order, each as long as its own reboot counter is below
`BOOTLOADER_MAX_REBOOT_COUNTER`; the NOR flash without hamming code is the last resort. The nested
fallbacks of the code compute exactly this (`determineBootSelect_eq`).
-/

namespace Obsw
namespace Boot

open Memory LittleEndian Fram Budget

/-! ## The policy -/

/-- The reboot counter of an image in the block. -/
def rebootCounterOf (bl : BootloaderGroup) : BootSelect → Nat
  | .norFlash => bl.norFlashRebootCounter.toNat
  | .sdCard0Slot0 => bl.sdc0ImageSlot0RebootCounter.toNat
  | .sdCard0Slot1 => bl.sdc0ImageSlot1RebootCounter.toNat
  | .sdCard1Slot0 => bl.sdc1ImageSlot0RebootCounter.toNat
  | .sdCard1Slot1 => bl.sdc1ImageSlot1RebootCounter.toNat

/-- The update image the FRAM asks for, if any: slot 1 of the card whose flag is set. -/
def requestedUpdate (bl : BootloaderGroup) : Option BootSelect :=
  if bl.softwareUpdateAvailable.toNat = framTrue then
    if bl.softwareUpdateInVolume0.toNat = framTrue then some .sdCard0Slot1
    else if bl.softwareUpdateInVolume1.toNat = framTrue then some .sdCard1Slot1
    else none
  else none

/-- The preferred card: 0 and 0xff stand for none, which means card 0, and 1 for card 0. -/
def preferredVolume (bl : BootloaderGroup) : VolumeId :=
  if bl.preferredSdCard.toNat ∈ [0, 1, 0xff] then .sdCard0 else .sdCard1

/-- The primary image of a card. -/
def slot0 : VolumeId → BootSelect
  | .sdCard0 => .sdCard0Slot0
  | .sdCard1 => .sdCard1Slot0

def otherVolume : VolumeId → VolumeId
  | .sdCard0 => .sdCard1
  | .sdCard1 => .sdCard0

/-- The images in the order in which they are tried. -/
def bootPriority (bl : BootloaderGroup) : List BootSelect :=
  (requestedUpdate bl).toList ++
    [.norFlash, slot0 (preferredVolume bl), slot0 (otherVolume (preferredVolume bl))]

/-- The image the policy chooses, if one has tries left. -/
def policyPick (bl : BootloaderGroup) : Option BootSelect :=
  pick (rebootCounterOf bl) bootloaderMaxRebootCounter (bootPriority bl)

/-- Every image the FRAM content lets the boot try has used up its tries. -/
def Exhausted (bl : BootloaderGroup) : Prop :=
  ∀ image ∈ (requestedUpdate bl).toList ++ [.norFlash, .sdCard0Slot0, .sdCard1Slot0],
    bootloaderMaxRebootCounter ≤ rebootCounterOf bl image

/-! ## The code follows the policy -/

/-- The head of the function returns the requested update as long as it has tries left. -/
theorem determineUpdateSelect_eq (bl : BootloaderGroup) :
    determineUpdateSelect bl =
      pick (rebootCounterOf bl) bootloaderMaxRebootCounter (requestedUpdate bl).toList := by
  unfold determineUpdateSelect requestedUpdate
  split_ifs with havail hvol0 hcounter hvol1 hcounter
  · have hc : bootloaderMaxRebootCounter ≤ rebootCounterOf bl .sdCard0Slot1 := hcounter
    exact (show _ = none from pick_cons_of_le hc).symm
  · have hc : rebootCounterOf bl .sdCard0Slot1 < bootloaderMaxRebootCounter := by
      simpa [rebootCounterOf] using hcounter
    exact (pick_cons_of_lt hc).symm
  · have hc : bootloaderMaxRebootCounter ≤ rebootCounterOf bl .sdCard1Slot1 := hcounter
    exact (show _ = none from pick_cons_of_le hc).symm
  · have hc : rebootCounterOf bl .sdCard1Slot1 < bootloaderMaxRebootCounter := by
      simpa [rebootCounterOf] using hcounter
    exact (pick_cons_of_lt hc).symm
  · rfl
  · rfl

/-- The tail of the function tries slot 0 of the preferred card, then slot 0 of the other card. -/
theorem determineSdcSelect_eq (bl : BootloaderGroup) (useHamming : Bool) :
    determineSdcSelect bl useHamming =
      match pick (rebootCounterOf bl) bootloaderMaxRebootCounter
        [slot0 (preferredVolume bl), slot0 (otherVolume (preferredVolume bl))] with
      | some image => (image, useHamming)
      | none => (.norFlash, false) := by
  unfold determineSdcSelect
  by_cases hpref : bl.preferredSdCard.toNat = 0xff ∨ bl.preferredSdCard.toNat = 1 ∨
      bl.preferredSdCard.toNat = 0
  · have hvol : preferredVolume bl = .sdCard0 := by
      unfold preferredVolume
      rw [if_pos (by simp; omega)]
    rw [if_pos hpref, hvol]
    split_ifs with h0 h1
    · rw [pick_cons_of_lt (by exact h0)]
      rfl
    · rw [pick_cons_of_le (by exact Nat.le_of_not_lt h0), pick_cons_of_lt (by exact h1)]
      rfl
    · rw [pick_cons_of_le (by exact Nat.le_of_not_lt h0),
        pick_cons_of_le (by exact Nat.le_of_not_lt h1)]
      rfl
  · have hvol : preferredVolume bl = .sdCard1 := by
      unfold preferredVolume
      rw [if_neg (by simp; omega)]
    rw [if_neg hpref, hvol]
    split_ifs with h1 h0
    · rw [pick_cons_of_lt (by exact h1)]
      rfl
    · rw [pick_cons_of_le (by exact Nat.le_of_not_lt h1), pick_cons_of_lt (by exact h0)]
      rfl
    · rw [pick_cons_of_le (by exact Nat.le_of_not_lt h1),
        pick_cons_of_le (by exact Nat.le_of_not_lt h0)]
      rfl

/-- **`determine_boot_select` is the policy.** With a working FRAM it returns the image the policy
    picks, with the global hamming flag, and the NOR flash without hamming code if there is none. -/
theorem determineBootSelect_eq (bl : BootloaderGroup) :
    determineBootSelect bl false =
      match policyPick bl with
      | some image => (image, decide (bl.globalHammingFlag.toNat = framTrue))
      | none => (.norFlash, false) := by
  unfold determineBootSelect policyPick bootPriority
  rw [if_neg Bool.false_ne_true, determineUpdateSelect_eq, pick_append]
  cases hupd : pick (rebootCounterOf bl) bootloaderMaxRebootCounter (requestedUpdate bl).toList with
  | some image => rfl
  | none =>
      simp only [Option.none_or]
      by_cases hnor : bl.norFlashRebootCounter.toNat < bootloaderMaxRebootCounter
      · rw [if_pos hnor, pick_cons_of_lt (by exact hnor)]
      · have hc : bootloaderMaxRebootCounter ≤ rebootCounterOf bl .norFlash := Nat.le_of_not_lt hnor
        rw [if_neg hnor, determineSdcSelect_eq, pick_cons_of_le hc]

/-! ## What the policy leaves over -/

/-- The priority list holds the same images as the list of `Exhausted`. -/
theorem policyPick_eq_none {bl : BootloaderGroup} : policyPick bl = none ↔ Exhausted bl := by
  unfold policyPick bootPriority Exhausted
  rw [pick_eq_none]
  cases preferredVolume bl with
  | sdCard0 => rfl
  | sdCard1 =>
      have hperm : ∀ image, image ∈ (requestedUpdate bl).toList ++
            [.norFlash, .sdCard1Slot0, .sdCard0Slot0] ↔
          image ∈ (requestedUpdate bl).toList ++ [.norFlash, .sdCard0Slot0, .sdCard1Slot0] := by
        intro image
        simp only [List.mem_append, List.mem_cons, List.not_mem_nil, or_false]
        tauto
      exact forall_congr' fun image => imp_congr_left (hperm image)

/-- The NOR flash fallback: a selected image without tries left is the NOR flash, without hamming
    code, and only on a faulty FRAM or when everything is exhausted. -/
theorem determineBootSelect_fallback {bl : BootloaderGroup} {framFaulty : Bool}
    (h : ¬ rebootCounterOf bl (determineBootSelect bl framFaulty).1 < bootloaderMaxRebootCounter) :
    determineBootSelect bl framFaulty = (.norFlash, false) ∧ (framFaulty = true ∨ Exhausted bl) := by
  cases framFaulty with
  | true => exact ⟨rfl, .inl rfl⟩
  | false =>
      rw [determineBootSelect_eq] at h ⊢
      cases hp : policyPick bl with
      | some image =>
          rw [hp] at h
          exact absurd (pick_lt hp) h
      | none => exact ⟨rfl, .inr (policyPick_eq_none.mp hp)⟩

/-- **Boot selection.** For every block and every state of the FRAM, the selected image has tries left
    or is the NOR flash without hamming code on a faulty FRAM or when every image is exhausted; and
    with a working FRAM the images are tried in the order of `bootPriority`. -/
theorem determineBootSelect_policy (bl : BootloaderGroup) (framFaulty : Bool) :
    (rebootCounterOf bl (determineBootSelect bl framFaulty).1 < bootloaderMaxRebootCounter ∨
      (determineBootSelect bl framFaulty = (.norFlash, false) ∧
        (framFaulty = true ∨ Exhausted bl))) ∧
    (determineBootSelect bl framFaulty).1 =
      if framFaulty then .norFlash
      else ((bootPriority bl).find? fun image =>
        decide (rebootCounterOf bl image < bootloaderMaxRebootCounter)).getD .norFlash := by
  constructor
  · by_cases h : rebootCounterOf bl (determineBootSelect bl framFaulty).1 <
        bootloaderMaxRebootCounter
    · exact .inl h
    · exact .inr (determineBootSelect_fallback h)
  · cases framFaulty with
    | true => rfl
    | false =>
        rw [determineBootSelect_eq, if_neg Bool.false_ne_true]
        cases hp : policyPick bl <;> rw [policyPick, pick] at hp <;> simp [hp]

end Boot
end Obsw
