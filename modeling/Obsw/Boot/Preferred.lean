import Obsw.Boot.Policy
import Obsw.Fram.HammingFlags

/-!
# `Boot.Preferred` — the preferred SD card, set by the software and read by the bootloader

`fram_set_preferred_sd_card` stores the number of the card as the enumeration `VolumeId` has it, 0 or
1. `CommonFRAM.h` and the bootloader read the field another way: 0 and 0xff for none, 1 for card 0 and
2 for card 1. The getter of the software undoes the setter, but the bootloader takes card 0 for either
card (`preferredHolds_iff`).
-/

namespace Obsw
namespace Boot

open Memory LittleEndian Device Fram

/-- The NOR flash is out of tries, no update is requested, and both primary images on the SD cards have
    tries left: the preferred card decides. -/
structure PreferredDecides (bl : BootloaderGroup) : Prop where
  norFlash : bootloaderMaxRebootCounter ≤ bl.norFlashRebootCounter.toNat
  noUpdate : bl.softwareUpdateAvailable.toNat ≠ framTrue
  sdc0 : bl.sdc0ImageSlot0RebootCounter.toNat < bootloaderMaxRebootCounter
  sdc1 : bl.sdc1ImageSlot0RebootCounter.toNat < bootloaderMaxRebootCounter

/-- What should hold behind a successful `fram_set_preferred_sd_card(v)`. -/
structure PreferredHolds (v : VolumeId) (fram : Mem UInt8) : Prop where
  /-- The software reads the card back. -/
  getter : ∀ w r n, (framSetPreferredSdCard w fram v).1 = 0 →
    (framGetPreferredSdCard r (framSetPreferredSdCard w fram v).2 (some n)).retval = 0 →
    (framGetPreferredSdCard r (framSetPreferredSdCard w fram v).2 (some n)).out =
      some (volumeIdRaw v)
  /-- The bootloader picks the primary image of the card. -/
  boot : ∀ w, (framSetPreferredSdCard w fram v).1 = 0 →
    PreferredDecides (readBootloaderGroup (framSetPreferredSdCard w fram v).2) →
    (determineBootSelect (readBootloaderGroup (framSetPreferredSdCard w fram v).2) false).1 =
      slot0 v

/-! ## The getter -/

section

variable {fram : Mem UInt8} {v : VolumeId}

/-- The block behind a successful call: the number of the card, and two zero bytes. -/
theorem framSetPreferredSdCard_ok {w : WriteOutcome UInt8}
    (h : (framSetPreferredSdCard w fram v).1 = 0) :
    (framSetPreferredSdCard w fram v).2 =
      store fram preferredSdCard.addr (toLE 4 (volumeIdRaw v)) := framWriteAndVerify_ok w fram _ _ h

theorem preferredSdCard_read_store (v : VolumeId) :
    preferredSdCard.read (store fram preferredSdCard.addr (toLE 4 (volumeIdRaw v))) =
      volumeIdRaw v := by
  cases v <;> rfl

/-- The two bytes of the field, read into a variable of four that was 0. -/
theorem framGetPreferredSdCard_out {r : WriteOutcome UInt8} {m : Mem UInt8} {n : Nat}
    (h : r.retval = 0) :
    framGetPreferredSdCard r m (some n) =
      ⟨0, some (preferredSdCard.read m), [⟨preferredSdCard, 4⟩]⟩ := by
  obtain rfl : r = .done := WriteOutcome.retval_eq_zero.mp h
  have hvalue : varValue 4 (framRead .done m (fun _ => 0) preferredSdCard 4).out =
      preferredSdCard.read m := by
    have hread : preferredSdCard.read m = (m 12).toNat + 256 * ((m 13).toNat + 256 * 0) := rfl
    have hvar : varValue 4 (framRead .done m (fun _ => 0) preferredSdCard 4).out =
        (m 12).toNat + 256 * ((m 13).toNat + 256 * (0 + 256 * (0 + 256 * 0))) := rfl
    rw [hread, hvar]
  have hlt : preferredSdCard.read m < 65536 := Field.read_lt _ _
  have hset : ¬ preferredSdCard.read m = 0xffffffff := by omega
  simp only [framGetPreferredSdCard, hvalue, if_neg hset]
  rfl

theorem preferred_getter {w r : WriteOutcome UInt8} {n : Nat}
    (hw : (framSetPreferredSdCard w fram v).1 = 0)
    (hr : (framGetPreferredSdCard r (framSetPreferredSdCard w fram v).2 (some n)).retval = 0) :
    (framGetPreferredSdCard r (framSetPreferredSdCard w fram v).2 (some n)).out =
      some (volumeIdRaw v) := by
  have hok : r.retval = 0 := by
    by_contra hne
    have hretval : (framRead r (framSetPreferredSdCard w fram v).2 (fun _ => 0)
      preferredSdCard 4).retval = r.retval := rfl
    simp only [framGetPreferredSdCard] at hr
    split at hr
    · exact absurd hr (show (1 : Int) ≠ 0 by decide)
    · exact hne (hretval.symm.trans hr)
  rw [framGetPreferredSdCard_out hok, framSetPreferredSdCard_ok hw]
  simp only
  rw [preferredSdCard_read_store]

/-! ## The bootloader -/

/-- The fields that decide whether the preferred card does are none of the four bytes written. -/
theorem preferredDecides_store (v : VolumeId) :
    PreferredDecides (readBootloaderGroup
        (store fram preferredSdCard.addr (toLE 4 (volumeIdRaw v)))) ↔
      PreferredDecides (readBootloaderGroup fram) := by
  have hkeep : ∀ f : Field, preferredSdCard.addr + 4 ≤ f.addr →
      f.read (store fram preferredSdCard.addr (toLE 4 (volumeIdRaw v))) = f.read fram := by
    intro f hf
    apply Field.read_store_disjoint
    rw [toLE_length]
    exact Or.inr hf
  have hnor := hkeep norFlashRebootCounter (by decide)
  have hupdate := hkeep softwareUpdateAvailable (by decide)
  have hsdc0 := hkeep sdc0ImageSlot0RebootCounter (by decide)
  have hsdc1 := hkeep sdc1ImageSlot0RebootCounter (by decide)
  constructor
  · rintro ⟨h1, h2, h3, h4⟩
    simp only [readBootloaderGroup, hnor, hupdate, hsdc0, hsdc1] at h1 h2 h3 h4
    exact ⟨h1, h2, h3, h4⟩
  · rintro ⟨h1, h2, h3, h4⟩
    simp only [readBootloaderGroup] at h1 h2 h3 h4
    constructor <;> simp only [readBootloaderGroup, hnor, hupdate, hsdc0, hsdc1] <;> assumption

/-- Where the preferred card decides, the boot picks the primary image of that card. -/
theorem determineBootSelect_preferred {bl : BootloaderGroup} (h : PreferredDecides bl) :
    (determineBootSelect bl false).1 = slot0 (preferredVolume bl) := by
  have hupdate : determineUpdateSelect bl = none := by
    unfold determineUpdateSelect
    rw [if_neg h.noUpdate]
  have hnor : ¬ bl.norFlashRebootCounter.toNat < bootloaderMaxRebootCounter :=
    Nat.not_lt.mpr h.norFlash
  simp only [determineBootSelect, hupdate, if_neg hnor, determineSdcSelect, preferredVolume,
    if_pos h.sdc0, if_pos h.sdc1, Bool.false_eq_true, if_false]
  by_cases hcard0 : bl.preferredSdCard.toNat ∈ [0, 1, 0xff]
  · have hor : bl.preferredSdCard.toNat = 0xff ∨ bl.preferredSdCard.toNat = 1 ∨
        bl.preferredSdCard.toNat = 0 := by simpa [or_comm, or_assoc, or_left_comm] using hcard0
    rw [if_pos hcard0, if_pos hor]
    rfl
  · have hor : ¬ (bl.preferredSdCard.toNat = 0xff ∨ bl.preferredSdCard.toNat = 1 ∨
        bl.preferredSdCard.toNat = 0) := by simpa [or_comm, or_assoc, or_left_comm] using hcard0
    rw [if_neg hcard0, if_neg hor]
    rfl

/-- Both numbers the software stores mean card 0 to the bootloader. -/
theorem preferredVolume_store (v : VolumeId) :
    preferredVolume (readBootloaderGroup
      (store fram preferredSdCard.addr (toLE 4 (volumeIdRaw v)))) = .sdCard0 := by
  simp only [preferredVolume, readBootloaderGroup, preferredSdCard_read_store]
  cases v <;> rfl

end

/-- **Preferred card.** The getter gives the card that was set, and where the preferred card decides
    the bootloader boots its primary image, exactly if the card is card 0 or another field decides. -/
theorem preferredHolds_iff (v : VolumeId) (fram : Mem UInt8) :
    PreferredHolds v fram ↔ v = .sdCard0 ∨ ¬ PreferredDecides (readBootloaderGroup fram) := by
  constructor
  · intro h
    by_contra hno
    push Not at hno
    obtain ⟨hv, hdecides⟩ := hno
    have hboot := h.boot .done rfl ((preferredDecides_store v).mpr hdecides)
    have hpick : (determineBootSelect (readBootloaderGroup
        (framSetPreferredSdCard .done fram v).2) false).1 = slot0 .sdCard0 := by
      have := determineBootSelect_preferred ((preferredDecides_store v).mpr hdecides)
      rwa [preferredVolume_store] at this
    rw [hpick] at hboot
    cases v with
    | sdCard0 => exact hv rfl
    | sdCard1 => cases hboot
  · intro h
    refine ⟨fun w r n hw hr => preferred_getter hw hr, ?_⟩
    intro w hw hdecides
    rw [framSetPreferredSdCard_ok hw] at hdecides ⊢
    rw [determineBootSelect_preferred hdecides, preferredVolume_store]
    rcases h with rfl | hnot
    · rfl
    · exact absurd ((preferredDecides_store v).mp hdecides) hnot

/-- A FRAM on which the preferred card decides: the NOR flash counter is at its maximum. -/
def norFlashExhausted : Mem UInt8 :=
  store (fun _ => 0) norFlashRebootCounter.addr [UInt8.ofNat bootloaderMaxRebootCounter]

/-- Card 1 is set, and slot 0 of card 0 is booted. -/
theorem preferred_card1_boots_card0 : ¬ PreferredHolds .sdCard1 norFlashExhausted := by
  intro h
  have hboot := h.boot .done rfl ⟨by decide, by decide, by decide, by decide⟩
  exact absurd hboot (by decide)

end Boot
end Obsw
