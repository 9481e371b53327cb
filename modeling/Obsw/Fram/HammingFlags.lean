import Obsw.Fram.OwnField

/-!
# `Fram.HammingFlags` — reading back a hamming flag

A getter called after the setter or the clear function of its flag should give the value just written,
whatever the other fields hold. That is so for the global flag and for the getters that take a slot
type. `get_sdc_hamming_flag` reads four bytes, its own flag and the two bytes behind it, so it gives
the value written if the flag was set, or if the bytes behind it are 0 (`sdcFlag_roundTrip_iff`).
-/

namespace Obsw
namespace Fram

open Memory LittleEndian Device

/-! ## What a getter gives -/

/-! ## Setter, then getter -/

/-- Whenever both calls report success, the getter gives `value`. -/
def RoundTrip (set : WriteOutcome UInt8 → Mem UInt8 → Int × Mem UInt8)
    (get : WriteOutcome UInt8 → Mem UInt8 → Reading (Option Bool)) (value : Bool)
    (fram : Mem UInt8) : Prop :=
  ∀ w r, (set w fram).1 = 0 → (get r (set w fram).2).retval = 0 →
    (get r (set w fram).2).out = some value

/-- Set or clear the global flag. -/
def writeHamCheckFlag (value : Bool) (o : WriteOutcome UInt8) (fram : Mem UInt8) :
    Int × Mem UInt8 :=
  if value then framSetHamCheckFlag o fram else framClearHamCheckFlag o fram

/-- Set or clear the flag of a slot. -/
def changeImgHamFlag (slotType : SlotType) (value : Bool) (o : WriteOutcome UInt8)
    (fram : Mem UInt8) : Int × Mem UInt8 :=
  if value then framSetImgHamFlag o fram slotType else framClearImgHamFlag o fram slotType

/-- Set or clear the flag of an SD card slot with the functions that take the card. -/
def changeSdcHammingFlag (volume : VolumeId) (slot : SdSlots) (value : Bool)
    (o : WriteOutcome UInt8) (fram : Mem UInt8) : Int × Mem UInt8 :=
  if value then setSdcHammingFlag o fram volume slot else clearSdcHammingFlag o fram volume slot

/-- The number that stands for a flag value. -/
def flagNat (value : Bool) : Nat := if value then 1 else 0

section

variable {fram : Mem UInt8} {value : Bool}

/-- A flag of two bytes that was written reads as the value. -/
theorem flag_read_store (a : Nat) :
    (⟨a, 2⟩ : Field).read (store fram a (toLE 2 (flagNat value))) = flagNat value := by
  have h := Field.read_write ⟨a, 2⟩ fram (flagNat value)
  have hmod : flagNat value % 256 ^ 2 = flagNat value := by cases value <;> rfl
  exact h.trans hmod

theorem hamCheckFlag_roundTrip (b : Bool) :
    RoundTrip (writeHamCheckFlag value) (fun o m => framGetHamCheckFlag o m (some b)) value
      fram := by
  intro w r hw hr
  have hset : (writeHamCheckFlag value w fram).2 =
      store fram globalHammingFlag.addr (toLE 2 (flagNat value)) := by
    cases value <;> exact framWriteAndVerify_ok w fram _ _ hw
  rw [hset] at hr ⊢
  generalize hm : store fram globalHammingFlag.addr (toLE 2 (flagNat value)) = m at hr ⊢
  have hok : r.retval = 0 := by
    by_contra hne
    have hretval : (framRead r m (fun _ => 0) ⟨globalHammingFlag.addr, 2⟩ 2).retval ≠ 0 := hne
    simp only [framGetHamCheckFlag, if_pos hretval] at hr
    exact hne hr
  have hretval : (framRead r m (fun _ => 0) ⟨globalHammingFlag.addr, 2⟩ 2).retval = 0 := hok
  have hvalue : varValue 2 (framRead r m (fun _ => 0) ⟨globalHammingFlag.addr, 2⟩ 2).out =
      flagNat value := by
    have h : varValue 2 (framRead r m (fun _ => 0) ⟨globalHammingFlag.addr, 2⟩ 2).out =
        (⟨globalHammingFlag.addr, 2⟩ : Field).read m := varValue_framRead hok
    rw [h, ← hm]
    exact flag_read_store _
  simp only [framGetHamCheckFlag, hretval, ne_eq, not_true_eq_false, if_false, hvalue]
  cases value <;> rfl

/-- A getter of two bytes at the address that was written. -/
theorem readFlag_store {o : WriteOutcome UInt8} {flag : Mem UInt8} {a : Nat} {b : Bool}
    (h : o.retval = 0) :
    (readFlag o (store fram a (toLE 2 (flagNat value))) flag a 2 b).out = some value := by
  rw [readFlag_out h, flag_read_store]
  cases value <;> rfl

theorem changeImgHamFlag_ok {slotType : SlotType} {w : WriteOutcome UInt8}
    (h : (changeImgHamFlag slotType value w fram).1 = 0) :
    determineHamFlagAddress slotType ≠ 0 ∧
      (changeImgHamFlag slotType value w fram).2 =
        store fram (determineHamFlagAddress slotType) (toLE 2 (flagNat value)) := by
  have hwrite : changeImgHamFlag slotType value w fram =
      writeImgHamFlag w fram slotType (flagNat value) := by cases value <;> rfl
  rw [hwrite] at h ⊢
  unfold writeImgHamFlag at h ⊢
  by_cases haddr : determineHamFlagAddress slotType = 0
  · rw [if_pos haddr] at h
    exact absurd h (show (-3 : Int) ≠ 0 by decide)
  · rw [if_neg haddr] at h ⊢
    exact ⟨haddr, framWriteAndVerify_ok w fram _ _ h⟩

theorem imgFlag_roundTrip (slotType : SlotType) (flag : Mem UInt8) (b : Bool) :
    RoundTrip (changeImgHamFlag slotType value)
      (fun o m => framGetImgHamFlag o m flag slotType (some b)) value fram := by
  intro w r hw hr
  obtain ⟨haddr, hset⟩ := changeImgHamFlag_ok hw
  rw [hset] at hr ⊢
  simp only [framGetImgHamFlag, if_neg haddr] at hr ⊢
  have hok : r.retval = 0 := readFlag_retval.symm.trans hr
  exact readFlag_store hok

theorem flashFlag_roundTrip (flag : Mem UInt8) (b : Bool) :
    RoundTrip (changeImgHamFlag .flashSlot value)
      (fun o m => framGetFlashHamFlag o m flag (some b)) value fram := by
  intro w r hw hr
  obtain ⟨-, hset⟩ := changeImgHamFlag_ok hw
  rw [hset] at hr ⊢
  have hok : r.retval = 0 := readFlag_retval.symm.trans hr
  exact readFlag_store hok

end

/-! ## `get_sdc_hamming_flag` -/

/-- The two bytes behind the flag of an SD card slot. -/
def flagBehind : VolumeId → SdSlots → Field
  | .sdCard0, .slot0 => sdc0ImageSlot1HammingFlag
  | .sdCard0, .slot1 => sdc1ImageSlot0HammingFlag
  | .sdCard1, .slot0 => sdc1ImageSlot1HammingFlag
  | .sdCard1, .slot1 => fillerHammingFlags

/-- The slot type of an SD card slot. -/
def sdcSlotType : VolumeId → SdSlots → SlotType
  | .sdCard0, .slot0 => .sdc0Sl0
  | .sdCard0, .slot1 => .sdc0Sl1
  | .sdCard1, .slot0 => .sdc1Sl0
  | .sdCard1, .slot1 => .sdc1Sl1

section

variable {fram : Mem UInt8} {value : Bool}

theorem sdcHammingFlagAddr_eq (volume : VolumeId) (slot : SdSlots) :
    sdcHammingFlagAddr volume slot = determineHamFlagAddress (sdcSlotType volume slot) ∧
      sdcHammingFlagAddr volume slot = (sdcHammingFlagField volume slot).addr ∧
      sdcHammingFlagAddr volume slot + 2 = (flagBehind volume slot).addr ∧
      (sdcHammingFlagField volume slot).size = 2 ∧ (flagBehind volume slot).size = 2 ∧
      sdcHammingFlagAddr volume slot ≠ 0 := by
  cases volume <;> cases slot <;> decide

/-- Four bytes are the flag and the two bytes behind it. -/
theorem read_four (m : Mem UInt8) (volume : VolumeId) (slot : SdSlots) :
    (⟨sdcHammingFlagAddr volume slot, 4⟩ : Field).read m =
      (sdcHammingFlagField volume slot).read m + 65536 * (flagBehind volume slot).read m := by
  obtain ⟨-, hown, hbehind, hsize, hbsize, -⟩ := sdcHammingFlagAddr_eq volume slot
  have hload := load_add m (sdcHammingFlagAddr volume slot) 2 2
  unfold Field.read
  rw [hsize, hbsize, ← hown, ← hbehind, show 4 = 2 + 2 from rfl, hload, ofLE_append, load_length]
  rfl

theorem getSdcHammingFlag_retval {r : WriteOutcome UInt8} {volume : VolumeId} {slot : SdSlots}
    {b : Bool} : (getSdcHammingFlag r fram (some b) volume slot).retval = r.retval :=
  readFlag_retval

theorem getSdcHammingFlag_out {r : WriteOutcome UInt8} {volume : VolumeId} {slot : SdSlots}
    {b : Bool} (h : r.retval = 0) :
    (getSdcHammingFlag r fram (some b) volume slot).out =
      some (decide ((sdcHammingFlagField volume slot).read fram ≠ 0 ∨
        (flagBehind volume slot).read fram ≠ 0)) := by
  have hout : (getSdcHammingFlag r fram (some b) volume slot).out =
      some (decide ((⟨sdcHammingFlagAddr volume slot, 4⟩ : Field).read fram ≠ 0)) := readFlag_out h
  rw [hout, read_four]
  congr 1
  apply decide_eq_decide.mpr
  omega

theorem framGetImgHamFlag_retval {r : WriteOutcome UInt8} {flag : Mem UInt8} {volume : VolumeId}
    {slot : SdSlots} {b : Bool} :
    (framGetImgHamFlag r fram flag (sdcSlotType volume slot) (some b)).retval = r.retval := by
  have hne : determineHamFlagAddress (sdcSlotType volume slot) ≠ 0 := by
    cases volume <;> cases slot <;> decide
  simp only [framGetImgHamFlag, if_neg hne]
  exact readFlag_retval

theorem framGetImgHamFlag_sdc_out {r : WriteOutcome UInt8} {flag : Mem UInt8} {volume : VolumeId}
    {slot : SdSlots} {b : Bool} (h : r.retval = 0) :
    (framGetImgHamFlag r fram flag (sdcSlotType volume slot) (some b)).out =
      some (decide ((sdcHammingFlagField volume slot).read fram ≠ 0)) := by
  have hok : (framGetImgHamFlag r fram flag (sdcSlotType volume slot) (some b)).retval = 0 :=
    framGetImgHamFlag_retval.trans h
  rw [framGetImgHamFlag_out hok]
  cases volume <;> cases slot <;> rfl

theorem changeSdcHammingFlag_ok {volume : VolumeId} {slot : SdSlots} {w : WriteOutcome UInt8}
    (h : (changeSdcHammingFlag volume slot value w fram).1 = 0) :
    (changeSdcHammingFlag volume slot value w fram).2 =
      (sdcHammingFlagField volume slot).write fram (flagNat value) := by
  obtain ⟨-, hown, -, hsize, -, -⟩ := sdcHammingFlagAddr_eq volume slot
  have hwrite : changeSdcHammingFlag volume slot value w fram =
      framWriteAndVerify w fram (toLE 2 (flagNat value)) (sdcHammingFlagAddr volume slot) := by
    cases value <;> rfl
  rw [hwrite] at h ⊢
  rw [framWriteAndVerify_ok w fram _ _ h, Field.write, hsize, hown]

/-- The SD card getter gives the value that was written if it was set, or the bytes behind are 0. -/
theorem sdcFlag_roundTrip_iff (volume : VolumeId) (slot : SdSlots) (b : Bool) :
    RoundTrip (changeSdcHammingFlag volume slot value)
        (fun o m => getSdcHammingFlag o m (some b) volume slot) value fram ↔
      value = true ∨ (flagBehind volume slot).read fram = 0 := by
  -- behind a successful write the flag is the value, and the bytes behind it are as before
  have hafter : ∀ w, (changeSdcHammingFlag volume slot value w fram).1 = 0 →
      (sdcHammingFlagField volume slot).read (changeSdcHammingFlag volume slot value w fram).2 =
        flagNat value ∧
      (flagBehind volume slot).read (changeSdcHammingFlag volume slot value w fram).2 =
        (flagBehind volume slot).read fram := by
    intro w hw
    have hsize : (sdcHammingFlagField volume slot).size = 2 := (sdcHammingFlagAddr_eq _ _).2.2.2.1
    have hdisj : (flagBehind volume slot).Disjoint (sdcHammingFlagField volume slot) := by
      cases volume <;> cases slot <;> decide
    rw [changeSdcHammingFlag_ok hw, Field.read_write, Field.read_write_disjoint hdisj, hsize]
    refine ⟨?_, rfl⟩
    cases value <;> rfl
  constructor
  · intro h
    have hw : (changeSdcHammingFlag volume slot value .done fram).1 = 0 := by
      cases value <;> rfl
    have hout := h .done .done hw getSdcHammingFlag_retval
    rw [getSdcHammingFlag_out rfl, (hafter .done hw).1, (hafter .done hw).2] at hout
    cases value with
    | true => exact Or.inl rfl
    | false =>
      right
      simpa [flagNat] using hout
  · intro h w r hw hr
    rw [getSdcHammingFlag_out (getSdcHammingFlag_retval.symm.trans hr), (hafter w hw).1,
      (hafter w hw).2]
    cases value with
    | true => simp [flagNat]
    | false => simpa [flagNat] using h

/-- The two getters of an SD card slot give the same value. -/
def GettersAgree (volume : VolumeId) (slot : SdSlots) (flag fram : Mem UInt8) (b : Bool) : Prop :=
  ∀ r r', (getSdcHammingFlag r fram (some b) volume slot).retval = 0 →
    (framGetImgHamFlag r' fram flag (sdcSlotType volume slot) (some b)).retval = 0 →
    (getSdcHammingFlag r fram (some b) volume slot).out =
      (framGetImgHamFlag r' fram flag (sdcSlotType volume slot) (some b)).out

theorem gettersAgree_iff (volume : VolumeId) (slot : SdSlots) (flag : Mem UInt8) (b : Bool) :
    GettersAgree volume slot flag fram b ↔
      (sdcHammingFlagField volume slot).read fram ≠ 0 ∨
        (flagBehind volume slot).read fram = 0 := by
  constructor
  · intro h
    have hout := h .done .done getSdcHammingFlag_retval framGetImgHamFlag_retval
    rw [getSdcHammingFlag_out rfl, framGetImgHamFlag_sdc_out rfl] at hout
    have hiff := decide_eq_decide.mp (Option.some.inj hout)
    omega
  · intro h r r' hr hr'
    rw [getSdcHammingFlag_out (getSdcHammingFlag_retval.symm.trans hr),
      framGetImgHamFlag_sdc_out (framGetImgHamFlag_retval.symm.trans hr')]
    congr 1
    apply decide_eq_decide.mpr
    omega

end

/-! ## Main result -/

/-- What the flag functions of an SD card slot should do with `value` on a FRAM content: every getter
    gives the value its setter has just written, and the two getters of the slot agree. -/
structure FlagsHold (volume : VolumeId) (slot : SdSlots) (value b : Bool)
    (flag fram : Mem UInt8) : Prop where
  global : RoundTrip (writeHamCheckFlag value) (fun o m => framGetHamCheckFlag o m (some b)) value
    fram
  image : ∀ slotType, RoundTrip (changeImgHamFlag slotType value)
    (fun o m => framGetImgHamFlag o m flag slotType (some b)) value fram
  flash : RoundTrip (changeImgHamFlag .flashSlot value)
    (fun o m => framGetFlashHamFlag o m flag (some b)) value fram
  sdc : RoundTrip (changeSdcHammingFlag volume slot value)
    (fun o m => getSdcHammingFlag o m (some b) volume slot) value fram
  agree : GettersAgree volume slot flag fram b

/-- **Hamming flags read back.** The getters give what was written and agree exactly if the two bytes
    behind the flag of the slot are 0, or the value written and the flag that was there are both set. -/
theorem flagsHold_iff (volume : VolumeId) (slot : SdSlots) (value b : Bool)
    (flag fram : Mem UInt8) :
    FlagsHold volume slot value b flag fram ↔
      (flagBehind volume slot).read fram = 0 ∨
        value = true ∧ (sdcHammingFlagField volume slot).read fram ≠ 0 := by
  constructor
  · intro h
    have hsdc := (sdcFlag_roundTrip_iff volume slot b).mp h.sdc
    have hagree := (gettersAgree_iff volume slot flag b).mp h.agree
    by_cases hbehind : (flagBehind volume slot).read fram = 0
    · exact Or.inl hbehind
    · exact Or.inr ⟨hsdc.resolve_right hbehind, hagree.resolve_right hbehind⟩
  · intro h
    constructor
    · exact hamCheckFlag_roundTrip b
    · exact fun slotType => imgFlag_roundTrip slotType flag b
    · exact flashFlag_roundTrip flag b
    · exact (sdcFlag_roundTrip_iff volume slot b).mpr (h.symm.imp And.left id)
    · exact (gettersAgree_iff volume slot flag b).mpr (h.symm.imp And.right id)

/-- Clearing the flag of slot 0 of card 0 while that of slot 1 is set: `get_sdc_hamming_flag` still
    reports a flag. -/
theorem sdc0Slot0_reads_slot1_flag :
    ¬ FlagsHold .sdCard0 .slot0 false false (fun _ => 0)
      (store (fun _ => 0) sdc0ImageSlot1HammingFlag.addr [1]) := by
  intro h
  have hsdc := h.sdc .done .done rfl rfl
  exact absurd hsdc (by decide)

end Fram
end Obsw
