import Obsw.Boot.Policy
import Obsw.Fram.HammingFlags

/-!
# `Boot.Update` — an update request, from the software to the bootloader

`fram_set_to_load_softwareupdate` stores three bytes: whether an update is requested, and one for each
card. It fills the byte of the card it is given and leaves the other one to the stack. If that byte
reads as true, the getter finds both cards requested and drops the request; and for card 1 a byte of 1
makes the bootloader take card 0. The request gets through exactly if the byte left over does not read
as true (`updateHolds_iff`).
-/

namespace Obsw
namespace Boot

open Memory LittleEndian Device Fram

/-- The update image of a card. -/
def slot1 : VolumeId → BootSelect
  | .sdCard0 => .sdCard0Slot1
  | .sdCard1 => .sdCard1Slot1

/-- The stack byte `fram_set_to_load_softwareupdate` stores for the other card. -/
def leftover (v : VolumeId) (stack : Mem UInt8) : UInt8 :=
  match v with
  | .sdCard0 => stack 2
  | .sdCard1 => stack 1

/-- The FRAM behind `fram_set_to_load_softwareupdate(enable, v)`. -/
def requested (w : WriteOutcome UInt8) (fram : Mem UInt8) (enable : Bool) (v : VolumeId)
    (stack : Mem UInt8) : Mem UInt8 := (framSetToLoadSoftwareupdate w fram enable v stack).2

/-- What should hold behind a successful request, or a successful call that takes it back. -/
structure UpdateHolds (bool : BoolReading) (enable : Bool) (v : VolumeId)
    (stack fram : Mem UInt8) : Prop where
  /-- The software reads the request back. -/
  getter : ∀ w r c stack' e v', (framSetToLoadSoftwareupdate w fram enable v stack).1 = 0 →
    (framGetToLoadSoftwareupdate bool r c (requested w fram enable v stack) stack' (some e)
      (some v')).retval = 0 →
    (framGetToLoadSoftwareupdate bool r c (requested w fram enable v stack) stack' (some e)
      (some v')).out.1 = some enable ∧
    (enable = true → (framGetToLoadSoftwareupdate bool r c (requested w fram enable v stack)
      stack' (some e) (some v')).out.2.1 = some v)
  /-- The bootloader selects the update image of the card. -/
  boot : ∀ w, (framSetToLoadSoftwareupdate w fram enable v stack).1 = 0 → enable = true →
    rebootCounterOf (readBootloaderGroup (requested w fram enable v stack)) (slot1 v) <
      bootloaderMaxRebootCounter →
    (determineBootSelect (readBootloaderGroup (requested w fram enable v stack)) false).1 = slot1 v
  /-- Without a request no update image is selected. -/
  noBoot : ∀ w framFaulty v', (framSetToLoadSoftwareupdate w fram enable v stack).1 = 0 →
    enable = false →
    (determineBootSelect (readBootloaderGroup (requested w fram enable v stack)) framFaulty).1 ≠
      slot1 v'

/-! ## The three bytes -/

section

variable {fram stack : Mem UInt8} {enable : Bool} {v : VolumeId} {bool : BoolReading}

/-- The byte stored for card 0, and the one for card 1. -/
def requestByte0 (v : VolumeId) (stack : Mem UInt8) : UInt8 :=
  match v with
  | .sdCard0 => 1
  | .sdCard1 => leftover v stack

def requestByte1 (v : VolumeId) (stack : Mem UInt8) : UInt8 :=
  match v with
  | .sdCard0 => leftover v stack
  | .sdCard1 => 1

theorem requested_ok {w : WriteOutcome UInt8}
    (h : (framSetToLoadSoftwareupdate w fram enable v stack).1 = 0) :
    requested w fram enable v stack =
      store fram softwareUpdateAvailable.addr
        [boolByte enable, requestByte0 v stack, requestByte1 v stack] := by
  have hload : load (softwareUpdateRawData enable v stack) 0 3 =
      [boolByte enable, requestByte0 v stack, requestByte1 v stack] := by
    cases v <;> rfl
  have hok := framWriteAndVerify_ok w fram _ _ h
  unfold requested framSetToLoadSoftwareupdate
  rw [hload] at hok ⊢
  exact hok

theorem update_reads (m : Mem UInt8) (a b c : UInt8) :
    softwareUpdateAvailable.read (store m softwareUpdateAvailable.addr [a, b, c]) = a.toNat ∧
    softwareUpdateInVolume0.read (store m softwareUpdateAvailable.addr [a, b, c]) = b.toNat ∧
    softwareUpdateInVolume1.read (store m softwareUpdateAvailable.addr [a, b, c]) = c.toNat :=
  ⟨rfl, rfl, rfl⟩

/-- The request as the getter reads it: three bytes into the three entries of `raw_data`. -/
theorem rawData_out (m stack' : Mem UInt8) (a b c : UInt8) :
    (framRead .done (store m softwareUpdateAvailable.addr [a, b, c]) stack'
      softwareUpdateFields 3).out 0 = a ∧
    (framRead .done (store m softwareUpdateAvailable.addr [a, b, c]) stack'
      softwareUpdateFields 3).out 1 = b ∧
    (framRead .done (store m softwareUpdateAvailable.addr [a, b, c]) stack'
      softwareUpdateFields 3).out 2 = c :=
  ⟨rfl, rfl, rfl⟩

/-- The getter on a content whose three bytes are known. -/
theorem framGetToLoadSoftwareupdate_store (o : WriteOutcome UInt8) (stack' : Mem UInt8)
    (a b c : UInt8) (e : Bool) (v' : VolumeId) :
    (framGetToLoadSoftwareupdate bool .done o
        (store fram softwareUpdateAvailable.addr [a, b, c]) stack' (some e) (some v')).out.1 =
      (if bool.isTrue a = false ∨ (bool.isTrue b ∧ bool.isTrue c) then some false
       else if bool.isTrue b ∨ bool.isTrue c then some true else some e) ∧
    (framGetToLoadSoftwareupdate bool .done o
        (store fram softwareUpdateAvailable.addr [a, b, c]) stack' (some e) (some v')).out.2.1 =
      (if bool.isTrue a = false ∨ (bool.isTrue b ∧ bool.isTrue c) then some v'
       else if bool.isTrue b then some .sdCard0 else if bool.isTrue c then some .sdCard1
       else some v') := by
  obtain ⟨h0, h1, h2⟩ := rawData_out fram stack' a b c
  have hret : (framRead .done (store fram softwareUpdateAvailable.addr [a, b, c]) stack'
    softwareUpdateFields 3).retval = 0 := rfl
  simp only [framGetToLoadSoftwareupdate, hret, h0, h1, h2, ne_eq, not_true_eq_false, if_false]
  cases bool.isTrue a <;> cases bool.isTrue b <;> cases bool.isTrue c <;> exact ⟨rfl, rfl⟩

/-- A getter that reports success has read the three bytes. -/
theorem framGetToLoadSoftwareupdate_ok {r o : WriteOutcome UInt8} {m stack' : Mem UInt8} {e : Bool}
    {v' : VolumeId}
    (h : (framGetToLoadSoftwareupdate bool r o m stack' (some e) (some v')).retval = 0) :
    r = .done := by
  by_contra hne
  have hret : (framRead r m stack' softwareUpdateFields 3).retval ≠ 0 :=
    fun h0 => hne (WriteOutcome.retval_eq_zero.mp h0)
  simp only [framGetToLoadSoftwareupdate, if_pos hret] at h
  exact hret h

/-! ## The bootloader -/

/-- The update a block with these three bytes asks for. -/
theorem requestedUpdate_store (a b c : UInt8) :
    requestedUpdate (readBootloaderGroup (store fram softwareUpdateAvailable.addr [a, b, c])) =
      if a = 1 then if b = 1 then some .sdCard0Slot1 else if c = 1 then some .sdCard1Slot1 else none
      else none := by
  obtain ⟨ha, hb, hc⟩ := update_reads fram a b c
  have hone : ∀ x : UInt8, (UInt8.ofNat x.toNat).toNat = framTrue ↔ x = 1 := by
    intro x
    rw [UInt8.ofNat_toNat]
    exact UInt8.toNat_inj (a := x) (b := 1)
  simp only [requestedUpdate, readBootloaderGroup, ha, hb, hc, hone]

/-- A requested update with tries left is what the boot selects. -/
theorem determineBootSelect_update {bl : BootloaderGroup} {image : BootSelect}
    (h : requestedUpdate bl = some image)
    (hcounter : rebootCounterOf bl image < bootloaderMaxRebootCounter) :
    (determineBootSelect bl false).1 = image := by
  have hselect : determineUpdateSelect bl = some image := by
    rw [determineUpdateSelect_eq, h]
    exact Budget.pick_cons_of_lt hcounter
  simp only [determineBootSelect, hselect, Bool.false_eq_true, if_false]

/-- Without a requested update one of the three other images is selected. -/
theorem determineBootSelect_noUpdate {bl : BootloaderGroup} (h : requestedUpdate bl = none)
    (framFaulty : Bool) (v : VolumeId) : (determineBootSelect bl framFaulty).1 ≠ slot1 v := by
  have hselect : determineUpdateSelect bl = none := by
    rw [determineUpdateSelect_eq, h]
    rfl
  have hslot : ∀ image : BootSelect, image = .norFlash ∨ image = .sdCard0Slot0 ∨
      image = .sdCard1Slot0 → image ≠ slot1 v := by
    rintro image (rfl | rfl | rfl) <;> cases v <;> decide
  apply hslot
  cases framFaulty with
  | true => exact Or.inl rfl
  | false =>
    simp only [determineBootSelect, hselect, Bool.false_eq_true, if_false]
    split_ifs
    · exact Or.inl rfl
    · unfold determineSdcSelect
      split_ifs <;> simp

/-! ## Main result -/

theorem updateHolds_getter (h : enable = false ∨ bool.isTrue (leftover v stack) = false)
    {w r c : WriteOutcome UInt8} {stack' : Mem UInt8} {e : Bool} {v' : VolumeId}
    (hw : (framSetToLoadSoftwareupdate w fram enable v stack).1 = 0)
    (hr : (framGetToLoadSoftwareupdate bool r c (requested w fram enable v stack) stack' (some e)
      (some v')).retval = 0) :
    (framGetToLoadSoftwareupdate bool r c (requested w fram enable v stack) stack' (some e)
      (some v')).out.1 = some enable ∧
    (enable = true → (framGetToLoadSoftwareupdate bool r c (requested w fram enable v stack)
      stack' (some e) (some v')).out.2.1 = some v) := by
  obtain rfl := framGetToLoadSoftwareupdate_ok hr
  rw [requested_ok hw]
  rw [(framGetToLoadSoftwareupdate_store c stack' _ _ _ e v').1,
    (framGetToLoadSoftwareupdate_store c stack' _ _ _ e v').2]
  have hfalse : bool.isTrue (boolByte false) = false := bool.isTrue_zero
  have htrue : bool.isTrue (boolByte true) = true := bool.isTrue_one
  cases enable with
  | false => simp [hfalse]
  | true =>
    have hleft : bool.isTrue (leftover v stack) = false := h.resolve_left (by decide)
    cases v <;> simp [htrue, hleft, requestByte0, requestByte1, bool.isTrue_one]

theorem updateHolds_boot (h : enable = false ∨ bool.isTrue (leftover v stack) = false)
    {w : WriteOutcome UInt8} (hw : (framSetToLoadSoftwareupdate w fram enable v stack).1 = 0)
    (henable : enable = true)
    (hcounter : rebootCounterOf (readBootloaderGroup (requested w fram enable v stack)) (slot1 v) <
      bootloaderMaxRebootCounter) :
    (determineBootSelect (readBootloaderGroup (requested w fram enable v stack)) false).1 =
      slot1 v := by
  apply determineBootSelect_update _ hcounter
  rw [requested_ok hw, requestedUpdate_store, henable]
  have hleft : leftover v stack ≠ 1 := by
    intro h1
    rcases h with h | h
    · exact absurd (henable.symm.trans h) (by decide)
    · rw [h1, bool.isTrue_one] at h
      cases h
  cases v with
  | sdCard0 => rfl
  | sdCard1 =>
    simp only [boolByte, if_true, requestByte0, requestByte1, if_neg hleft]
    rfl

theorem updateHolds_noBoot {w : WriteOutcome UInt8} {framFaulty : Bool} {v' : VolumeId}
    (hw : (framSetToLoadSoftwareupdate w fram enable v stack).1 = 0) (henable : enable = false) :
    (determineBootSelect (readBootloaderGroup (requested w fram enable v stack)) framFaulty).1 ≠
      slot1 v' := by
  apply determineBootSelect_noUpdate
  rw [requested_ok hw, requestedUpdate_store, henable]
  rfl

end

/-- **Update request.** For every FRAM content and every stack, a request is read back and selects the
    update image of its card, and a call without a request leaves none, exactly if nothing is requested
    or the stack byte stored for the other card does not read as true. -/
theorem updateHolds_iff (bool : BoolReading) (enable : Bool) (v : VolumeId)
    (stack fram : Mem UInt8) :
    UpdateHolds bool enable v stack fram ↔
      enable = false ∨ bool.isTrue (leftover v stack) = false := by
  constructor
  · intro h
    by_contra hno
    push Not at hno
    obtain ⟨henable, hleft⟩ := hno
    have henable : enable = true := by simpa using henable
    have hleft : bool.isTrue (leftover v stack) = true := by simpa using hleft
    subst henable
    -- both cards read as requested, so the getter drops the request
    have hw : (framSetToLoadSoftwareupdate .done fram true v stack).1 = 0 := rfl
    have hret : (framGetToLoadSoftwareupdate bool .done .done (requested .done fram true v stack)
        stack (some false) (some v)).retval = 0 := by
      simp only [framGetToLoadSoftwareupdate]
      split_ifs <;> rfl
    have hgetter := (h.getter .done .done .done stack false v hw hret).1
    rw [requested_ok hw, (framGetToLoadSoftwareupdate_store .done stack _ _ _ false v).1] at hgetter
    have hboth : bool.isTrue (requestByte0 v stack) ∧ bool.isTrue (requestByte1 v stack) := by
      cases v
      · exact ⟨bool.isTrue_one, hleft⟩
      · exact ⟨hleft, bool.isTrue_one⟩
    rw [if_pos (Or.inr hboth)] at hgetter
    exact absurd hgetter (by decide)
  · intro h
    constructor
    · exact fun w r c stack' e v' hw hr => updateHolds_getter h hw hr
    · exact fun w hw henable hcounter => updateHolds_boot h hw henable hcounter
    · exact fun w framFaulty v' hw henable => updateHolds_noBoot hw henable

/-- A stack byte of 1 left over: a request for card 1 boots the update image of card 0. -/
theorem request_card1_boots_card0 :
    ¬ UpdateHolds plainEnv.bool true .sdCard1 (fun _ => 1) fun _ => 0 := by
  intro h
  have hboot := h.boot .done rfl rfl (by decide)
  exact absurd hboot (by decide)

end Boot
end Obsw
