import Obsw.Fram.Accessors
import Obsw.Lib.Frame

/-!
# `Fram.OwnField` — every accessor stays in its own field

For each setter, incrementer and reset function of `FRAMApi.c` the fields of the critical data block
it is for (`Setter.own`), and for each reader those it is to transfer (`Reader.own`). A setter has to
leave every other byte alone; a reader has to ask for exactly these fields and for no more bytes than
its variable holds, and has to put out what they hold (`Reader.expected`); and a slot without the field
has to be refused.

Three setters and five readers do not do so. `fram_set_preferred_sd_card` writes four bytes into a
field of two, so it writes the global hamming flag as well; the reboot counter functions take the
address 0 a bootloader slot gives them for an address; `get_sdc_hamming_flag` reads the flag behind its
own; `fram_is_bootloader_faulty` reads four bytes into a `bool`; `fram_read_bootloader_block_raw` does
not look at the size of the buffer; and `fram_read_software_version` writes through a first pointer that
is `NULL`.
-/

namespace Obsw
namespace Fram

open Memory LittleEndian Device

/-! ## The field of a slot -/

def hamFlagField : SlotType → Option Field
  | .flashSlot => some norFlashHammingFlag
  | .sdc0Sl0 => some sdc0ImageSlot0HammingFlag
  | .sdc0Sl1 => some sdc0ImageSlot1HammingFlag
  | .sdc1Sl0 => some sdc1ImageSlot0HammingFlag
  | .sdc1Sl1 => some sdc1ImageSlot1HammingFlag
  | .bootloader0 => none
  | .bootloader1 => none

def rebootCounterField : SlotType → Option Field
  | .flashSlot => some norFlashRebootCounter
  | .sdc0Sl0 => some sdc0ImageSlot0RebootCounter
  | .sdc0Sl1 => some sdc0ImageSlot1RebootCounter
  | .sdc1Sl0 => some sdc1ImageSlot0RebootCounter
  | .sdc1Sl1 => some sdc1ImageSlot1RebootCounter
  | .bootloader0 => none
  | .bootloader1 => none

def binarySizeField : SlotType → Option Field
  | .flashSlot => some norFlashBinarySize
  | .bootloader0 => some bootloaderSize
  | _ => none

def hamSizeField : SlotType → Option Field
  | .flashSlot => some norFlashHammingCodeSize
  | .sdc0Sl0 => some sdc0ImageSlot0HammingSize
  | .sdc0Sl1 => some sdc0ImageSlot1HammingSize
  | .sdc1Sl0 => some sdc1ImageSlot0HammingSize
  | .sdc1Sl1 => some sdc1ImageSlot1HammingSize
  | .bootloader0 => some bootloaderHammingCodeSize
  | .bootloader1 => none

/-- The region of a slot's hamming code: behind the block, but written through the same functions. -/
def hamCodeRegion : SlotType → Option Field
  | .bootloader1 => none
  | slotType => some ⟨determineHamCodeAddress slotType, hamCodeReservedSize slotType⟩

def sdcHammingFlagField : VolumeId → SdSlots → Field
  | .sdCard0, .slot0 => sdc0ImageSlot0HammingFlag
  | .sdCard0, .slot1 => sdc0ImageSlot1HammingFlag
  | .sdCard1, .slot0 => sdc1ImageSlot0HammingFlag
  | .sdCard1, .slot1 => sdc1ImageSlot1HammingFlag

/-- Everything `fram_zero_out_default_zero_fields` is for. -/
def defaultZeroFields : List Field :=
  [rebootCounter, globalHammingFlag, norFlashHammingFlag, sdc0ImageSlot0HammingFlag,
    sdc0ImageSlot1HammingFlag, sdc1ImageSlot0HammingFlag, sdc1ImageSlot1HammingFlag,
    norFlashRebootCounter, sdc0ImageSlot0RebootCounter, sdc0ImageSlot1RebootCounter,
    sdc1ImageSlot0RebootCounter, sdc1ImageSlot1RebootCounter, norFlashBinarySize, bootloaderSize,
    norFlashHammingCodeSize, bootloaderHammingCodeSize, sdc0ImageSlot0HammingSize,
    sdc0ImageSlot1HammingSize, sdc1ImageSlot0HammingSize, sdc1ImageSlot1HammingSize,
    bootloaderFaulty, softwareUpdateFields]

/-! ## The calls -/

/-- What a call meets: the driver's answers in the order of the calls to it, the bytes its variables
    hold before, and how a `bool` is read. -/
structure Env where
  reads : Nat → WriteOutcome UInt8
  writes : Nat → WriteOutcome UInt8
  stack : Mem UInt8
  bool : BoolReading

/-- The call changed its own fields only; without such a field it was refused and changed nothing. -/
def StaysIn (own : Option (List Field)) (fram : Mem UInt8) (result : Int × Mem UInt8) : Prop :=
  match own with
  | some fields => KeepsOutside fields fram result.2
  | none => result.1 ≠ 0 ∧ result.2 = fram

/-- The functions that change the FRAM, with their arguments. -/
inductive Setter where
  | zeroOutAllFields
  | zeroOutDefaultZeroFields
  | writeSoftwareVersion (version subversion subsubversion : UInt8)
  | incrementRebootCounter (newRebootCounter : Option (Mem UInt8))
  | resetRebootCounter
  | updateSecondsSinceEpoch (seconds : Nat)
  | clearHamCheckFlag
  | setHamCheckFlag
  | setImgHamFlag (slotType : SlotType)
  | clearImgHamFlag (slotType : SlotType)
  | setSdcHammingFlag (volume : VolumeId) (slot : SdSlots)
  | clearSdcHammingFlag (volume : VolumeId) (slot : SdSlots)
  | setBootloaderFaulty (faulty : Bool)
  | setPreferredSdCard (volumeId : VolumeId)
  | setToLoadSoftwareupdate (enable : Bool) (volume : VolumeId)
  | getToLoadSoftwareupdate (enable : Option Bool) (volume : Option VolumeId)
  | writeBinarySize (slotType : SlotType) (binarySize : Nat)
  | resetImgRebootCounter (slotType : SlotType)
  | incrementImgRebootCounter (slotType : SlotType)
  | writeHamSize (slotType : SlotType) (hamSize : Nat)
  | writeHamCode (slotType : SlotType) (buffer : Mem UInt8) (currentOffset sizeToWrite : Nat)
  | armDeploymentTimer (arm : Bool)
  | setSecondsOnDeploymentTimer (seconds : Nat)
  | incrementSecondsOnDeploymentTimer (incrementSeconds : Nat)

namespace Setter

/-- The call: its return value and the FRAM behind it. -/
def run (e : Env) (fram : Mem UInt8) : Setter → Int × Mem UInt8
  | zeroOutAllFields => framZeroOutAllFields (e.writes 0) fram
  | zeroOutDefaultZeroFields => framZeroOutDefaultZeroFields e.reads e.writes fram e.stack
  | writeSoftwareVersion v s t => framWriteSoftwareVersion (e.writes 0) fram v s t
  | incrementRebootCounter p => framIncrementRebootCounter (e.reads 0) (e.writes 0) fram p
  | resetRebootCounter => framResetRebootCounter (e.writes 0) fram
  | updateSecondsSinceEpoch n => framUpdateSecondsSinceEpoch (e.writes 0) fram n
  | clearHamCheckFlag => framClearHamCheckFlag (e.writes 0) fram
  | setHamCheckFlag => framSetHamCheckFlag (e.writes 0) fram
  | setImgHamFlag slotType => framSetImgHamFlag (e.writes 0) fram slotType
  | clearImgHamFlag slotType => framClearImgHamFlag (e.writes 0) fram slotType
  | setSdcHammingFlag volume slot => Fram.setSdcHammingFlag (e.writes 0) fram volume slot
  | clearSdcHammingFlag volume slot => Fram.clearSdcHammingFlag (e.writes 0) fram volume slot
  | setBootloaderFaulty b => framSetBootloaderFaulty (e.writes 0) fram b
  | setPreferredSdCard v => framSetPreferredSdCard (e.writes 0) fram v
  | setToLoadSoftwareupdate b v => framSetToLoadSoftwareupdate (e.writes 0) fram b v e.stack
  | getToLoadSoftwareupdate b v =>
    let reading := framGetToLoadSoftwareupdate e.bool (e.reads 0) (e.writes 0) fram e.stack b v
    (reading.retval, reading.out.2.2)
  | writeBinarySize slotType n => framWriteBinarySize (e.writes 0) fram slotType n
  | resetImgRebootCounter slotType => framResetImgRebootCounter (e.writes 0) fram slotType
  | incrementImgRebootCounter slotType =>
    framIncrementImgRebootCounter (e.reads 0) (e.writes 0) fram slotType
  | writeHamSize slotType n => framWriteHamSize (e.writes 0) fram slotType n
  | writeHamCode slotType buffer offset n =>
    framWriteHamCode (e.writes 0) fram slotType buffer offset n
  | armDeploymentTimer b => framArmDeploymentTimer (e.writes 0) fram b
  | setSecondsOnDeploymentTimer n => framSetSecondsOnDeploymentTimer (e.writes 0) fram n
  | incrementSecondsOnDeploymentTimer n =>
    framIncrementSecondsOnDeploymentTimer (e.reads 0) (e.writes 0) fram n

/-- The fields the call is for; `none` if the slot has no such field. -/
def own : Setter → Option (List Field)
  | zeroOutAllFields => some [⟨0, criticalDataBlockSize⟩]
  | zeroOutDefaultZeroFields => some defaultZeroFields
  | writeSoftwareVersion _ _ _ =>
    some [softwareVersion, softwareSubversion, softwareSubsubversion]
  | incrementRebootCounter _ => some [rebootCounter]
  | resetRebootCounter => some [rebootCounter]
  | updateSecondsSinceEpoch _ => some [secondsSinceEpoch]
  | clearHamCheckFlag => some [globalHammingFlag]
  | setHamCheckFlag => some [globalHammingFlag]
  | setImgHamFlag slotType => (hamFlagField slotType).map fun f => [f]
  | clearImgHamFlag slotType => (hamFlagField slotType).map fun f => [f]
  | setSdcHammingFlag volume slot => some [sdcHammingFlagField volume slot]
  | clearSdcHammingFlag volume slot => some [sdcHammingFlagField volume slot]
  | setBootloaderFaulty _ => some [bootloaderFaulty]
  | setPreferredSdCard _ => some [preferredSdCard]
  | setToLoadSoftwareupdate _ _ => some [softwareUpdateFields]
  | getToLoadSoftwareupdate _ _ => some [softwareUpdateFields]
  | writeBinarySize slotType _ => (binarySizeField slotType).map fun f => [f]
  | resetImgRebootCounter slotType => (rebootCounterField slotType).map fun f => [f]
  | incrementImgRebootCounter slotType => (rebootCounterField slotType).map fun f => [f]
  | writeHamSize slotType _ => (hamSizeField slotType).map fun f => [f]
  | writeHamCode slotType _ _ _ => (hamCodeRegion slotType).map fun f => [f]
  | armDeploymentTimer _ => some [deployTimerArmed]
  | setSecondsOnDeploymentTimer _ => some [secondsSinceTimerArmed]
  | incrementSecondsOnDeploymentTimer _ => some [secondsSinceTimerArmed]

def OwnFieldOnly (call : Setter) (e : Env) (fram : Mem UInt8) : Prop :=
  StaysIn call.own fram (call.run e fram)

end Setter

/-! ## Setters: when the write stays in the field -/

/-- What a failing write left in the cells `lo` to `hi` of its run is what was there before. -/
def LeftAsWas (left : List UInt8) (fram : Mem UInt8) (address lo hi : Nat) : Prop :=
  ∀ i b, lo ≤ i → i < hi → left[i]? = some b → b = fram (address + i)

/-- The driver refuses a write of two bytes at address 0 and leaves the software version alone. -/
def RefusedAtZero (o : WriteOutcome UInt8) (fram : Mem UInt8) : Prop :=
  match o with
  | .done => False
  | .failed _ _ left => LeftAsWas left fram 0 0 2

/-- When the call changes its own fields only. -/
def Setter.Condition (call : Setter) (e : Env) (fram : Mem UInt8) : Prop :=
  match call with
  | setPreferredSdCard _ =>
    match e.writes 0 with
    | .done => globalHammingFlag.read fram = 0
    | .failed _ _ left => LeftAsWas left fram preferredSdCard.addr 2 4
  | resetImgRebootCounter slotType =>
    (rebootCounterField slotType).isSome ∨ RefusedAtZero (e.writes 0) fram
  | incrementImgRebootCounter slotType =>
    (rebootCounterField slotType).isSome ∨ e.reads 0 ≠ .done ∨ RefusedAtZero (e.writes 0) fram
  | _ => True

section

variable {o : WriteOutcome UInt8} {fram : Mem UInt8}

/-- A write of no more bytes than the field has. -/
theorem framWriteAndVerify_own {f : Field} {bytes : List UInt8} (h : bytes.length ≤ f.size) :
    KeepsOutside [f] fram (framWriteAndVerify o fram bytes f.addr).2 := KeepsOutside.of_apply h

/-- A write of fields that lie in a row. -/
theorem framWriteAndVerify_row {fs : List Field} {bytes : List UInt8} {address : Nat}
    (h : ∀ i, address ≤ i → i < address + bytes.length → ∃ f ∈ fs, f.Covers i) :
    KeepsOutside fs fram (framWriteAndVerify o fram bytes address).2 := by
  intro i hi
  apply framWriteAndVerify_frame
  by_cases hin : address ≤ i ∧ i < address + bytes.length
  · obtain ⟨f, hf, hcov⟩ := h i hin.1 hin.2
    exact absurd hcov (hi f hf)
  · omega

/-- A failing write, in terms of what it left behind. -/
theorem failed_keeps_iff {code : Int} {nonzero : code ≠ 0} {left bytes : List UInt8} {f : Field} :
    KeepsOutside [f] fram (framWriteAndVerify (.failed code nonzero left) fram bytes f.addr).2 ↔
      LeftAsWas left fram f.addr f.size bytes.length := by
  have hstore : (framWriteAndVerify (.failed code nonzero left) fram bytes f.addr).2 =
      store fram f.addr (left.take bytes.length) := rfl
  rw [hstore, KeepsOutside.store_iff]
  constructor
  · intro h i b hlo hhi hb
    apply h i b hlo
    rw [List.getElem?_take_of_lt hhi, hb]
  · intro h i b hlo hb
    rw [List.getElem?_take] at hb
    split at hb
    · exact h i b hlo (by assumption) hb
    · cases hb

/-- A write at the address 0 of a slot without the field: refused only if the driver fails. -/
theorem refusedAtZero_iff {bytes : List UInt8} (hlen : bytes.length = 2) :
    (framWriteAndVerify o fram bytes 0).1 ≠ 0 ∧ (framWriteAndVerify o fram bytes 0).2 = fram ↔
      RefusedAtZero o fram := by
  cases o with
  | done => exact ⟨fun h => absurd rfl h.1, fun h => h.elim⟩
  | failed code nonzero left =>
    have h : KeepsOutside [⟨0, 0⟩] fram
        (framWriteAndVerify (.failed code nonzero left) fram bytes 0).2 ↔
          LeftAsWas left fram 0 0 bytes.length := failed_keeps_iff (f := ⟨0, 0⟩)
    rw [KeepsOutside.empty_iff, hlen] at h
    exact ⟨fun hr => h.mp hr.2, fun hr => ⟨nonzero, h.mpr hr⟩⟩

/-- A successful `fram_set_preferred_sd_card` stores two zero bytes behind the field. -/
theorem preferred_done_iff (v : VolumeId) :
    KeepsOutside [preferredSdCard] fram
        (store fram preferredSdCard.addr (toLE 4 (volumeIdRaw v))) ↔
      globalHammingFlag.read fram = 0 := by
  have hbytes : ∀ i, 2 ≤ i → i < 4 → (toLE 4 (volumeIdRaw v))[i]? = some 0 := by
    intro i hlo hhi
    obtain rfl | rfl : i = 2 ∨ i = 3 := by omega
    all_goals cases v <;> rfl
  have hread : globalHammingFlag.read fram =
      (fram 14).toNat + 256 * ((fram 15).toNat + 256 * 0) := rfl
  rw [KeepsOutside.store_iff, hread]
  constructor
  · intro h
    have h14 : 0 = fram 14 := h 2 0 (by decide) (hbytes 2 (by decide) (by decide))
    have h15 : 0 = fram 15 := h 3 0 (by decide) (hbytes 3 (by decide) (by decide))
    rw [← h14, ← h15]
    rfl
  · intro h i b hlo hb
    have hlo' : 2 ≤ i := hlo
    have hhi : i < 4 := by
      have := (List.getElem?_eq_some_iff.mp hb).1
      rwa [toLE_length] at this
    have hzero : b = 0 := Option.some.inj (hb.symm.trans (hbytes i hlo' hhi))
    have h14 : (fram 14).toNat = 0 := by omega
    have h15 : (fram 15).toNat = 0 := by omega
    rw [hzero]
    obtain rfl | rfl : i = 2 ∨ i = 3 := by omega
    · exact (UInt8.toNat_inj.mp h14).symm
    · exact (UInt8.toNat_inj.mp h15).symm

/-- A chain of writes stays where each of them stays. -/
theorem runUntilError_keeps {fields : List Field}
    {calls : List (WriteOutcome UInt8 → Mem UInt8 → Int × Mem UInt8)}
    (h : ∀ call ∈ calls, ∀ o m, KeepsOutside fields m (call o m).2)
    (outcomes : Nat → WriteOutcome UInt8) (fram : Mem UInt8) :
    KeepsOutside fields fram (runUntilError calls outcomes fram).2 := by
  induction calls generalizing outcomes fram with
  | nil => exact KeepsOutside.refl _ _
  | cons call calls ih =>
    have hcall := h call List.mem_cons_self (outcomes 0) fram
    simp only [runUntilError]
    split
    · exact hcall
    · apply hcall.trans
      apply ih
      intro c hc
      exact h c (List.mem_cons_of_mem _ hc)

theorem defaultZeroWrites_keep (stack : Mem UInt8) :
    ∀ call ∈ defaultZeroWrites stack, ∀ o m, KeepsOutside defaultZeroFields m (call o m).2 := by
  -- each call writes one of the fields, found by its offset and size
  have hone : ∀ f ∈ defaultZeroFields, ∀ (o : WriteOutcome UInt8) m (bytes : List UInt8),
      bytes.length ≤ f.size →
        KeepsOutside defaultZeroFields m (framWriteAndVerify o m bytes f.addr).2 := by
    intro f hf o m bytes hlen
    apply (framWriteAndVerify_own hlen).mono
    intro g hg
    rwa [List.mem_singleton.mp hg]
  simp only [defaultZeroWrites, List.forall_mem_cons]
  refine ⟨?_, ?_, ?_, ?_, ?_, ?_, ?_, ?_, ?_, ?_, ?_, ?_, ?_, ?_, ?_, ?_, ?_, ?_, ?_, ?_, ?_, ?_⟩
  · exact fun o m => hone globalHammingFlag (by decide) o m _ (by decide)
  · exact fun o m => hone norFlashHammingFlag (by decide) o m _ (by decide)
  · exact fun o m => hone sdc0ImageSlot0HammingFlag (by decide) o m _ (by decide)
  · exact fun o m => hone sdc0ImageSlot1HammingFlag (by decide) o m _ (by decide)
  · exact fun o m => hone sdc1ImageSlot0HammingFlag (by decide) o m _ (by decide)
  · exact fun o m => hone sdc1ImageSlot1HammingFlag (by decide) o m _ (by decide)
  · exact fun o m => hone norFlashRebootCounter (by decide) o m _ (by decide)
  · exact fun o m => hone sdc0ImageSlot0RebootCounter (by decide) o m _ (by decide)
  · exact fun o m => hone sdc0ImageSlot1RebootCounter (by decide) o m _ (by decide)
  · exact fun o m => hone sdc1ImageSlot0RebootCounter (by decide) o m _ (by decide)
  · exact fun o m => hone sdc1ImageSlot1RebootCounter (by decide) o m _ (by decide)
  · exact fun o m => hone norFlashBinarySize (by decide) o m _ (by decide)
  · exact fun o m => hone bootloaderSize (by decide) o m _ (by decide)
  · exact fun o m => hone norFlashHammingCodeSize (by decide) o m _ (by decide)
  · exact fun o m => hone bootloaderHammingCodeSize (by decide) o m _ (by decide)
  · exact fun o m => hone sdc0ImageSlot0HammingSize (by decide) o m _ (by decide)
  · exact fun o m => hone sdc0ImageSlot1HammingSize (by decide) o m _ (by decide)
  · exact fun o m => hone sdc1ImageSlot0HammingSize (by decide) o m _ (by decide)
  · exact fun o m => hone sdc1ImageSlot1HammingSize (by decide) o m _ (by decide)
  · exact fun o m => hone bootloaderFaulty (by decide) o m _ (by decide)
  · exact fun o m => hone softwareUpdateFields (by decide) o m _ (by simp [softwareUpdateFields])
  · simp

/-- `fram_zero_out_default_zero_fields` stays in the fields it zeroes, wherever it stops. -/
theorem framZeroOutDefaultZeroFields_keeps (reads writes : Nat → WriteOutcome UInt8)
    (fram stack : Mem UInt8) :
    KeepsOutside defaultZeroFields fram
      (framZeroOutDefaultZeroFields reads writes fram stack).2 := by
  have hreset : ∀ o : WriteOutcome UInt8,
      KeepsOutside defaultZeroFields fram (framResetRebootCounter o fram).2 := by
    intro o
    apply (framWriteAndVerify_own (f := rebootCounter) (by decide)).mono
    decide
  have hrun := runUntilError_keeps (defaultZeroWrites_keep stack)
  unfold framZeroOutDefaultZeroFields
  simp only
  split
  · exact KeepsOutside.refl _ _
  · by_cases hcounter :
        varValue 4 (framReadRebootCounter (reads 0) fram fun _ => 0).out = 0xffffffff
    · rw [if_pos hcounter]
      split
      · exact hreset _
      · split
        · exact hreset _
        · exact (hreset _).trans (hrun _ _)
    · rw [if_neg hcounter]
      split
      · exact KeepsOutside.refl _ _
      · split
        · exact KeepsOutside.refl _ _
        · exact hrun _ _

/-- The update request is either left alone or cleared. -/
theorem framGetToLoadSoftwareupdate_keeps (bool : BoolReading)
    (readOutcome writeOutcome : WriteOutcome UInt8) (fram stack : Mem UInt8)
    (enable : Option Bool) (volume : Option VolumeId) :
    KeepsOutside [softwareUpdateFields] fram
      (framGetToLoadSoftwareupdate bool readOutcome writeOutcome fram stack enable volume).out.2.2
      := by
  have hclear : KeepsOutside [softwareUpdateFields] fram
      (framWriteAndVerify writeOutcome fram (toLE 3 0) softwareUpdateFields.addr).2 :=
    framWriteAndVerify_own (by decide)
  cases enable with
  | none => exact KeepsOutside.refl _ _
  | some b =>
    cases volume with
    | none =>
      simp only [framGetToLoadSoftwareupdate]
      split
      · exact KeepsOutside.refl _ _
      · split <;> exact KeepsOutside.refl _ _
    | some v =>
      simp only [framGetToLoadSoftwareupdate]
      split
      · exact KeepsOutside.refl _ _
      · split
        · exact KeepsOutside.refl _ _
        · split
          · exact hclear
          · split
            · exact hclear
            · split <;> exact hclear

/-- An error code handed back before the driver is called. -/
theorem staysIn_refused {code : Int} (h : code ≠ 0) : StaysIn none fram (code, fram) := ⟨h, rfl⟩

theorem writeImgHamFlag_keeps (slotType : SlotType) (value : Nat) :
    StaysIn ((hamFlagField slotType).map fun f => [f]) fram
      (writeImgHamFlag o fram slotType value) := by
  -- the bootloader slots have no flag, and are refused with -3
  cases slotType with
  | flashSlot => exact framWriteAndVerify_own (f := norFlashHammingFlag) (toLE_length _ _).le
  | sdc0Sl0 => exact framWriteAndVerify_own (f := sdc0ImageSlot0HammingFlag) (toLE_length _ _).le
  | sdc0Sl1 => exact framWriteAndVerify_own (f := sdc0ImageSlot1HammingFlag) (toLE_length _ _).le
  | sdc1Sl0 => exact framWriteAndVerify_own (f := sdc1ImageSlot0HammingFlag) (toLE_length _ _).le
  | sdc1Sl1 => exact framWriteAndVerify_own (f := sdc1ImageSlot1HammingFlag) (toLE_length _ _).le
  | bootloader0 => exact staysIn_refused (by decide)
  | bootloader1 => exact staysIn_refused (by decide)

theorem manipulateSdcHammingFlag_keeps (val : Nat) (volume : VolumeId) (slot : SdSlots) :
    KeepsOutside [sdcHammingFlagField volume slot] fram
      (manipulateSdcHammingFlag o fram val volume slot).2 := by
  have haddr : sdcHammingFlagAddr volume slot = (sdcHammingFlagField volume slot).addr := by
    cases volume <;> cases slot <;> rfl
  have hsize : (sdcHammingFlagField volume slot).size = 2 := by
    cases volume <;> cases slot <;> rfl
  rw [manipulateSdcHammingFlag, haddr]
  apply framWriteAndVerify_own
  rw [toLE_length, hsize]

theorem framWriteBinarySize_keeps (slotType : SlotType) (n : Nat) :
    StaysIn ((binarySizeField slotType).map fun f => [f]) fram
      (framWriteBinarySize o fram slotType n) := by
  cases slotType with
  | flashSlot => exact framWriteAndVerify_own (f := norFlashBinarySize) (toLE_length _ _).le
  | bootloader0 => exact framWriteAndVerify_own (f := bootloaderSize) (toLE_length _ _).le
  | sdc0Sl0 => exact staysIn_refused (by decide)
  | sdc0Sl1 => exact staysIn_refused (by decide)
  | sdc1Sl0 => exact staysIn_refused (by decide)
  | sdc1Sl1 => exact staysIn_refused (by decide)
  | bootloader1 => exact staysIn_refused (by decide)

theorem framWriteHamSize_keeps (slotType : SlotType) (n : Nat) :
    StaysIn ((hamSizeField slotType).map fun f => [f]) fram
      (framWriteHamSize o fram slotType n) := by
  cases slotType with
  | flashSlot => exact framWriteAndVerify_own (f := norFlashHammingCodeSize) (toLE_length _ _).le
  | sdc0Sl0 => exact framWriteAndVerify_own (f := sdc0ImageSlot0HammingSize) (toLE_length _ _).le
  | sdc0Sl1 => exact framWriteAndVerify_own (f := sdc0ImageSlot1HammingSize) (toLE_length _ _).le
  | sdc1Sl0 => exact framWriteAndVerify_own (f := sdc1ImageSlot0HammingSize) (toLE_length _ _).le
  | sdc1Sl1 => exact framWriteAndVerify_own (f := sdc1ImageSlot1HammingSize) (toLE_length _ _).le
  | bootloader0 =>
    exact framWriteAndVerify_own (f := bootloaderHammingCodeSize) (toLE_length _ _).le
  | bootloader1 => exact staysIn_refused (by decide)

/-- The size check keeps a hamming code write in the region of its slot. -/
theorem framWriteHamCode_keeps (slotType : SlotType) (buffer : Mem UInt8) (offset n : Nat) :
    StaysIn ((hamCodeRegion slotType).map fun f => [f]) fram
      (framWriteHamCode o fram slotType buffer offset n) := by
  have hregion : ∀ s, determineHamCodeAddress s ≠ 0 →
      KeepsOutside [⟨determineHamCodeAddress s, hamCodeReservedSize s⟩] fram
        (framWriteHamCode o fram s buffer offset n).2 := by
    intro s hs
    unfold framWriteHamCode determineHamCodeAddressWithSizecheck
    rw [if_neg hs]
    by_cases hsize : hamCodeReservedSize s < n
    · rw [if_pos hsize]
      exact KeepsOutside.refl _ _
    · rw [if_neg hsize]
      apply framWriteAndVerify_own (f := ⟨determineHamCodeAddress s, hamCodeReservedSize s⟩)
      rw [load_length]
      exact Nat.le_of_not_lt hsize
  cases slotType with
  | bootloader1 => exact staysIn_refused (by decide)
  | flashSlot => exact hregion .flashSlot (by decide)
  | sdc0Sl0 => exact hregion .sdc0Sl0 (by decide)
  | sdc0Sl1 => exact hregion .sdc0Sl1 (by decide)
  | sdc1Sl0 => exact hregion .sdc1Sl0 (by decide)
  | sdc1Sl1 => exact hregion .sdc1Sl1 (by decide)
  | bootloader0 => exact hregion .bootloader0 (by decide)

/-- A counter write: in the field of a slot that has one. -/
theorem rebootCounter_write_keeps {slotType : SlotType} {f : Field} {bytes : List UInt8}
    (hf : rebootCounterField slotType = some f) (hlen : bytes.length = 2) :
    KeepsOutside [f] fram
      (framWriteAndVerify o fram bytes (determineImgRebootCounterAddr slotType)).2 := by
  have hfield : determineImgRebootCounterAddr slotType = f.addr ∧ f.size = 2 := by
    cases slotType <;> simp only [rebootCounterField, Option.some.injEq, reduceCtorEq] at hf <;>
      subst hf <;> exact ⟨rfl, rfl⟩
  rw [hfield.1]
  apply framWriteAndVerify_own
  rw [hlen, hfield.2]

theorem determineImgRebootCounterAddr_none {slotType : SlotType}
    (hf : rebootCounterField slotType = none) : determineImgRebootCounterAddr slotType = 0 := by
  cases slotType <;> first | rfl | cases hf

/-- A counter write stays in the field of the slot, or the slot has none and it is refused. -/
theorem counterWrite_staysIn_iff (slotType : SlotType) {bytes : List UInt8} (hlen : bytes.length = 2) :
    StaysIn ((rebootCounterField slotType).map fun f => [f]) fram
        (framWriteAndVerify o fram bytes (determineImgRebootCounterAddr slotType)) ↔
      (rebootCounterField slotType).isSome ∨ RefusedAtZero o fram := by
  cases hf : rebootCounterField slotType with
  | some f => exact iff_of_true (rebootCounter_write_keeps hf hlen) (Or.inl rfl)
  | none =>
    rw [determineImgRebootCounterAddr_none hf]
    constructor
    · intro h
      exact Or.inr ((refusedAtZero_iff hlen).mp h)
    · rintro (h | h)
      · cases h
      · exact (refusedAtZero_iff hlen).mpr h

theorem framResetImgRebootCounter_staysIn_iff (slotType : SlotType) :
    StaysIn ((rebootCounterField slotType).map fun f => [f]) fram
        (framResetImgRebootCounter o fram slotType) ↔
      (rebootCounterField slotType).isSome ∨ RefusedAtZero o fram :=
  counterWrite_staysIn_iff slotType (toLE_length _ _)

theorem framIncrementImgRebootCounter_staysIn_iff (r : WriteOutcome UInt8)
    (slotType : SlotType) :
    StaysIn ((rebootCounterField slotType).map fun f => [f]) fram
        (framIncrementImgRebootCounter r o fram slotType) ↔
      (rebootCounterField slotType).isSome ∨ r ≠ .done ∨ RefusedAtZero o fram := by
  have hretval : (framReadImgRebootCounter r fram slotType (some fun _ => 0)).retval = r.retval :=
    rfl
  simp only [framIncrementImgRebootCounter, hretval]
  by_cases hr : r.retval = 0
  · have hdone : r = .done := WriteOutcome.retval_eq_zero.mp hr
    rw [if_neg (not_not.mpr hr)]
    apply (counterWrite_staysIn_iff slotType (toLE_length _ _)).trans
    apply or_congr_right
    exact ⟨Or.inr, fun h => h.resolve_left fun hfail => hfail hdone⟩
  · -- a failing read is handed back, and nothing is written
    have hfail : r ≠ .done := fun h => hr (WriteOutcome.retval_eq_zero.mpr h)
    rw [if_pos hr]
    cases rebootCounterField slotType with
    | some f => exact iff_of_true (KeepsOutside.refl _ _) (Or.inl rfl)
    | none => exact iff_of_true (staysIn_refused hr) (Or.inr (Or.inl hfail))

theorem framSetPreferredSdCard_staysIn_iff (v : VolumeId) :
    StaysIn (some [preferredSdCard]) fram (framSetPreferredSdCard o fram v) ↔
      match o with
      | .done => globalHammingFlag.read fram = 0
      | .failed _ _ left => LeftAsWas left fram preferredSdCard.addr 2 4 := by
  cases o with
  | done => exact preferred_done_iff v
  | failed code nonzero left =>
    have h : StaysIn (some [preferredSdCard]) fram
        (framSetPreferredSdCard (.failed code nonzero left) fram v) ↔
          LeftAsWas left fram preferredSdCard.addr preferredSdCard.size
            (toLE 4 (volumeIdRaw v)).length := failed_keeps_iff
    rw [toLE_length] at h
    exact h

end

/-- **Setters.** A call changes its own fields only, and is refused for a slot without the field,
    exactly where `Setter.Condition` holds. -/
theorem Setter.staysIn_iff (call : Setter) (e : Env) (fram : Mem UInt8) :
    call.OwnFieldOnly e fram ↔ call.Condition e fram := by
  have word : ∀ n, (toLE 4 n).length ≤ 4 := fun n => (toLE_length 4 n).le
  cases call with
  | setPreferredSdCard v => exact framSetPreferredSdCard_staysIn_iff v
  | resetImgRebootCounter slotType => exact framResetImgRebootCounter_staysIn_iff slotType
  | incrementImgRebootCounter slotType =>
    exact framIncrementImgRebootCounter_staysIn_iff (e.reads 0) slotType
  | zeroOutAllFields =>
    refine iff_of_true ?_ trivial
    exact framWriteAndVerify_own (f := ⟨0, criticalDataBlockSize⟩) (List.length_replicate ..).le
  | zeroOutDefaultZeroFields =>
    exact iff_of_true (framZeroOutDefaultZeroFields_keeps _ _ _ _) trivial
  | writeSoftwareVersion v s t =>
    refine iff_of_true (framWriteAndVerify_row ?_) trivial
    -- three fields of one byte each
    intro i hlo hhi
    have hi : i < 0 + 3 := hhi
    obtain rfl | rfl | rfl : i = 0 ∨ i = 1 ∨ i = 2 := by omega
    all_goals decide
  | incrementRebootCounter p =>
    refine iff_of_true ?_ trivial
    cases p with
    | none => exact KeepsOutside.refl _ _
    | some counter => exact framWriteAndVerify_own (f := rebootCounter) (word _)
  | resetRebootCounter =>
    exact iff_of_true (framWriteAndVerify_own (f := rebootCounter) (word _)) trivial
  | updateSecondsSinceEpoch n =>
    exact iff_of_true (framWriteAndVerify_own (f := secondsSinceEpoch) (word _)) trivial
  | clearHamCheckFlag =>
    exact iff_of_true (framWriteAndVerify_own (f := globalHammingFlag) (by decide)) trivial
  | setHamCheckFlag =>
    exact iff_of_true (framWriteAndVerify_own (f := globalHammingFlag) (by decide)) trivial
  | setImgHamFlag slotType => exact iff_of_true (writeImgHamFlag_keeps slotType 1) trivial
  | clearImgHamFlag slotType => exact iff_of_true (writeImgHamFlag_keeps slotType 0) trivial
  | setSdcHammingFlag volume slot =>
    exact iff_of_true (manipulateSdcHammingFlag_keeps 1 volume slot) trivial
  | clearSdcHammingFlag volume slot =>
    exact iff_of_true (manipulateSdcHammingFlag_keeps 0 volume slot) trivial
  | setBootloaderFaulty b =>
    exact iff_of_true (framWriteAndVerify_own (f := bootloaderFaulty) (word _)) trivial
  | setToLoadSoftwareupdate b v =>
    refine iff_of_true (framWriteAndVerify_own (f := softwareUpdateFields) ?_) trivial
    exact (load_length _ _ _).le
  | getToLoadSoftwareupdate b v =>
    exact iff_of_true (framGetToLoadSoftwareupdate_keeps _ _ _ _ _ _ _) trivial
  | writeBinarySize slotType n => exact iff_of_true (framWriteBinarySize_keeps slotType n) trivial
  | writeHamSize slotType n => exact iff_of_true (framWriteHamSize_keeps slotType n) trivial
  | writeHamCode slotType buffer offset n =>
    exact iff_of_true (framWriteHamCode_keeps slotType buffer offset n) trivial
  | armDeploymentTimer b =>
    exact iff_of_true (framWriteAndVerify_own (f := deployTimerArmed) (Nat.le_refl 1)) trivial
  | setSecondsOnDeploymentTimer n =>
    exact iff_of_true (framWriteAndVerify_own (f := secondsSinceTimerArmed) (word _)) trivial
  | incrementSecondsOnDeploymentTimer n =>
    refine iff_of_true ?_ trivial
    simp only [Setter.OwnFieldOnly, Setter.run, framIncrementSecondsOnDeploymentTimer]
    split
    · exact KeepsOutside.refl _ _
    · exact framWriteAndVerify_own (f := secondsSinceTimerArmed) (word _)

/-! ## Readers -/

/-- The return value and the transfers of a reader. -/
def Reading.result {α : Type} (reading : Reading α) : Int × List Transfer :=
  (reading.retval, reading.transfers)

def Reading.map {α β : Type} (f : α → β) (reading : Reading α) : Reading β :=
  ⟨reading.retval, f reading.out, reading.transfers⟩

theorem Reading.map_result {α β : Type} (f : α → β) (reading : Reading α) :
    (reading.map f).result = reading.result := rfl

/-- What a call leaves in one of the variables it is given; `none` is a `NULL` pointer. -/
inductive Output where
  | bytes (var : Option (Mem UInt8))
  | byte (value : Option UInt8)
  | flag (value : Option Bool)
  | number (value : Option Nat)
  | volume (value : Option VolumeId)

/-- The functions that read fields, with the variables they are given. -/
inductive Reader where
  | readCriticalBlock (buffer : Mem UInt8) (maxSize : Nat)
  | readBootloaderBlock (blInfo : Mem UInt8)
  | readBootloaderBlockRaw (buff : Mem UInt8) (maxSize : Nat)
  | readSoftwareVersion (version subversion subsubversion : Option UInt8)
  | readRebootCounter (counter : Mem UInt8)
  | readSecondsSinceEpoch (seconds : Mem UInt8)
  | getHamCheckFlag (flagSet : Option Bool)
  | getFlashHamFlag (flagSet : Option Bool)
  | getImgHamFlag (slotType : SlotType) (flagSet : Option Bool)
  | getSdcHammingFlag (flagSet : Option Bool) (volume : VolumeId) (slot : SdSlots)
  | isBootloaderFaulty (faulty : Mem UInt8)
  | getPreferredSdCard (volumeId : Option Nat)
  | getToLoadSoftwareupdate (enable : Option Bool) (volume : Option VolumeId)
  | readBinarySize (slotType : SlotType) (binarySize : Option (Mem UInt8))
  | readImgRebootCounter (slotType : SlotType) (rebootCounter : Option (Mem UInt8))
  | readHamSize (slotType : SlotType) (hamSize : Option (Mem UInt8)) (hamFlagSet : Option Bool)
  | isDeploymentTimerArmed (armed : Option (Mem UInt8))
  | getSecondsOnDeploymentTimer (seconds : Option Nat)

/-- Whether the three bytes of an update request ask for an update: exactly one card has to be marked;
    `before` stands where none is. -/
def updateRequested (bool : BoolReading) (fram : Mem UInt8) (before : Bool) : Bool :=
  bool.isTrue (fram softwareUpdateAvailable.addr) &&
    match bool.isTrue (fram softwareUpdateInVolume0.addr),
        bool.isTrue (fram softwareUpdateInVolume1.addr) with
    | true, true => false
    | true, false => true
    | false, true => true
    | false, false => before

/-- The card of an update request. -/
def updateVolume (bool : BoolReading) (fram : Mem UInt8) (before : VolumeId) : VolumeId :=
  if bool.isTrue (fram softwareUpdateAvailable.addr) then
    match bool.isTrue (fram softwareUpdateInVolume0.addr),
        bool.isTrue (fram softwareUpdateInVolume1.addr) with
    | true, false => .sdCard0
    | false, true => .sdCard1
    | _, _ => before
  else before

/-- The variable `var` with the bytes of the field in front. -/
def holding (fram : Mem UInt8) (f : Field) (var : Mem UInt8) : Mem UInt8 :=
  store var 0 (load fram f.addr f.size)

namespace Reader

/-- The call: its return value, what it leaves in its variables and the transfers it made; `none` is a
    write through a `NULL` pointer. -/
def run (e : Env) (fram : Mem UInt8) : Reader → Option (Reading (List Output))
  | readCriticalBlock buffer n =>
    some ((framReadCriticalBlock (e.reads 0) fram buffer n).map fun out => [.bytes (some out)])
  | readBootloaderBlock blInfo =>
    some ((framReadBootloaderBlock (e.reads 0) fram blInfo).map fun out => [.bytes (some out)])
  | readBootloaderBlockRaw buff n =>
    some ((framReadBootloaderBlockRaw (e.reads 0) fram buff n).map fun out => [.bytes (some out)])
  | readSoftwareVersion v s t =>
    (framReadSoftwareVersion (e.reads 0) fram e.stack v s t).map
      (Reading.map fun out => [.byte out.1, .byte out.2.1, .byte out.2.2])
  | readRebootCounter counter =>
    some ((framReadRebootCounter (e.reads 0) fram counter).map fun out => [.bytes (some out)])
  | readSecondsSinceEpoch n =>
    some ((framReadSecondsSinceEpoch (e.reads 0) fram n).map fun out => [.bytes (some out)])
  | getHamCheckFlag p =>
    some ((framGetHamCheckFlag (e.reads 0) fram p).map fun out => [.flag out])
  | getFlashHamFlag p =>
    some ((framGetFlashHamFlag (e.reads 0) fram e.stack p).map fun out => [.flag out])
  | getImgHamFlag slotType p =>
    some ((framGetImgHamFlag (e.reads 0) fram e.stack slotType p).map fun out => [.flag out])
  | getSdcHammingFlag p volume slot =>
    some ((Fram.getSdcHammingFlag (e.reads 0) fram p volume slot).map fun out => [.flag out])
  | isBootloaderFaulty faulty =>
    some ((framIsBootloaderFaulty (e.reads 0) fram faulty).map fun out => [.bytes (some out)])
  | getPreferredSdCard p =>
    some ((framGetPreferredSdCard (e.reads 0) fram p).map fun out => [.number out])
  | getToLoadSoftwareupdate p q =>
    some ((framGetToLoadSoftwareupdate e.bool (e.reads 0) (e.writes 0) fram e.stack p q).map
      fun out => [.flag out.1, .volume out.2.1])
  | readBinarySize slotType p =>
    some ((framReadBinarySize (e.reads 0) fram slotType p).map fun out => [.bytes out])
  | readImgRebootCounter slotType p =>
    some ((framReadImgRebootCounter (e.reads 0) fram slotType p).map fun out => [.bytes out])
  | readHamSize slotType p q =>
    some ((framReadHamSize (e.reads 0) (e.reads 1) fram e.stack slotType p q).map
      fun out => [.bytes out.1, .flag out.2])
  | isDeploymentTimerArmed p =>
    some ((framIsDeploymentTimerArmed (e.reads 0) fram p).map fun out => [.bytes out])
  | getSecondsOnDeploymentTimer p =>
    some ((framGetSecondsOnDeploymentTimer (e.reads 0) fram p).map fun out => [.number out])

/-- What a call that succeeds is to leave in its variables: the bytes of its own fields, or what they
    say. -/
def expected (e : Env) (fram : Mem UInt8) : Reader → List Output
  | readCriticalBlock buffer _ => [.bytes (some (holding fram ⟨0, criticalDataBlockSize⟩ buffer))]
  | readBootloaderBlock blInfo => [.bytes (some (holding fram blGroup blInfo))]
  | readBootloaderBlockRaw buff _ => [.bytes (some (holding fram blGroup buff))]
  | readSoftwareVersion v s t =>
    [.byte (v.map fun _ => fram softwareVersion.addr),
      .byte (s.map fun _ => fram softwareSubversion.addr),
      .byte (t.map fun _ => fram softwareSubsubversion.addr)]
  | readRebootCounter counter => [.bytes (some (holding fram rebootCounter counter))]
  | readSecondsSinceEpoch n => [.bytes (some (holding fram secondsSinceEpoch n))]
  | getHamCheckFlag p => [.flag (p.map fun _ => decide (globalHammingFlag.read fram = 1))]
  | getFlashHamFlag p => [.flag (p.map fun _ => decide (norFlashHammingFlag.read fram ≠ 0))]
  | getImgHamFlag slotType p =>
    [.flag (p.bind fun _ => (hamFlagField slotType).map fun f => decide (f.read fram ≠ 0))]
  | getSdcHammingFlag p volume slot =>
    [.flag (p.map fun _ => decide ((sdcHammingFlagField volume slot).read fram ≠ 0))]
  | isBootloaderFaulty faulty => [.bytes (some (holding fram bootloaderFaulty faulty))]
  | getPreferredSdCard p => [.number (p.map fun _ => preferredSdCard.read fram)]
  | getToLoadSoftwareupdate p q =>
    [.flag (p.map (updateRequested e.bool fram)), .volume (q.map (updateVolume e.bool fram))]
  | readBinarySize slotType p =>
    [.bytes (p.bind fun var => (binarySizeField slotType).map fun f => holding fram f var)]
  | readImgRebootCounter slotType p =>
    [.bytes (p.bind fun var => (rebootCounterField slotType).map fun f => holding fram f var)]
  | readHamSize slotType p q =>
    [.bytes (p.bind fun var => (hamSizeField slotType).map fun f => holding fram f var),
      .flag (q.bind fun _ => (hamFlagField slotType).map fun f => decide (f.read fram ≠ 0))]
  | isDeploymentTimerArmed p => [.bytes (p.map (holding fram deployTimerArmed))]
  | getSecondsOnDeploymentTimer p => [.number (p.map fun _ => secondsSinceTimerArmed.read fram)]

/-- The fields the call is to transfer; `none` if the slot has no such field. -/
def own : Reader → Option (List Field)
  | readCriticalBlock _ _ => some [⟨0, criticalDataBlockSize⟩]
  | readBootloaderBlock _ => some [blGroup]
  | readBootloaderBlockRaw _ _ => some [blGroup]
  | readSoftwareVersion _ _ _ => some [⟨softwareVersion.addr, 3⟩]
  | readRebootCounter _ => some [rebootCounter]
  | readSecondsSinceEpoch _ => some [secondsSinceEpoch]
  | getHamCheckFlag _ => some [globalHammingFlag]
  | getFlashHamFlag _ => some [norFlashHammingFlag]
  | getImgHamFlag slotType _ => (hamFlagField slotType).map fun f => [f]
  | getSdcHammingFlag _ volume slot => some [sdcHammingFlagField volume slot]
  | isBootloaderFaulty _ => some [bootloaderFaulty]
  | getPreferredSdCard _ => some [preferredSdCard]
  | getToLoadSoftwareupdate _ _ => some [softwareUpdateFields]
  | readBinarySize slotType _ => (binarySizeField slotType).map fun f => [f]
  | readImgRebootCounter slotType _ => (rebootCounterField slotType).map fun f => [f]
  | readHamSize slotType _ none => (hamSizeField slotType).map fun f => [f]
  | readHamSize slotType _ (some _) =>
    match hamFlagField slotType, hamSizeField slotType with
    | some flag, some size => some [flag, size]
    | _, _ => none
  | isDeploymentTimerArmed _ => some [deployTimerArmed]
  | getSecondsOnDeploymentTimer _ => some [secondsSinceTimerArmed]

end Reader

/-- Every transfer is one of the own fields and fits into its variable, and a call that succeeds has
    transferred them all; without such a field the call is refused before the driver is called. -/
def TransfersOwn (own : Option (List Field)) (result : Int × List Transfer) : Prop :=
  match own with
  | some fields =>
    (∀ t ∈ result.2, t.source ∈ fields ∧ t.source.size ≤ t.capacity) ∧
      (result.1 = 0 → result.2.map Transfer.source = fields)
  | none => result.1 ≠ 0 ∧ result.2 = []

namespace Reader

/-- The call transfers its own fields only, and where it succeeds its variables hold what is in them. -/
def OwnFieldOnly (call : Reader) (e : Env) (fram : Mem UInt8) : Prop :=
  ∃ reading, call.run e fram = some reading ∧ TransfersOwn call.own reading.result ∧
    (reading.retval = 0 → reading.out = call.expected e fram)

/-- When the call transfers its own fields only, and no more than its variable holds. -/
def FitsVariable : Reader → Prop
  | getSdcHammingFlag flagSet _ _ => flagSet = none
  | isBootloaderFaulty _ => False
  | readImgRebootCounter slotType rebootCounter =>
    (rebootCounterField slotType).isSome ∨ rebootCounter = none
  | readBootloaderBlockRaw _ maxSize => blGroup.size ≤ maxSize
  | _ => True

/-- When no `NULL` pointer is written through. -/
def HasVariable (call : Reader) (e : Env) : Prop :=
  match call with
  | readSoftwareVersion version subversion subsubversion =>
    version.isSome ∨ subversion = none ∨ subsubversion = none ∨ e.reads 0 ≠ .done
  | _ => True

def Condition (call : Reader) (e : Env) : Prop := call.FitsVariable ∧ call.HasVariable e

end Reader

/-- A call refused before the driver is called. -/
theorem transfersOwn_refused {own : Option (List Field)} {code : Int} (h : code ≠ 0) :
    TransfersOwn own (code, []) := by
  cases own with
  | none => exact ⟨h, rfl⟩
  | some fields =>
    refine ⟨?_, fun h' => absurd h' h⟩
    intro t ht
    cases ht

/-- A call that makes the one transfer of its field. -/
theorem transfersOwn_one {f : Field} {capacity : Nat} {retval : Int} (h : f.size ≤ capacity) :
    TransfersOwn (some [f]) (retval, [⟨f, capacity⟩]) := by
  refine ⟨?_, fun _ => rfl⟩
  intro t ht
  rw [List.mem_singleton.mp ht]
  exact ⟨List.mem_singleton_self f, h⟩

/-- A transfer of another range than the field. -/
theorem not_transfersOwn_of_ne {f g : Field} {capacity : Nat} {retval : Int} (h : g ≠ f) :
    ¬ TransfersOwn (some [f]) (retval, [⟨g, capacity⟩]) := by
  rintro ⟨hall, -⟩
  have hmem := (hall _ (List.mem_singleton_self _)).1
  exact h (List.mem_singleton.mp hmem)

/-- A transfer that does not fit into its variable. -/
theorem not_transfersOwn_of_lt {f g : Field} {capacity : Nat} {retval : Int}
    (h : capacity < g.size) : ¬ TransfersOwn (some [f]) (retval, [⟨g, capacity⟩]) := by
  rintro ⟨hall, -⟩
  have hfit := (hall _ (List.mem_singleton_self _)).2
  exact absurd hfit (Nat.not_le.mpr h)

/-- The flag getters make one transfer, of as many bytes as their local variable has. -/
theorem readFlag_result (o : WriteOutcome UInt8) (fram flag : Mem UInt8) (address size : Nat)
    (b : Bool) : (readFlag o fram flag address size b).result =
      (o.retval, [⟨⟨address, size⟩, size⟩]) := by
  have hretval : (framRead o fram flag ⟨address, size⟩ size).retval = o.retval := rfl
  simp only [readFlag, hretval]
  by_cases h : o.retval = 0
  · rw [if_pos h, h]
    rfl
  · rw [if_neg h]
    rfl

theorem framGetImgHamFlag_transfers (o : WriteOutcome UInt8) (fram flag : Mem UInt8)
    (slotType : SlotType) (flagSet : Option Bool) :
    TransfersOwn ((hamFlagField slotType).map fun f => [f])
      (framGetImgHamFlag o fram flag slotType flagSet).result := by
  cases flagSet with
  | none => exact transfersOwn_refused (show (-3 : Int) ≠ 0 by decide)
  | some b =>
    have hread : ∀ f : Field, f.size = 2 → determineHamFlagAddress slotType = f.addr →
        determineHamFlagAddress slotType ≠ 0 → hamFlagField slotType = some f →
        TransfersOwn (some [f]) (framGetImgHamFlag o fram flag slotType (some b)).result := by
      intro f hsize haddr hne hf
      have hresult : (framGetImgHamFlag o fram flag slotType (some b)).result =
          (o.retval, [⟨f, 2⟩]) := by
        have hfield : (⟨f.addr, 2⟩ : Field) = f := by rw [← hsize]
        simp only [framGetImgHamFlag, if_neg hne]
        rw [haddr, readFlag_result]
        exact congrArg (fun g => (o.retval, [(⟨g, 2⟩ : Transfer)])) hfield
      rw [hresult]
      exact transfersOwn_one hsize.le
    cases slotType with
    | flashSlot => exact hread _ rfl rfl (by decide) rfl
    | sdc0Sl0 => exact hread _ rfl rfl (by decide) rfl
    | sdc0Sl1 => exact hread _ rfl rfl (by decide) rfl
    | sdc1Sl0 => exact hread _ rfl rfl (by decide) rfl
    | sdc1Sl1 => exact hread _ rfl rfl (by decide) rfl
    | bootloader0 => exact transfersOwn_refused (show (-4 : Int) ≠ 0 by decide)
    | bootloader1 => exact transfersOwn_refused (show (-4 : Int) ≠ 0 by decide)

theorem framReadBinarySize_transfers (o : WriteOutcome UInt8) (fram : Mem UInt8)
    (slotType : SlotType) (binarySize : Option (Mem UInt8)) :
    TransfersOwn ((binarySizeField slotType).map fun f => [f])
      (framReadBinarySize o fram slotType binarySize).result := by
  have hrefused : ∀ own, TransfersOwn own (-4, []) :=
    fun own => transfersOwn_refused (show (-4 : Int) ≠ 0 by decide)
  cases binarySize with
  | none => exact hrefused _
  | some size =>
    cases slotType with
    | flashSlot => exact transfersOwn_one (f := norFlashBinarySize) (by decide)
    | bootloader0 => exact transfersOwn_one (f := bootloaderSize) (by decide)
    | sdc0Sl0 => exact hrefused none
    | sdc0Sl1 => exact hrefused none
    | sdc1Sl0 => exact hrefused none
    | sdc1Sl1 => exact hrefused none
    | bootloader1 => exact hrefused none

/-- The counter of a slot without one: the transfer is made all the same, from address 0. -/
theorem framReadImgRebootCounter_transfers_iff (o : WriteOutcome UInt8) (fram : Mem UInt8)
    (slotType : SlotType) (counter : Option (Mem UInt8)) :
    TransfersOwn ((rebootCounterField slotType).map fun f => [f])
        (framReadImgRebootCounter o fram slotType counter).result ↔
      (rebootCounterField slotType).isSome ∨ counter = none := by
  cases counter with
  | none =>
    exact iff_of_true (transfersOwn_refused (show (-3 : Int) ≠ 0 by decide)) (Or.inr rfl)
  | some var =>
    have hmissing :
        ¬ TransfersOwn none (framReadImgRebootCounter o fram slotType (some var)).result := by
      rintro ⟨-, htransfers⟩
      cases htransfers
    cases slotType with
    | flashSlot =>
      exact iff_of_true (transfersOwn_one (f := norFlashRebootCounter) (by decide)) (Or.inl rfl)
    | sdc0Sl0 =>
      exact iff_of_true (transfersOwn_one (f := sdc0ImageSlot0RebootCounter) (by decide))
        (Or.inl rfl)
    | sdc0Sl1 =>
      exact iff_of_true (transfersOwn_one (f := sdc0ImageSlot1RebootCounter) (by decide))
        (Or.inl rfl)
    | sdc1Sl0 =>
      exact iff_of_true (transfersOwn_one (f := sdc1ImageSlot0RebootCounter) (by decide))
        (Or.inl rfl)
    | sdc1Sl1 =>
      exact iff_of_true (transfersOwn_one (f := sdc1ImageSlot1RebootCounter) (by decide))
        (Or.inl rfl)
    | bootloader0 => exact iff_of_false hmissing (by simp [rebootCounterField])
    | bootloader1 => exact iff_of_false hmissing (by simp [rebootCounterField])

/-- The size of a hamming code, without the flag. -/
theorem framReadHamSize_transfers (r o : WriteOutcome UInt8) (fram flag : Mem UInt8)
    (slotType : SlotType) (hamSize : Option (Mem UInt8)) :
    TransfersOwn ((hamSizeField slotType).map fun f => [f])
      (framReadHamSize r o fram flag slotType hamSize none).result := by
  cases hamSize with
  | none => exact transfersOwn_refused (show (-3 : Int) ≠ 0 by decide)
  | some size =>
    cases slotType with
    | flashSlot => exact transfersOwn_one (f := norFlashHammingCodeSize) (by decide)
    | sdc0Sl0 => exact transfersOwn_one (f := sdc0ImageSlot0HammingSize) (by decide)
    | sdc0Sl1 => exact transfersOwn_one (f := sdc0ImageSlot1HammingSize) (by decide)
    | sdc1Sl0 => exact transfersOwn_one (f := sdc1ImageSlot0HammingSize) (by decide)
    | sdc1Sl1 => exact transfersOwn_one (f := sdc1ImageSlot1HammingSize) (by decide)
    | bootloader0 => exact transfersOwn_one (f := bootloaderHammingCodeSize) (by decide)
    | bootloader1 => exact transfersOwn_refused (show (-4 : Int) ≠ 0 by decide)

/-- The size of a hamming code, with the flag read before it. -/
theorem framReadHamSize_flag_transfers (r o : WriteOutcome UInt8) (fram flag : Mem UInt8)
    (slotType : SlotType) (hamSize : Option (Mem UInt8)) (b : Bool) :
    TransfersOwn (Reader.readHamSize slotType hamSize (some b)).own
      (framReadHamSize r o fram flag slotType hamSize (some b)).result := by
  cases hamSize with
  | none => exact transfersOwn_refused (show (-3 : Int) ≠ 0 by decide)
  | some var =>
    -- a slot with a flag also has a size
    have hboth : ∀ f g : Field, f.size = 2 → g.size = 4 →
        determineHamFlagAddress slotType = f.addr → determineHamFlagAddress slotType ≠ 0 →
        determineHamSizeAddress slotType = g.addr → determineHamSizeAddress slotType ≠ 0 →
        TransfersOwn (some [f, g])
          (framReadHamSize r o fram flag slotType (some var) (some b)).result := by
      intro f g hf hg hfaddr hfne hgaddr hgne
      have hfield : (⟨f.addr, 2⟩ : Field) = f := by rw [← hf]
      have gfield : (⟨g.addr, 4⟩ : Field) = g := by rw [← hg]
      have hflag : (framGetImgHamFlag r fram flag slotType (some false)).result =
          (r.retval, [⟨f, 2⟩]) := by
        simp only [framGetImgHamFlag, if_neg hfne]
        rw [hfaddr, readFlag_result]
        exact congrArg (fun x => (r.retval, [(⟨x, 2⟩ : Transfer)])) hfield
      have hret := congrArg Prod.fst hflag
      have htrans := congrArg Prod.snd hflag
      simp only [Reading.result] at hret htrans
      have hgne' : ¬ g.addr = 0 := hgaddr ▸ hgne
      by_cases hr : r.retval = 0
      · have hresult : (framReadHamSize r o fram flag slotType (some var) (some b)).result =
            (o.retval, [⟨f, 2⟩, ⟨g, 4⟩]) := by
          simp only [framReadHamSize, hret, hr, ne_eq, not_true_eq_false, if_false, hgaddr,
            if_neg hgne', Reading.result, htrans, framRead, List.singleton_append]
          exact congrArg (fun x => (o.retval, [(⟨f, 2⟩ : Transfer), ⟨x, 4⟩])) gfield
        rw [hresult]
        refine ⟨?_, fun _ => rfl⟩
        intro t ht
        rcases List.mem_cons.mp ht with rfl | ht
        · exact ⟨List.mem_cons_self, hf.le⟩
        · rw [List.mem_singleton.mp ht]
          exact ⟨by simp, hg.le⟩
      · have hresult : (framReadHamSize r o fram flag slotType (some var) (some b)).result =
            (r.retval, [⟨f, 2⟩]) := by
          simp only [framReadHamSize, hret, ne_eq, hr, not_false_eq_true, if_true,
            Reading.result, htrans]
        rw [hresult]
        refine ⟨?_, fun h => absurd h hr⟩
        intro t ht
        rw [List.mem_singleton.mp ht]
        exact ⟨List.mem_cons_self, hf.le⟩
    cases slotType with
    | flashSlot =>
      exact hboth norFlashHammingFlag norFlashHammingCodeSize rfl rfl rfl (by decide) rfl
        (by decide)
    | sdc0Sl0 =>
      exact hboth sdc0ImageSlot0HammingFlag sdc0ImageSlot0HammingSize rfl rfl rfl (by decide) rfl
        (by decide)
    | sdc0Sl1 =>
      exact hboth sdc0ImageSlot1HammingFlag sdc0ImageSlot1HammingSize rfl rfl rfl (by decide) rfl
        (by decide)
    | sdc1Sl0 =>
      exact hboth sdc1ImageSlot0HammingFlag sdc1ImageSlot0HammingSize rfl rfl rfl (by decide) rfl
        (by decide)
    | sdc1Sl1 =>
      exact hboth sdc1ImageSlot1HammingFlag sdc1ImageSlot1HammingSize rfl rfl rfl (by decide) rfl
        (by decide)
    | bootloader0 => exact transfersOwn_refused (show (-4 : Int) ≠ 0 by decide)
    | bootloader1 => exact transfersOwn_refused (show (-4 : Int) ≠ 0 by decide)

theorem framReadSoftwareVersion_transfers {o : WriteOutcome UInt8} {fram readBuffer : Mem UInt8}
    {v s t : Option UInt8} {reading : Reading (Option UInt8 × Option UInt8 × Option UInt8)}
    (h : framReadSoftwareVersion o fram readBuffer v s t = some reading) :
    TransfersOwn (some [⟨softwareVersion.addr, 3⟩]) reading.result := by
  unfold framReadSoftwareVersion at h
  split at h
  · cases h
    exact transfersOwn_refused (show (-3 : Int) ≠ 0 by decide)
  · simp only at h
    split at h
    · cases h
      exact transfersOwn_one (Nat.le_refl 3)
    · obtain ⟨_, -, rfl⟩ := Option.map_eq_some_iff.mp h
      exact transfersOwn_one (Nat.le_refl 3)

theorem framGetHamCheckFlag_transfers (o : WriteOutcome UInt8) (fram : Mem UInt8)
    (flagSet : Option Bool) :
    TransfersOwn (some [globalHammingFlag]) (framGetHamCheckFlag o fram flagSet).result := by
  cases flagSet with
  | none => exact transfersOwn_refused (show (-3 : Int) ≠ 0 by decide)
  | some b =>
    simp only [framGetHamCheckFlag]
    split <;> exact transfersOwn_one (f := globalHammingFlag) (Nat.le_refl 2)

theorem framGetPreferredSdCard_transfers (o : WriteOutcome UInt8) (fram : Mem UInt8)
    (volumeId : Option Nat) :
    TransfersOwn (some [preferredSdCard]) (framGetPreferredSdCard o fram volumeId).result := by
  simp only [framGetPreferredSdCard]
  split <;> exact transfersOwn_one (by decide)

theorem framGetToLoadSoftwareupdate_transfers (bool : BoolReading) (r o : WriteOutcome UInt8)
    (fram stack : Mem UInt8) (enable : Option Bool) (volume : Option VolumeId) :
    TransfersOwn (some [softwareUpdateFields])
      (framGetToLoadSoftwareupdate bool r o fram stack enable volume).result := by
  have hone : ∀ code, TransfersOwn (some [softwareUpdateFields])
      (code, [⟨softwareUpdateFields, 3⟩]) := fun code => transfersOwn_one (Nat.le_refl 3)
  cases enable with
  | none => exact transfersOwn_refused (show (-3 : Int) ≠ 0 by decide)
  | some b =>
    simp only [framGetToLoadSoftwareupdate]
    split
    · exact hone _
    · split
      · exact hone _
      · cases volume with
        | none => exact hone _
        | some v =>
          simp only
          split
          · exact hone _
          · split
            · exact hone _
            · split <;> exact hone _

/-- **Transfers.** A call transfers its own fields only, and no more than its variable holds, exactly
    where `FitsVariable` holds. -/
theorem Reader.transfersOwn_iff {call : Reader} {e : Env} {fram : Mem UInt8}
    {reading : Reading (List Output)} (h : call.run e fram = some reading) :
    TransfersOwn call.own reading.result ↔ call.FitsVariable := by
  cases call with
  | readSoftwareVersion v s t =>
    obtain ⟨version, hversion, rfl⟩ := Option.map_eq_some_iff.mp h
    exact iff_of_true (framReadSoftwareVersion_transfers hversion) trivial
  | getSdcHammingFlag flagSet volume slot =>
    cases h
    cases flagSet with
    | none => exact iff_of_true (transfersOwn_refused (show (-3 : Int) ≠ 0 by decide)) rfl
    | some b =>
      refine iff_of_false ?_ (fun h => by cases h)
      have hresult : (Fram.getSdcHammingFlag (e.reads 0) fram (some b) volume slot).result =
          ((e.reads 0).retval, [⟨⟨sdcHammingFlagAddr volume slot, 4⟩, 4⟩]) :=
        readFlag_result _ _ _ _ _ _
      rw [Reading.map_result, hresult]
      -- four bytes are asked for, the field has two
      apply not_transfersOwn_of_ne
      cases volume <;> cases slot <;> decide
  | isBootloaderFaulty faulty =>
    cases h
    refine iff_of_false ?_ (fun h => h)
    exact not_transfersOwn_of_lt (by decide)
  | readImgRebootCounter slotType p =>
    cases h
    exact framReadImgRebootCounter_transfers_iff _ _ _ _
  | readBootloaderBlockRaw buff n =>
    cases h
    constructor
    · intro h
      by_contra hlt
      exact not_transfersOwn_of_lt (Nat.lt_of_not_le hlt) h
    · intro h
      exact transfersOwn_one h
  | readCriticalBlock buffer n =>
    cases h
    refine iff_of_true ?_ trivial
    rw [Reading.map_result, framReadCriticalBlock]
    split
    · exact transfersOwn_refused (show (-3 : Int) ≠ 0 by decide)
    · exact transfersOwn_one (Nat.le_of_not_lt (by assumption))
  | readBootloaderBlock blInfo =>
    cases h
    exact iff_of_true (transfersOwn_one (Nat.le_refl _)) trivial
  | readRebootCounter counter =>
    cases h
    exact iff_of_true (transfersOwn_one (f := rebootCounter) (Nat.le_refl 4)) trivial
  | readSecondsSinceEpoch n =>
    cases h
    exact iff_of_true (transfersOwn_one (Nat.le_refl 4)) trivial
  | getHamCheckFlag p =>
    cases h
    exact iff_of_true (framGetHamCheckFlag_transfers _ _ _) trivial
  | getFlashHamFlag p =>
    cases h
    refine iff_of_true ?_ trivial
    cases p with
    | none => exact transfersOwn_refused (show (-3 : Int) ≠ 0 by decide)
    | some b =>
      have hresult : (framGetFlashHamFlag (e.reads 0) fram e.stack (some b)).result =
          ((e.reads 0).retval, [⟨norFlashHammingFlag, 2⟩]) := readFlag_result _ _ _ _ _ _
      rw [Reading.map_result, hresult]
      exact transfersOwn_one (Nat.le_refl 2)
  | getImgHamFlag slotType p =>
    cases h
    exact iff_of_true (framGetImgHamFlag_transfers _ _ _ _ _) trivial
  | getPreferredSdCard p =>
    cases h
    exact iff_of_true (framGetPreferredSdCard_transfers _ _ _) trivial
  | getToLoadSoftwareupdate p q =>
    cases h
    exact iff_of_true (framGetToLoadSoftwareupdate_transfers _ _ _ _ _ _ _) trivial
  | readBinarySize slotType p =>
    cases h
    exact iff_of_true (framReadBinarySize_transfers _ _ _ _) trivial
  | readHamSize slotType p q =>
    cases h
    refine iff_of_true ?_ trivial
    cases q with
    | none => exact framReadHamSize_transfers _ _ _ _ _ _
    | some b => exact framReadHamSize_flag_transfers _ _ _ _ _ _ _
  | isDeploymentTimerArmed p =>
    cases h
    refine iff_of_true ?_ trivial
    cases p with
    | none => exact transfersOwn_refused (show (-3 : Int) ≠ 0 by decide)
    | some var => exact transfersOwn_one (f := deployTimerArmed) (Nat.le_refl 1)
  | getSecondsOnDeploymentTimer p =>
    cases h
    refine iff_of_true ?_ trivial
    rw [Reading.map_result, framGetSecondsOnDeploymentTimer]
    split <;> exact transfersOwn_one (f := secondsSinceTimerArmed) (Nat.le_refl 4)

/-! ### What the variables hold behind a call -/

section

variable {o : WriteOutcome UInt8} {fram var : Mem UInt8} {f : Field}

theorem framRead_done (n : Nat) : framRead .done fram var f n = ⟨0, holding fram f var, [⟨f, n⟩]⟩ :=
  rfl

theorem framRead_retval (n : Nat) : (framRead o fram var f n).retval = 0 ↔ o = .done :=
  WriteOutcome.retval_eq_zero

/-- The number in a variable of the size of the field. -/
theorem varValue_holding : varValue f.size (holding fram f var) = f.read fram := by
  have hload := load_store_same var 0 (load fram f.addr f.size)
  rw [load_length] at hload
  rw [varValue, holding, hload, Field.read]

/-- A variable filled by a transfer that succeeded holds the number of the field. -/
theorem varValue_framRead {capacity : Nat} (h : o.retval = 0) :
    varValue f.size (framRead o fram var f capacity).out = f.read fram := by
  obtain rfl := WriteOutcome.retval_eq_zero.mp h
  exact varValue_holding

/-- The preferred card is read into a variable of four zero bytes, of which it fills two. -/
theorem varValue_preferred :
    varValue 4 (holding fram preferredSdCard fun _ => 0) = preferredSdCard.read fram := by
  have hread : preferredSdCard.read fram =
      (fram 12).toNat + 256 * ((fram 13).toNat + 256 * 0) := rfl
  have hvar : varValue 4 (holding fram preferredSdCard fun _ => 0) =
      (fram 12).toNat + 256 * ((fram 13).toNat + 256 * (0 + 256 * (0 + 256 * 0))) := rfl
  omega

theorem readFlag_retval {address size : Nat} {b : Bool} :
    (readFlag o fram var address size b).retval = o.retval :=
  congrArg Prod.fst (readFlag_result o fram var address size b)

theorem readFlag_out {address size : Nat} {b : Bool} (h : o.retval = 0) :
    (readFlag o fram var address size b).out =
      some (decide ((⟨address, size⟩ : Field).read fram ≠ 0)) := by
  have hvalue : varValue size (framRead o fram var ⟨address, size⟩ size).out =
      (⟨address, size⟩ : Field).read fram := varValue_framRead h
  have hretval : (framRead o fram var ⟨address, size⟩ size).retval = 0 := h
  simp only [readFlag, hretval, if_true]
  rw [hvalue]

theorem framGetImgHamFlag_out {slotType : SlotType} {flagSet : Option Bool}
    (hok : (framGetImgHamFlag o fram var slotType flagSet).retval = 0) :
    (framGetImgHamFlag o fram var slotType flagSet).out =
      flagSet.bind fun _ => (hamFlagField slotType).map fun f => decide (f.read fram ≠ 0) := by
  cases flagSet with
  | none => cases hok
  | some b =>
    cases slotType with
    | flashSlot => exact readFlag_out (readFlag_retval.symm.trans hok)
    | sdc0Sl0 => exact readFlag_out (readFlag_retval.symm.trans hok)
    | sdc0Sl1 => exact readFlag_out (readFlag_retval.symm.trans hok)
    | sdc1Sl0 => exact readFlag_out (readFlag_retval.symm.trans hok)
    | sdc1Sl1 => exact readFlag_out (readFlag_retval.symm.trans hok)
    | bootloader0 => cases hok
    | bootloader1 => cases hok

/-- The size, where the address of the slot is that of its field. -/
theorem framReadHamSize_out {r : WriteOutcome UInt8} {flag : Mem UInt8} {slotType : SlotType}
    {hamSize : Option (Mem UInt8)} {hamFlagSet : Option Bool}
    (hok : (framReadHamSize r o fram flag slotType hamSize hamFlagSet).retval = 0) :
    (framReadHamSize r o fram flag slotType hamSize hamFlagSet).out =
      (hamSize.bind fun var => (hamSizeField slotType).map fun f => holding fram f var,
        hamFlagSet.bind fun _ => (hamFlagField slotType).map fun f => decide (f.read fram ≠ 0)) := by
  cases hamSize with
  | none => cases hok
  | some var =>
    cases hamFlagSet with
    | none =>
      cases slotType with
      | bootloader1 => cases hok
      | _ =>
        obtain rfl := (WriteOutcome.retval_eq_zero (o := o)).mp hok
        rfl
    | some b =>
      by_cases hr : (framGetImgHamFlag r fram flag slotType (some false)).retval = 0
      · have hflag := framGetImgHamFlag_out hr
        simp only [framReadHamSize, hr, ne_eq, not_true_eq_false, if_false, hflag] at hok ⊢
        cases slotType with
        | bootloader0 => cases hr
        | bootloader1 => cases hok
        | _ =>
          obtain rfl := (WriteOutcome.retval_eq_zero (o := o)).mp hok
          rfl
      · -- the flag was not read: its error is handed on
        simp only [framReadHamSize, ne_eq, hr, not_false_eq_true, if_true] at hok

theorem framGetHamCheckFlag_out {b : Bool} (hok : (framGetHamCheckFlag o fram (some b)).retval = 0) :
    (framGetHamCheckFlag o fram (some b)).out = some (decide (globalHammingFlag.read fram = 1)) := by
  by_cases hdone : o = .done
  · subst hdone
    have hvalue : varValue 2 (holding fram globalHammingFlag fun _ => 0) =
        globalHammingFlag.read fram := varValue_holding
    simp only [← hvalue]
    rfl
  · have herror : ¬ (framRead o fram (fun _ => 0) ⟨globalHammingFlag.addr, 2⟩ 2).retval = 0 :=
      fun h => hdone ((framRead_retval 2).mp h)
    simp only [framGetHamCheckFlag, ne_eq, herror, not_false_eq_true, if_true] at hok

/-- No two bytes make the number that stands for a card not set yet. -/
theorem framGetPreferredSdCard_out {volumeId : Option Nat}
    (hok : (framGetPreferredSdCard o fram volumeId).retval = 0) :
    (framGetPreferredSdCard o fram volumeId).out =
      volumeId.map fun _ => preferredSdCard.read fram := by
  unfold framGetPreferredSdCard at hok ⊢
  simp only at hok ⊢
  split at hok
  · cases hok
  · rename_i hset
    obtain rfl := (WriteOutcome.retval_eq_zero (o := o)).mp hok
    rw [if_neg hset]
    simp only [framRead_done, varValue_preferred]

theorem framGetSecondsOnDeploymentTimer_out {seconds : Option Nat}
    (hok : (framGetSecondsOnDeploymentTimer o fram seconds).retval = 0) :
    (framGetSecondsOnDeploymentTimer o fram seconds).out =
      seconds.map fun _ => secondsSinceTimerArmed.read fram := by
  by_cases hdone : o = .done
  · subst hdone
    have hvalue : varValue 4 (holding fram secondsSinceTimerArmed fun _ => 0) =
        secondsSinceTimerArmed.read fram := varValue_holding
    simp only [← hvalue]
    rfl
  · have herror : ¬ (framRead o fram (fun _ => 0) ⟨secondsSinceTimerArmed.addr, 4⟩ 4).retval = 0 :=
      fun h => hdone ((framRead_retval 4).mp h)
    simp only [framGetSecondsOnDeploymentTimer, ne_eq, herror, not_false_eq_true, if_true] at hok

theorem framReadSoftwareVersion_out {stack : Mem UInt8} {v s t : Option UInt8}
    {reading : Reading (Option UInt8 × Option UInt8 × Option UInt8)}
    (h : framReadSoftwareVersion o fram stack v s t = some reading) (hok : reading.retval = 0) :
    reading.out =
      (v.map fun _ => fram softwareVersion.addr, s.map fun _ => fram softwareSubversion.addr,
        t.map fun _ => fram softwareSubsubversion.addr) := by
  unfold framReadSoftwareVersion at h
  split at h
  · cases h
    cases hok
  · rename_i hgiven
    simp only at h
    split at h
    · rename_i herror
      cases h
      exact absurd hok herror
    · rename_i hread
      obtain rfl := (framRead_retval _).mp (not_not.mp hread)
      obtain ⟨version, rfl, rfl⟩ := Option.map_eq_some_iff.mp h
      cases s with
      | none => simp at hgiven
      | some subversion =>
        cases t with
        | none => simp at hgiven
        | some subsubversion => rfl

theorem framGetToLoadSoftwareupdate_out {bool : BoolReading} {w : WriteOutcome UInt8}
    {stack : Mem UInt8} {enable : Option Bool} {volume : Option VolumeId}
    (hok : (framGetToLoadSoftwareupdate bool o w fram stack enable volume).retval = 0) :
    (framGetToLoadSoftwareupdate bool o w fram stack enable volume).out.1 =
        enable.map (updateRequested bool fram) ∧
      (framGetToLoadSoftwareupdate bool o w fram stack enable volume).out.2.1 =
        volume.map (updateVolume bool fram) := by
  cases enable with
  | none => cases hok
  | some b =>
    by_cases hdone : o = .done
    · subst hdone
      have h0 : holding fram softwareUpdateFields stack 0 = fram softwareUpdateAvailable.addr := rfl
      have h1 : holding fram softwareUpdateFields stack 1 = fram softwareUpdateInVolume0.addr := rfl
      have h2 : holding fram softwareUpdateFields stack 2 = fram softwareUpdateInVolume1.addr := rfl
      simp only [framGetToLoadSoftwareupdate, framRead_done, h0, h1, h2] at hok ⊢
      cases hset : bool.isTrue (fram softwareUpdateAvailable.addr) with
      | false =>
        cases volume with
        | none => simp [updateRequested, hset]
        | some v => simp [updateRequested, updateVolume, hset]
      | true =>
        cases volume with
        | none => simp [hset] at hok
        | some v =>
          cases hone : bool.isTrue (fram softwareUpdateInVolume0.addr) <;>
            cases htwo : bool.isTrue (fram softwareUpdateInVolume1.addr) <;>
            simp [updateRequested, updateVolume, hset, hone, htwo]
    · have herror : ¬ (framRead o fram stack softwareUpdateFields 3).retval = 0 :=
        fun h => hdone ((framRead_retval 3).mp h)
      simp only [framGetToLoadSoftwareupdate, ne_eq, herror, not_false_eq_true, if_true] at hok

end

/-- **Outputs.** Behind a call that succeeds the variables hold the own fields; `get_sdc_hamming_flag`
    and `fram_is_bootloader_faulty` read something else. -/
theorem Reader.out_of_ok {call : Reader} {e : Env} {fram : Mem UInt8}
    {reading : Reading (List Output)} (h : call.run e fram = some reading)
    (hfits : call.FitsVariable) (hok : reading.retval = 0) :
    reading.out = call.expected e fram := by
  -- a reader that returns 0 has read its field, so each case ends at the value behind that read
  cases call with
  | readCriticalBlock buffer n =>
    cases h
    simp only [Reading.map, framReadCriticalBlock] at hok ⊢
    split at hok
    · cases hok
    · rename_i hsize
      have hdone := (WriteOutcome.retval_eq_zero (o := e.reads 0)).mp hok
      rw [if_neg hsize, hdone]
      rfl
  | readSoftwareVersion v s t =>
    obtain ⟨version, hversion, rfl⟩ := Option.map_eq_some_iff.mp h
    have hout := framReadSoftwareVersion_out hversion hok
    simp only [Reading.map, hout, expected]
  | getHamCheckFlag p =>
    cases h
    cases p with
    | none => cases hok
    | some b => exact congrArg (fun out => [Output.flag out]) (framGetHamCheckFlag_out hok)
  | getFlashHamFlag p =>
    cases h
    cases p with
    | none => cases hok
    | some b => exact congrArg (fun out => [Output.flag out]) (readFlag_out (readFlag_retval.symm.trans hok))
  | getImgHamFlag slotType p =>
    cases h
    exact congrArg (fun out => [Output.flag out]) (framGetImgHamFlag_out hok)
  | getSdcHammingFlag flagSet volume slot =>
    cases h
    cases hfits
    cases hok
  | isBootloaderFaulty faulty => exact hfits.elim
  | getPreferredSdCard p =>
    cases h
    exact congrArg (fun out => [Output.number out]) (framGetPreferredSdCard_out hok)
  | getToLoadSoftwareupdate p q =>
    cases h
    obtain ⟨henable, hvolume⟩ := framGetToLoadSoftwareupdate_out hok
    simp only [Reading.map, henable, hvolume, expected]
  | readBinarySize slotType p =>
    cases h
    cases p with
    | none => cases hok
    | some size =>
      have hdone (h : (e.reads 0).retval = 0) := WriteOutcome.retval_eq_zero.mp h
      cases slotType with
      | flashSlot =>
        simp only [framReadBinarySize, hdone hok]
        rfl
      | bootloader0 =>
        simp only [framReadBinarySize, hdone hok]
        rfl
      | _ => cases hok
  | readImgRebootCounter slotType p =>
    cases h
    cases p with
    | none => cases hok
    | some counter =>
      have hdone := (WriteOutcome.retval_eq_zero (o := e.reads 0)).mp hok
      simp only [framReadImgRebootCounter, hdone]
      -- a slot without a counter does not fit
      rcases hfits with hslot | hnull
      · cases slotType with
        | bootloader0 => cases hslot
        | bootloader1 => cases hslot
        | _ => rfl
      · cases hnull
  | readHamSize slotType p q =>
    cases h
    have hout := framReadHamSize_out hok
    simp only [Reading.map, hout, expected]
  | isDeploymentTimerArmed p =>
    cases h
    cases p with
    | none => cases hok
    | some var =>
      have hdone := (WriteOutcome.retval_eq_zero (o := e.reads 0)).mp hok
      simp only [framIsDeploymentTimerArmed, hdone]
      rfl
  | getSecondsOnDeploymentTimer p =>
    cases h
    exact congrArg (fun out => [Output.number out]) (framGetSecondsOnDeploymentTimer_out hok)
  | readBootloaderBlock blInfo =>
    cases h
    have hdone := (WriteOutcome.retval_eq_zero (o := e.reads 0)).mp hok
    simp only [framReadBootloaderBlock, hdone]
    rfl
  | readBootloaderBlockRaw buff n =>
    cases h
    have hdone := (WriteOutcome.retval_eq_zero (o := e.reads 0)).mp hok
    simp only [framReadBootloaderBlockRaw, hdone]
    rfl
  | readRebootCounter counter =>
    cases h
    have hdone := (WriteOutcome.retval_eq_zero (o := e.reads 0)).mp hok
    simp only [framReadRebootCounter, hdone]
    rfl
  | readSecondsSinceEpoch n =>
    cases h
    have hdone := (WriteOutcome.retval_eq_zero (o := e.reads 0)).mp hok
    simp only [framReadSecondsSinceEpoch, hdone]
    rfl

/-- The one pointer that is written through without a check. -/
theorem framReadSoftwareVersion_isSome_iff {o : WriteOutcome UInt8} {fram stack : Mem UInt8}
    {v s t : Option UInt8} :
    (framReadSoftwareVersion o fram stack v s t).isSome ↔
      v.isSome ∨ s = none ∨ t = none ∨ o ≠ .done := by
  have hread : (framRead o fram stack ⟨softwareVersion.addr, 3⟩ 3).retval = 0 ↔ o = .done :=
    framRead_retval 3
  cases s with
  | none => simp [framReadSoftwareVersion]
  | some subversion =>
    cases t with
    | none => simp [framReadSoftwareVersion]
    | some subsubversion =>
      by_cases hdone : o = .done
      · cases v <;> simp [framReadSoftwareVersion, framRead_done, hdone]
      · simp [framReadSoftwareVersion, hread, hdone]

theorem Reader.exists_run_iff (call : Reader) (e : Env) (fram : Mem UInt8) :
    (∃ reading, call.run e fram = some reading) ↔ call.HasVariable e := by
  cases call with
  | readSoftwareVersion v s t =>
    rw [← Option.isSome_iff_exists, run, Option.isSome_map]
    exact framReadSoftwareVersion_isSome_iff
  | _ => exact iff_of_true ⟨_, rfl⟩ trivial

/-- **Readers.** A call transfers its own fields only, into variables that hold them, and leaves there
    what they say, exactly where `Reader.Condition` holds. -/
theorem Reader.ownFieldOnly_iff (call : Reader) (e : Env) (fram : Mem UInt8) :
    call.OwnFieldOnly e fram ↔ call.Condition e := by
  constructor
  · rintro ⟨reading, hrun, htransfers, -⟩
    exact ⟨(transfersOwn_iff hrun).mp htransfers, (call.exists_run_iff e fram).mp ⟨reading, hrun⟩⟩
  · rintro ⟨hfits, hvariable⟩
    obtain ⟨reading, hrun⟩ := (call.exists_run_iff e fram).mpr hvariable
    exact ⟨reading, hrun, (transfersOwn_iff hrun).mpr hfits, out_of_ok hrun hfits⟩

/-! ## Main result -/

/-- **Accessors stay in their field.** A setter changes only the bytes of its own fields and is refused
    without change for a slot without them, and a reader transfers exactly its fields into variables
    that hold them, if and only if the conditions hold: the four bytes of the preferred card leave the
    global hamming flag alone, the slot of a counter has one, the call is neither
    `get_sdc_hamming_flag` nor `fram_is_bootloader_faulty` nor a raw read into a buffer that is too
    small, and the first pointer of `fram_read_software_version` is written through only if there is
    a variable. -/
theorem accessors_ownField (e : Env) (fram : Mem UInt8) :
    (∀ call : Setter, call.OwnFieldOnly e fram ↔ call.Condition e fram) ∧
      ∀ call : Reader, call.OwnFieldOnly e fram ↔ call.Condition e :=
  ⟨fun call => call.staysIn_iff e fram, fun call => call.ownFieldOnly_iff e fram⟩

/-- A driver that never fails, and a compiler that reads a nonzero byte as true. -/
def plainEnv : Env where
  reads _ := .done
  writes _ := .done
  stack _ := 0
  bool := ⟨fun b => b != 0, rfl, rfl⟩

/-- Selecting a preferred card clears a global hamming flag that is set. -/
theorem setPreferredSdCard_clears_globalHammingFlag :
    ¬ (Setter.setPreferredSdCard .sdCard0).OwnFieldOnly plainEnv
      (store (fun _ => 0) globalHammingFlag.addr [1]) := by
  intro h
  have hcell := h globalHammingFlag.addr (by decide)
  exact absurd hcell (by decide)

end Fram
end Obsw
