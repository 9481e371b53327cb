import Obsw.Fram.Api

/-!
# `Fram.Accessors` — the accessors of the critical data block

The functions of `FRAMApi.c` with which the on-board software reads and writes single fields of the
critical data block. A reader hands `FRAM_read` a variable: which bytes are asked for, and how many
bytes the variable holds, is recorded next to the result (`Transfer`). A pointer argument is an
`Option`, `none` standing for `NULL`.

A `bool` that is filled byte by byte may hold a byte other than 0 and 1. What a comparison with `true`
then gives is left open by the language, and is a parameter here (`BoolReading`).
-/

namespace Obsw
namespace Fram

open Memory LittleEndian Device

/-- The image slots of one SD card (`SdSlots`). -/
inductive SdSlots where
  | slot0
  | slot1
  deriving DecidableEq, Repr

/-- The number of an SD card, as the enumeration `VolumeId` has it. -/
def volumeIdRaw : VolumeId → Nat
  | .sdCard0 => 0
  | .sdCard1 => 1

def boolByte (b : Bool) : UInt8 := if b then 1 else 0

/-- How the compiled code reads the byte of a `bool`: fixed for 0 and 1 only. -/
structure BoolReading where
  isTrue : UInt8 → Bool
  isTrue_zero : isTrue 0 = false
  isTrue_one : isTrue 1 = true

/-! ## `FRAM_read` -/

/-- One call of `FRAM_read`: the bytes it asks for and the size of the variable it is given. -/
structure Transfer where
  source : Field
  capacity : Nat
  deriving DecidableEq, Repr

/-- What a reader hands back: its return value, what it put out, and the transfers it made. -/
structure Reading (α : Type) where
  retval : Int
  out : α
  transfers : List Transfer

/-- `FRAM_read` into a variable of `capacity` bytes; `dest` is the memory from its address on. -/
def framRead (outcome : WriteOutcome UInt8) (fram dest : Mem UInt8) (source : Field)
    (capacity : Nat) : Reading (Mem UInt8) where
  retval := outcome.retval
  out := outcome.apply (fun _ new => new) dest 0 (load fram source.addr source.size)
  transfers := [⟨source, capacity⟩]

/-- The number in the first `size` bytes of a variable. -/
def varValue (size : Nat) (var : Mem UInt8) : Nat := ofLE (load var 0 size)

/-! ## Addresses by slot -/

def determineHamFlagAddress : SlotType → Nat
  | .flashSlot => norFlashHammingFlag.addr
  | .sdc0Sl0 => sdc0ImageSlot0HammingFlag.addr
  | .sdc0Sl1 => sdc0ImageSlot1HammingFlag.addr
  | .sdc1Sl0 => sdc1ImageSlot0HammingFlag.addr
  | .sdc1Sl1 => sdc1ImageSlot1HammingFlag.addr
  | .bootloader0 => 0
  | .bootloader1 => 0

def determineBinarySizeAddress : SlotType → Nat
  | .flashSlot => norFlashBinarySize.addr
  | .bootloader0 => bootloaderSize.addr
  | _ => 0

/-- The flag `get_sdc_hamming_flag` and `manipulate_sdc_hamming_flag` address. -/
def sdcHammingFlagAddr : VolumeId → SdSlots → Nat
  | .sdCard0, .slot0 => sdc0ImageSlot0HammingFlag.addr
  | .sdCard0, .slot1 => sdc0ImageSlot1HammingFlag.addr
  | .sdCard1, .slot0 => sdc1ImageSlot0HammingFlag.addr
  | .sdCard1, .slot1 => sdc1ImageSlot1HammingFlag.addr

/-! ## Version, reboot counter and seconds -/

def framWriteSoftwareVersion (outcome : WriteOutcome UInt8) (fram : Mem UInt8)
    (version subversion subsubversion : UInt8) : Int × Mem UInt8 :=
  framWriteAndVerify outcome fram [version, subversion, subsubversion] softwareVersion.addr

/-- `fram_read_software_version`. The second pointer is checked twice and the first one never: `none` is
    the write through it when it is `NULL`. -/
def framReadSoftwareVersion (outcome : WriteOutcome UInt8) (fram readBuffer : Mem UInt8)
    (version subversion subsubversion : Option UInt8) :
    Option (Reading (Option UInt8 × Option UInt8 × Option UInt8)) :=
  if subversion.isNone ∨ subversion.isNone ∨ subsubversion.isNone then
    some ⟨-3, (version, subversion, subsubversion), []⟩
  else
    let read := framRead outcome fram readBuffer ⟨softwareVersion.addr, 3⟩ 3
    if read.retval ≠ 0 then
      some ⟨read.retval, (version, subversion, subsubversion), read.transfers⟩
    else
      version.map fun _ =>
        ⟨0, (some (read.out 0), some (read.out 1), some (read.out 2)), read.transfers⟩

def framResetRebootCounter (outcome : WriteOutcome UInt8) (fram : Mem UInt8) : Int × Mem UInt8 :=
  framWriteAndVerify outcome fram (toLE 4 0) rebootCounter.addr

/-- `fram_read_reboot_counter`. The length is the size of a pointer, four bytes on the ARM core. -/
def framReadRebootCounter (outcome : WriteOutcome UInt8) (fram counter : Mem UInt8) :
    Reading (Mem UInt8) := framRead outcome fram counter ⟨rebootCounter.addr, 4⟩ 4

/-- `fram_increment_reboot_counter`. The result of the read is dropped. -/
def framIncrementRebootCounter (readOutcome writeOutcome : WriteOutcome UInt8) (fram : Mem UInt8)
    (newRebootCounter : Option (Mem UInt8)) : Int × Mem UInt8 :=
  match newRebootCounter with
  | none => (-3, fram)
  | some counter =>
    let read := framRead readOutcome fram counter ⟨rebootCounter.addr, 4⟩ 4
    framWriteAndVerify writeOutcome fram (toLE 4 (varValue 4 read.out + 1)) rebootCounter.addr

def framUpdateSecondsSinceEpoch (outcome : WriteOutcome UInt8) (fram : Mem UInt8)
    (seconds : Nat) : Int × Mem UInt8 :=
  framWriteAndVerify outcome fram (toLE 4 seconds) secondsSinceEpoch.addr

def framReadSecondsSinceEpoch (outcome : WriteOutcome UInt8) (fram seconds : Mem UInt8) :
    Reading (Mem UInt8) := framRead outcome fram seconds secondsSinceEpoch 4

/-! ## Hamming flags -/

def framClearHamCheckFlag (outcome : WriteOutcome UInt8) (fram : Mem UInt8) : Int × Mem UInt8 :=
  framWriteAndVerify outcome fram (toLE globalHammingFlag.size 0) globalHammingFlag.addr

def framSetHamCheckFlag (outcome : WriteOutcome UInt8) (fram : Mem UInt8) : Int × Mem UInt8 :=
  framWriteAndVerify outcome fram (toLE globalHammingFlag.size 1) globalHammingFlag.addr

def framGetHamCheckFlag (outcome : WriteOutcome UInt8) (fram : Mem UInt8)
    (flagSet : Option Bool) : Reading (Option Bool) :=
  match flagSet with
  | none => ⟨-3, none, []⟩
  | some b =>
    let flagStatus := framRead outcome fram (fun _ => 0) ⟨globalHammingFlag.addr, 2⟩ 2
    if flagStatus.retval ≠ 0 then ⟨flagStatus.retval, some b, flagStatus.transfers⟩
    else ⟨0, some (decide (varValue 2 flagStatus.out = 1)), flagStatus.transfers⟩

/-- The part the other flag getters share. `flag` is the local variable of `size` bytes. -/
def readFlag (outcome : WriteOutcome UInt8) (fram flag : Mem UInt8) (address size : Nat)
    (flagSet : Bool) : Reading (Option Bool) :=
  let read := framRead outcome fram flag ⟨address, size⟩ size
  if read.retval = 0 then ⟨0, some (decide (varValue size read.out ≠ 0)), read.transfers⟩
  else ⟨read.retval, some flagSet, read.transfers⟩

def framGetFlashHamFlag (outcome : WriteOutcome UInt8) (fram flag : Mem UInt8)
    (flagSet : Option Bool) : Reading (Option Bool) :=
  match flagSet with
  | none => ⟨-3, none, []⟩
  | some b => readFlag outcome fram flag norFlashHammingFlag.addr norFlashHammingFlag.size b

/-- The part `fram_set_img_ham_flag` and `fram_clear_img_ham_flag` share. -/
def writeImgHamFlag (outcome : WriteOutcome UInt8) (fram : Mem UInt8) (slotType : SlotType)
    (value : Nat) : Int × Mem UInt8 :=
  if determineHamFlagAddress slotType = 0 then (-3, fram)
  else
    framWriteAndVerify outcome fram (toLE norFlashHammingFlag.size value)
      (determineHamFlagAddress slotType)

def framSetImgHamFlag (outcome : WriteOutcome UInt8) (fram : Mem UInt8) (slotType : SlotType) :
    Int × Mem UInt8 := writeImgHamFlag outcome fram slotType 1

def framClearImgHamFlag (outcome : WriteOutcome UInt8) (fram : Mem UInt8) (slotType : SlotType) :
    Int × Mem UInt8 := writeImgHamFlag outcome fram slotType 0

def framGetImgHamFlag (outcome : WriteOutcome UInt8) (fram flag : Mem UInt8) (slotType : SlotType)
    (flagSet : Option Bool) : Reading (Option Bool) :=
  match flagSet with
  | none => ⟨-3, none, []⟩
  | some b =>
    if determineHamFlagAddress slotType = 0 then ⟨-4, some b, []⟩
    else
      readFlag outcome fram flag (determineHamFlagAddress slotType) norFlashHammingFlag.size b

def manipulateSdcHammingFlag (outcome : WriteOutcome UInt8) (fram : Mem UInt8) (val : Nat)
    (volume : VolumeId) (slot : SdSlots) : Int × Mem UInt8 :=
  framWriteAndVerify outcome fram (toLE 2 val) (sdcHammingFlagAddr volume slot)

def setSdcHammingFlag (outcome : WriteOutcome UInt8) (fram : Mem UInt8) (volume : VolumeId)
    (slot : SdSlots) : Int × Mem UInt8 := manipulateSdcHammingFlag outcome fram 1 volume slot

def clearSdcHammingFlag (outcome : WriteOutcome UInt8) (fram : Mem UInt8) (volume : VolumeId)
    (slot : SdSlots) : Int × Mem UInt8 := manipulateSdcHammingFlag outcome fram 0 volume slot

/-- `get_sdc_hamming_flag`. The local variable has four bytes, and all four are read. -/
def getSdcHammingFlag (outcome : WriteOutcome UInt8) (fram : Mem UInt8) (flagSet : Option Bool)
    (volume : VolumeId) (slot : SdSlots) : Reading (Option Bool) :=
  match flagSet with
  | none => ⟨-3, none, []⟩
  | some b => readFlag outcome fram (fun _ => 0) (sdcHammingFlagAddr volume slot) 4 b

/-! ## Bootloader and preferred SD card -/

def framSetBootloaderFaulty (outcome : WriteOutcome UInt8) (fram : Mem UInt8) (faulty : Bool) :
    Int × Mem UInt8 :=
  framWriteAndVerify outcome fram (toLE bootloaderFaulty.size (boolByte faulty).toNat)
    bootloaderFaulty.addr

/-- `fram_is_bootloader_faulty`. The variable is a `bool`, the length is that of the field. -/
def framIsBootloaderFaulty (outcome : WriteOutcome UInt8) (fram faulty : Mem UInt8) :
    Reading (Mem UInt8) :=
  framRead outcome fram faulty ⟨bootloaderFaulty.addr, bootloaderFaulty.size⟩ 1

def framSetPreferredSdCard (outcome : WriteOutcome UInt8) (fram : Mem UInt8)
    (volumeId : VolumeId) : Int × Mem UInt8 :=
  framWriteAndVerify outcome fram (toLE 4 (volumeIdRaw volumeId)) preferredSdCard.addr

/-- `fram_get_preferred_sd_card`. The number is stored also if the read failed. -/
def framGetPreferredSdCard (outcome : WriteOutcome UInt8) (fram : Mem UInt8)
    (volumeId : Option Nat) : Reading (Option Nat) :=
  let read := framRead outcome fram (fun _ => 0) preferredSdCard 4
  if varValue 4 read.out = 0xffffffff then ⟨1, volumeId, read.transfers⟩
  else ⟨read.retval, volumeId.map fun _ => varValue 4 read.out, read.transfers⟩

/-! ## Software update -/

/-- The three bytes of an update request. -/
def softwareUpdateFields : Field := ⟨softwareUpdateAvailable.addr, 3⟩

/-- `raw_data` of `fram_set_to_load_softwareupdate`: one of its bytes keeps what the stack held. -/
def softwareUpdateRawData (enable : Bool) (volume : VolumeId) (stack : Mem UInt8) : Mem UInt8 :=
  let rawData := store stack 0 [boolByte enable]
  match volume with
  | .sdCard0 => store rawData 1 [boolByte true]
  | .sdCard1 => store rawData 2 [boolByte true]

def framSetToLoadSoftwareupdate (outcome : WriteOutcome UInt8) (fram : Mem UInt8) (enable : Bool)
    (volume : VolumeId) (stack : Mem UInt8) : Int × Mem UInt8 :=
  framWriteAndVerify outcome fram (load (softwareUpdateRawData enable volume stack) 0 3)
    softwareUpdateFields.addr

/-- `fram_get_to_load_softwareupdate`: the two output variables and the FRAM behind the call. -/
def framGetToLoadSoftwareupdate (bool : BoolReading) (readOutcome writeOutcome : WriteOutcome UInt8)
    (fram stack : Mem UInt8) (enable : Option Bool) (volume : Option VolumeId) :
    Reading (Option Bool × Option VolumeId × Mem UInt8) :=
  match enable with
  | none => ⟨-3, (none, volume, fram), []⟩
  | some e =>
    let rawData := framRead readOutcome fram stack softwareUpdateFields 3
    if rawData.retval ≠ 0 then ⟨rawData.retval, (some e, volume, fram), rawData.transfers⟩
    else if bool.isTrue (rawData.out 0) = false then
      ⟨0, (some false, volume, fram), rawData.transfers⟩
    else
      match volume with
      | none => ⟨-3, (some e, none, fram), rawData.transfers⟩
      | some v =>
        -- every path from here on clears the three bytes
        let cleared := framWriteAndVerify writeOutcome fram (toLE 3 0) softwareUpdateFields.addr
        if bool.isTrue (rawData.out 1) ∧ bool.isTrue (rawData.out 2) then
          ⟨cleared.1, (some false, some v, cleared.2), rawData.transfers⟩
        else if bool.isTrue (rawData.out 1) then
          ⟨cleared.1, (some true, some .sdCard0, cleared.2), rawData.transfers⟩
        else if bool.isTrue (rawData.out 2) then
          ⟨cleared.1, (some true, some .sdCard1, cleared.2), rawData.transfers⟩
        else ⟨cleared.1, (some e, some v, cleared.2), rawData.transfers⟩

/-! ## Sizes and counters of the images -/

def framReadBinarySize (outcome : WriteOutcome UInt8) (fram : Mem UInt8) (slotType : SlotType)
    (binarySize : Option (Mem UInt8)) : Reading (Option (Mem UInt8)) :=
  match binarySize with
  | none => ⟨-4, none, []⟩
  | some size =>
    if determineBinarySizeAddress slotType = 0 then ⟨-4, some size, []⟩
    else
      let read := framRead outcome fram size
        ⟨determineBinarySizeAddress slotType, norFlashBinarySize.size⟩ 4
      ⟨read.retval, some read.out, read.transfers⟩

/-- `fram_read_img_reboot_counter`. An address of 0, for a slot without a counter, is used as it is. -/
def framReadImgRebootCounter (outcome : WriteOutcome UInt8) (fram : Mem UInt8)
    (slotType : SlotType) (rebootCounter : Option (Mem UInt8)) : Reading (Option (Mem UInt8)) :=
  match rebootCounter with
  | none => ⟨-3, none, []⟩
  | some counter =>
    let read := framRead outcome fram counter
      ⟨determineImgRebootCounterAddr slotType, norFlashRebootCounter.size⟩ 2
    ⟨read.retval, some read.out, read.transfers⟩

def framResetImgRebootCounter (outcome : WriteOutcome UInt8) (fram : Mem UInt8)
    (slotType : SlotType) : Int × Mem UInt8 :=
  framWriteAndVerify outcome fram (toLE norFlashRebootCounter.size 0)
    (determineImgRebootCounterAddr slotType)

/-- `fram_increment_img_reboot_counter`, without the optional output variable. -/
def framIncrementImgRebootCounter (readOutcome writeOutcome : WriteOutcome UInt8)
    (fram : Mem UInt8) (slotType : SlotType) : Int × Mem UInt8 :=
  let read := framReadImgRebootCounter readOutcome fram slotType (some fun _ => 0)
  if read.retval ≠ 0 then (read.retval, fram)
  else
    framWriteAndVerify writeOutcome fram
      (toLE norFlashRebootCounter.size (varValue 2 (read.out.getD fun _ => 0) + 1))
      (determineImgRebootCounterAddr slotType)

/-- `fram_read_ham_size`, with the hamming flag of the slot if a variable for it is given. -/
def framReadHamSize (flagOutcome outcome : WriteOutcome UInt8) (fram flag : Mem UInt8)
    (slotType : SlotType) (hamSize : Option (Mem UInt8)) (hamFlagSet : Option Bool) :
    Reading (Option (Mem UInt8) × Option Bool) :=
  match hamSize with
  | none => ⟨-3, (none, hamFlagSet), []⟩
  | some size =>
    let flagReading : Reading (Option Bool) :=
      match hamFlagSet with
      | none => ⟨0, none, []⟩
      | some _ => framGetImgHamFlag flagOutcome fram flag slotType (some false)
    if flagReading.retval ≠ 0 then
      ⟨flagReading.retval, (some size, hamFlagSet), flagReading.transfers⟩
    else if determineHamSizeAddress slotType = 0 then
      ⟨-4, (some size, flagReading.out), flagReading.transfers⟩
    else
      let read := framRead outcome fram size
        ⟨determineHamSizeAddress slotType, norFlashHammingCodeSize.size⟩ 4
      ⟨read.retval, (some read.out, flagReading.out), flagReading.transfers ++ read.transfers⟩

/-! ## The whole block -/

/-- `fram_read_critical_block`. -/
def framReadCriticalBlock (outcome : WriteOutcome UInt8) (fram buffer : Mem UInt8)
    (maxSize : Nat) : Reading (Mem UInt8) :=
  if maxSize < criticalDataBlockSize then ⟨-3, buffer, []⟩
  else framRead outcome fram buffer ⟨0, criticalDataBlockSize⟩ maxSize

/-- `bl_group`. -/
def blGroup : Field := ⟨preferredSdCard.addr, fillerSoftwareUpdate.next - preferredSdCard.addr⟩

def framReadBootloaderBlock (outcome : WriteOutcome UInt8) (fram blInfo : Mem UInt8) :
    Reading (Mem UInt8) := framRead outcome fram blInfo blGroup blGroup.size

/-- `fram_read_bootloader_block_raw`. The size of the buffer is not looked at. -/
def framReadBootloaderBlockRaw (outcome : WriteOutcome UInt8) (fram buff : Mem UInt8)
    (maxSize : Nat) : Reading (Mem UInt8) := framRead outcome fram buff blGroup maxSize

def framZeroOutAllFields (outcome : WriteOutcome UInt8) (fram : Mem UInt8) : Int × Mem UInt8 :=
  framWriteAndVerify outcome fram (List.replicate criticalDataBlockSize 0) 0

/-! ## Deployment timer -/

def framArmDeploymentTimer (outcome : WriteOutcome UInt8) (fram : Mem UInt8) (arm : Bool) :
    Int × Mem UInt8 := framWriteAndVerify outcome fram [boolByte arm] deployTimerArmed.addr

def framIsDeploymentTimerArmed (outcome : WriteOutcome UInt8) (fram : Mem UInt8)
    (armed : Option (Mem UInt8)) : Reading (Option (Mem UInt8)) :=
  match armed with
  | none => ⟨-3, none, []⟩
  | some var =>
    let read := framRead outcome fram var ⟨deployTimerArmed.addr, 1⟩ 1
    ⟨read.retval, some read.out, read.transfers⟩

def framGetSecondsOnDeploymentTimer (outcome : WriteOutcome UInt8) (fram : Mem UInt8)
    (seconds : Option Nat) : Reading (Option Nat) :=
  let read := framRead outcome fram (fun _ => 0) ⟨secondsSinceTimerArmed.addr, 4⟩ 4
  if read.retval ≠ 0 then ⟨read.retval, seconds, read.transfers⟩
  else ⟨0, seconds.map fun _ => varValue 4 read.out, read.transfers⟩

def framSetSecondsOnDeploymentTimer (outcome : WriteOutcome UInt8) (fram : Mem UInt8)
    (seconds : Nat) : Int × Mem UInt8 :=
  framWriteAndVerify outcome fram (toLE 4 seconds) secondsSinceTimerArmed.addr

def framIncrementSecondsOnDeploymentTimer (readOutcome writeOutcome : WriteOutcome UInt8)
    (fram : Mem UInt8) (incrementSeconds : Nat) : Int × Mem UInt8 :=
  let newSecValue := framGetSecondsOnDeploymentTimer readOutcome fram (some 0)
  if newSecValue.retval ≠ 0 then (newSecValue.retval, fram)
  else
    framSetSecondsOnDeploymentTimer writeOutcome fram
      (newSecValue.out.getD 0 + incrementSeconds)

/-! ## `fram_zero_out_default_zero_fields` -/

/-- Write calls in a row, up to the first that fails. -/
def runUntilError :
    List (WriteOutcome UInt8 → Mem UInt8 → Int × Mem UInt8) → (Nat → WriteOutcome UInt8) →
    Mem UInt8 → Int × Mem UInt8
  | [], _, fram => (0, fram)
  | call :: calls, outcomes, fram =>
    let written := call (outcomes 0) fram
    if written.1 ≠ 0 then written else runUntilError calls (fun n => outcomes (n + 1)) written.2

/-- The unconditional writes of `fram_zero_out_default_zero_fields`, in the order of the source. -/
def defaultZeroWrites (stack : Mem UInt8) :
    List (WriteOutcome UInt8 → Mem UInt8 → Int × Mem UInt8) :=
  [framClearHamCheckFlag,
    fun o m => framClearImgHamFlag o m .flashSlot,
    fun o m => framClearImgHamFlag o m .sdc0Sl0,
    fun o m => framClearImgHamFlag o m .sdc0Sl1,
    fun o m => framClearImgHamFlag o m .sdc1Sl0,
    fun o m => framClearImgHamFlag o m .sdc1Sl1,
    fun o m => framResetImgRebootCounter o m .flashSlot,
    fun o m => framResetImgRebootCounter o m .sdc0Sl0,
    fun o m => framResetImgRebootCounter o m .sdc0Sl1,
    fun o m => framResetImgRebootCounter o m .sdc1Sl0,
    fun o m => framResetImgRebootCounter o m .sdc1Sl1,
    fun o m => framWriteBinarySize o m .flashSlot 0,
    fun o m => framWriteBinarySize o m .bootloader0 0,
    fun o m => framWriteHamSize o m .flashSlot 0,
    fun o m => framWriteHamSize o m .bootloader0 0,
    fun o m => framWriteHamSize o m .sdc0Sl0 0,
    fun o m => framWriteHamSize o m .sdc0Sl1 0,
    fun o m => framWriteHamSize o m .sdc1Sl0 0,
    fun o m => framWriteHamSize o m .sdc1Sl1 0,
    fun o m => framSetBootloaderFaulty o m false,
    fun o m => framSetToLoadSoftwareupdate o m false .sdCard0 stack]

def framZeroOutDefaultZeroFields (reads writes : Nat → WriteOutcome UInt8)
    (fram stack : Mem UInt8) : Int × Mem UInt8 :=
  let counter := framReadRebootCounter (reads 0) fram fun _ => 0
  if counter.retval ≠ 0 then (counter.retval, fram)
  else
    let reset :=
      if varValue 4 counter.out = 0xffffffff then framResetRebootCounter (writes 0) fram
      else (0, fram)
    if reset.1 ≠ 0 then reset
    else
      let preferred := framGetPreferredSdCard (reads 1) reset.2 (some 0)
      -- a result of 1 (no card set yet) returns here too: the branch for it behind is dead
      if preferred.retval ≠ 0 then (preferred.retval, reset.2)
      else runUntilError (defaultZeroWrites stack) (fun n => writes (n + 1)) reset.2

end Fram
end Obsw
