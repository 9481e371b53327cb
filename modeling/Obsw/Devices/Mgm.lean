import Mathlib.Data.Fin.VecNotation
import Mathlib.Data.Fintype.Basic
import Mathlib.Tactic.FinCases
import Obsw.Lib.Loop

/-!
# `Devices.Mgm` — the cached registers of the magnetometer

`MGMHandlerLIS3MDL` keeps a copy of the control registers and changes it while it builds a command, so
that it has the device's registers only if the command then reaches the device. The copy is what the
configuration in a reply is compared with. `run_synced_iff` says for which runs the two agree.
-/

namespace Obsw
namespace Mgm

open Loop

/-! ## `MGMLIS3MDL` -/

abbrev DeviceCommandId := Nat

def setupMgm : DeviceCommandId := 0x00
def readConfigAndData : DeviceCommandId := 0x01
def readTemperature : DeviceCommandId := 0x02
def identifyDevice : DeviceCommandId := 0x03
def tempSensorEnable : DeviceCommandId := 0x04
def accuracyOpModeSet : DeviceCommandId := 0x05

def nrOfDataAndCfgRegisters : Nat := 14
def temperatureReplyLen : Nat := 3
def setupReplyLen : Nat := 6
def singleCommandAnswerLen : Nat := 2

def identifyDeviceRegAddr : UInt8 := 0b00001111
def deviceId : UInt8 := 0b00111101
def ctrlReg1 : UInt8 := 0b00100000
def tempLowbyte : UInt8 := 0b00101110

/-- The bits `RW_BIT` and `MS_BIT` of the first byte of a command. -/
def rwBit : UInt8 := (1 : UInt8) <<< 7
def msBit : UInt8 := (1 : UInt8) <<< 6

def om0 : UInt8 := (1 : UInt8) <<< 5
def om1 : UInt8 := (1 : UInt8) <<< 6
def do0 : UInt8 := (1 : UInt8) <<< 2
def do1 : UInt8 := (1 : UInt8) <<< 3
def do2 : UInt8 := (1 : UInt8) <<< 4
def omz0 : UInt8 := (1 : UInt8) <<< 2
def omz1 : UInt8 := (1 : UInt8) <<< 3
def tempEn : UInt8 := (1 : UInt8) <<< 7

/-- The control registers `CTRL_REG1` to `CTRL_REG5`. -/
abbrev Registers := Fin 5 → UInt8

/-- `CTRL_REG1_DEFAULT` to `CTRL_REG5_DEFAULT`. -/
def defaults : Registers :=
  ![tempEn ||| om1 ||| do0 ||| do1 ||| do2, 0, 0, omz1, 0]

/-! ## Building commands -/

/-- The return values other than `RETURN_OK`. -/
inductive Code where
  | invalidNumberOrLengthOfParameters
  | invalidCommandParameter
  | commandNotImplemented
  deriving DecidableEq, Repr

/-- The data of a command. The first byte is read also where the length is 0. -/
structure CommandData where
  bytes : Nat → UInt8
  len : Nat

def readCommand (command : UInt8) (continuousCom : Bool) : UInt8 :=
  if continuousCom then command ||| rwBit ||| msBit else command ||| rwBit

def writeCommand (command : UInt8) (continuousCom : Bool) : UInt8 :=
  if continuousCom then command &&& ~~~rwBit ||| msBit else command &&& ~~~rwBit

/-- `prepareCtrlRegisterWrite`: all registers in one packet. -/
def prepareCtrlRegisterWrite (registers : Registers) : List UInt8 :=
  writeCommand ctrlReg1 true :: List.ofFn registers

/-- The switch of `enableTemperatureSensor`, for `ON` and `OFF`. -/
def temperatureSensor (set : UInt8) (register : UInt8) : Option UInt8 :=
  if set = 0 then some (register ||| tempEn)
  else if set = 1 then some (register &&& ~~~tempEn)
  else none

/-- `enableTemperatureSensor`, with the packet and the registers. -/
def enableTemperatureSensor (d : CommandData) (registers : Registers) :
    Except Code (List UInt8) × Registers :=
  if d.len > 1 then (.error .invalidNumberOrLengthOfParameters, registers)
  else
    match temperatureSensor (d.bytes 0) (registers 0) with
    | none => (.error .invalidCommandParameter, registers)
    | some register =>
      (.ok [writeCommand ctrlReg1 false, register], Function.update registers 0 register)

/-- The switch of `setOperatingMode`, for `LOW`, `MEDIUM`, `HIGH` and `ULTRA`. Other modes change
    nothing. -/
def operatingMode (opMode : UInt8) (registers : Registers) : Registers :=
  let set := fun (register0 register3 : UInt8) =>
    Function.update (Function.update registers 0 register0) 3 register3
  if opMode = 0 then set (registers 0 &&& ~~~om1 &&& ~~~om0) (registers 3 &&& ~~~omz1 &&& ~~~omz0)
  else if opMode = 1 then set (registers 0 &&& ~~~om1 ||| om0) (registers 3 &&& ~~~omz1 ||| omz0)
  else if opMode = 2 then set ((registers 0 ||| om1) &&& ~~~om0) ((registers 3 ||| omz1) &&& ~~~omz0)
  else if opMode = 3 then set (registers 0 ||| om1 ||| om0) (registers 3 ||| omz1 ||| omz0)
  else registers

/-- `setOperatingMode`. -/
def setOperatingMode (d : CommandData) (registers : Registers) :
    Except Code (List UInt8) × Registers :=
  if d.len ≠ 1 then (.error .invalidNumberOrLengthOfParameters, registers)
  else
    let registers := operatingMode (d.bytes 0) registers
    (.ok (prepareCtrlRegisterWrite registers), registers)

/-- `buildCommandFromCommand`, with the packet and the registers. -/
def buildCommandFromCommand (deviceCommand : DeviceCommandId) (d : CommandData) (registers : Registers) :
    Except Code (List UInt8) × Registers :=
  if deviceCommand = readConfigAndData then
    (.ok (readCommand ctrlReg1 true :: List.replicate nrOfDataAndCfgRegisters 0), registers)
  else if deviceCommand = readTemperature then (.ok [readCommand tempLowbyte true, 0, 0], registers)
  else if deviceCommand = identifyDevice then
    (.ok [readCommand identifyDeviceRegAddr false, 0], registers)
  else if deviceCommand = tempSensorEnable then enableTemperatureSensor d registers
  else if deviceCommand = setupMgm then (.ok (prepareCtrlRegisterWrite defaults), defaults)
  else if deviceCommand = accuracyOpModeSet then setOperatingMode d registers
  else (.error .commandNotImplemented, registers)

/-! ## Replies -/

/-- What a scan returns, with the ID and the length it finds, and whether it sets `commandExecuted`. -/
structure Scan where
  invalidData : Bool
  foundId : Option DeviceCommandId
  foundLen : Nat
  commandExecuted : Bool
  deriving DecidableEq, Repr

/-- The end of `scanForReply`: data over SPI always starts with this byte. -/
def scanStart (start : List UInt8) (foundId : DeviceCommandId) (commandExecuted : Bool) : Scan :=
  ⟨start.getD 0 0 ≠ 0b11111111, some foundId, start.length, commandExecuted⟩

/-- `scanForReply`, in the start-up mode or not. -/
def scanForReply (registers : Registers) (startUp : Bool) (pendingCommand : DeviceCommandId)
    (start : List UInt8) : Scan :=
  if start.length = nrOfDataAndCfgRegisters + 1 then
    if start.getD 1 0 ≠ registers 0 ∨ start.getD 2 0 ≠ registers 1 ∨ start.getD 3 0 ≠ registers 2 ∨
        start.getD 4 0 ≠ registers 3 ∨ start.getD 5 0 ≠ registers 4 then
      ⟨true, some readConfigAndData, start.length, false⟩
    else scanStart start readConfigAndData startUp
  else if start.length = temperatureReplyLen then scanStart start readTemperature false
  else if start.length = setupReplyLen then scanStart start setupMgm false
  else if start.length = singleCommandAnswerLen then
    if pendingCommand = identifyDevice then
      if start.getD 1 0 ≠ deviceId then ⟨true, some pendingCommand, start.length, false⟩
      else scanStart start pendingCommand startUp
    else scanStart start pendingCommand false
  else ⟨true, none, start.length, false⟩

/-! ## The device -/

/-- The registers of the device by address. -/
abbrev Memory := UInt8 → UInt8

/-- A delivered write sets the registers from its address on. -/
def writeFrom (increment : Bool) : UInt8 → List UInt8 → Memory → Memory
  | _, [], memory => memory
  | address, byte :: bytes, memory =>
    writeFrom increment (if increment then address + 1 else address) bytes
      (Function.update memory address byte)

/-- What a packet does to the registers. -/
def receive (packet : List UInt8) (memory : Memory) : Memory :=
  match packet with
  | [] => memory
  | command :: bytes =>
    if command &&& rwBit ≠ 0 then memory
    else writeFrom (command &&& msBit ≠ 0) (command &&& ~~~(rwBit ||| msBit)) bytes memory

/-- The control registers of the device. -/
def config (memory : Memory) : Registers := fun i => memory (ctrlReg1 + UInt8.ofNat i)

/-- The reply to `READ_CONFIG_AND_DATA`. -/
def configReply (memory : Memory) : List UInt8 :=
  0b11111111 :: (List.range nrOfDataAndCfgRegisters).map fun i => memory (ctrlReg1 + UInt8.ofNat i)

/-! ## Runs -/

/-- The handler with its device. The last field is for the statements: a packet with all control registers
    has been delivered. -/
structure System where
  registers : Registers
  memory : Memory
  setUp : Bool

/-- A command, and whether its packet reaches the device if there is one. -/
structure Event where
  deviceCommand : DeviceCommandId
  commandData : CommandData
  delivered : Bool

def System.step (e : Event) (s : System) : System :=
  match buildCommandFromCommand e.deviceCommand e.commandData s.registers with
  | (.error _, registers) => { s with registers := registers }
  | (.ok rawPacket, registers) =>
    if e.delivered then
      ⟨registers, receive rawPacket s.memory,
        s.setUp || e.deviceCommand = setupMgm || e.deviceCommand = accuracyOpModeSet⟩
    else { s with registers := registers }

/-- The handler has been made; the registers of the device are what they are. -/
def System.made (memory : Memory) : System := ⟨defaults, memory, false⟩

/-- Once the device has been set up, the registers are those of the device, and a reply with its
    configuration is taken. -/
def System.Synced (s : System) : Prop :=
  s.setUp = true → s.registers = config s.memory ∧
    ∀ startUp pendingCommand,
      (scanForReply s.registers startUp pendingCommand (configReply s.memory)).invalidData = false

/-- The command leaves the registers as they are: a set-up with the defaults, a temperature sensor that is
    on or off already, an operating mode that is set. -/
structure LeavesRegisters (e : Event) (registers : Registers) : Prop where
  setup : e.deviceCommand = setupMgm → registers = defaults
  temperature : e.deviceCommand = tempSensorEnable → e.commandData.len ≤ 1 →
    ∀ register, temperatureSensor (e.commandData.bytes 0) (registers 0) = some register →
      register = registers 0
  mode : e.deviceCommand = accuracyOpModeSet → e.commandData.len = 1 →
    operatingMode (e.commandData.bytes 0) registers = registers

/-- A command that is lost behind the set-up leaves the registers as they are. -/
def EventGood (e : Event) (s : System) : Prop :=
  s.setUp = true → e.delivered = false → LeavesRegisters e s.registers

/-! ## Writes -/

section Writes

variable {registers : Registers} {memory : Memory}

/-- **A packet with all registers** sets them all. -/
theorem config_receive_all (registers : Registers) (memory : Memory) :
    config (receive (prepareCtrlRegisterWrite registers) memory) = registers := by
  funext i
  fin_cases i <;> rfl

/-- A packet with the first register sets only this one. -/
theorem config_receive_first (register : UInt8) (memory : Memory) :
    config (receive [writeCommand ctrlReg1 false, register] memory) =
      Function.update (config memory) 0 register := by
  funext i
  fin_cases i <;> rfl

theorem getD_configReply (memory : Memory) (i : Fin 5) :
    (configReply memory).getD (i + 1) 0 = config memory i := by
  fin_cases i <;> rfl

/-- A reply of the device is taken if its registers are the cached ones. -/
theorem scanForReply_configReply (startUp : Bool) (pendingCommand : DeviceCommandId)
    (hsynced : registers = config memory) :
    (scanForReply registers startUp pendingCommand (configReply memory)).invalidData = false := by
  have hlength : (configReply memory).length = nrOfDataAndCfgRegisters + 1 := by
    simp [configReply]
  have hsame : ¬ ((configReply memory).getD 1 0 ≠ registers 0 ∨
      (configReply memory).getD 2 0 ≠ registers 1 ∨ (configReply memory).getD 3 0 ≠ registers 2 ∨
      (configReply memory).getD 4 0 ≠ registers 3 ∨ (configReply memory).getD 5 0 ≠ registers 4) := by
    subst hsynced
    rintro (h | h | h | h | h)
    · exact h (getD_configReply memory 0)
    · exact h (getD_configReply memory 1)
    · exact h (getD_configReply memory 2)
    · exact h (getD_configReply memory 3)
    · exact h (getD_configReply memory 4)
  rw [scanForReply, if_pos hlength, if_neg hsame]
  rfl

end Writes

/-! ## One command -/

/-- What a command that writes registers does: with its packet the device has the registers the handler
    then has, from the same registers or from any. -/
structure Writes (e : Event) (registers : Registers) (packet : List UInt8) (written : Registers) :
    Prop where
  built : buildCommandFromCommand e.deviceCommand e.commandData registers = (.ok packet, written)
  leaves : LeavesRegisters e registers ↔ written = registers
  same : ∀ memory, registers = config memory → written = config (receive packet memory)
  all : e.deviceCommand = setupMgm ∨ e.deviceCommand = accuracyOpModeSet →
    ∀ memory, written = config (receive packet memory)

section Command

variable {e : Event} {registers : Registers} {s : System}

theorem writes_setup (hid : e.deviceCommand = setupMgm) :
    Writes e registers (prepareCtrlRegisterWrite defaults) defaults := by
  refine ⟨?_, ⟨fun h => (h.setup hid).symm, fun h => ⟨fun _ => h.symm, ?_, ?_⟩⟩,
    fun memory _ => (config_receive_all _ memory).symm,
    fun _ memory => (config_receive_all _ memory).symm⟩
  · rw [hid]
    rfl
  · intro hid'
    rw [hid] at hid'
    cases hid'
  · intro hid'
    rw [hid] at hid'
    cases hid'

theorem writes_mode (hid : e.deviceCommand = accuracyOpModeSet) (hlen : e.commandData.len = 1) :
    Writes e registers (prepareCtrlRegisterWrite (operatingMode (e.commandData.bytes 0) registers))
      (operatingMode (e.commandData.bytes 0) registers) := by
  refine ⟨?_, ⟨fun h => h.mode hid hlen, fun h => ⟨?_, ?_, fun _ _ => h⟩⟩,
    fun memory _ => (config_receive_all _ memory).symm,
    fun _ memory => (config_receive_all _ memory).symm⟩
  · rw [hid]
    show setOperatingMode e.commandData registers = _
    rw [setOperatingMode, if_neg (not_not.mpr hlen)]
  · intro hid'
    rw [hid] at hid'
    cases hid'
  · intro hid'
    rw [hid] at hid'
    cases hid'

theorem writes_temperature {register : UInt8} (hid : e.deviceCommand = tempSensorEnable)
    (hlen : e.commandData.len ≤ 1)
    (hset : temperatureSensor (e.commandData.bytes 0) (registers 0) = some register) :
    Writes e registers [writeCommand ctrlReg1 false, register]
      (Function.update registers 0 register) := by
  refine ⟨?_, ⟨fun h => ?_, fun h => ⟨?_, ?_, ?_⟩⟩, fun memory hsame => ?_, ?_⟩
  · rw [hid]
    show enableTemperatureSensor e.commandData registers = _
    rw [enableTemperatureSensor, if_neg (Nat.not_lt.mpr hlen), hset]
  · rw [h.temperature hid hlen register hset, Function.update_eq_self]
  · intro hid'
    rw [hid] at hid'
    cases hid'
  · intro _ _ register' hset'
    obtain rfl := Option.some.inj (hset.symm.trans hset')
    have hfirst := congrFun h 0
    rwa [Function.update_self] at hfirst
  · intro hid'
    rw [hid] at hid'
    cases hid'
  · rw [config_receive_first, ← hsame]
  · rintro (hid' | hid')
    · rw [hid] at hid'
      cases hid'
    · rw [hid] at hid'
      cases hid'

/-- A command that is refused, or reads, leaves everything as it is. -/
theorem step_of_reads
    (hsetup : e.deviceCommand ≠ setupMgm)
    (hmode : e.deviceCommand = accuracyOpModeSet → e.commandData.len ≠ 1)
    (htemperature : e.deviceCommand = tempSensorEnable → e.commandData.len ≤ 1 →
      temperatureSensor (e.commandData.bytes 0) (s.registers 0) = none) :
    s.step e = s := by
  have hread : ∀ packet : List UInt8, (∀ memory, receive packet memory = memory) →
      e.deviceCommand ≠ accuracyOpModeSet →
      buildCommandFromCommand e.deviceCommand e.commandData s.registers = (.ok packet, s.registers) →
      s.step e = s := by
    intro packet hreceive hother hbuilt
    rw [System.step, hbuilt]
    dsimp only
    rw [hreceive, decide_eq_false hsetup, decide_eq_false hother, Bool.or_false, Bool.or_false, ite_self]
  have hrefuse : ∀ code : Code,
      buildCommandFromCommand e.deviceCommand e.commandData s.registers = (.error code, s.registers) →
      s.step e = s := by
    intro code hbuilt
    rw [System.step, hbuilt]
  by_cases hconfig : e.deviceCommand = readConfigAndData
  · refine hread _ (fun _ => rfl) ?_ (if_pos hconfig)
    rw [hconfig]
    decide
  by_cases hread' : e.deviceCommand = readTemperature
  · refine hread _ (fun _ => rfl) ?_ ((if_neg hconfig).trans (if_pos hread'))
    rw [hread']
    decide
  by_cases hidentify : e.deviceCommand = identifyDevice
  · refine hread _ (fun _ => rfl) ?_ ((if_neg hconfig).trans ((if_neg hread').trans (if_pos hidentify)))
    rw [hidentify]
    decide
  by_cases htemp : e.deviceCommand = tempSensorEnable
  · by_cases hlen : e.commandData.len > 1
    · apply hrefuse .invalidNumberOrLengthOfParameters
      rw [htemp]
      exact if_pos hlen
    · apply hrefuse .invalidCommandParameter
      rw [htemp]
      show enableTemperatureSensor e.commandData s.registers = _
      rw [enableTemperatureSensor, if_neg hlen, htemperature htemp (Nat.not_lt.mp hlen)]
  by_cases haccuracy : e.deviceCommand = accuracyOpModeSet
  · apply hrefuse .invalidNumberOrLengthOfParameters
    rw [haccuracy]
    exact if_pos (hmode haccuracy)
  · apply hrefuse .commandNotImplemented
    rw [buildCommandFromCommand, if_neg hconfig, if_neg hread', if_neg hidentify, if_neg htemp,
      if_neg hsetup, if_neg haccuracy]

/-- **What a command can do**: nothing, or write registers. -/
theorem step_cases (e : Event) (s : System) :
    (s.step e = s ∧ LeavesRegisters e s.registers) ∨
      ∃ packet written, Writes e s.registers packet written := by
  by_cases hsetup : e.deviceCommand = setupMgm
  · exact Or.inr ⟨_, _, writes_setup hsetup⟩
  by_cases hmode : e.deviceCommand = accuracyOpModeSet ∧ e.commandData.len = 1
  · exact Or.inr ⟨_, _, writes_mode hmode.1 hmode.2⟩
  have hmode' : e.deviceCommand = accuracyOpModeSet → e.commandData.len ≠ 1 :=
    fun hid hlen => hmode ⟨hid, hlen⟩
  by_cases htemperature : e.deviceCommand = tempSensorEnable ∧ e.commandData.len ≤ 1
  · cases hset : temperatureSensor (e.commandData.bytes 0) (s.registers 0) with
    | some register => exact Or.inr ⟨_, _, writes_temperature htemperature.1 htemperature.2 hset⟩
    | none =>
        refine Or.inl ⟨step_of_reads hsetup hmode' fun _ _ => hset, fun hid => absurd hid hsetup, ?_,
          fun hid hlen => absurd hlen (hmode' hid)⟩
        intro _ _ register hsome
        rw [hset] at hsome
        cases hsome
  · have hother : e.deviceCommand = tempSensorEnable → ¬ e.commandData.len ≤ 1 :=
      fun hid hlen => htemperature ⟨hid, hlen⟩
    exact Or.inl ⟨step_of_reads hsetup hmode' fun hid hlen => absurd hlen (hother hid),
      fun hid => absurd hid hsetup, fun hid hlen => absurd hlen (hother hid),
      fun hid hlen => absurd hlen (hmode' hid)⟩

end Command

theorem synced_iff (s : System) : s.Synced ↔ (s.setUp = true → s.registers = config s.memory) := by
  constructor
  · exact fun h hset => (h hset).1
  · intro h hset
    exact ⟨h hset, fun startUp pending => scanForReply_configReply startUp pending (h hset)⟩

/-- **One command.** The registers are still those of the device exactly if the command is good. -/
theorem synced_step_iff (e : Event) (s : System) (hsynced : s.Synced) :
    (s.step e).Synced ↔ EventGood e s := by
  rcases step_cases e s with ⟨hsame, hleaves⟩ | ⟨packet, written, hwrites⟩
  · rw [hsame]
    exact iff_of_true hsynced fun _ _ => hleaves
  · rw [synced_iff] at hsynced
    rw [synced_iff, System.step, hwrites.built]
    dsimp only
    cases hdelivered : e.delivered with
    | true =>
        refine iff_of_true (fun hset => ?_) fun _ hlost => ?_
        · rw [if_pos rfl] at hset ⊢
          by_cases hall : e.deviceCommand = setupMgm ∨ e.deviceCommand = accuracyOpModeSet
          · exact hwrites.all hall s.memory
          · obtain ⟨hsetup, hmode⟩ := not_or.mp hall
            dsimp only at hset
            rw [decide_eq_false hsetup, decide_eq_false hmode, Bool.or_false, Bool.or_false] at hset
            exact hwrites.same s.memory (hsynced hset)
        · rw [hdelivered] at hlost
          cases hlost
    | false =>
        rw [if_neg Bool.false_ne_true]
        constructor
        · intro h hset _
          exact hwrites.leaves.mpr ((h hset).trans (hsynced hset).symm)
        · intro h hset
          exact (hwrites.leaves.mp (h hset hdelivered)).trans (hsynced hset)

/-- **The cached registers.** In every run of commands, from the set-up of the device on the cached
    registers are those of the device and its configuration is taken, exactly if every command that is
    lost leaves the registers as they are. -/
theorem run_synced_iff (memory : Memory) (events : List Event) :
    (∀ reached, reached <+: events → (run System.step reached (.made memory)).Synced) ↔
      AlongRun EventGood System.step events (.made memory) :=
  forall_run_iff synced_step_iff events _ fun hset => absurd hset Bool.false_ne_true

/-- The set-up is delivered, and a command for the ultra mode is lost. -/
def lostMode : List Event :=
  [⟨setupMgm, ⟨fun _ => 0, 0⟩, true⟩, ⟨accuracyOpModeSet, ⟨fun _ => 3, 1⟩, false⟩]

/-- **A command that is lost leaves registers the device does not have**, and its replies are refused. -/
theorem lost_mode_unsynced :
    (¬ ∀ reached, reached <+: lostMode → (run System.step reached (.made fun _ => 0)).Synced) ∧
    let s := run System.step lostMode (.made fun _ => 0)
    (scanForReply s.registers false readConfigAndData (configReply s.memory)).invalidData = true := by
  refine ⟨fun h => ?_, by decide⟩
  have hsame := (h lostMode (List.prefix_refl _) (by decide)).1
  exact absurd (congrFun hsame 0) (by decide)

end Mgm
end Obsw
