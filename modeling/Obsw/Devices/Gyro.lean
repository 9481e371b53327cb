import Obsw.Lib.Loop

/-!
# `Devices.Gyro` — the handler of the gyroscope

`GyroHandler`: the commands it builds, how it finds out which command a reply belongs to, and what it
makes of the reply. The reply is identified by the internal state alone, so each command that is built
has to set it.
-/

namespace Obsw
namespace Gyro

/-! ## `gyrodefs` -/

abbrev DeviceCommandId := Nat

def writeConfig : DeviceCommandId := 0x00
def readConfig : DeviceCommandId := 0x01
def performSelftest : DeviceCommandId := 0x02
def readStatus : DeviceCommandId := 0x03
def gyroData : DeviceCommandId := 0x04
def spiSelect : DeviceCommandId := 0x7F
def writePower : DeviceCommandId := 0x7E
def writeRange : DeviceCommandId := 0x43
def readPmu : DeviceCommandId := 0x83

def spiModeSelect : UInt8 := 0x7F
def powerRegister : UInt8 := 0x7E
def configRegister : UInt8 := 0x42
def gyroDataCmd : UInt8 := 0x12 ||| 0x80
def readConfigCmd : UInt8 := 0x42 ||| 0x80
def readStatusCmd : UInt8 := 0x1B ||| 0x80
def selftestRegister : UInt8 := 0x6D
def powerConfig : UInt8 := 0x15
def rangeConfig : UInt8 := 0b00000100
def performSelftestCmd : UInt8 := 0b00010000
def gyroDefConfig : UInt8 := 0b00010000 ||| 0b00000111
def selftestOk : UInt8 := 0b00000010

/-- `SELF_TEST_PERIOD_SECOND`: a week. -/
def selfTestPeriodSecond : UInt32 := 604800

/-! ## The handler -/

inductive InternalStates where
  | none
  | modeSelect
  | writePower
  | readPmuStatus
  | writeRange
  | writeConfig
  | readConfig
  | performSelftest
  | readStatus
  | running
  | faulty
  deriving DecidableEq, Repr

/-- The modes in which commands are built: `_MODE_START_UP` and `MODE_NORMAL`. -/
inductive Mode where
  | startUp
  | normal
  deriving DecidableEq, Repr

/-- The return values other than `RETURN_OK`. -/
inductive Code where
  | returnFailed
  | commandNotImplemented
  | nothingToSend
  | ignoreReplyData
  | framework (code : Nat)
  deriving DecidableEq, Repr

inductive CommInterface where
  | i2c
  | spi
  deriving DecidableEq, Repr

/-- The members of the handler. `rawPacket` points to the command buffer from the first command of the
    start-up on. -/
structure Handler where
  mode : Mode
  comInterface : CommInterface
  internalState : InternalStates
  commandExecuted : Bool
  checkSelfTestRegister : Bool
  lastSelfTestSeconds : UInt32
  selfTestFailCounter : UInt8
  gyroConfiguration : UInt8 × UInt8
  commandBuffer : List UInt8
  rawPacketLen : Nat
  gyroConfigSet : UInt8 × UInt8
  gyroDataSet : UInt16 × UInt16 × UInt16
  deriving DecidableEq, Repr

/-- Write bytes to the start of the command buffer. -/
def Handler.command (bytes : List UInt8) (h : Handler) : Handler :=
  { h with commandBuffer := bytes ++ h.commandBuffer.drop bytes.length }

/-- The bytes that are sent: `rawPacketLen` of the command buffer. -/
def Handler.rawPacket (h : Handler) : List UInt8 := h.commandBuffer.take h.rawPacketLen

/-- A change of the state by an external command: in `MODE_NORMAL` only. -/
def Handler.external (state : InternalStates) (h : Handler) : Handler :=
  { h with internalState := if h.mode = .normal then state else h.internalState }

/-! ## Building commands -/

/-- The branch of `WRITE_CONFIG`. With one byte of data it ends before the state is set. -/
def buildWriteConfig (commandData : List UInt8) (h : Handler) : Handler :=
  match commandData with
  | [general] =>
    { h.command [configRegister, general] with
      gyroConfiguration := (general, h.gyroConfiguration.2)
      rawPacketLen := 2 }
  | [general, range] =>
    Handler.external .writeConfig
      { h.command [configRegister, general, range] with
        gyroConfiguration := (general, range)
        rawPacketLen := 3 }
  | _ => Handler.external .writeConfig { h.command [configRegister] with rawPacketLen := 0 }

/-- `buildCommandFromCommand`. Data that is not there is read from behind it. -/
def buildCommandFromCommand (deviceCommand : DeviceCommandId) (commandData : List UInt8)
    (behind : UInt8) (h : Handler) : Option Code × Handler :=
  if deviceCommand = writePower then
    (none, Handler.external .writePower
      { h.command [powerRegister, commandData.headD behind] with rawPacketLen := 2 })
  else if deviceCommand = writeConfig then (none, buildWriteConfig commandData h)
  else if deviceCommand = readConfig then
    (none, { (h.command [readConfigCmd, 0x00, 0x00]).external .readConfig with rawPacketLen := 3 })
  else if deviceCommand = writeRange then
    (none, Handler.external .writeRange
      { h.command [UInt8.ofNat writeRange, commandData.headD behind] with
        gyroConfiguration := (h.gyroConfiguration.1, commandData.headD behind)
        rawPacketLen := 2 })
  -- no state is set here
  else if deviceCommand = readPmu then
    (none, { h.command [UInt8.ofNat readPmu, 0x00] with rawPacketLen := 2 })
  else if deviceCommand = performSelftest then
    (none, { h.command [selftestRegister, performSelftestCmd] with rawPacketLen := 2 })
  else if deviceCommand = readStatus then
    (none, { (h.command [readStatusCmd, 0x00]).external .readStatus with rawPacketLen := 2 })
  else (some .commandNotImplemented, h)

/-- `checkSelfTest`, for the uptime if there is a core controller, and for what the divider says. The
    command it builds comes with its result. -/
def checkSelfTest (uptimeSeconds : Option UInt32) (dividerFires : Bool) (h : Handler) :
    Option Code × Option DeviceCommandId × Handler :=
  match uptimeSeconds with
  | none => (some .returnFailed, none, h)
  | some currentSecondUptime =>
    -- the difference is one of 32 bits, like the uptime
    if currentSecondUptime - h.lastSelfTestSeconds ≥ selfTestPeriodSecond then
      let built := buildCommandFromCommand performSelftest [] 0
        { h with
          internalState := .performSelftest
          checkSelfTestRegister := true
          lastSelfTestSeconds := currentSecondUptime }
      (built.1, some performSelftest, built.2)
    else if h.checkSelfTestRegister && dividerFires then
      let built := buildCommandFromCommand readStatus [] 0 { h with internalState := .readStatus }
      (built.1, some readStatus, built.2)
    else (some .returnFailed, none, h)

/-- `buildNormalDeviceCommand`. In a state other than `RUNNING` it builds nothing. -/
def buildNormalDeviceCommand (uptimeSeconds : Option UInt32) (dividerFires : Bool) (h : Handler) :
    Option Code × Option DeviceCommandId × Handler :=
  if h.internalState = .running then
    match checkSelfTest uptimeSeconds dividerFires h with
    | (some .returnFailed, _, h') =>
      (none, some gyroData, { h'.command (gyroDataCmd :: List.replicate 6 0) with rawPacketLen := 7 })
    | checked => checked
  else (none, none, h)

/-- The switch of `buildTransitionDeviceCommand`. -/
def buildTransition (h : Handler) : Option Code × Option DeviceCommandId × Handler :=
  let build := fun (id : DeviceCommandId) (data : List UInt8) (h : Handler) =>
    let built := buildCommandFromCommand id data 0 h
    (built.1, some id, built.2)
  match h.internalState with
  | .writePower => build writePower [powerConfig] h
  | .readPmuStatus => build readPmu [] h
  | .writeConfig =>
    build writeConfig [gyroDefConfig, rangeConfig]
      { h with gyroConfiguration := (gyroDefConfig, rangeConfig) }
  | .readConfig => build readConfig [] h
  | .performSelftest => build performSelftest [] h
  | .readStatus => build readStatus [] h
  | _ => (none, none, h)

/-- `buildTransitionDeviceCommand`. -/
def buildTransitionDeviceCommand (isAwaitingReply : Bool) (h : Handler) :
    Option Code × Option DeviceCommandId × Handler :=
  if isAwaitingReply then (some .nothingToSend, none, h)
  else if h.internalState = .modeSelect then
    if h.comInterface = .spi then
      (none, some spiSelect, { h.command [spiModeSelect, 0x00] with rawPacketLen := 2 })
    else buildTransition { h with internalState := .writePower }
  else buildTransition h

/-- One step of `doStartUp`: on to the next state when the command of this one is executed. -/
def Handler.advance (state : InternalStates) (h : Handler) : Handler :=
  if h.commandExecuted then { h with internalState := state, commandExecuted := false } else h

/-- `doStartUp`. -/
def doStartUp (h : Handler) : Handler :=
  match h.internalState with
  | .none => { h with internalState := .modeSelect }
  | .modeSelect => h.advance .writePower
  | .writePower => h.advance .readPmuStatus
  | .readPmuStatus => h.advance .writeConfig
  | .writeConfig => h.advance .readConfig
  | .readConfig => h.advance .performSelftest
  | .performSelftest => h.advance .readStatus
  | .readStatus =>
    if h.commandExecuted then { h with internalState := .running, mode := .normal } else h
  | _ => h

/-! ## Replies -/

/-- A state whose reply is acknowledged: executed in the start-up, and back to `RUNNING` else. -/
def Handler.acknowledge (h : Handler) : Handler :=
  if h.mode = .startUp then { h with commandExecuted := true } else { h with internalState := .running }

/-- `scanForReply`, with the id and the length it finds. `none` is `IGNORE_REPLY_DATA`. -/
def scanForReply (h : Handler) : Option (DeviceCommandId × Nat) × Handler :=
  match h.internalState with
  | .modeSelect =>
    (some (spiSelect, 2), if h.mode = .startUp then { h with commandExecuted := true } else h)
  | .writePower => (some (writePower, 2), h.acknowledge)
  | .readPmuStatus => (some (readPmu, 2), h)
  | .writeConfig => (some (writeConfig, 3), h.acknowledge)
  | .readConfig => (some (readConfig, 3), h)
  | .writeRange => (some (writeRange, 2), { h with internalState := .running })
  | .performSelftest => (some (performSelftest, 2), h.acknowledge)
  | .readStatus => (some (readStatus, 2), h)
  | .running => (some (gyroData, 7), h)
  | .none => (none, h)
  | .faulty => (none, h)

/-- What the calls of the data sets return. -/
structure PoolOutcome where
  configRead : Option Code
  configCommit : Option Code
  dataRead : Bool

/-- The branch of `READ_CONFIG`. A configuration that does not match leaves the state. -/
def interpretConfig (packet : Nat → UInt8) (o : PoolOutcome) (h : Handler) : Option Code × Handler :=
  if packet 1 = 0xff ∨ packet 2 = 0xff then (some .returnFailed, h)
  else if packet 1 = h.gyroConfiguration.1 ∧ packet 2 = h.gyroConfiguration.2 then
    match o.configRead with
    | some result => (some result, h)
    | none =>
      let h := { h with gyroConfigSet := h.gyroConfiguration }
      match o.configCommit with
      | some result => (some result, h)
      | none => (none, h.acknowledge)
  else (none, h)

/-- The branch of `READ_STATUS`. -/
def interpretStatus (packet : Nat → UInt8) (h : Handler) : Option Code × Handler :=
  if packet 1 = 0xff then (some .returnFailed, h)
  else if packet 1 &&& selftestOk = selftestOk then
    if h.mode = .startUp then (none, { h with commandExecuted := true })
    else
      (none, { h with
        selfTestFailCounter := 0
        checkSelfTestRegister := false
        internalState := .running })
  else if h.mode = .startUp then (none, h)
  else if h.selfTestFailCounter = 3 then (some .returnFailed, h)
  else (some .ignoreReplyData, { h with selfTestFailCounter := h.selfTestFailCounter + 1 })

/-- The two bytes of an angular velocity. -/
def angularVelocityBinary (low high : UInt8) : UInt16 := (high.toUInt16 <<< 8) ||| low.toUInt16

/-- `interpretDeviceReply`, for the packet and the memory behind it. -/
def interpretDeviceReply (id : DeviceCommandId) (packet : Nat → UInt8) (o : PoolOutcome)
    (h : Handler) : Option Code × Handler :=
  match h.internalState with
  | .readPmuStatus =>
    if packet 1 = 0xff then (some .returnFailed, h)
    else if id = readPmu ∧ packet 1 = 0b00000100 then (none, h.acknowledge)
    else (some .returnFailed, { h with internalState := .writePower })
  | .readConfig => interpretConfig packet o h
  | .readStatus => interpretStatus packet h
  | .running =>
    if id = gyroData ∧ o.dataRead = true then
      (none, { h with
        gyroDataSet := (angularVelocityBinary (packet 1) (packet 2),
          angularVelocityBinary (packet 3) (packet 4), angularVelocityBinary (packet 5) (packet 6)) })
    else (none, h)
  | _ => (none, h)

/-- `modeChanged`, when the handler leaves `MODE_NORMAL` and starts up again. -/
def Handler.restart (h : Handler) : Handler := { h with mode := .startUp, internalState := .none }

/-! ## Communication cycles -/

/-- What a cycle of the device handler base meets: an external command that it lets pass, with the byte
    behind its data; whether a reply is still awaited; the uptime and the divider; whether the command
    that is built is sent; the reply; and whether the reply that is found is expected though it was not
    sent for. -/
structure Cycle where
  command : Option (DeviceCommandId × List UInt8)
  behind : UInt8
  isAwaitingReply : Bool
  uptimeSeconds : Option UInt32
  dividerFires : Bool
  sends : Bool
  reply : Option (Nat → UInt8)
  expected : Bool
  pool : PoolOutcome

/-- The external command of a cycle, if it is accepted. It is read in `MODE_NORMAL` only. -/
def Cycle.readCommandQueue (i : Cycle) (h : Handler) : Option DeviceCommandId × Handler :=
  match i.command with
  | none => (none, h)
  | some (id, data) =>
    if h.mode = .normal then
      match buildCommandFromCommand id data i.behind h with
      | (none, h') => (some id, h')
      | (some _, h') => (none, h')
    else (none, h)

/-- `doStateMachine`: the start-up goes on. -/
def Handler.doStateMachine (h : Handler) : Handler := if h.mode = .startUp then doStartUp h else h

/-- The internal command of a cycle. One whose id is not set is not sent. -/
def Cycle.buildInternalCommand (i : Cycle) (h : Handler) : Option DeviceCommandId × Handler :=
  let built :=
    match h.mode with
    | .normal => buildNormalDeviceCommand i.uptimeSeconds i.dividerFires h
    | .startUp => buildTransitionDeviceCommand i.isAwaitingReply h
  (if built.1 = none then built.2.1 else none, built.2.2)

/-- The cycle up to the write: the command that is built, and the handler behind it. -/
def Cycle.perform (i : Cycle) (h : Handler) : Option DeviceCommandId × Handler :=
  match i.readCommandQueue h with
  | (some id, h') => (some id, h'.doStateMachine)
  | (none, h') => i.buildInternalCommand h'.doStateMachine

/-- The reply that is read in the cycle: there is none if no bytes are sent. -/
def Cycle.readReply (i : Cycle) (h : Handler) : Option (Nat → UInt8) :=
  if i.sends = true ∧ h.rawPacket ≠ [] then i.reply else none

/-- A reply is found, and interpreted if it belongs to the command or is expected otherwise. -/
def Cycle.parseReply (i : Cycle) (id : DeviceCommandId) (packet : Nat → UInt8) (h : Handler) : Handler :=
  match scanForReply h with
  | (none, h') => h'
  | (some (foundId, _), h') =>
    if foundId = id ∨ i.expected = true then (interpretDeviceReply foundId packet i.pool h').2 else h'

/-- A whole cycle. -/
def Handler.cycle (i : Cycle) (h : Handler) : Handler :=
  match i.perform h with
  | (none, h') => h'
  | (some id, h') =>
    match i.readReply h' with
    | none => h'
    | some packet => i.parseReply id packet h'

/-- What happens to the handler. Only a restart leaves `MODE_NORMAL`: the mode `MODE_ON`, from which the
    handler would come back to it without a start-up, is left out. -/
inductive Event where
  | cycle (i : Cycle)
  | restart

def Handler.step : Event → Handler → Handler
  | .cycle i, h => h.cycle i
  | .restart, h => h.restart

/-- The handler when it starts up for the first time. -/
def Handler.initial (gyroConfiguration : UInt8 × UInt8) : Handler where
  mode := .startUp
  comInterface := .spi
  internalState := .none
  commandExecuted := false
  checkSelfTestRegister := true
  lastSelfTestSeconds := 0
  selfTestFailCounter := 0
  gyroConfiguration := gyroConfiguration
  commandBuffer := List.replicate 12 0
  rawPacketLen := 0
  gyroConfigSet := (0, 0)
  gyroDataSet := (0, 0, 0)

end Gyro
end Obsw
