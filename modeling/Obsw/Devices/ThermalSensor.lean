import Obsw.Lib.Loop

/-!
# `Devices.ThermalSensor` — the handler of the temperature sensors

`ThermalSensorHandler` in normal operation: each cycle asks for the temperature, or for the fault byte if
the last reply had the fault bit set. The temperature is marked valid with every reply, whatever its fault
bit, and the fault byte is asked for only as long as none is known. `cycles_right_iff` says for which
replies this comes to the same.
-/

namespace Obsw
namespace ThermalSensor

open Loop

/-! ## `TSensorDefinitions` -/

abbrev DeviceCommandId := Nat

def configCmd : DeviceCommandId := 0x80
def requestConfig : DeviceCommandId := 0x00
def requestRtd : DeviceCommandId := 0x01
def requestFaultByte : DeviceCommandId := 0x07

def defaultConfig : UInt8 := 0b11000001

inductive InternalState where
  | none
  | warmup
  | configure
  | requestConfig
  | running
  | requestFaultByte
  deriving DecidableEq, Repr

/-- The variables of `ThermalSensorDataset` with their validity. The temperature is given by the code of
    the converter from which it is computed. -/
structure Variables where
  temperatureCelcius : Nat
  temperatureValid : Bool
  errorByte : UInt8
  errorByteValid : Bool
  deriving DecidableEq, Repr

/-- The members of the handler, with the data set, its own validity, and the pool it is read from and
    committed to. -/
structure Handler where
  internalState : InternalState
  commandExecuted : Bool
  faultByte : UInt8
  sensorDataset : Variables
  datasetValid : Bool
  pool : Variables
  deriving DecidableEq, Repr

/-- The return values other than `RETURN_OK`. -/
inductive Code where
  | nothingToSend
  | noCommandData
  | commandNotImplemented
  | framework (code : Nat)
  deriving DecidableEq, Repr

/-! ## Building commands -/

/-- `buildCommandFromCommand`, with the packet. -/
def buildCommandFromCommand (deviceCommand : DeviceCommandId) (commandData : List UInt8) :
    Except Code (List UInt8) :=
  if deviceCommand = configCmd then
    match commandData with
    | [config] => .ok [UInt8.ofNat configCmd, config]
    | _ => .error .noCommandData
  else if deviceCommand = requestConfig then .ok [0x00, UInt8.ofNat requestConfig]
  else if deviceCommand = requestRtd then .ok [UInt8.ofNat requestRtd, 0x00, 0x00]
  else if deviceCommand = requestFaultByte then .ok [UInt8.ofNat requestFaultByte, 0x00]
  else .error .commandNotImplemented

/-- `buildNormalDeviceCommand`, with the command. -/
def buildNormalDeviceCommand (h : Handler) : Except Code (DeviceCommandId × List UInt8) :=
  match h.internalState with
  | .running => (buildCommandFromCommand requestRtd []).map fun packet => (requestRtd, packet)
  | .requestFaultByte =>
    (buildCommandFromCommand requestFaultByte []).map fun packet => (requestFaultByte, packet)
  | _ => .error .nothingToSend

/-! ## Replies -/

def rtdReplySize : Nat := 3

def configReplySize : Nat := 2

/-- `scanForReply`, with the command and the length it finds, if it finds one. -/
def scanForReply (remainingSize : Nat) (h : Handler) : Option (DeviceCommandId × Nat) × Handler :=
  if remainingSize = rtdReplySize ∧ h.internalState = .running then
    (some (requestRtd, rtdReplySize), h)
  else if remainingSize = configReplySize then
    match h.internalState with
    | .configure => (some (configCmd, configReplySize), { h with commandExecuted := true })
    | .requestFaultByte => (some (requestFaultByte, 2), { h with internalState := .running })
    | _ => (some (requestConfig, configReplySize), h)
  else (none, h)

/-- The fault bit of an RTD reply is set. -/
def faultBit (packet : List UInt8) : Bool := packet.getD 2 0 &&& 0b00000001 = 1

/-- What the data set returns when it is read and committed: nothing, or a code. -/
structure PoolOutcome where
  read : Option Nat
  commit : Option Nat

/-- Read the data set, change it and commit it. -/
def Handler.updateDataset (o : PoolOutcome) (change : Handler → Variables) (h : Handler) :
    Option Code × Handler :=
  match o.read with
  | some code => (some (.framework code), h)
  | none =>
    let h := { h with sensorDataset := h.pool }
    let h := { h with sensorDataset := change h }
    match o.commit with
    | some code => (some (.framework code), h)
    | none => (none, { h with pool := h.sensorDataset })

/-- The branch of `REQUEST_CONFIG`. -/
def interpretConfig (packet : List UInt8) (h : Handler) : Option Code × Handler :=
  if packet.getD 1 0 ≠ defaultConfig then (none, h)
  else if h.internalState = .requestConfig then (none, { h with commandExecuted := true })
  else (none, h)

/-- The code of the converter: the two bytes without the fault bit. -/
def adcCode (packet : List UInt8) : Nat := ((packet.getD 1 0).toNat * 256 + (packet.getD 2 0).toNat) / 2

/-- The branch of `REQUEST_RTD`. -/
def interpretRtd (packet : List UInt8) (o : PoolOutcome) (h : Handler) : Option Code × Handler :=
  let h :=
    if faultBit packet ∧ h.faultByte = 0 then { h with internalState := .requestFaultByte } else h
  h.updateDataset o fun h =>
    { h.sensorDataset with
      temperatureValid := if h.datasetValid then h.sensorDataset.temperatureValid else true
      temperatureCelcius := adcCode packet }

/-- The branch of `REQUEST_FAULT_BYTE`. -/
def interpretFaultByte (packet : List UInt8) (o : PoolOutcome) (h : Handler) : Option Code × Handler :=
  let h := { h with faultByte := packet.getD 1 0 }
  h.updateDataset o fun h =>
    { h.sensorDataset with
      errorByteValid := true
      errorByte := h.faultByte
      temperatureValid := if h.faultByte ≠ 0 then false else h.sensorDataset.temperatureValid }

/-- `interpretDeviceReply`. -/
def interpretDeviceReply (id : DeviceCommandId) (packet : List UInt8) (o : PoolOutcome) (h : Handler) :
    Option Code × Handler :=
  if id = requestConfig then interpretConfig packet h
  else if id = requestRtd then interpretRtd packet o h
  else if id = requestFaultByte then interpretFaultByte packet o h
  else (none, h)

/-! ## Cycles -/

/-- What a cycle meets: the reply to its command, if one comes, and the results of the data set. -/
structure Cycle where
  reply : Option (List UInt8)
  outcome : PoolOutcome

/-- A cycle in normal operation. The command changes nothing in the handler. -/
def step (c : Cycle) (h : Handler) : Handler :=
  match c.reply with
  | none => h
  | some packet =>
    match scanForReply packet.length h with
    | (none, h') => h'
    | (some (id, _), h') => (interpretDeviceReply id packet c.outcome h').2

/-- The command that the next cycle sends. -/
def Handler.requests (h : Handler) : Option DeviceCommandId :=
  match buildNormalDeviceCommand h with
  | .ok (id, _) => some id
  | .error _ => none

/-- The cycle has an RTD reply, which is asked for. -/
def Cycle.RtdReply (c : Cycle) (packet : List UInt8) (h : Handler) : Prop :=
  c.reply = some packet ∧ h.internalState = .running ∧ packet.length = rtdReplySize

/-- The cycle has the reply with the fault byte. -/
def Cycle.FaultByteReply (c : Cycle) (packet : List UInt8) (h : Handler) : Prop :=
  c.reply = some packet ∧ h.internalState = .requestFaultByte ∧ packet.length = configReplySize

/-- The temperature is valid behind an RTD reply only if its fault bit is clear; a reply with the fault
    bit set is followed by a request of the fault byte, and this reply by RTD requests. -/
structure CycleRight (c : Cycle) (h : Handler) : Prop where
  valid : ∀ packet, c.RtdReply packet h → (step c h).sensorDataset.temperatureValid = true →
    faultBit packet = false
  fault : ∀ packet, c.RtdReply packet h → faultBit packet = true →
    (step c h).requests = some requestFaultByte
  resumed : ∀ packet, c.FaultByteReply packet h → (step c h).requests = some requestRtd

/-- An RTD reply has its fault bit clear, or no fault byte is known and the temperature stays invalid:
    because the data set cannot be read, or is valid itself. -/
def CycleGood (c : Cycle) (h : Handler) : Prop :=
  ∀ packet, c.RtdReply packet h → faultBit packet = true →
    h.faultByte = 0 ∧
      if c.outcome.read = none then h.datasetValid = true ∧ h.pool.temperatureValid = false
      else h.sensorDataset.temperatureValid = false

/-! ## One cycle -/

section Cycle

variable {c : Cycle} {h : Handler} {packet : List UInt8}

@[simp] theorem requests_running (hstate : h.internalState = .running) :
    h.requests = some requestRtd := by
  rw [Handler.requests, buildNormalDeviceCommand, hstate]
  rfl

@[simp] theorem requests_requestFaultByte (hstate : h.internalState = .requestFaultByte) :
    h.requests = some requestFaultByte := by
  rw [Handler.requests, buildNormalDeviceCommand, hstate]
  rfl

theorem internalState_updateDataset (o : PoolOutcome) (change : Handler → Variables) (h : Handler) :
    (h.updateDataset o change).2.internalState = h.internalState := by
  unfold Handler.updateDataset
  cases o.read with
  | some code => rfl
  | none => cases o.commit <;> rfl

/-- What the data set holds behind an update, however the commit ends. -/
theorem sensorDataset_updateDataset (o : PoolOutcome) (change : Handler → Variables) (h : Handler) :
    (h.updateDataset o change).2.sensorDataset =
      if o.read = none then change { h with sensorDataset := h.pool } else h.sensorDataset := by
  unfold Handler.updateDataset
  cases o.read with
  | some code => rfl
  | none => cases o.commit <;> rfl

theorem step_rtdReply (hreply : c.RtdReply packet h) :
    step c h = (interpretRtd packet c.outcome h).2 := by
  obtain ⟨hpacket, hstate, hlength⟩ := hreply
  rw [step, hpacket]
  dsimp only
  rw [scanForReply, if_pos ⟨hlength, hstate⟩]
  rfl

theorem step_faultByteReply (hreply : c.FaultByteReply packet h) :
    step c h = (interpretFaultByte packet c.outcome { h with internalState := .running }).2 := by
  obtain ⟨hpacket, hstate, hlength⟩ := hreply
  have hscan : scanForReply packet.length h =
      (some (requestFaultByte, 2), { h with internalState := .running }) := by
    rw [scanForReply, if_neg (fun hrtd => by rw [hstate] at hrtd; cases hrtd.2), if_pos hlength, hstate]
  rw [step, hpacket]
  dsimp only
  rw [hscan]
  rfl

/-- The fault byte is asked for if there is none. -/
theorem internalState_interpretRtd (packet : List UInt8) (o : PoolOutcome) (h : Handler) :
    (interpretRtd packet o h).2.internalState =
      if faultBit packet ∧ h.faultByte = 0 then .requestFaultByte else h.internalState := by
  rw [interpretRtd, internalState_updateDataset]
  split <;> rfl

/-- The temperature is valid whatever the fault bit. -/
theorem temperatureValid_interpretRtd (packet : List UInt8) (o : PoolOutcome) (h : Handler) :
    (interpretRtd packet o h).2.sensorDataset.temperatureValid =
      if o.read = none then (if h.datasetValid then h.pool.temperatureValid else true)
      else h.sensorDataset.temperatureValid := by
  rw [interpretRtd, sensorDataset_updateDataset]
  by_cases hread : o.read = none
  · rw [if_pos hread, if_pos hread]
    split <;> rfl
  · rw [if_neg hread, if_neg hread]
    split <;> rfl

/-- **RTD requests are resumed** with the fault byte. -/
theorem requests_of_faultByteReply (hreply : c.FaultByteReply packet h) :
    (step c h).requests = some requestRtd := by
  apply requests_running
  rw [step_faultByteReply hreply, interpretFaultByte, internalState_updateDataset]

/-- The fault byte is asked for exactly if none is known. -/
theorem requests_of_fault_iff (hreply : c.RtdReply packet h) (hfault : faultBit packet = true) :
    (step c h).requests = some requestFaultByte ↔ h.faultByte = 0 := by
  have hstate := internalState_interpretRtd packet c.outcome h
  rw [← step_rtdReply hreply] at hstate
  by_cases hknown : h.faultByte = 0
  · rw [if_pos ⟨hfault, hknown⟩] at hstate
    exact iff_of_true (requests_requestFaultByte hstate) hknown
  · rw [if_neg fun hboth => hknown hboth.2, hreply.2.1] at hstate
    refine iff_of_false (fun hrequests => ?_) hknown
    rw [requests_running hstate] at hrequests
    cases hrequests

/-- The temperature stays invalid exactly if it is and nothing makes it valid. -/
theorem invalid_of_rtdReply_iff (hreply : c.RtdReply packet h) :
    (step c h).sensorDataset.temperatureValid = false ↔
      if c.outcome.read = none then h.datasetValid = true ∧ h.pool.temperatureValid = false
      else h.sensorDataset.temperatureValid = false := by
  rw [step_rtdReply hreply, temperatureValid_interpretRtd]
  by_cases hread : c.outcome.read = none
  · rw [if_pos hread, if_pos hread]
    cases h.datasetValid with
    | true => simp
    | false => simp
  · rw [if_neg hread, if_neg hread]

end Cycle

/-- **One cycle.** -/
theorem cycleRight_iff (c : Cycle) (h : Handler) : CycleRight c h ↔ CycleGood c h := by
  constructor
  · intro hright packet hreply hfault
    refine ⟨(requests_of_fault_iff hreply hfault).mp (hright.fault packet hreply hfault), ?_⟩
    rw [← invalid_of_rtdReply_iff hreply, ← Bool.not_eq_true]
    intro hvalid
    have hclear := hright.valid packet hreply hvalid
    rw [hfault] at hclear
    cases hclear
  · intro hgood
    refine ⟨fun packet hreply hvalid => ?_, fun packet hreply hfault => ?_,
      fun packet => requests_of_faultByteReply⟩
    · by_contra hfault
      have hinvalid := (invalid_of_rtdReply_iff hreply).mpr
        (hgood packet hreply (Bool.not_eq_false _ ▸ hfault)).2
      rw [hvalid] at hinvalid
      cases hinvalid
    · exact (requests_of_fault_iff hreply hfault).mpr (hgood packet hreply hfault).1

/-- **The temperature sensors.** Along every sequence of replies, the validity of the temperature and the
    requests are right exactly if no RTD reply with the fault bit set comes to a handler that knows a
    fault byte already or makes the temperature valid. -/
theorem cycles_right_iff (h : Handler) (cycles : List Cycle) :
    AlongRun CycleRight step cycles h ↔ AlongRun CycleGood step cycles h :=
  alongRun_congr cycleRight_iff cycles h

/-- The handler behind its start-up. -/
def started : Handler := ⟨.running, false, 0, ⟨0, false, 0, false⟩, false, ⟨0, true, 0, false⟩⟩

/-- A reply, with a data set that can be read and committed. -/
def Cycle.received (packet : List UInt8) : Cycle := ⟨some packet, none, none⟩

/-- Two faults with the fault byte between them. -/
def twoFaults : List Cycle := [.received [0, 0, 1], .received [0, 4], .received [0, 0, 1]]

/-- **A temperature with the fault bit set is valid**, and the second fault is not looked at. -/
theorem fault_gives_valid_temperature :
    ¬ AlongRun CycleRight step twoFaults started ∧
      (step (.received [0, 0, 1]) started).sensorDataset.temperatureValid = true ∧
      (run step twoFaults started).requests = some requestRtd := by
  refine ⟨fun h => ?_, rfl, rfl⟩
  exact absurd (h.1.valid [0, 0, 1] ⟨rfl, rfl, rfl⟩ rfl) (by decide)

end ThermalSensor
end Obsw
