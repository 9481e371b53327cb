import Mathlib.Logic.Function.Basic
import Obsw.Devices.Gps

/-!
# `Devices.GpsCommands` — commands for the GPS receiver

Each command has a packet builder, which puts its parameters into the buffer for the frame, and
`buildCommandFromCommand` closes the frame around them. What a builder returns goes through a variable of
eight bits, and the ranges are not always those of the parameters: `command_right_iff` says for which
commands the result is right. The frames themselves are closed as those of the receiver have to be
(`closed_frame`).
-/

namespace Obsw
namespace Gps

open Reads

/-! ## Return values -/

abbrev ReturnValue := UInt16

def returnOk : ReturnValue := 0

def returnFailed : ReturnValue := 1

def commandNotImplemented : ReturnValue := 0x26AA

def invalidCommandParameter : ReturnValue := 0x26D0

def invalidNumberOrLengthOfParameters : ReturnValue := 0x26D1

/-! ## The packet builders -/

/-- A device command by its number, `DeviceCommandId_t`. -/
abbrev CommandId := Nat

def restartDevice : CommandId := 0x1

def setGpsBaudrate : CommandId := 0x5

def setGpsMessageType : CommandId := 0x9

def setGpsUpdateRate : CommandId := 0xE

/-- `commandBuffer`. -/
abbrev Buffer := Nat → UInt8

/-- The data of a command: a pointer, which may be null, and a length. -/
structure CommandData where
  bytes : Option (Nat → UInt8)
  len : Nat

/-- `buildMessageTypeSelectCommand`. `none`: a null pointer is followed. -/
def buildMessageTypeSelectCommand (d : CommandData) (b : Buffer) : Option (ReturnValue × Buffer) :=
  if d.len ≠ 2 then some (invalidNumberOrLengthOfParameters, b)
  else
    match d.bytes with
    | none => none
    | some messageType =>
      if messageType 0 > 2 then some (invalidCommandParameter, b)
      else
        let b := Function.update b 5 (messageType 0)
        if messageType 1 > 2 then some (invalidCommandParameter, b)
        else some (returnOk, Function.update b 6 (messageType 1))

/-- `buildBaudSelectCommand`. The communication port is 0. -/
def buildBaudSelectCommand (d : CommandData) (b : Buffer) : Option (ReturnValue × Buffer) :=
  if d.len ≠ 2 then some (invalidNumberOrLengthOfParameters, b)
  else
    match d.bytes with
    | none => some (returnFailed, b)
    | some baudRate =>
      let b := Function.update b 5 0
      if baudRate 0 > 8 then some (invalidCommandParameter, b)
      else
        let b := Function.update b 6 (baudRate 0)
        if baudRate 1 > 3 then some (invalidCommandParameter, b)
        else some (returnOk, Function.update b 7 (baudRate 1))

/-- `buildGpsUpdateRateCommand`. The rate is compared with 50, and the pointer to it with zero. -/
def buildGpsUpdateRateCommand (d : CommandData) (b : Buffer) : Option (ReturnValue × Buffer) :=
  if d.len ≠ 2 then some (invalidNumberOrLengthOfParameters, b)
  else
    match d.bytes with
    | none => some (returnFailed, b)
    | some updateRate =>
      if updateRate 0 > 50 then some (invalidCommandParameter, b)
      else
        let b := Function.update b 5 (updateRate 0)
        if updateRate 1 > 2 then some (invalidCommandParameter, b)
        else some (returnOk, Function.update b 6 (updateRate 1))

/-- The length of the payload for a command, and its builder. There is none for a restart yet. -/
def packetBuilder (deviceCommand : CommandId) :
    Option (Nat × (CommandData → Buffer → Option (ReturnValue × Buffer))) :=
  if deviceCommand = setGpsUpdateRate then some (3, buildGpsUpdateRateCommand)
  else if deviceCommand = setGpsMessageType then some (3, buildMessageTypeSelectCommand)
  else if deviceCommand = setGpsBaudrate then some (4, buildBaudSelectCommand)
  else if deviceCommand = restartDevice then some (0, fun _ b => some (returnOk, b))
  else none

/-- `prepareGpsCommandHeaderAndTail`, with the size of the frame. -/
def prepareGpsCommandHeaderAndTail (deviceCommand : CommandId) (payloadLength : Nat) (b : Buffer) :
    Buffer × Nat :=
  let b := Function.update b 0 0xA0
  let b := Function.update b 1 0xA1
  let b := Function.update b 2 (UInt8.ofNat (payloadLength / 256))
  let b := Function.update b 3 (UInt8.ofNat payloadLength)
  let b := Function.update b 4 (UInt8.ofNat deviceCommand)
  let size := binaryHeaderSize + payloadLength
  let b := Function.update b size ((calcChecksum binaryHeaderSize payloadLength).run b)
  let b := Function.update b (size + 1) 0x0D
  let b := Function.update b (size + 2) 0x0A
  (b, size + 3)

/-- What `buildCommandFromCommand` returns, and the packet it sets, if any. -/
structure Built where
  result : ReturnValue
  rawPacket : Option (List UInt8)
  deriving DecidableEq

/-- `buildCommandFromCommand`. The result of the builder is kept in a `uint8_t`. -/
def buildCommandFromCommand (deviceCommand : CommandId) (d : CommandData) (b : Buffer) : Option Built :=
  match packetBuilder deviceCommand with
  | none => some ⟨commandNotImplemented, none⟩
  | some (payloadLength, build) =>
    match build d b with
    | none => none
    | some (result, b) =>
      let frame := prepareGpsCommandHeaderAndTail deviceCommand payloadLength b
      some ⟨result.toUInt8.toUInt16, some ((List.range frame.2).map frame.1)⟩

/-- The packet that is handed to the communication interface. The base class sends it if and only if the
    command was built. -/
def Built.handed (built : Built) : Option (List UInt8) :=
  if built.result = returnOk then built.rawPacket else none

/-! ## What is promised -/

/-- The parameters have been read and are in their ranges: update rates from 1 to 50, and the values of
    `messageType`, `baudRateSelect` and `attributes`. Those of a restart are never read. -/
def ParametersValid (deviceCommand : CommandId) (d : CommandData) : Prop :=
  ∃ parameters, d.bytes = some parameters ∧ d.len = 2 ∧ parameters 1 ≤ 2 ∧
    (deviceCommand = setGpsUpdateRate ∧ 0 < parameters 0 ∧ parameters 0 ≤ 50 ∨
      deviceCommand = setGpsMessageType ∧ parameters 0 ≤ 2 ∨
      deviceCommand = setGpsBaudrate ∧ parameters 0 ≤ 8)

/-- The return value is that of the builder, and a packet is handed on only with valid parameters. -/
def CommandRight (deviceCommand : CommandId) (d : CommandData) (b : Buffer) : Prop :=
  ∃ built, buildCommandFromCommand deviceCommand d b = some built ∧
    (∀ payloadLength build, packetBuilder deviceCommand = some (payloadLength, build) →
      (build d b).map Prod.fst = some built.result) ∧
    (built.handed ≠ none → ParametersValid deviceCommand d)

/-- The command is not known, or its parameters are valid, or there are none where the builder looks for
    a null pointer. -/
def CommandGood (deviceCommand : CommandId) (d : CommandData) : Prop :=
  packetBuilder deviceCommand = none ∨ ParametersValid deviceCommand d ∨
    d.bytes = none ∧ d.len = 2 ∧ (deviceCommand = setGpsUpdateRate ∨ deviceCommand = setGpsBaudrate)

/-! ## The frames -/

/-- The header of a frame, in front of what `prepareGpsCommandHeaderAndTail` puts behind the payload. -/
def header (deviceCommand : CommandId) (payloadLength : Nat) (b : Buffer) : Buffer :=
  Function.update (Function.update (Function.update (Function.update (Function.update b 0 0xA0) 1 0xA1) 2
    (UInt8.ofNat (payloadLength / 256))) 3 (UInt8.ofNat payloadLength)) 4 (UInt8.ofNat deviceCommand)

section Frames

variable (deviceCommand : CommandId) (payloadLength : Nat) (b : Buffer)

theorem frame_size : (prepareGpsCommandHeaderAndTail deviceCommand payloadLength b).2 =
    payloadLength + binaryHeaderAndTailSize := by
  show 4 + payloadLength + 3 = payloadLength + 7
  omega

/-- The payload is left as it is. -/
theorem frame_payload {index : Nat} (hindex : index < 4 + payloadLength) :
    (prepareGpsCommandHeaderAndTail deviceCommand payloadLength b).1 index =
      header deviceCommand payloadLength b index := by
  unfold prepareGpsCommandHeaderAndTail
  dsimp only
  rw [Function.update_of_ne (by rw [binaryHeaderSize]; omega),
    Function.update_of_ne (by rw [binaryHeaderSize]; omega),
    Function.update_of_ne (by rw [binaryHeaderSize]; omega), header]

theorem frame_checksum :
    (prepareGpsCommandHeaderAndTail deviceCommand payloadLength b).1 (binaryHeaderSize + payloadLength) =
      (calcChecksum binaryHeaderSize payloadLength).run (header deviceCommand payloadLength b) := by
  unfold prepareGpsCommandHeaderAndTail
  dsimp only
  rw [Function.update_of_ne (by omega), Function.update_of_ne (by omega), Function.update_self, header]

theorem frame_end :
    word ((prepareGpsCommandHeaderAndTail deviceCommand payloadLength b).1
        (binaryHeaderSize + payloadLength + 1))
      ((prepareGpsCommandHeaderAndTail deviceCommand payloadLength b).1
        (binaryHeaderSize + payloadLength + 2)) = endOfSequence := by
  unfold prepareGpsCommandHeaderAndTail
  dsimp only
  rw [Function.update_self, Function.update_of_ne (by omega), Function.update_self]
  rfl

/-- The length is announced as it is. -/
theorem frame_announced (hlength : payloadLength < 65536) :
    announced (prepareGpsCommandHeaderAndTail deviceCommand payloadLength b).1 = payloadLength := by
  have hhigh : header deviceCommand payloadLength b 2 = UInt8.ofNat (payloadLength / 256) := rfl
  have hlow : header deviceCommand payloadLength b 3 = UInt8.ofNat payloadLength := rfl
  rw [announced, frame_payload _ _ _ (by omega), frame_payload _ _ _ (by omega), hhigh, hlow, word,
    UInt8.toNat_ofNat', UInt8.toNat_ofNat']
  omega

/-- **Frames are closed** as those of the receiver have to be. -/
theorem closed_frame (hlength : payloadLength < 65536) :
    Closed (prepareGpsCommandHeaderAndTail deviceCommand payloadLength b).1
      (prepareGpsCommandHeaderAndTail deviceCommand payloadLength b).2 := by
  have hannounced := frame_announced deviceCommand payloadLength b hlength
  have hsize : announced (prepareGpsCommandHeaderAndTail deviceCommand payloadLength b).1 +
      binaryHeaderAndTailSize = (prepareGpsCommandHeaderAndTail deviceCommand payloadLength b).2 := by
    rw [hannounced, frame_size]
  constructor
  · exact Nat.le_of_eq hsize
  · rw [hannounced, frame_checksum, run_calcChecksum]
    refine congrArg checksumOf (List.map_congr_left fun i hi => ?_)
    have hindex : binaryHeaderSize + i < 4 + payloadLength :=
      Nat.add_lt_add_left (List.mem_range.mp hi) 4
    exact (frame_payload deviceCommand payloadLength b hindex).symm
  · rw [hannounced]
    exact frame_end deviceCommand payloadLength b

end Frames

/-! ## One command -/

section Command

variable {deviceCommand : CommandId} {d : CommandData} {b b' : Buffer} {payloadLength : Nat}
  {build : CommandData → Buffer → Option (ReturnValue × Buffer)} {result : ReturnValue}

/-- A builder that follows a null pointer returns nothing. -/
theorem not_commandRight_of_none (hbuilder : packetBuilder deviceCommand = some (payloadLength, build))
    (hbuild : build d b = none) : ¬ CommandRight deviceCommand d b := by
  rintro ⟨built, hbuilt, -, -⟩
  rw [buildCommandFromCommand, hbuilder] at hbuilt
  dsimp only at hbuilt
  rw [hbuild] at hbuilt
  cases hbuilt

/-- **The result of a builder** is returned if it fits into eight bits. -/
theorem commandRight_iff_of_some (hbuilder : packetBuilder deviceCommand = some (payloadLength, build))
    (hbuild : build d b = some (result, b')) : CommandRight deviceCommand d b ↔
      result.toUInt8.toUInt16 = result ∧ (result = returnOk → ParametersValid deviceCommand d) := by
  have hbuilt : buildCommandFromCommand deviceCommand d b = some ⟨result.toUInt8.toUInt16,
      some ((List.range (prepareGpsCommandHeaderAndTail deviceCommand payloadLength b').2).map
        (prepareGpsCommandHeaderAndTail deviceCommand payloadLength b').1)⟩ := by
    rw [buildCommandFromCommand, hbuilder]
    dsimp only
    rw [hbuild]
  constructor
  · rintro ⟨built, hbuilt', hexact, hhanded⟩
    obtain rfl := Option.some.inj (hbuilt.symm.trans hbuilt')
    have hresult := hexact payloadLength build hbuilder
    rw [hbuild] at hresult
    have hfits : result = result.toUInt8.toUInt16 := Option.some.inj hresult
    refine ⟨hfits.symm, fun hok => hhanded ?_⟩
    rw [Built.handed, if_pos (hfits.symm.trans hok)]
    exact fun h => nomatch h
  · rintro ⟨hfits, hvalid⟩
    refine ⟨_, hbuilt, fun p build' hsome => ?_, fun hhanded => ?_⟩
    · obtain ⟨rfl, rfl⟩ := Prod.mk.inj (Option.some.inj (hbuilder.symm.trans hsome))
      rw [hbuild]
      exact congrArg some hfits.symm
    · by_cases hok : result.toUInt8.toUInt16 = returnOk
      · exact hvalid (hfits.symm.trans hok)
      · rw [Built.handed, if_neg hok] at hhanded
        exact absurd rfl hhanded

/-- The codes of the base class do not fit into eight bits. -/
theorem not_commandRight_of_cut (hbuilder : packetBuilder deviceCommand = some (payloadLength, build))
    (hbuild : build d b = some (result, b')) (hcut : result.toUInt8.toUInt16 ≠ result) :
    ¬ CommandRight deviceCommand d b := by
  rw [commandRight_iff_of_some hbuilder hbuild]
  exact fun h => hcut h.1

/-- Parameters of the right length that are not valid. -/
theorem not_commandGood_of_some (hknown : packetBuilder deviceCommand ≠ none)
    (hbytes : d.bytes ≠ none) (hvalid : ¬ ParametersValid deviceCommand d) :
    ¬ CommandGood deviceCommand d := by
  rintro (h | h | ⟨h, -⟩)
  · exact hknown h
  · exact hvalid h
  · exact hbytes h

/-- Data of another length. -/
theorem not_commandGood_of_len (hknown : packetBuilder deviceCommand ≠ none) (hlen : d.len ≠ 2) :
    ¬ CommandGood deviceCommand d := by
  rintro (h | ⟨_, -, h, -⟩ | ⟨-, h, -⟩)
  · exact hknown h
  · exact hlen h
  · exact hlen h

theorem known_of_builder (hbuilder : packetBuilder deviceCommand = some (payloadLength, build)) :
    packetBuilder deviceCommand ≠ none := by
  rw [hbuilder]
  exact fun h => nomatch h

/-- Where the builder has taken the parameters, being right is their being valid. -/
theorem commandRight_iff_good_of_ok (hbuilder : packetBuilder deviceCommand = some (payloadLength, build))
    (hbuild : build d b = some (returnOk, b')) (hbytes : d.bytes ≠ none) :
    CommandRight deviceCommand d b ↔ CommandGood deviceCommand d := by
  have hknown := known_of_builder hbuilder
  rw [commandRight_iff_of_some hbuilder hbuild]
  constructor
  · exact fun h => Or.inr (Or.inl (h.2 rfl))
  · intro h
    refine ⟨rfl, fun _ => ?_⟩
    by_contra hvalid
    exact not_commandGood_of_some hknown hbytes hvalid h

/-- A null pointer that the builder has found. -/
theorem commandRight_of_failed (hbuilder : packetBuilder deviceCommand = some (payloadLength, build))
    (hbuild : build d b = some (returnFailed, b')) : CommandRight deviceCommand d b :=
  (commandRight_iff_of_some hbuilder hbuild).mpr ⟨rfl, fun h => absurd h (by decide)⟩

end Command

section Commands

variable {d : CommandData} {b : Buffer}

theorem cut_invalidNumber :
    invalidNumberOrLengthOfParameters.toUInt8.toUInt16 ≠ invalidNumberOrLengthOfParameters := by decide

theorem cut_invalidParameter : invalidCommandParameter.toUInt8.toUInt16 ≠ invalidCommandParameter := by
  decide

/-- Data of another length is refused with a code that is cut. -/
theorem right_iff_good_of_len {deviceCommand : CommandId} {payloadLength : Nat}
    {build : CommandData → Buffer → Option (ReturnValue × Buffer)}
    (hbuilder : packetBuilder deviceCommand = some (payloadLength, build)) (hlen : d.len ≠ 2)
    (hbuild : build d b = some (invalidNumberOrLengthOfParameters, b)) :
    CommandRight deviceCommand d b ↔ CommandGood deviceCommand d := by
  exact iff_of_false (not_commandRight_of_cut hbuilder hbuild cut_invalidNumber)
    (not_commandGood_of_len (known_of_builder hbuilder) hlen)

/-- So are parameters that are not valid. -/
theorem right_iff_good_of_invalid {deviceCommand : CommandId} {payloadLength : Nat} {b' : Buffer}
    {build : CommandData → Buffer → Option (ReturnValue × Buffer)}
    (hbuilder : packetBuilder deviceCommand = some (payloadLength, build)) (hbytes : d.bytes ≠ none)
    (hvalid : ¬ ParametersValid deviceCommand d)
    (hbuild : build d b = some (invalidCommandParameter, b')) :
    CommandRight deviceCommand d b ↔ CommandGood deviceCommand d := by
  exact iff_of_false (not_commandRight_of_cut hbuilder hbuild cut_invalidParameter)
    (not_commandGood_of_some (known_of_builder hbuilder) hbytes hvalid)

/-- A builder with two checks, each of which finds only parameters that are not valid. -/
theorem right_iff_good_of_checks {deviceCommand : CommandId} {payloadLength : Nat} {b₁ b₂ b' : Buffer}
    {build : CommandData → Buffer → Option (ReturnValue × Buffer)} {first second : Prop}
    [Decidable first] [Decidable second]
    (hbuilder : packetBuilder deviceCommand = some (payloadLength, build)) (hbytes : d.bytes ≠ none)
    (hfirst : first → ¬ ParametersValid deviceCommand d)
    (hsecond : second → ¬ ParametersValid deviceCommand d)
    (hbuild : build d b = if first then some (invalidCommandParameter, b₁)
      else if second then some (invalidCommandParameter, b₂) else some (returnOk, b')) :
    CommandRight deviceCommand d b ↔ CommandGood deviceCommand d := by
  by_cases h₁ : first
  · rw [if_pos h₁] at hbuild
    exact right_iff_good_of_invalid hbuilder hbytes (hfirst h₁) hbuild
  · rw [if_neg h₁] at hbuild
    by_cases h₂ : second
    · rw [if_pos h₂] at hbuild
      exact right_iff_good_of_invalid hbuilder hbytes (hsecond h₂) hbuild
    · rw [if_neg h₂] at hbuild
      exact commandRight_iff_good_of_ok hbuilder hbuild hbytes

theorem not_valid_of_attributes (deviceCommand : CommandId) {parameters : Nat → UInt8}
    (hbytes : d.bytes = some parameters) (hattributes : 2 < parameters 1) :
    ¬ ParametersValid deviceCommand d := by
  rintro ⟨parameters', hparameters, -, hle, -⟩
  obtain rfl := Option.some.inj (hbytes.symm.trans hparameters)
  exact UInt8.not_lt.mpr hle hattributes

theorem updateRate_right_iff (d : CommandData) (b : Buffer) :
    CommandRight setGpsUpdateRate d b ↔ CommandGood setGpsUpdateRate d := by
  have hbuilder : packetBuilder setGpsUpdateRate = some (3, buildGpsUpdateRateCommand) := rfl
  by_cases hlen : d.len ≠ 2
  · exact right_iff_good_of_len hbuilder hlen (if_pos hlen)
  · have hbuild : buildGpsUpdateRateCommand d b = _ := if_neg hlen
    cases hbytes : d.bytes with
    | none =>
        rw [hbytes] at hbuild
        exact iff_of_true (commandRight_of_failed hbuilder hbuild)
          (Or.inr (Or.inr ⟨hbytes, not_not.mp hlen, Or.inl rfl⟩))
    | some updateRate =>
        have hsome : d.bytes ≠ none := by rw [hbytes]; exact fun h => nomatch h
        rw [hbytes] at hbuild
        dsimp only at hbuild
        refine right_iff_good_of_checks hbuilder hsome ?_ ?_ hbuild
        · rintro hrate ⟨parameters, hparameters, -, -, ⟨-, -, hle⟩ | ⟨hid, -⟩ | ⟨hid, -⟩⟩
          · obtain rfl := Option.some.inj (hbytes.symm.trans hparameters)
            exact UInt8.not_lt.mpr hle hrate
          · exact absurd hid (by decide)
          · exact absurd hid (by decide)
        · intro hattributes
          exact not_valid_of_attributes setGpsUpdateRate hbytes hattributes

theorem messageType_right_iff (d : CommandData) (b : Buffer) :
    CommandRight setGpsMessageType d b ↔ CommandGood setGpsMessageType d := by
  have hbuilder : packetBuilder setGpsMessageType = some (3, buildMessageTypeSelectCommand) := rfl
  by_cases hlen : d.len ≠ 2
  · exact right_iff_good_of_len hbuilder hlen (if_pos hlen)
  · have hbuild : buildMessageTypeSelectCommand d b = _ := if_neg hlen
    cases hbytes : d.bytes with
    | none =>
        rw [hbytes] at hbuild
        refine iff_of_false (not_commandRight_of_none hbuilder hbuild) ?_
        rintro (h | ⟨parameters, hparameters, -⟩ | ⟨-, -, h | h⟩)
        · rw [hbuilder] at h
          cases h
        · rw [hbytes] at hparameters
          cases hparameters
        · exact absurd h (by decide)
        · exact absurd h (by decide)
    | some messageType =>
        have hsome : d.bytes ≠ none := by rw [hbytes]; exact fun h => nomatch h
        rw [hbytes] at hbuild
        dsimp only at hbuild
        refine right_iff_good_of_checks hbuilder hsome ?_ ?_ hbuild
        · rintro htype ⟨parameters, hparameters, -, -, ⟨hid, -⟩ | ⟨-, hle⟩ | ⟨hid, -⟩⟩
          · exact absurd hid (by decide)
          · obtain rfl := Option.some.inj (hbytes.symm.trans hparameters)
            exact UInt8.not_lt.mpr hle htype
          · exact absurd hid (by decide)
        · intro hattributes
          exact not_valid_of_attributes setGpsMessageType hbytes hattributes

/-- Here attributes of 3 are taken as well. -/
theorem baudSelect_right_iff (d : CommandData) (b : Buffer) :
    CommandRight setGpsBaudrate d b ↔ CommandGood setGpsBaudrate d := by
  have hbuilder : packetBuilder setGpsBaudrate = some (4, buildBaudSelectCommand) := rfl
  by_cases hlen : d.len ≠ 2
  · exact right_iff_good_of_len hbuilder hlen (if_pos hlen)
  · have hbuild : buildBaudSelectCommand d b = _ := if_neg hlen
    cases hbytes : d.bytes with
    | none =>
        rw [hbytes] at hbuild
        exact iff_of_true (commandRight_of_failed hbuilder hbuild)
          (Or.inr (Or.inr ⟨hbytes, not_not.mp hlen, Or.inr rfl⟩))
    | some baudRate =>
        have hsome : d.bytes ≠ none := by rw [hbytes]; exact fun h => nomatch h
        rw [hbytes] at hbuild
        dsimp only at hbuild
        refine right_iff_good_of_checks hbuilder hsome ?_ ?_ hbuild
        · rintro hselect ⟨parameters, hparameters, -, -, ⟨hid, -⟩ | ⟨hid, -⟩ | ⟨-, hle⟩⟩
          · exact absurd hid (by decide)
          · exact absurd hid (by decide)
          · obtain rfl := Option.some.inj (hbytes.symm.trans hparameters)
            exact UInt8.not_lt.mpr hle hselect
        · -- an attribute above 3 is also above 2
          intro hattributes
          exact not_valid_of_attributes setGpsBaudrate hbytes (UInt8.lt_trans (by decide) hattributes)

/-- A restart is sent without its parameters. -/
theorem not_restart_right (d : CommandData) (b : Buffer) :
    ¬ CommandRight restartDevice d b ∧ ¬ CommandGood restartDevice d := by
  have hbuilder : packetBuilder restartDevice = some (0, fun _ b => some (returnOk, b)) := rfl
  have hvalid : ¬ ParametersValid restartDevice d := by
    rintro ⟨_, -, -, -, ⟨hid, -⟩ | ⟨hid, -⟩ | ⟨hid, -⟩⟩
    all_goals exact absurd hid (by decide)
  constructor
  · have hbuild : (fun (_ : CommandData) (b : Buffer) => some (returnOk, b)) d b = some (returnOk, b) := rfl
    rw [commandRight_iff_of_some hbuilder hbuild]
    exact fun h => hvalid (h.2 rfl)
  · rintro (h | h | ⟨-, -, h | h⟩)
    · rw [hbuilder] at h
      cases h
    · exact hvalid h
    · exact absurd h (by decide)
    · exact absurd h (by decide)

end Commands

/-- **Commands for the GPS receiver.** The result is that of the builder and a packet is handed on only
    with valid parameters, exactly if the command is not known, the parameters are valid, or the builder
    has found a null pointer. -/
theorem command_right_iff (deviceCommand : CommandId) (d : CommandData) (b : Buffer) :
    CommandRight deviceCommand d b ↔ CommandGood deviceCommand d := by
  by_cases hrate : deviceCommand = setGpsUpdateRate
  · subst hrate
    exact updateRate_right_iff d b
  by_cases htype : deviceCommand = setGpsMessageType
  · subst htype
    exact messageType_right_iff d b
  by_cases hbaud : deviceCommand = setGpsBaudrate
  · subst hbaud
    exact baudSelect_right_iff d b
  by_cases hrestart : deviceCommand = restartDevice
  · subst hrestart
    exact iff_of_false (not_restart_right d b).1 (not_restart_right d b).2
  have hunknown : packetBuilder deviceCommand = none := by
    rw [packetBuilder, if_neg hrate, if_neg htype, if_neg hbaud, if_neg hrestart]
  refine iff_of_true ⟨⟨commandNotImplemented, none⟩, ?_, ?_, fun h => absurd rfl h⟩ (Or.inl hunknown)
  · rw [buildCommandFromCommand, hunknown]
  · intro payloadLength build hsome
    rw [hunknown] at hsome
    cases hsome

/-- Two bytes of data. -/
def CommandData.two (first second : UInt8) : CommandData :=
  ⟨some fun i => if i = 0 then first else second, 2⟩

/-- **An update rate of zero is sent, and the code for one of 51 is cut.** -/
theorem rates_out_of_range :
    (∃ frame, (buildCommandFromCommand setGpsUpdateRate (.two 0 0) fun _ => 0).map Built.handed =
      some (some frame)) ∧ ¬ ParametersValid setGpsUpdateRate (.two 0 0) ∧
    (buildGpsUpdateRateCommand (.two 51 0) fun _ => 0).map Prod.fst = some 0x26D0 ∧
    (buildCommandFromCommand setGpsUpdateRate (.two 51 0) fun _ => 0).map Built.result = some 0xD0 := by
  refine ⟨⟨[0xA0, 0xA1, 0, 3, 0x0E, 0, 0, 0x0E, 0x0D, 0x0A], by decide⟩, ?_, by decide, by decide⟩
  rintro ⟨parameters, hparameters, -, -, ⟨-, hpos, -⟩ | ⟨hid, -⟩ | ⟨hid, -⟩⟩
  · obtain rfl := Option.some.inj hparameters
    exact absurd hpos (by decide)
  · exact absurd hid (by decide)
  · exact absurd hid (by decide)


end Gps
end Obsw
