import Obsw.Core.SystemStateTask
import Obsw.Sdc.Serialize

/-!
# `Sdc.WriteCommands` — write commands and their way back

`WriteCommand` with its two constructors, `serialize` and `deSerialize`, for both types and any byte
order. The constructor for serialization is called with a packet sequence number and does not keep it,
so a command is read back only if the number was 0 (`gives_back_iff`).

`SerializeAdapter` is not part of the repository. It is a parameter here, with what its documentation
says as `SerializeAdapter.Documented`.
-/

namespace Obsw
namespace Sdc
namespace WriteCommands

open LittleEndian Serialize SystemStateTask

/-! ## Numbers of 16 bits -/

/-- `SerializeIF::Endianness`. -/
inductive Endianness where
  | big
  | little
  | machine
  deriving DecidableEq, Repr

/-- `SerializeAdapter`: the bytes of a number, and the number of the bytes. -/
structure SerializeAdapter where
  bytes : Endianness → UInt16 → List UInt8
  number : Endianness → List UInt8 → UInt16

/-- A number takes two bytes, and is read back from them in the same byte order. -/
structure SerializeAdapter.Documented (adapter : SerializeAdapter) : Prop where
  length_bytes : ∀ endianness number, (adapter.bytes endianness number).length = 2
  number_bytes : ∀ endianness number,
    adapter.number endianness (adapter.bytes endianness number) = number

/-- Copy bytes, and move the pointer and the size behind them. -/
def append (o : Output) (data : List UInt8) : Output :=
  ⟨o.written ++ data, o.size + UInt32.ofNat data.length⟩

/-- `SerializeAdapter::serialize` of a number of 16 bits, which checks the room for it. -/
def SerializeAdapter.serialize (adapter : SerializeAdapter) (endianness : Endianness)
    (number : UInt16) (o : Output) (maxSize : UInt32) : Result × Output :=
  if maxSize.toNat < o.size.toNat + 2 then (.bufferTooShort, o)
  else (.returnOk, append o (adapter.bytes endianness number))

/-! ## `WriteCommand` -/

/-- `WriteCommand`: the data is the memory from `fileData` on, as far as `fileDataSize` goes. -/
structure WriteCommand where
  repositoryPath : RepositoryPath
  fileName : FileName
  packetSequenceNumber : UInt16
  fileData : List UInt8
  writeType : WriteType
  fileDataSize : UInt32
  deriving DecidableEq

/-- The data of a command. -/
def WriteCommand.data (command : WriteCommand) : List UInt8 :=
  command.fileData.take command.fileDataSize.toNat

/-- The constructor for deserialization. -/
def WriteCommand.forDeserialization (writeType : WriteType) : WriteCommand where
  repositoryPath := .ofText _ []
  fileName := .ofText _ []
  packetSequenceNumber := 0
  fileData := []
  writeType := writeType
  fileDataSize := 0

/-- What the constructor for serialization is called with. The size of the data has 32 bits. -/
structure Arguments where
  repositoryPath : RepositoryPath
  fileName : FileName
  fileData : List UInt8
  fileData_length : fileData.length < 2 ^ 32
  writeType : WriteType
  packetSequenceNumber : UInt16

/-- The constructor for serialization. It leaves the number at the value the member is initialised
    with. -/
def WriteCommand.forSerialization (given : Arguments) : WriteCommand where
  repositoryPath := given.repositoryPath
  fileName := given.fileName
  packetSequenceNumber := 0
  fileData := given.fileData
  writeType := given.writeType
  fileDataSize := UInt32.ofNat given.fileData.length

/-- The packet number is part of a command that appends. -/
def WriteCommand.serializeNumber (command : WriteCommand) (adapter : SerializeAdapter)
    (endianness : Endianness) (o : Output) (maxSize : UInt32) : Result × Output :=
  if command.writeType = .appendToFile then
    adapter.serialize endianness command.packetSequenceNumber o maxSize
  else (.returnOk, o)

/-- The end of `WriteCommand::serialize`: the data. -/
def WriteCommand.serializeData (command : WriteCommand) (o : Output) (maxSize : UInt32) :
    Result × Output :=
  let newSize := command.fileDataSize + o.size
  if maxSize < newSize ∨ newSize < o.size then (.bufferTooShort, o)
  else (.returnOk, ⟨o.written ++ command.data, newSize⟩)

/-- `WriteCommand::serialize`. -/
def WriteCommand.serialize (command : WriteCommand) (adapter : SerializeAdapter)
    (endianness : Endianness) (o : Output) (maxSize : UInt32) : Result × Output :=
  match serializeRepositoryAndFilename o maxSize command.repositoryPath command.fileName with
  | (.returnOk, o) =>
    match command.serializeNumber adapter endianness o maxSize with
    | (.returnOk, o) => command.serializeData o maxSize
    | failed => failed
  | failed => failed

/-- The end of `WriteCommand::deSerialize`, behind the strings: the packet number, and all of the rest as
    the data. -/
def WriteCommand.deSerializeRest (command : WriteCommand) (adapter : SerializeAdapter)
    (endianness : Endianness) (memory : List UInt8) (offset : Nat) (size : UInt32) :
    Deserialized WriteCommand :=
  if command.writeType = .appendToFile then
    if size < 2 then ⟨.streamTooShort, offset, size, command⟩
    else
      ⟨.returnOk, offset + 2, size - 2,
        { command with
          packetSequenceNumber := adapter.number endianness (memory.take 2)
          fileDataSize := size - 2
          fileData := memory.drop 2 }⟩
  else ⟨.returnOk, offset, size, { command with fileDataSize := size, fileData := memory }⟩

/-- `WriteCommand::deSerialize`. -/
def WriteCommand.deSerialize (command : WriteCommand) (adapter : SerializeAdapter)
    (endianness : Endianness) (buffer : Option (List UInt8)) (size : UInt32) :
    Option (Deserialized WriteCommand) :=
  match Packets.deSerializeRepositoryAndFilename buffer size command.repositoryPath.text
    command.fileName.text with
  | none => none
  | some strings =>
    let command :=
      { command with repositoryPath := .ofText _ strings.first, fileName := .ofText _ strings.second }
    if strings.result ≠ .returnOk then
      some ⟨strings.result, strings.cursor.offset, strings.cursor.size, command⟩
    else
      some (command.deSerializeRest adapter endianness
        ((buffer.getD []).drop strings.cursor.offset) strings.cursor.offset strings.cursor.size)

/-! ## The round trip -/

/-- The bytes of the packet number. -/
def numberBytes (adapter : SerializeAdapter) (endianness : Endianness) (writeType : WriteType) :
    List UInt8 :=
  if writeType = .appendToFile then adapter.bytes endianness 0 else []

/-- The bytes a command takes. -/
def Arguments.takes (given : Arguments) : Nat :=
  Serialize.takes given.repositoryPath given.fileName +
    (if given.writeType = .appendToFile then 2 else 0) + given.fileData.length

/-- Serializing a command into the buffer and deserializing its bytes, whatever is behind them, gives back
    what the constructor was called with. -/
def GivesBack (adapter : SerializeAdapter) (endianness : Endianness) (given : Arguments) (o : Output)
    (maxSize : UInt32) : Prop :=
  ∃ written size, (WriteCommand.forSerialization given).serialize adapter endianness o maxSize =
      (.returnOk, ⟨o.written ++ written, size⟩) ∧
    ∀ rest, ∃ answer, (WriteCommand.forDeserialization given.writeType).deSerialize adapter endianness
        (some (written ++ rest)) (UInt32.ofNat written.length) = some answer ∧
      answer.result = .returnOk ∧
      answer.command.repositoryPath = given.repositoryPath ∧
      answer.command.fileName = given.fileName ∧
      answer.command.packetSequenceNumber = given.packetSequenceNumber ∧
      answer.command.data = given.fileData

/-! ## What is written -/

theorem length_numberBytes {adapter : SerializeAdapter} (hd : adapter.Documented)
    (endianness : Endianness) (writeType : WriteType) :
    (numberBytes adapter endianness writeType).length = if writeType = .appendToFile then 2 else 0 := by
  unfold numberBytes
  split
  · exact hd.length_bytes endianness 0
  · rfl

theorem forSerialization_size (given : Arguments) :
    (WriteCommand.forSerialization given).fileDataSize.toNat = given.fileData.length := by
  show (UInt32.ofNat given.fileData.length).toNat = _
  rw [UInt32.toNat_ofNat']
  exact Nat.mod_eq_of_lt given.fileData_length

theorem forSerialization_data (given : Arguments) :
    (WriteCommand.forSerialization given).data = given.fileData := by
  rw [WriteCommand.data, forSerialization_size]
  exact List.take_length

section Written

variable {adapter : SerializeAdapter} {given : Arguments} {o : Output} {maxSize : UInt32}

/-- With room for it, the packet number is written: 0. -/
theorem serializeNumber_fits (hd : adapter.Documented) (endianness : Endianness)
    (hroom : o.size.toNat + (if given.writeType = .appendToFile then 2 else 0) ≤ maxSize.toNat) :
    ∃ o', (WriteCommand.forSerialization given).serializeNumber adapter endianness o maxSize =
        (.returnOk, o') ∧
      o'.written = o.written ++ numberBytes adapter endianness given.writeType ∧
      o'.size.toNat = o.size.toNat + if given.writeType = .appendToFile then 2 else 0 := by
  have hmax := maxSize.toNat_lt
  unfold WriteCommand.serializeNumber numberBytes
  by_cases happend : given.writeType = .appendToFile
  · rw [if_pos happend] at hroom
    rw [if_pos (show (WriteCommand.forSerialization given).writeType = _ from happend), if_pos happend,
      if_pos happend]
    refine ⟨append o (adapter.bytes endianness 0), if_neg (by omega), rfl, ?_⟩
    have htwo : (UInt32.ofNat 2).toNat = 2 := rfl
    rw [append, UInt32.toNat_add, hd.length_bytes, htwo]
    omega
  · rw [if_neg (show (WriteCommand.forSerialization given).writeType ≠ _ from happend),
      if_neg happend, if_neg happend]
    exact ⟨o, rfl, (List.append_nil _).symm, rfl⟩

theorem serializeData_fits (hroom : o.size.toNat + given.fileData.length ≤ maxSize.toNat) :
    ∃ size, (WriteCommand.forSerialization given).serializeData o maxSize =
      (.returnOk, ⟨o.written ++ given.fileData, size⟩) := by
  have hmax := maxSize.toNat_lt
  have hlength := given.fileData_length
  have hsize : ((WriteCommand.forSerialization given).fileDataSize + o.size).toNat =
      o.size.toNat + given.fileData.length := by
    rw [UInt32.toNat_add, forSerialization_size]
    omega
  unfold WriteCommand.serializeData
  simp only [forSerialization_data]
  refine ⟨_, if_neg ?_⟩
  rw [UInt32.lt_iff_toNat_lt, UInt32.lt_iff_toNat_lt, hsize]
  omega

/-- **With room for all of it and a name, the command is written,** whatever the packet number is. -/
theorem serialize_fits (hd : adapter.Documented) (endianness : Endianness) (hname : given.fileName.text ≠ [])
    (hroom : o.size.toNat + given.takes ≤ maxSize.toNat) :
    ∃ size, (WriteCommand.forSerialization given).serialize adapter endianness o maxSize =
      (.returnOk, ⟨o.written ++ (bytes given.repositoryPath given.fileName ++
        (numberBytes adapter endianness given.writeType ++ given.fileData)), size⟩) := by
  unfold Arguments.takes at hroom
  obtain ⟨o₁, hstrings, hwritten₁, hsize₁⟩ := Serialize.serialize_fits hname
    (show o.size.toNat + Serialize.takes given.repositoryPath given.fileName ≤ maxSize.toNat by omega)
  obtain ⟨o₂, hnumber, hwritten₂, hsize₂⟩ := serializeNumber_fits hd endianness
    (show o₁.size.toNat + (if given.writeType = .appendToFile then 2 else 0) ≤ maxSize.toNat by omega)
  obtain ⟨size, hdata⟩ := serializeData_fits
    (show o₂.size.toNat + given.fileData.length ≤ maxSize.toNat by omega)
  refine ⟨size, ?_⟩
  have hstrings' : serializeRepositoryAndFilename o maxSize
      (WriteCommand.forSerialization given).repositoryPath
      (WriteCommand.forSerialization given).fileName = (.returnOk, o₁) := hstrings
  unfold WriteCommand.serialize
  rw [hstrings']
  simp only [hnumber, hdata, hwritten₂, hwritten₁, List.append_assoc]

/-- A command without a file name is refused. -/
theorem serialize_no_name (endianness : Endianness) (hname : given.fileName.text = []) (o' : Output) :
    (WriteCommand.forSerialization given).serialize adapter endianness o maxSize ≠ (.returnOk, o') := by
  have hrefused : ∃ o'', serializeRepositoryAndFilename o maxSize
      (WriteCommand.forSerialization given).repositoryPath
      (WriteCommand.forSerialization given).fileName = (.bufferTooShort, o'') := by
    rw [serializeRepositoryAndFilename_eq]
    by_cases hpath : maxSize.toNat <
        o.size.toNat + ((WriteCommand.forSerialization given).repositoryPath.text.length + 1)
    · exact ⟨_, if_pos hpath⟩
    · rw [if_neg hpath]
      exact ⟨_, if_pos (.inl hname)⟩
  obtain ⟨o'', hrefused⟩ := hrefused
  unfold WriteCommand.serialize
  rw [hrefused]
  intro h
  cases h

end Written

/-! ## What is read -/

/-- Strings that are read with OK have no terminator in them. -/
theorem no_terminator_of_parsed {memory path name : List UInt8} {size : UInt32} {p : Packets.Parsed}
    (hparsed : Packets.deSerializeRepositoryAndFilename (some memory) size path name = some p)
    (hresult : p.result = .returnOk) (hname : 0 ∉ name) : 0 ∉ p.first ∧ 0 ∉ p.second := by
  have hcut : ∀ {front memory : List UInt8} {n : Nat} (capacity : Nat),
      Download.strlen memory = some n → front = memory.take n → 0 ∉ Packets.assign capacity front := by
    intro front memory n capacity hlength hfront hmem
    obtain ⟨string, rest, rfl, hzero, rfl⟩ := Packets.exists_of_strlen hlength
    rw [List.take_left] at hfront
    exact hzero (hfront ▸ List.mem_of_mem_take hmem)
  unfold Packets.deSerializeRepositoryAndFilename Packets.deSerializeStrings at hparsed
  cases hfirst : Download.strlen memory with
  | none =>
      simp only [hfirst] at hparsed
      cases hparsed
  | some n =>
      simp only [hfirst] at hparsed
      split_ifs at hparsed with hshort
      · obtain rfl := Option.some.inj hparsed
        cases hresult
      · split at hparsed
        · cases hparsed
        · rename_i m hsecond
          split_ifs at hparsed with hlong hshort'
          · obtain rfl := Option.some.inj hparsed
            exact ⟨hcut _ hfirst rfl, hname⟩
          · obtain rfl := Option.some.inj hparsed
            cases hresult
          · obtain rfl := Option.some.inj hparsed
            exact ⟨hcut _ hfirst rfl, hcut _ hsecond rfl⟩

section ReadBack

variable {adapter : SerializeAdapter} {endianness : Endianness}

/-- Behind the strings, the number is read as 0 and the rest as the data. -/
theorem deSerializeRest_written (hd : adapter.Documented) (endianness : Endianness)
    (command : WriteCommand) (data rest : List UInt8) (offset : Nat) (size : UInt32)
    (hnumber : command.packetSequenceNumber = 0)
    (hsize : size.toNat = (if command.writeType = .appendToFile then 2 else 0) + data.length) :
    ∃ answer, command.deSerializeRest adapter endianness
        (numberBytes adapter endianness command.writeType ++ (data ++ rest)) offset size = answer ∧
      answer.result = .returnOk ∧ answer.command.repositoryPath = command.repositoryPath ∧
      answer.command.fileName = command.fileName ∧ answer.command.packetSequenceNumber = 0 ∧
      answer.command.data = data := by
  refine ⟨_, rfl, ?_⟩
  unfold WriteCommand.deSerializeRest numberBytes
  by_cases happend : command.writeType = .appendToFile
  · rw [if_pos happend] at hsize
    have htwo : (2 : UInt32).toNat = 2 := rfl
    have hroom : ¬ size < 2 := by
      rw [UInt32.lt_iff_toNat_lt, htwo]
      omega
    have hleft : (size - 2).toNat = data.length := by
      rw [UInt32.toNat_sub_of_le _ _ (UInt32.le_iff_toNat_le.mpr (by omega)), htwo]
      omega
    have hlength := hd.length_bytes endianness 0
    rw [if_pos happend, if_neg hroom, if_pos happend]
    refine ⟨rfl, rfl, rfl, ?_, ?_⟩
    · show adapter.number endianness ((adapter.bytes endianness 0 ++ (data ++ rest)).take 2) = 0
      rw [← hlength, List.take_left, hd.number_bytes]
    · show ((adapter.bytes endianness 0 ++ (data ++ rest)).drop 2).take (size - 2).toNat = data
      rw [hleft, ← hlength, List.drop_left, List.take_left]
  · rw [if_neg happend, Nat.zero_add] at hsize
    rw [if_neg happend, if_neg happend]
    refine ⟨rfl, rfl, rfl, hnumber, ?_⟩
    show (data ++ rest).take size.toNat = data
    rw [hsize, List.take_left]

variable {given : Arguments}

/-- **The bytes of a command are read back with the number 0,** whatever the number was. -/
theorem deSerialize_written (hd : adapter.Documented) (endianness : Endianness)
    (hpath : 0 ∉ given.repositoryPath.text) (hname : 0 ∉ given.fileName.text) (rest : List UInt8)
    (hsize : given.takes < 2 ^ 32) :
    ∃ answer, (WriteCommand.forDeserialization given.writeType).deSerialize adapter endianness
        (some (bytes given.repositoryPath given.fileName ++
          (numberBytes adapter endianness given.writeType ++ given.fileData) ++ rest))
        (UInt32.ofNat given.takes) = some answer ∧
      answer.result = .returnOk ∧ answer.command.repositoryPath = given.repositoryPath ∧
      answer.command.fileName = given.fileName ∧ answer.command.packetSequenceNumber = 0 ∧
      answer.command.data = given.fileData := by
  have htakes : (UInt32.ofNat given.takes).toNat = given.takes := by
    rw [UInt32.toNat_ofNat']
    exact Nat.mod_eq_of_lt hsize
  obtain ⟨cursor, hparsed, hoffset, hleft⟩ := deSerialize_bytes hpath hname
    (numberBytes adapter endianness given.writeType ++ (given.fileData ++ rest))
    (show Serialize.takes given.repositoryPath given.fileName ≤ (UInt32.ofNat given.takes).toNat by
      rw [htakes, Arguments.takes]
      omega) (EtlString.ofText maxRepositoryPathLength []).text (EtlString.ofText maxFilenameLength []).text
  have hbehind : (bytes given.repositoryPath given.fileName ++ (numberBytes adapter endianness
      given.writeType ++ (given.fileData ++ rest))).drop cursor.offset =
        numberBytes adapter endianness given.writeType ++ (given.fileData ++ rest) := by
    rw [hoffset, ← length_bytes, List.drop_left]
  obtain ⟨answer, hrest, hanswer⟩ := deSerializeRest_written hd endianness
    { WriteCommand.forDeserialization given.writeType with
      repositoryPath := given.repositoryPath, fileName := given.fileName }
    given.fileData rest cursor.offset cursor.size rfl (by
      rw [hleft, htakes, Arguments.takes]
      show _ = (if given.writeType = .appendToFile then 2 else 0) + given.fileData.length
      omega)
  refine ⟨answer, ?_, hanswer⟩
  rw [List.append_assoc, List.append_assoc, WriteCommand.deSerialize]
  have hparsed' : Packets.deSerializeRepositoryAndFilename
      (some (bytes given.repositoryPath given.fileName ++ (numberBytes adapter endianness
        given.writeType ++ (given.fileData ++ rest)))) (UInt32.ofNat given.takes)
      (WriteCommand.forDeserialization given.writeType).repositoryPath.text
      (WriteCommand.forDeserialization given.writeType).fileName.text =
        some ⟨.returnOk, cursor, given.repositoryPath.text, given.fileName.text⟩ := hparsed
  rw [hparsed']
  simp only [ne_eq, not_true_eq_false, if_false, Option.getD_some, hbehind, EtlString.ofText_text]
  exact congrArg some hrest

/-- The strings of a command that is read with OK have no terminator in them. -/
theorem no_terminator_of_deSerialize {writeType : WriteType} {memory : List UInt8} {size : UInt32}
    {answer : Deserialized WriteCommand}
    (h : (WriteCommand.forDeserialization writeType).deSerialize adapter endianness (some memory) size =
      some answer) (hresult : answer.result = .returnOk) :
    0 ∉ answer.command.repositoryPath.text ∧ 0 ∉ answer.command.fileName.text := by
  unfold WriteCommand.deSerialize at h
  split at h
  · cases h
  · rename_i strings hparsed
    split_ifs at h with hfailed
    · obtain rfl := Option.some.inj h
      exact absurd hresult hfailed
    · have hclean := no_terminator_of_parsed hparsed (not_not.mp hfailed) (List.not_mem_nil)
      obtain rfl := Option.some.inj h
      have hpath : 0 ∉ (EtlString.ofText maxRepositoryPathLength strings.first).text :=
        fun hmem => hclean.1 (List.mem_of_mem_take hmem)
      have hname : 0 ∉ (EtlString.ofText maxFilenameLength strings.second).text :=
        fun hmem => hclean.2 (List.mem_of_mem_take hmem)
      unfold WriteCommand.deSerializeRest
      split_ifs
      all_goals exact ⟨hpath, hname⟩

end ReadBack

/-! ## Main result -/

theorem length_written {adapter : SerializeAdapter} (hd : adapter.Documented)
    (endianness : Endianness) (given : Arguments) :
    (bytes given.repositoryPath given.fileName ++
      (numberBytes adapter endianness given.writeType ++ given.fileData)).length = given.takes := by
  rw [List.length_append, List.length_append, length_bytes, length_numberBytes hd, Arguments.takes]
  omega

/-- **Which commands are read back:** those with packet sequence number 0, a name, and no terminator in a
    string. -/
theorem gives_back_iff (adapter : SerializeAdapter) (hd : adapter.Documented) (endianness : Endianness)
    (given : Arguments) (o : Output) (maxSize : UInt32)
    (hroom : o.size.toNat + given.takes ≤ maxSize.toNat) :
    GivesBack adapter endianness given o maxSize ↔
      given.packetSequenceNumber = 0 ∧ given.fileName.text ≠ [] ∧ 0 ∉ given.repositoryPath.text ∧
        0 ∉ given.fileName.text := by
  have hmax := maxSize.toNat_lt
  constructor
  · rintro ⟨written, size, hserialize, hback⟩
    have hname : given.fileName.text ≠ [] := fun hempty =>
      serialize_no_name endianness hempty _ hserialize
    obtain ⟨size', hfits⟩ := serialize_fits hd endianness hname hroom
    obtain rfl : written = bytes given.repositoryPath given.fileName ++
        (numberBytes adapter endianness given.writeType ++ given.fileData) := by
      have hwritten := congrArg (fun answer => answer.2.written) (hserialize.symm.trans hfits)
      exact List.append_cancel_left hwritten
    obtain ⟨answer, hanswer, hresult, hpath, hfile, hnumber, _⟩ := hback []
    obtain ⟨hpathClean, hnameClean⟩ := no_terminator_of_deSerialize hanswer hresult
    rw [hpath] at hpathClean
    rw [hfile] at hnameClean
    refine ⟨?_, hname, hpathClean, hnameClean⟩
    obtain ⟨answer', hanswer', _, _, _, hzero, _⟩ :=
      deSerialize_written hd endianness hpathClean hnameClean [] (by omega)
    rw [length_written hd, hanswer'] at hanswer
    obtain rfl := Option.some.inj hanswer
    exact hnumber.symm.trans hzero
  · rintro ⟨hnumber, hname, hpathClean, hnameClean⟩
    obtain ⟨size, hfits⟩ := serialize_fits hd endianness hname hroom
    refine ⟨_, size, hfits, fun rest => ?_⟩
    rw [length_written hd, hnumber]
    exact deSerialize_written hd endianness hpathClean hnameClean rest (by omega)

/-- The numbers of the board, whose byte order is little-endian. -/
def sam9g20 : SerializeAdapter where
  bytes endianness number :=
    if endianness = .big then (toLE 2 number.toNat).reverse else toLE 2 number.toNat
  number endianness bytes := UInt16.ofNat (ofLE (if endianness = .big then bytes.reverse else bytes))

theorem sam9g20_documented : sam9g20.Documented where
  length_bytes endianness number := by
    show (if endianness = .big then (toLE 2 number.toNat).reverse else toLE 2 number.toNat).length = 2
    split_ifs
    · rw [List.length_reverse, toLE_length]
    · rw [toLE_length]
  number_bytes endianness number := by
    have hlt : number.toNat < 256 ^ 2 := number.toNat_lt
    have hback : UInt16.ofNat (ofLE (toLE 2 number.toNat)) = number := by
      rw [ofLE_toLE, Nat.mod_eq_of_lt hlt, UInt16.ofNat_toNat]
    unfold sam9g20
    by_cases hbig : endianness = .big
    · simp only [hbig, if_true, List.reverse_reverse, hback]
    · simp only [hbig, if_false, hback]

theorem oneByte_lt : [(7 : UInt8)].length < 2 ^ 32 := by decide

/-- The part with number `n` of a file `a/b`, a single byte. -/
def onePart (n : UInt16) : Arguments where
  repositoryPath := .ofText _ [97]
  fileName := .ofText _ [98]
  fileData := [7]
  fileData_length := oneByte_lt
  writeType := .appendToFile
  packetSequenceNumber := n

/-- The first part is read back. -/
theorem first_part_gives_back : GivesBack sam9g20 .big (onePart 0) ⟨[], 0⟩ 64 ↔
    (onePart 0).packetSequenceNumber = 0 ∧ (onePart 0).fileName.text ≠ [] ∧
      0 ∉ (onePart 0).repositoryPath.text ∧ 0 ∉ (onePart 0).fileName.text :=
  gives_back_iff sam9g20 sam9g20_documented .big (onePart 0) ⟨[], 0⟩ 64 (by decide)

/-- **The number of the second part is lost.** It is serialized as 0, so that is what is read back. -/
theorem second_part_not_given_back :
    (WriteCommand.forSerialization (onePart 1)).serialize sam9g20 .big ⟨[], 0⟩ 64 =
      (.returnOk, ⟨[97, 0, 98, 0, 0, 0, 7], 7⟩) ∧
    ¬ ∀ (adapter : SerializeAdapter), adapter.Documented → ∀ (endianness : Endianness)
      (given : Arguments) (o : Output) (maxSize : UInt32),
      o.size.toNat + given.takes ≤ maxSize.toNat → GivesBack adapter endianness given o maxSize := by
  have hwritten : (WriteCommand.forSerialization (onePart 1)).serialize sam9g20 .big ⟨[], 0⟩ 64 =
      (.returnOk, ⟨[97, 0, 98, 0, 0, 0, 7], 7⟩) := by decide
  refine ⟨hwritten, fun hback => ?_⟩
  obtain ⟨written, size, hserialize, hread⟩ :=
    hback sam9g20 sam9g20_documented .big (onePart 1) ⟨[], 0⟩ 64 (by decide)
  rw [hwritten] at hserialize
  obtain rfl : [97, 0, 98, 0, 0, 0, 7] = written :=
    congrArg (fun answer => answer.2.written) hserialize
  obtain ⟨answer, hanswer, _, _, _, hnumber, _⟩ := hread []
  have hzero : answer.command.packetSequenceNumber = 0 := by
    have hparsed : (WriteCommand.forDeserialization (onePart 1).writeType).deSerialize sam9g20 .big
        (some ([97, 0, 98, 0, 0, 0, 7] ++ [])) (UInt32.ofNat [97, 0, 98, 0, 0, 0, (7 : UInt8)].length) =
          some ⟨.returnOk, 6, 1, ⟨.ofText _ [97], .ofText _ [98], 0, [7], .appendToFile, 1⟩⟩ := by decide
    rw [hparsed] at hanswer
    exact (Option.some.inj hanswer) ▸ rfl
  rw [hzero] at hnumber
  exact absurd hnumber (by decide)

/-! ## The command of the statistics -/

/-- Into an empty buffer, the strings are refused, or the size is the number of bytes behind them. -/
theorem strings_empty_cases (maxSize : UInt32) (repositoryPath : RepositoryPath) (filename : FileName) :
    (∃ o, serializeRepositoryAndFilename ⟨[], 0⟩ maxSize repositoryPath filename =
      (.bufferTooShort, o)) ∨
    ∃ o, serializeRepositoryAndFilename ⟨[], 0⟩ maxSize repositoryPath filename = (.returnOk, o) ∧
      o.size.toNat = o.written.length := by
  have hpath := path_length_le repositoryPath
  have hname := name_length_le filename
  rw [serializeRepositoryAndFilename_eq]
  split_ifs
  · exact .inl ⟨_, rfl⟩
  · exact .inl ⟨_, rfl⟩
  · refine .inr ⟨_, rfl, ?_⟩
    have hzero : (⟨[], 0⟩ : Output).size.toNat = 0 := rfl
    rw [Output.put_name_size, Output.put_path_size _ _ (by omega), hzero]
    simp only [Output.put_written, List.length_append, List.length_nil, List.length_singleton]
    omega

/-- The data is refused if it does not fit. -/
theorem serializeData_eq (given : Arguments) (o : Output) (maxSize : UInt32) :
    (WriteCommand.forSerialization given).serializeData o maxSize =
      if maxSize.toNat < given.fileData.length + o.size.toNat then (.bufferTooShort, o)
      else (.returnOk, ⟨o.written ++ given.fileData,
        (WriteCommand.forSerialization given).fileDataSize + o.size⟩) := by
  have hmax := maxSize.toNat_lt
  have hsize := o.size.toNat_lt
  have hlength := given.fileData_length
  unfold WriteCommand.serializeData
  simp only [forSerialization_data, UInt32.lt_iff_toNat_lt, UInt32.toNat_add, forSerialization_size]
  by_cases hfits : maxSize.toNat < given.fileData.length + o.size.toNat
  · rw [if_pos hfits, if_pos (by omega)]
  · rw [if_neg hfits, if_neg (by omega)]

/-- **The command that sends the statistics** is written as this one is, in the byte order of the machine
    and into an empty buffer. -/
theorem serialize_empty (given : Arguments) (maxSize : UInt32) :
    (⟨given.repositoryPath.text, given.fileName.text, given.fileData, given.writeType⟩ :
        SystemStateTask.WriteCommand).serialize maxSize.toNat =
      match (WriteCommand.forSerialization given).serialize sam9g20 .machine ⟨[], 0⟩ maxSize with
      | (.returnOk, o) => .ok o.written
      | _ => .error .bufferTooShort := by
  have hlt := maxSize.toNat_lt
  have hpath : (WriteCommand.forSerialization given).repositoryPath = given.repositoryPath := rfl
  have hname : (WriteCommand.forSerialization given).fileName = given.fileName := rfl
  have htype : (WriteCommand.forSerialization given).writeType = given.writeType := rfl
  unfold SystemStateTask.WriteCommand.serialize WriteCommand.serialize WriteCommand.serializeNumber
  rw [serializeRepositoryAndFilename_empty, hpath, hname, htype]
  rcases strings_empty_cases maxSize given.repositoryPath given.fileName with
    ⟨o, hstrings⟩ | ⟨o, hstrings, hsize⟩
  · rw [hstrings]
  rw [hstrings]
  dsimp only
  by_cases happend : given.writeType = .appendToFile
  · unfold SerializeAdapter.serialize
    by_cases hnumber : maxSize.toNat < o.size.toNat + 2
    · rw [if_pos ⟨happend, hsize ▸ hnumber⟩, if_pos happend, if_pos hnumber]
    · have htwo : (append o (sam9g20.bytes .machine 0)).size.toNat = o.size.toNat + 2 := by
        have hlength : (UInt32.ofNat (sam9g20.bytes .machine 0).length).toNat = 2 := rfl
        rw [append, UInt32.toNat_add, hlength]
        omega
      rw [if_neg (fun h => hnumber (hsize ▸ h.2)), if_pos happend, if_pos happend, if_neg hnumber]
      show _ = match (WriteCommand.forSerialization given).serializeData
          (append o (sam9g20.bytes .machine 0)) maxSize with
        | (.returnOk, o) => _
        | _ => _
      rw [serializeData_eq, htwo, List.length_append, toLE_length, ← hsize]
      by_cases hdata : maxSize.toNat < given.fileData.length + (o.size.toNat + 2)
      · rw [if_pos hdata, if_pos hdata]
      · rw [if_neg hdata, if_neg hdata]
        rfl
  · rw [if_neg (fun h => happend h.1), if_neg happend, if_neg happend, List.append_nil, ← hsize]
    show _ = match (WriteCommand.forSerialization given).serializeData o maxSize with
      | (.returnOk, o) => _
      | _ => _
    rw [serializeData_eq]
    by_cases hdata : maxSize.toNat < given.fileData.length + o.size.toNat
    · rw [if_pos hdata, if_pos hdata]
    · rw [if_neg hdata, if_neg hdata]

end WriteCommands
end Sdc
end Obsw
