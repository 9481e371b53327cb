import Mathlib.Data.List.TakeWhile
import Mathlib.Logic.Function.Basic
import Obsw.Sdc.Api
import Obsw.Sdc.Read

/-!
# `Core.SystemStateTask` — the statistics file

The end of `SystemStateTask::performStatsGeneration`, which sends the text of the task statistics to the
SD card handler, with `WriteCommand` and `SDCardHandler::handleCreateFileCommand`. The text is cut into
parts of `maxFileSizePerBucket` bytes, each in a store element of its own.

An element is requested with the size of its part, and the command written into it has the path and the
name in front of the part. The handler takes as many bytes as were requested, so what it writes is
shorter than the part by at least the path and its terminator (`deSerialize_fileData`). Each part is sent
as a create command, the later ones for a file that exists. The file never gets the text
(`leavesStatistics_iff`).
-/

namespace Obsw
namespace SystemStateTask

open LittleEndian Sdc Sdc.Download

/-! ## `WriteCommand` -/

inductive WriteType where
  | newFile
  | appendToFile
  deriving DecidableEq, Repr

/-- `WriteCommand`, as it is constructed for serialization. The packet sequence number the constructor is
    called with is not kept, and the member is 0. -/
structure WriteCommand where
  repositoryPath : List UInt8
  fileName : List UInt8
  fileData : List UInt8
  writeType : WriteType

def WriteCommand.packetSequenceNumber (_ : WriteCommand) : Nat := 0

/-- `WriteCommand::serialize`, in the byte order of the machine. -/
def WriteCommand.serialize (command : WriteCommand) (maxSize : Nat) : Except Error (List UInt8) :=
  match serializeRepositoryAndFilename maxSize command.repositoryPath command.fileName with
  | .error error => .error error
  | .ok written =>
    if command.writeType = .appendToFile ∧ maxSize < written.length + 2 then .error .bufferTooShort
    else
      let written := written ++
        if command.writeType = .appendToFile then toLE 2 command.packetSequenceNumber else []
      if maxSize < command.fileData.length + written.length then .error .bufferTooShort
      else .ok (written ++ command.fileData)

/-- A store element: what has been written from its start on, and the size it was requested with. -/
structure StoreElement where
  memory : List UInt8
  size : Nat
  deriving DecidableEq

/-- `*buffer += n; *size -= n`, with a size of 32 bits. -/
def StoreElement.advance (element : StoreElement) (n : Nat) : StoreElement :=
  ⟨element.memory.drop n, (element.size + 2 ^ 32 - n) % 2 ^ 32⟩

/-- As many bytes as the size says. `none`: some of them lie behind what has been written. -/
def StoreElement.bytes (element : StoreElement) : Option (List UInt8) :=
  if element.size ≤ element.memory.length then some (element.memory.take element.size) else none

/-- What `WriteCommand::deSerialize` takes from the message of a new file. -/
structure NewFile where
  repositoryPath : List UInt8
  fileName : List UInt8
  fileData : Option (List UInt8)
  deriving DecidableEq

/-- `WriteCommand::deSerialize` for a new file, with `deSerializeRepositoryAndFilename`: the strings end
    where the memory says, and the checks are against the size. `none`: no terminator has been
    written. -/
def deSerializeNewFile (element : StoreElement) : Option (Except Error NewFile) :=
  match strlen element.memory with
  | none => none
  | some repositoryLength =>
    if element.size < repositoryLength then some (.error .streamTooShort)
    else
      let repositoryPath := (element.memory.take repositoryLength).take maxRepositoryPathLength
      let element := element.advance (repositoryPath.length + 1)
      match strlen element.memory with
      | none => none
      | some filenameLength =>
        if maxFilenameLength < filenameLength then some (.ok ⟨repositoryPath, [], element.bytes⟩)
        else if element.size < filenameLength then some (.error .streamTooShort)
        else
          let fileName := (element.memory.take filenameLength).take maxFilenameLength
          some (.ok ⟨repositoryPath, fileName, (element.advance (fileName.length + 1)).bytes⟩)

/-- An element that has been requested with the size of what is in it. -/
def StoreElement.whole (buffer : List UInt8) : StoreElement := ⟨buffer, buffer.length⟩

@[simp] theorem StoreElement.whole_memory (buffer : List UInt8) :
    (StoreElement.whole buffer).memory = buffer := rfl

@[simp] theorem StoreElement.whole_size (buffer : List UInt8) :
    (StoreElement.whole buffer).size = buffer.length := rfl

@[simp] theorem StoreElement.whole_bytes (buffer : List UInt8) :
    (StoreElement.whole buffer).bytes = some buffer := by
  simp [StoreElement.bytes]

theorem StoreElement.advance_whole {buffer : List UInt8} {n : Nat} (hn : n ≤ buffer.length)
    (hlt : buffer.length < 2 ^ 32) :
    (StoreElement.whole buffer).advance n = StoreElement.whole (buffer.drop n) := by
  simp only [StoreElement.advance, StoreElement.whole, List.length_drop]
  congr 1
  omega

theorem strlen_lt {buffer : List UInt8} {n : Nat} (h : strlen buffer = some n) : n < buffer.length := by
  unfold strlen at h
  split_ifs at h with hmem
  obtain rfl := Option.some.inj h
  exact List.idxOf_lt_length_of_mem hmem

/-- A string with its terminator is a part of the buffer. -/
theorem string_length_le {buffer : List UInt8} {n : Nat} (h : strlen buffer = some n)
    (capacity : Nat) : ((buffer.take n).take capacity).length + 1 ≤ buffer.length := by
  have hlt := strlen_lt h
  rw [List.length_take, List.length_take]
  omega

/-- **In such an element, the parser finds what the parser of a message finds.** -/
theorem deSerializeNewFile_whole {buffer : List UInt8} (hlt : buffer.length < 2 ^ 32) :
    deSerializeNewFile (.whole buffer) =
      (deSerializeRepositoryAndFilename buffer).map
        (Except.map fun packet => ⟨packet.repositoryPath, packet.filename, some packet.buffer⟩) := by
  unfold deSerializeNewFile deSerializeRepositoryAndFilename
  rw [StoreElement.whole_memory]
  cases hpath : strlen buffer with
  | none => rfl
  | some repositoryLength =>
      have hpathLe := string_length_le hpath maxRepositoryPathLength
      simp only [StoreElement.whole_size, StoreElement.advance_whole hpathLe hlt,
        StoreElement.whole_memory, Nat.not_lt.mpr (Nat.le_of_lt (strlen_lt hpath)), if_false]
      have hrestLt : (buffer.drop (((buffer.take repositoryLength).take
          maxRepositoryPathLength).length + 1)).length < 2 ^ 32 := by
        rw [List.length_drop]
        omega
      -- the name is read from what is left in the same way
      generalize buffer.drop (((buffer.take repositoryLength).take
        maxRepositoryPathLength).length + 1) = rest at hrestLt
      cases hname : strlen rest with
      | none => rfl
      | some filenameLength =>
          have hnameLe := string_length_le hname maxFilenameLength
          simp only [StoreElement.advance_whole hnameLe hrestLt, StoreElement.whole_bytes,
            Nat.not_lt.mpr (Nat.le_of_lt (strlen_lt hname)), if_false]
          by_cases hlong : maxFilenameLength < filenameLength
          · simp [hlong, Except.map]
          · simp [hlong, Except.map]

/-! ## `performStatsGeneration` -/

def ascii (string : List Char) : List UInt8 := string.map fun c => UInt8.ofNat c.toNat

/-- The task when the text is complete: `statsIdx` bytes of the vector are valid. `unset` is what the
    stack holds in the third byte of `str`. -/
structure Task where
  statsVector : List UInt8
  statsIdx : Nat
  statsIdx_le : statsIdx ≤ statsVector.length
  csvCounter : UInt8
  unset : UInt8

/-- The text: the valid entries of the vector. -/
def Task.stats (t : Task) : List UInt8 := t.statsVector.take t.statsIdx

def repositoryPath : List UInt8 := ascii ['M', 'I', 'S', 'C']

/-- `str`, behind `sprintf`. -/
def Task.str (t : Task) : List UInt8 := ascii (Nat.toDigits 10 t.csvCounter.toNat) ++ [0, t.unset]

/-- `fileName`, to which three bytes of `str` are appended, whether or not they belong to the number. -/
def Task.fileName (t : Task) : List UInt8 :=
  (ascii ['s', 't', 'a', 't', 's'] ++ t.str.take 3 ++ ascii ['.', 'c', 's', 'v']).take
    maxFilenameLength

def maxFileSizePerBucket : Nat := storeVeryLargeBucketSize - 40

/-- What the store and the queue answer for a part. -/
structure PartOutcome where
  freeElement : Bool
  sendMessage : Bool

/-- The command for the part of a step. -/
def Task.writeCommand (t : Task) (idx sizeToAddToStore : Nat) : WriteCommand where
  repositoryPath := repositoryPath
  fileName := t.fileName
  fileData := (t.statsVector.drop (idx * maxFileSizePerBucket)).take sizeToAddToStore
  writeType := if 0 < idx then .appendToFile else .newFile

/-- The size of the next part of what is left. -/
def partSize (placeholderStatsIdx : Nat) : Nat :=
  if placeholderStatsIdx % maxFileSizePerBucket = placeholderStatsIdx then placeholderStatsIdx
  else maxFileSizePerBucket

/-- The loop of `performStatsGeneration`, for the steps that are left: the elements that are sent, each
    with a create command. -/
def Task.sendParts (t : Task) (o : Nat → PartOutcome) : Nat → Nat → Nat → List StoreElement
  | 0, _, _ => []
  | steps + 1, idx, placeholderStatsIdx =>
    let sizeToAddToStore := partSize placeholderStatsIdx
    if (o idx).freeElement = false then []
    else
      match (t.writeCommand idx sizeToAddToStore).serialize storeVeryLargeBucketSize with
      | .error _ => []
      | .ok memory =>
        if (o idx).sendMessage = false then []
        else ⟨memory, sizeToAddToStore⟩ ::
          if placeholderStatsIdx % maxFileSizePerBucket = placeholderStatsIdx then []
          else t.sendParts o steps (idx + 1) (placeholderStatsIdx - sizeToAddToStore)

/-- The elements `performStatsGeneration` sends, in order. -/
def Task.sent (t : Task) (o : Nat → PartOutcome) : List StoreElement := t.sendParts o 3 0 t.statsIdx

/-! ## `handleCreateFileCommand` -/

/-- The files of the active card, by repository and name as they are passed to the library. -/
abbrev Files := List UInt8 × List UInt8 → Option (List UInt8)

/-- What the handler meets with a message: whether the card can be accessed and the element is in the
    store, and the answers of the library. `f_findfirst` finds the files there are. -/
structure MessageOutcome where
  handled : Bool
  changeDirectory : Int
  openError : Nat
  accepted : Nat
  close : Int

/-- The outcome `create_file` meets for a file. -/
def MessageOutcome.createFile (o : MessageOutcome) (present : Bool) : Api.CreateFileOutcome where
  changeDirectory := o.changeDirectory
  findfirst := if present then 0 else 1
  openError := o.openError
  accepted := o.accepted
  close := o.close

/-- What `create_file` leaves on the card. `none`: it writes data that is not known. -/
def createFile (o : MessageOutcome) (files : Files) (file : NewFile) : Option Files :=
  let path := (file.repositoryPath, file.fileName)
  if o.changeDirectory ≠ 0 ∨ (files path).isSome ∨ o.openError ≠ 0 then some files
  else file.fileData.map fun data => Function.update files path (some (data.take o.accepted))

/-- What `handleCreateFileCommand` leaves on the card. -/
def handleCreateFileCommand (o : MessageOutcome) (files : Files) (element : StoreElement) :
    Option Files :=
  if o.handled = false then some files
  else
    match deSerializeNewFile element with
    | none => none
    | some (.error _) => some files
    | some (.ok file) => createFile o files file

/-- The messages, one after the other from the message with this number on. -/
def process (o : Nat → MessageOutcome) : Nat → List StoreElement → Files → Option Files
  | _, [], files => some files
  | i, element :: elements, files =>
    (handleCreateFileCommand (o i) files element).bind (process o (i + 1) elements)

/-- The file the task names, up to the first terminator of the name. -/
def Task.statsFile (t : Task) : List UInt8 × List UInt8 :=
  (repositoryPath, t.fileName.takeWhile fun byte => byte ≠ 0)

/-- The messages leave the file with exactly the text. -/
def LeavesStatistics (t : Task) (sending : Nat → PartOutcome) (handling : Nat → MessageOutcome)
    (files : Files) : Prop :=
  ∃ files', process handling 0 (t.sent sending) files = some files' ∧
    files' t.statsFile = some t.stats

/-! ## What is sent -/

theorem zero_notMem_takeWhile (string : List UInt8) :
    (0 : UInt8) ∉ string.takeWhile fun byte => byte ≠ 0 := by
  intro hmem
  simpa using List.mem_takeWhile_imp hmem

/-- A string that is read back ends at its first terminator. -/
theorem exists_takeWhile_append (string rest : List UInt8) :
    ∃ rest', string ++ 0 :: rest = (string.takeWhile fun byte => byte ≠ 0) ++ 0 :: rest' := by
  induction string with
  | nil => exact ⟨rest, rfl⟩
  | cons byte string ih =>
      obtain ⟨rest', hrest⟩ := ih
      by_cases hzero : byte = 0
      · exact ⟨string ++ 0 :: rest, by simp [hzero]⟩
      · refine ⟨rest', ?_⟩
        rw [List.takeWhile_cons_of_pos (by simpa using hzero), List.cons_append, hrest,
          List.cons_append]

/-- A serialized command starts with the path and the name. -/
theorem WriteCommand.serialize_ok {command : WriteCommand} {maxSize : Nat} {memory : List UInt8}
    (h : command.serialize maxSize = .ok memory) :
    memory.length ≤ maxSize ∧
      ∃ rest, memory = command.repositoryPath ++ 0 :: (command.fileName ++ 0 :: rest) := by
  unfold WriteCommand.serialize at h
  rcases serializeRepositoryAndFilename_cases maxSize command.repositoryPath command.fileName with
    hstrings | hstrings
  · rw [hstrings] at h
    cases h
  · simp only [hstrings] at h
    -- the number stands between the strings and the part, if there is one
    generalize (if command.writeType = .appendToFile then toLE 2 command.packetSequenceNumber
      else []) = number at h
    split_ifs at h with hnumber hdata
    cases Except.ok.inj h
    refine ⟨?_, number ++ command.fileData, by simp⟩
    rw [List.length_append]
    omega

theorem partSize_le (placeholderStatsIdx : Nat) : partSize placeholderStatsIdx ≤ placeholderStatsIdx := by
  unfold partSize
  by_cases hlast : placeholderStatsIdx % maxFileSizePerBucket = placeholderStatsIdx
  · simp [hlast]
  · rw [if_neg hlast]
    by_contra hlt
    exact hlast (Nat.mod_eq_of_lt (Nat.lt_of_not_le hlt))

theorem partSize_le_max (placeholderStatsIdx : Nat) :
    partSize placeholderStatsIdx ≤ maxFileSizePerBucket := by
  unfold partSize
  by_cases hlast : placeholderStatsIdx % maxFileSizePerBucket = placeholderStatsIdx
  · rw [if_pos hlast, ← hlast]
    exact Nat.le_of_lt (Nat.mod_lt _ (by decide))
  · rw [if_neg hlast]

/-- An element of the task: the command of a part, in an element requested for the part alone. -/
structure IsPart (t : Task) (element : StoreElement) : Prop where
  memory : ∃ rest, element.memory = repositoryPath ++ 0 :: (t.fileName ++ 0 :: rest)
  memory_le : element.memory.length ≤ storeVeryLargeBucketSize
  size_le : element.size ≤ t.statsIdx
  size_le_max : element.size ≤ maxFileSizePerBucket

variable {t : Task}

theorem sendParts_isPart {o : Nat → PartOutcome} {steps idx placeholderStatsIdx : Nat}
    (hle : placeholderStatsIdx ≤ t.statsIdx) :
    ∀ element ∈ t.sendParts o steps idx placeholderStatsIdx, IsPart t element := by
  induction steps generalizing idx placeholderStatsIdx with
  | zero => simp [Task.sendParts]
  | succ steps ih =>
      intro element hmem
      unfold Task.sendParts at hmem
      by_cases hfree : (o idx).freeElement = false
      · simp [hfree] at hmem
      · simp only [hfree] at hmem
        cases hserialize : (t.writeCommand idx (partSize placeholderStatsIdx)).serialize
            storeVeryLargeBucketSize with
        | error => simp [hserialize] at hmem
        | ok memory =>
            simp only [hserialize] at hmem
            by_cases hsend : (o idx).sendMessage = false
            · simp [hsend] at hmem
            · rw [if_neg hsend] at hmem
              rcases List.mem_cons.mp hmem with rfl | hmem
              · obtain ⟨hlength, hrest⟩ := WriteCommand.serialize_ok hserialize
                exact ⟨hrest, hlength, Nat.le_trans (partSize_le _) hle, partSize_le_max _⟩
              · split_ifs at hmem with hlast
                · cases hmem
                · exact ih (Nat.le_trans (Nat.sub_le _ _) hle) element hmem

/-- Every element that is sent is that of a part. -/
theorem sent_isPart (t : Task) (o : Nat → PartOutcome) : ∀ element ∈ t.sent o, IsPart t element :=
  sendParts_isPart (Nat.le_refl _)

/-! ## What the handler takes from it -/

theorem fileName_length_le (t : Task) : t.fileName.length ≤ maxFilenameLength := by
  unfold Task.fileName
  rw [List.length_take]
  exact Nat.min_le_left _ _

theorem statsFile_length_le (t : Task) : t.statsFile.2.length ≤ maxFilenameLength :=
  Nat.le_trans (List.takeWhile_prefix _).length_le (fileName_length_le t)

/-- What is read behind the strings is a part of what was requested, without the strings. A size that has
    run below 0 is larger than any element. -/
theorem bytes_length_lt {element : StoreElement} {path name : Nat} {data : List UInt8}
    (hpath : path ≤ maxRepositoryPathLength) (hname : name ≤ maxFilenameLength)
    (hsize : element.size ≤ maxFileSizePerBucket)
    (hlength : element.memory.length ≤ storeVeryLargeBucketSize)
    (h : ((element.advance (path + 1)).advance (name + 1)).bytes = some data) :
    data.length < element.size := by
  unfold StoreElement.bytes at h
  split_ifs at h with hwritten
  obtain rfl := Option.some.inj h
  simp only [StoreElement.advance, List.drop_drop, List.length_drop, maxRepositoryPathLength,
    maxFilenameLength, maxFileSizePerBucket, storeVeryLargeBucketSize, List.length_take]
    at hpath hname hsize hlength hwritten ⊢
  omega

/-- **The handler takes the task's file from a part, with less data than the part has.** -/
theorem deSerialize_fileData {element : StoreElement} (h : IsPart t element) :
    deSerializeNewFile element = some (.error .streamTooShort) ∨
      ∃ fileData, deSerializeNewFile element = some (.ok ⟨repositoryPath, t.statsFile.2, fileData⟩) ∧
        ∀ data, fileData = some data → data.length < element.size := by
  obtain ⟨rest, hmemory⟩ := h.memory
  obtain ⟨rest', hname⟩ := exists_takeWhile_append t.fileName rest
  have hstrings : element.memory = repositoryPath ++ 0 :: (t.statsFile.2 ++ 0 :: rest') :=
    hmemory.trans (congrArg (fun memory => repositoryPath ++ 0 :: memory) hname)
  have hpathZero : (0 : UInt8) ∉ repositoryPath := by decide
  have hnameZero : (0 : UInt8) ∉ t.statsFile.2 := zero_notMem_takeWhile t.fileName
  have hpath : repositoryPath.length ≤ maxRepositoryPathLength := by decide
  have hadvance : (element.advance (repositoryPath.length + 1)).memory =
      t.statsFile.2 ++ 0 :: rest' := by
    rw [StoreElement.advance, hstrings, show repositoryPath ++ 0 :: (t.statsFile.2 ++ 0 :: rest') =
      (repositoryPath ++ [0]) ++ (t.statsFile.2 ++ 0 :: rest') by simp,
      show repositoryPath.length + 1 = (repositoryPath ++ [0]).length by simp, List.drop_left]
  unfold deSerializeNewFile
  rw [hstrings, strlen_string hpathZero]
  by_cases hshort : element.size < repositoryPath.length
  · exact .inl (if_pos hshort)
  · simp only [hshort, if_false, List.take_left, List.take_of_length_le hpath, hadvance,
      strlen_string hnameZero, Nat.not_lt.mpr (statsFile_length_le t),
      List.take_of_length_le (statsFile_length_le t)]
    by_cases hshort' :
        (element.advance (repositoryPath.length + 1)).size < t.statsFile.2.length
    · exact .inl (if_pos hshort')
    · rw [if_neg hshort']
      refine .inr ⟨_, rfl, ?_⟩
      intro data hdata
      exact bytes_length_lt hpath (statsFile_length_le t) h.size_le_max h.memory_le hdata

/-- What is left on the card agrees with the files `create_file` opens. -/
theorem createFile_calls (o : MessageOutcome) (files : Files) {file : NewFile} {data : List UInt8}
    (hdata : file.fileData = some data) :
    createFile o files file = some
      (if (Api.createFile (o.createFile (files (file.repositoryPath, file.fileName)).isSome) data).2 = []
        then files
        else Function.update files (file.repositoryPath, file.fileName)
          (some (data.take o.accepted))) := by
  unfold createFile Api.createFile MessageOutcome.createFile
  by_cases hdirectory : o.changeDirectory = 0
  · by_cases hpresent : (files (file.repositoryPath, file.fileName)).isSome
    · simp [hdirectory, hpresent]
    · by_cases hopen : o.openError = 0
      · simp [hdirectory, hpresent, hopen, hdata]
      · simp [hdirectory, hpresent, hopen]
  · simp [hdirectory]

/-! ## What becomes of the file -/

/-- A file that exists is kept. -/
theorem handle_present (o : MessageOutcome) {files : Files} {element : StoreElement}
    (h : IsPart t element) (hpresent : files t.statsFile ≠ none) :
    handleCreateFileCommand o files element = some files := by
  unfold handleCreateFileCommand
  by_cases hhandled : o.handled = false
  · exact if_pos hhandled
  · rw [if_neg hhandled]
    rcases deSerialize_fileData h with hparse | ⟨fileData, hparse, _⟩
    · simp [hparse]
    · have hsome : (files (repositoryPath, t.statsFile.2)).isSome :=
        Option.isSome_iff_ne_none.mpr hpresent
      simp [hparse, createFile, hsome]

/-- A message changes no other file, and creates this one with less than the text. -/
theorem handle_cases {o : MessageOutcome} {files files' : Files} {element : StoreElement}
    (h : IsPart t element) (hhandle : handleCreateFileCommand o files element = some files') :
    files' = files ∨ ∃ data, data.length < t.statsIdx ∧
      files' = Function.update files t.statsFile (some data) := by
  unfold handleCreateFileCommand at hhandle
  by_cases hhandled : o.handled = false
  · rw [if_pos hhandled] at hhandle
    exact .inl (Option.some.inj hhandle).symm
  · rw [if_neg hhandled] at hhandle
    rcases deSerialize_fileData h with hparse | ⟨fileData, hparse, hlength⟩
    · simp only [hparse] at hhandle
      exact .inl (Option.some.inj hhandle).symm
    · simp only [hparse, createFile] at hhandle
      split_ifs at hhandle
      · exact .inl (Option.some.inj hhandle).symm
      · obtain ⟨data, hdata, rfl⟩ := Option.map_eq_some_iff.mp hhandle
        refine .inr ⟨data.take o.accepted, ?_, rfl⟩
        have hlt := hlength data hdata
        have hle := h.size_le
        rw [List.length_take]
        omega

theorem stats_length (t : Task) : t.stats.length = t.statsIdx := by
  unfold Task.stats
  rw [List.length_take, Nat.min_eq_left t.statsIdx_le]

/-- A message does not give the file the text. -/
theorem handle_ne {o : MessageOutcome} {files files' : Files} {element : StoreElement}
    (h : IsPart t element) (hhandle : handleCreateFileCommand o files element = some files')
    (hne : files t.statsFile ≠ some t.stats) : files' t.statsFile ≠ some t.stats := by
  rcases handle_cases h hhandle with rfl | ⟨data, hlt, rfl⟩
  · exact hne
  · rw [Function.update_self]
    rintro hdata
    obtain rfl := Option.some.inj hdata
    rw [stats_length] at hlt
    exact Nat.lt_irrefl _ hlt

variable {o : Nat → MessageOutcome} {i : Nat} {elements : List StoreElement} {files files' : Files}

/-- **A run of the messages keeps a file that exists.** -/
theorem process_present (helements : ∀ element ∈ elements, IsPart t element)
    (hpresent : files t.statsFile ≠ none) : process o i elements files = some files := by
  induction elements generalizing i with
  | nil => rfl
  | cons element elements ih =>
      have hhead := helements element List.mem_cons_self
      rw [process, handle_present (o i) hhead hpresent, Option.bind_some]
      exact ih fun element hmem => helements element (List.mem_cons_of_mem _ hmem)

/-- **A run of the messages does not give the file the text.** -/
theorem process_ne (helements : ∀ element ∈ elements, IsPart t element)
    (hprocess : process o i elements files = some files')
    (hne : files t.statsFile ≠ some t.stats) : files' t.statsFile ≠ some t.stats := by
  induction elements generalizing i files with
  | nil =>
      obtain rfl := Option.some.inj hprocess
      exact hne
  | cons element elements ih =>
      obtain ⟨between, hhandle, hrest⟩ := Option.bind_eq_some_iff.mp hprocess
      have hhead := helements element List.mem_cons_self
      exact ih (fun element hmem => helements element (List.mem_cons_of_mem _ hmem)) hrest
        (handle_ne hhead hhandle hne)

/-- **A run of the messages changes no other file.** -/
theorem process_frame {path : List UInt8 × List UInt8}
    (helements : ∀ element ∈ elements, IsPart t element)
    (hprocess : process o i elements files = some files') (hpath : path ≠ t.statsFile) :
    files' path = files path := by
  induction elements generalizing i files with
  | nil =>
      obtain rfl := Option.some.inj hprocess
      rfl
  | cons element elements ih =>
      obtain ⟨between, hhandle, hrest⟩ := Option.bind_eq_some_iff.mp hprocess
      have hhead := helements element List.mem_cons_self
      rw [ih (fun element hmem => helements element (List.mem_cons_of_mem _ hmem)) hrest]
      rcases handle_cases hhead hhandle with rfl | ⟨data, _, rfl⟩
      · rfl
      · exact Function.update_of_ne hpath _ _

/-- **The messages leave the file with the text only if it had it before.** -/
theorem leavesStatistics_iff (t : Task) (sending : Nat → PartOutcome)
    (handling : Nat → MessageOutcome) (files : Files) :
    LeavesStatistics t sending handling files ↔ files t.statsFile = some t.stats := by
  constructor
  · rintro ⟨files', hprocess, hbytes⟩
    by_contra hne
    exact process_ne (sent_isPart t sending) hprocess hne hbytes
  · intro hbytes
    have hpresent : files t.statsFile ≠ none := by simp [hbytes]
    exact ⟨files, process_present (sent_isPart t sending) hpresent, hbytes⟩

/-- A text of 130 bytes. -/
def textTask : Task where
  statsVector := List.replicate 130 0x41
  statsIdx := 130
  statsIdx_le := by simp
  csvCounter := 0
  unset := 0x20

/-- With every call working and no file before, the file holds the end of its name and all but the last
    18 bytes of the text. -/
theorem statistics_not_left :
    ((process (fun _ => ⟨true, 0, 0, 4096, 0⟩) 0 (textTask.sent fun _ => ⟨true, true⟩)
        fun _ => none).map fun files => files textTask.statsFile) =
      some (some (0x20 :: ascii ['.', 'c', 's', 'v'] ++ 0 :: List.replicate 112 0x41)) ∧
    ¬ LeavesStatistics textTask (fun _ => ⟨true, true⟩) (fun _ => ⟨true, 0, 0, 4096, 0⟩)
      fun _ => none := by
  refine ⟨by decide +kernel, ?_⟩
  rintro ⟨files', hprocess, hbytes⟩
  exact process_ne (sent_isPart textTask _) hprocess (by simp) hbytes

end SystemStateTask
end Obsw
