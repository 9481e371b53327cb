import Obsw.Sdc.Packets

/-!
# `Sdc.Serialize` — writing the strings of a file command

`serializeRepositoryAndFilename` with the pointer and the size it moves, and the commands with a source
and a target. The check of the path counts its terminator and the check of the file name does not, so
the terminator of a name that fills the buffer is written behind it (`serialize_safe_iff`). What has been
written with room for all of it is read back by the parsers of the packets (`copies_back`).
-/

namespace Obsw
namespace Sdc
namespace Serialize

open Download

/-! ## Strings and buffers -/

/-- An `etl::string`: it has a fixed capacity. -/
structure EtlString (capacity : Nat) where
  text : List UInt8
  length_le : text.length ≤ capacity
  deriving DecidableEq

/-- A string that is assigned a text takes no more of it than it has room for. -/
def EtlString.ofText (capacity : Nat) (text : List UInt8) : EtlString capacity :=
  ⟨text.take capacity, List.length_take_le capacity text⟩

/-- `size`, a number of 32 bits. -/
def EtlString.size {capacity : Nat} (string : EtlString capacity) : UInt32 :=
  UInt32.ofNat string.text.length

abbrev RepositoryPath := EtlString maxRepositoryPathLength
abbrev FileName := EtlString maxFilenameLength

/-- A buffer that is written: what is in it up to `*buffer`, and what is in `*size`. -/
structure Output where
  written : List UInt8
  size : UInt32
  deriving DecidableEq

/-- Copy a string with a terminator, and move the pointer and the size behind it. -/
def Output.put {capacity : Nat} (o : Output) (string : EtlString capacity) : Output :=
  ⟨o.written ++ string.text ++ [0], o.size + (string.size + 1)⟩

/-- What the serializers return. -/
inductive Result where
  | returnOk
  | returnFailed
  | bufferTooShort
  deriving DecidableEq, Repr

/-- `serializeRepositoryAndFilename`. -/
def serializeRepositoryAndFilename (o : Output) (maxSize : UInt32) (repositoryPath : RepositoryPath)
    (filename : FileName) : Result × Output :=
  let newSize := repositoryPath.size + 1 + o.size
  if newSize ≤ maxSize ∧ o.size < newSize then
    let o := o.put repositoryPath
    -- without the terminator
    let newSize := filename.size + o.size
    if newSize ≤ maxSize ∧ o.size < newSize then (.returnOk, o.put filename)
    else (.bufferTooShort, o)
  else (.bufferTooShort, o)

/-! ## What the serializer is meant to do -/

/-- The bytes two strings take with their terminators. -/
def takes (repositoryPath : RepositoryPath) (filename : FileName) : Nat :=
  repositoryPath.text.length + filename.text.length + 2

/-- Every byte is written in front of `maxSize`, the size is not moved behind it, strings that do not fit
    are refused, and behind OK the pointer and the size have been moved by both strings. -/
structure Safe (o : Output) (maxSize : UInt32) (repositoryPath : RepositoryPath) (filename : FileName)
    (answer : Result × Output) : Prop where
  inside : ∀ i, o.written.length + i < answer.2.written.length → o.size.toNat + i < maxSize.toNat
  size_le : answer.2.size = o.size ∨ answer.2.size ≤ maxSize
  refused : maxSize.toNat < o.size.toNat + takes repositoryPath filename → answer.1 ≠ .returnOk
  advanced : answer.1 = .returnOk →
    answer.2.written.length = o.written.length + takes repositoryPath filename ∧
      answer.2.size.toNat = o.size.toNat + takes repositoryPath filename

/-! ## The checks in natural numbers -/

/-- The check of a new size. An overflow makes it smaller than the old one. -/
theorem check_iff (n size maxSize : UInt32) :
    (n + size ≤ maxSize ∧ size < n + size) ↔ 0 < n.toNat ∧ size.toNat + n.toNat ≤ maxSize.toNat := by
  have hn := n.toNat_lt
  have hsize := size.toNat_lt
  have hmax := maxSize.toNat_lt
  rw [UInt32.le_iff_toNat_le, UInt32.lt_iff_toNat_lt, UInt32.toNat_add]
  omega

theorem EtlString.toNat_size {capacity : Nat} (string : EtlString capacity) (h : capacity < 2 ^ 32) :
    string.size.toNat = string.text.length := by
  have hlength := string.length_le
  rw [EtlString.size, UInt32.toNat_ofNat']
  exact Nat.mod_eq_of_lt (by omega)

theorem path_length_le (repositoryPath : RepositoryPath) : repositoryPath.text.length ≤ 64 :=
  repositoryPath.length_le

theorem name_length_le (filename : FileName) : filename.text.length ≤ 12 := filename.length_le

theorem path_size (repositoryPath : RepositoryPath) :
    repositoryPath.size.toNat = repositoryPath.text.length :=
  repositoryPath.toNat_size (by decide)

theorem name_size (filename : FileName) : filename.size.toNat = filename.text.length :=
  filename.toNat_size (by decide)

@[simp] theorem Output.put_written {capacity : Nat} (o : Output) (string : EtlString capacity) :
    (o.put string).written = o.written ++ string.text ++ [0] := rfl

/-- The size behind a path, as long as it does not overflow. -/
theorem Output.put_path_size (o : Output) (repositoryPath : RepositoryPath)
    (h : o.size.toNat + (repositoryPath.text.length + 1) < 2 ^ 32) :
    (o.put repositoryPath).size.toNat = o.size.toNat + (repositoryPath.text.length + 1) := by
  have hlength := path_length_le repositoryPath
  have hone : (1 : UInt32).toNat = 1 := rfl
  rw [Output.put, UInt32.toNat_add, UInt32.toNat_add, path_size, hone]
  omega

theorem Output.put_name_size (o : Output) (filename : FileName) :
    (o.put filename).size.toNat = (o.size.toNat + (filename.text.length + 1)) % 2 ^ 32 := by
  have hlength := name_length_le filename
  have hone : (1 : UInt32).toNat = 1 := rfl
  rw [Output.put, UInt32.toNat_add, UInt32.toNat_add, name_size, hone]
  omega

/-- **The serializer in natural numbers:** a string is refused if it does not fit, the name without its
    terminator, and also if it is empty. -/
theorem serializeRepositoryAndFilename_eq (o : Output) (maxSize : UInt32)
    (repositoryPath : RepositoryPath) (filename : FileName) :
    serializeRepositoryAndFilename o maxSize repositoryPath filename =
      if maxSize.toNat < o.size.toNat + (repositoryPath.text.length + 1) then (.bufferTooShort, o)
      else if filename.text = [] ∨
          maxSize.toNat < o.size.toNat + (repositoryPath.text.length + 1) + filename.text.length then
        (.bufferTooShort, o.put repositoryPath)
      else (.returnOk, (o.put repositoryPath).put filename) := by
  have hlength := path_length_le repositoryPath
  have hmax := maxSize.toNat_lt
  have hpath : (repositoryPath.size + 1).toNat = repositoryPath.text.length + 1 := by
    have hone : (1 : UInt32).toNat = 1 := rfl
    rw [UInt32.toNat_add, path_size, hone]
    omega
  have hname : 0 < filename.text.length ↔ filename.text ≠ [] := List.length_pos_iff
  unfold serializeRepositoryAndFilename
  simp only [check_iff, hpath, name_size]
  by_cases hfits : maxSize.toNat < o.size.toNat + (repositoryPath.text.length + 1)
  · rw [if_pos hfits, if_neg (by omega)]
  rw [if_neg hfits, if_pos (by omega), Output.put_path_size _ _ (by omega)]
  by_cases hrefused : filename.text = [] ∨
      maxSize.toNat < o.size.toNat + (repositoryPath.text.length + 1) + filename.text.length
  · rw [if_pos hrefused, if_neg]
    rcases hrefused with hempty | hlong
    · exact fun h => hname.mp h.1 hempty
    · exact fun h => Nat.not_lt.mpr h.2 hlong
  · obtain ⟨hnonempty, hshort⟩ := not_or.mp hrefused
    rw [if_neg hrefused, if_pos ⟨hname.mpr hnonempty, Nat.not_lt.mp hshort⟩]

/-! ## The bounds of the buffer -/

section Bounds

variable {o : Output} {maxSize : UInt32} {repositoryPath : RepositoryPath} {filename : FileName}

/-- A path that does not fit leaves all as it is. -/
theorem safe_of_refused : Safe o maxSize repositoryPath filename (.bufferTooShort, o) where
  inside _ h := absurd h (by simp)
  size_le := .inl rfl
  refused _ h := by cases h
  advanced h := by cases h

/-- A path that fits may stay without its name. -/
theorem safe_of_path (hfits : o.size.toNat + (repositoryPath.text.length + 1) ≤ maxSize.toNat) :
    Safe o maxSize repositoryPath filename (.bufferTooShort, o.put repositoryPath) := by
  have hmax := maxSize.toNat_lt
  have hsize := Output.put_path_size o repositoryPath (by omega)
  refine ⟨fun i hi => ?_, .inr ?_, fun _ h => (by cases h), fun h => by cases h⟩
  · simp only [Output.put_written, List.length_append, List.length_singleton] at hi
    omega
  · rw [UInt32.le_iff_toNat_le, hsize]
    exact hfits

/-- Both strings fit exactly if there is room for the terminator of the name as well. -/
theorem safe_ok_iff
    (hfits : o.size.toNat + (repositoryPath.text.length + 1) + filename.text.length ≤ maxSize.toNat) :
    Safe o maxSize repositoryPath filename (.returnOk, (o.put repositoryPath).put filename) ↔
      o.size.toNat + takes repositoryPath filename ≤ maxSize.toNat := by
  have hmax := maxSize.toNat_lt
  have hpath := Output.put_path_size o repositoryPath (by omega)
  have hsize := Output.put_name_size (o.put repositoryPath) filename
  rw [hpath] at hsize
  have hlength : ((o.put repositoryPath).put filename).written.length =
      o.written.length + takes repositoryPath filename := by
    simp only [Output.put_written, List.length_append, List.length_singleton, takes]
    omega
  unfold takes at *
  constructor
  · intro h
    -- the last byte that is written is the terminator of the name
    have hlast := h.inside (repositoryPath.text.length + 1 + filename.text.length) (by
      rw [hlength]
      omega)
    omega
  · intro h
    refine ⟨fun i hi => ?_, .inr ?_, fun hlt => by unfold takes at hlt; omega, fun _ => ⟨hlength, ?_⟩⟩
    · rw [hlength] at hi
      omega
    · rw [UInt32.le_iff_toNat_le, hsize]
      omega
    · rw [hsize]
      unfold takes
      omega

end Bounds

/-- **The serializer keeps to the buffer** unless the name fills it to the last byte, which is where its
    terminator would have to be. -/
theorem serialize_safe_iff (o : Output) (maxSize : UInt32) (repositoryPath : RepositoryPath)
    (filename : FileName) :
    Safe o maxSize repositoryPath filename
        (serializeRepositoryAndFilename o maxSize repositoryPath filename) ↔
      ¬ (filename.text ≠ [] ∧
        o.size.toNat + (repositoryPath.text.length + 1) + filename.text.length = maxSize.toNat) := by
  rw [serializeRepositoryAndFilename_eq]
  by_cases hpath : maxSize.toNat < o.size.toNat + (repositoryPath.text.length + 1)
  · rw [if_pos hpath]
    exact iff_of_true safe_of_refused (by omega)
  rw [if_neg hpath]
  have hfits := Nat.not_lt.mp hpath
  by_cases hname : filename.text = [] ∨
      maxSize.toNat < o.size.toNat + (repositoryPath.text.length + 1) + filename.text.length
  · rw [if_pos hname]
    apply iff_of_true (safe_of_path hfits)
    rintro ⟨hnonempty, hfull⟩
    exact hname.elim hnonempty (by omega)
  · rw [if_neg hname]
    obtain ⟨hnonempty, hshort⟩ := not_or.mp hname
    rw [safe_ok_iff (Nat.not_lt.mp hshort), takes, and_iff_right hnonempty]
    omega

/-- **A terminator behind the buffer.** The path `a` and the name `b` take four bytes, and are written
    into a buffer of three. -/
theorem name_fills_buffer :
    serializeRepositoryAndFilename ⟨[], 0⟩ 3 (.ofText _ [97]) (.ofText _ [98]) =
      (.returnOk, ⟨[97, 0, 98, 0], 4⟩) ∧
    ¬ ∀ (o : Output) (maxSize : UInt32) (repositoryPath : RepositoryPath) (filename : FileName),
      Safe o maxSize repositoryPath filename
        (serializeRepositoryAndFilename o maxSize repositoryPath filename) := by
  have hanswer : serializeRepositoryAndFilename ⟨[], 0⟩ 3 (.ofText _ [97]) (.ofText _ [98]) =
      (.returnOk, ⟨[97, 0, 98, 0], 4⟩) := by decide
  refine ⟨hanswer, fun hsafe => ?_⟩
  have h := hsafe ⟨[], 0⟩ 3 (.ofText _ [97]) (.ofText _ [98])
  rw [hanswer] at h
  exact absurd (h.inside 3 (by decide)) (by decide)

/-! ## The strings are read back -/

/-- The bytes two strings are written as. -/
def bytes (repositoryPath : RepositoryPath) (filename : FileName) : List UInt8 :=
  repositoryPath.text ++ 0 :: (filename.text ++ [0])

@[simp] theorem length_bytes (repositoryPath : RepositoryPath) (filename : FileName) :
    (bytes repositoryPath filename).length = takes repositoryPath filename := by
  simp only [bytes, takes, List.length_append, List.length_cons, List.length_nil]
  omega

/-- A string that the packets can hold: it is not empty and has no terminator in it. -/
def EtlString.Proper {capacity : Nat} (string : EtlString capacity) : Prop :=
  string.text ≠ [] ∧ 0 ∉ string.text

theorem EtlString.ofText_text {capacity : Nat} (string : EtlString capacity) :
    EtlString.ofText capacity string.text = string := by
  cases string with
  | mk text length_le => simp only [ofText, List.take_of_length_le length_le]

/-- With room for both strings, both are written. -/
theorem serialize_fits {o : Output} {maxSize : UInt32} {repositoryPath : RepositoryPath}
    {filename : FileName} (hname : filename.text ≠ [])
    (hroom : o.size.toNat + takes repositoryPath filename ≤ maxSize.toNat) :
    ∃ o', serializeRepositoryAndFilename o maxSize repositoryPath filename = (.returnOk, o') ∧
      o'.written = o.written ++ bytes repositoryPath filename ∧
      o'.size.toNat = o.size.toNat + takes repositoryPath filename := by
  have hmax := maxSize.toNat_lt
  unfold takes at hroom
  refine ⟨(o.put repositoryPath).put filename, ?_, ?_, ?_⟩
  · rw [serializeRepositoryAndFilename_eq, if_neg (by omega), if_neg (not_or.mpr ⟨hname, by omega⟩)]
  · simp [bytes]
  · rw [Output.put_name_size, Output.put_path_size _ _ (by omega), takes]
    omega

/-- **The parser of a path and a name reads back what has been written,** whatever is behind it. -/
theorem deSerialize_bytes {repositoryPath : RepositoryPath} {filename : FileName}
    (hpath : 0 ∉ repositoryPath.text) (hname : 0 ∉ filename.text) (rest : List UInt8) {size : UInt32}
    (hsize : takes repositoryPath filename ≤ size.toNat) (oldPath oldName : List UInt8) :
    ∃ cursor, Packets.deSerializeRepositoryAndFilename
        (some (bytes repositoryPath filename ++ rest)) size oldPath oldName =
          some ⟨.returnOk, cursor, repositoryPath.text, filename.text⟩ ∧
      cursor.offset = takes repositoryPath filename ∧
      cursor.size.toNat = size.toNat - takes repositoryPath filename := by
  have hpacket : (bytes repositoryPath filename ++ rest).take size.toNat = repositoryPath.text ++ 0 ::
      (filename.text ++ 0 :: rest.take (size.toNat - takes repositoryPath filename)) := by
    rw [List.take_append, length_bytes, List.take_of_length_le (by rw [length_bytes]; exact hsize)]
    simp [bytes]
  have hpathAssign : Packets.assign maxRepositoryPathLength repositoryPath.text = repositoryPath.text :=
    List.take_of_length_le repositoryPath.length_le
  have hnameAssign : Packets.assign maxFilenameLength filename.text = filename.text :=
    List.take_of_length_le filename.length_le
  have hrest := Packets.drop_packet hpacket
  rw [← hpathAssign] at hrest
  rw [Packets.deSerializeRepositoryAndFilename,
    Packets.deSerializeStrings_inside hpacket hpath hrest hname,
    if_neg (Nat.not_lt.mpr filename.length_le), hpathAssign, hnameAssign]
  unfold takes at *
  obtain ⟨hoffset, hleft⟩ := (Packets.secondCursor_keeps repositoryPath.text
    filename.text.length (show repositoryPath.text.length + 1 ≤ size.toNat by omega)).skip
      filename.text (by
        rw [Packets.secondCursor_offset]
        omega)
  have hcursor : ((Packets.secondCursor size repositoryPath.text repositoryPath.text
      filename.text.length).skip filename.text).offset =
        repositoryPath.text.length + filename.text.length + 2 := by
    show (Packets.secondCursor size repositoryPath.text repositoryPath.text
      filename.text.length).offset + (filename.text.length + 1) = _
    rw [Packets.secondCursor_offset]
    omega
  rw [hcursor] at hleft
  exact ⟨_, rfl, hcursor, hleft⟩

/-! ## Commands with a source and a target -/

/-- `GenericSourceTargetCommand`. -/
structure GenericSourceTargetCommand where
  sourcePath : RepositoryPath
  sourceName : FileName
  targetPath : RepositoryPath
  targetName : FileName
  deriving DecidableEq

/-- `GenericSourceTargetCommand::serialize`. -/
def GenericSourceTargetCommand.serialize (command : GenericSourceTargetCommand) (o : Output)
    (maxSize : UInt32) : Result × Output :=
  if command.sourceName.text = [] ∨ command.sourcePath.text = [] ∨ command.targetPath.text = [] ∨
      command.targetName.text = [] then (.returnFailed, o)
  else
    match serializeRepositoryAndFilename o maxSize command.sourcePath command.sourceName with
    | (.returnOk, o) => serializeRepositoryAndFilename o maxSize command.targetPath command.targetName
    | failed => failed

/-- What `deSerialize` returns, how far it moves the pointer, what is in the size, and the command. -/
structure Deserialized (Command : Type) where
  result : Packets.Result
  offset : Nat
  size : UInt32
  command : Command
  deriving DecidableEq

/-- `GenericSourceTargetCommand::deSerialize`. The pointer of the target is behind the source. -/
def GenericSourceTargetCommand.deSerialize (command : GenericSourceTargetCommand)
    (buffer : Option (List UInt8)) (size : UInt32) : Option (Deserialized GenericSourceTargetCommand) :=
  match Packets.deSerializeRepositoryAndFilename buffer size command.sourcePath.text
    command.sourceName.text with
  | none => none
  | some source =>
    let command :=
      { command with sourcePath := .ofText _ source.first, sourceName := .ofText _ source.second }
    if source.result ≠ .returnOk then
      some ⟨source.result, source.cursor.offset, source.cursor.size, command⟩
    else
      match Packets.deSerializeRepositoryAndFilename (buffer.map (List.drop source.cursor.offset))
        source.cursor.size command.targetPath.text command.targetName.text with
      | none => none
      | some target =>
        some ⟨target.result, source.cursor.offset + target.cursor.offset, target.cursor.size,
          { command with targetPath := .ofText _ target.first, targetName := .ofText _ target.second }⟩

/-- The bytes of a command. -/
def GenericSourceTargetCommand.bytes (command : GenericSourceTargetCommand) : List UInt8 :=
  Serialize.bytes command.sourcePath command.sourceName ++
    Serialize.bytes command.targetPath command.targetName

theorem GenericSourceTargetCommand.length_bytes (command : GenericSourceTargetCommand) :
    command.bytes.length = takes command.sourcePath command.sourceName +
      takes command.targetPath command.targetName := by
  rw [bytes, List.length_append, Serialize.length_bytes, Serialize.length_bytes]

/-- With room for all of it, a command without empty strings is written. -/
theorem GenericSourceTargetCommand.serialize_written {command : GenericSourceTargetCommand}
    {o : Output} {maxSize : UInt32} (hsourcePath : command.sourcePath.text ≠ [])
    (hsourceName : command.sourceName.text ≠ []) (htargetPath : command.targetPath.text ≠ [])
    (htargetName : command.targetName.text ≠ [])
    (hroom : o.size.toNat + command.bytes.length ≤ maxSize.toNat) :
    ∃ o', command.serialize o maxSize = (.returnOk, o') ∧ o'.written = o.written ++ command.bytes ∧
      o'.size.toNat = o.size.toNat + command.bytes.length := by
  rw [length_bytes] at hroom ⊢
  obtain ⟨between, hsource, hwritten, hsize⟩ :=
    serialize_fits hsourceName
      (show o.size.toNat + takes command.sourcePath command.sourceName ≤ maxSize.toNat by omega)
  obtain ⟨o', htarget, hwritten', hsize'⟩ :=
    serialize_fits htargetName
      (show between.size.toNat + takes command.targetPath command.targetName ≤ maxSize.toNat by omega)
  refine ⟨o', ?_, ?_, by omega⟩
  · have hnonempty : ¬ (command.sourceName.text = [] ∨ command.sourcePath.text = [] ∨
        command.targetPath.text = [] ∨ command.targetName.text = []) := by
      rintro (h | h | h | h)
      · exact hsourceName h
      · exact hsourcePath h
      · exact htargetPath h
      · exact htargetName h
    rw [serialize, if_neg hnonempty, hsource]
    exact htarget
  · rw [hwritten', hwritten, bytes, List.append_assoc]

/-- The bytes of a command are read back, whatever is behind them and in the command before. -/
theorem GenericSourceTargetCommand.deSerialize_written {command : GenericSourceTargetCommand}
    (hsourcePath : 0 ∉ command.sourcePath.text) (hsourceName : 0 ∉ command.sourceName.text)
    (htargetPath : 0 ∉ command.targetPath.text) (htargetName : 0 ∉ command.targetName.text)
    (old : GenericSourceTargetCommand) (rest : List UInt8) {size : UInt32}
    (hsize : command.bytes.length ≤ size.toNat) :
    old.deSerialize (some (command.bytes ++ rest)) size =
      some ⟨.returnOk, command.bytes.length, size - UInt32.ofNat command.bytes.length, command⟩ := by
  have hlength := length_bytes command
  obtain ⟨source, hsource, hoffset, hleft⟩ := deSerialize_bytes hsourcePath hsourceName
    (Serialize.bytes command.targetPath command.targetName ++ rest)
    (show takes command.sourcePath command.sourceName ≤ size.toNat by omega)
    old.sourcePath.text old.sourceName.text
  obtain ⟨target, htarget, hoffset', hleft'⟩ := deSerialize_bytes htargetPath htargetName rest
    (show takes command.targetPath command.targetName ≤ source.size.toNat by omega)
    old.targetPath.text old.targetName.text
  have hfront : command.bytes ++ rest = Serialize.bytes command.sourcePath command.sourceName ++
      (Serialize.bytes command.targetPath command.targetName ++ rest) := List.append_assoc _ _ _
  have hbehind : (command.bytes ++ rest).drop source.offset =
      Serialize.bytes command.targetPath command.targetName ++ rest := by
    rw [hoffset, hfront, ← Serialize.length_bytes, List.drop_left]
  have hsizeEnd : target.size = size - UInt32.ofNat command.bytes.length := by
    have hlt := size.toNat_lt
    have hnumber : (UInt32.ofNat command.bytes.length).toNat = command.bytes.length := by
      rw [UInt32.toNat_ofNat']
      exact Nat.mod_eq_of_lt (by omega)
    apply UInt32.toNat_inj.mp
    rw [UInt32.toNat_sub_of_le _ _ (UInt32.le_iff_toNat_le.mpr (by omega)), hnumber]
    omega
  rw [← hfront] at hsource
  rw [deSerialize, hsource]
  simp only [ne_eq, not_true_eq_false, if_false, Option.map_some, hbehind, htarget,
    EtlString.ofText_text, hsizeEnd]
  rw [hoffset, hoffset', ← hlength]

/-- **Round trip.** A command with proper strings is written into a buffer with room for it, and the same
    four strings are read from its bytes, and nothing behind them. -/
theorem copies_back (command : GenericSourceTargetCommand) (o : Output) (maxSize : UInt32)
    (hsourcePath : command.sourcePath.Proper) (hsourceName : command.sourceName.Proper)
    (htargetPath : command.targetPath.Proper) (htargetName : command.targetName.Proper)
    (hroom : o.size.toNat + command.bytes.length ≤ maxSize.toNat) :
    ∃ written size, command.serialize o maxSize = (.returnOk, ⟨o.written ++ written, size⟩) ∧
      size.toNat = o.size.toNat + written.length ∧
      ∀ (old : GenericSourceTargetCommand) (rest : List UInt8) (size : UInt32),
        written.length ≤ size.toNat → old.deSerialize (some (written ++ rest)) size =
          some ⟨.returnOk, written.length, size - UInt32.ofNat written.length, command⟩ := by
  obtain ⟨⟨written, size⟩, hserialize, hwritten, hsize⟩ := command.serialize_written hsourcePath.1
    hsourceName.1 htargetPath.1 htargetName.1 hroom
  obtain rfl : written = o.written ++ command.bytes := hwritten
  exact ⟨command.bytes, size, hserialize, hsize, fun old rest size hle =>
    command.deSerialize_written hsourcePath.2 hsourceName.2 htargetPath.2 htargetName.2 old rest hle⟩

/-- A copy from the longest path there is, with a file of three characters, to the longest file name in `c/d`. -/
def longCopy : GenericSourceTargetCommand where
  sourcePath := .ofText _ (List.replicate maxRepositoryPathLength 97)
  sourceName := .ofText _ [98, 46, 98]
  targetPath := .ofText _ [99, 47, 100]
  targetName := .ofText _ (List.replicate maxFilenameLength 101)

/-- Behind two bytes, it is written into a buffer that has exactly the room it takes. -/
theorem copies_back_exact :
    ∃ written size, longCopy.serialize ⟨[1, 2], 2⟩ 88 = (.returnOk, ⟨[1, 2] ++ written, size⟩) ∧
      size.toNat = (⟨[1, 2], 2⟩ : Output).size.toNat + written.length ∧
      ∀ (old : GenericSourceTargetCommand) (rest : List UInt8) (size : UInt32),
        written.length ≤ size.toNat → old.deSerialize (some (written ++ rest)) size =
          some ⟨.returnOk, written.length, size - UInt32.ofNat written.length, longCopy⟩ :=
  copies_back longCopy ⟨[1, 2], 2⟩ 88
    (by unfold EtlString.Proper; decide) (by unfold EtlString.Proper; decide)
    (by unfold EtlString.Proper; decide) (by unfold EtlString.Proper; decide) (by decide)

/-! ## An empty buffer -/

/-- Into an empty buffer, the serializer writes what the serializer of a read reply writes. -/
theorem serializeRepositoryAndFilename_empty (maxSize : UInt32) (repositoryPath : RepositoryPath)
    (filename : FileName) :
    Download.serializeRepositoryAndFilename maxSize.toNat repositoryPath.text filename.text =
      match serializeRepositoryAndFilename ⟨[], 0⟩ maxSize repositoryPath filename with
      | (.returnOk, o) => .ok o.written
      | _ => .error .bufferTooShort := by
  have hzero : (0 : UInt32).toNat = 0 := rfl
  rw [serializeRepositoryAndFilename_eq]
  unfold Download.serializeRepositoryAndFilename serializeString
  simp only [hzero, List.length_nil, Nat.zero_add, Nat.add_zero]
  by_cases hpath : maxSize.toNat < repositoryPath.text.length + 1
  · rw [if_pos hpath, if_neg (by omega)]
  · rw [if_neg hpath, if_pos (by omega)]
    simp only [List.nil_append, List.length_append, List.length_singleton]
    by_cases hname : filename.text = [] ∨
        maxSize.toNat < repositoryPath.text.length + 1 + filename.text.length
    · rw [if_pos hname, if_neg]
      rintro ⟨hfits, hpos⟩
      rcases hname with hempty | hlong
      · rw [hempty, List.length_nil] at hpos
        omega
      · omega
    · obtain ⟨hnonempty, hshort⟩ := not_or.mp hname
      have hpos := List.length_pos_iff.mpr hnonempty
      rw [if_neg hname, if_pos (by omega)]
      simp only [Output.put_written, List.nil_append]

end Serialize
end Sdc
end Obsw
