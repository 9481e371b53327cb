import Obsw.Lib.LittleEndian
import Obsw.Sdc.Append

/-!
# `Sdc.Read` — reading a file by read commands

`SDCardHandler::handleReadCommand`, `handleReadReplies` and `openFileForReading`, the parser of the read
command and `ReadReply`. A command with sequence number n is meant to be answered with the n-th part of
the file, in a packet behind the repository path and the file name.

The packet is serialized with the size of the part as the size of the buffer. Path and name alone need
two bytes of it, so no packet ever fits (`serialize_sizeToRead`), although the store element has been
requested with the right size and would do (`serialize_serializedSize`). No read command is answered
with data, and no file can be read (`never_reads_back`).
-/

namespace Obsw
namespace Sdc
namespace Download

open LittleEndian

inductive Error where
  | failed
  | streamTooShort
  | bufferTooShort
  | sequencePacketMissingRead
  | directory (code : Nat)
  | store (code : Nat)
  | queue (code : Nat)
  deriving DecidableEq, Repr

/-! ## The read command -/

/-- `ReadCommand`. -/
structure ReadCommand where
  repositoryPath : List UInt8
  filename : List UInt8
  sequenceNumber : UInt16

/-- `strlen`. `none`: there is no terminator in the message. -/
def strlen (buffer : List UInt8) : Option Nat :=
  if 0 ∈ buffer then some (buffer.idxOf 0) else none

/-- Repository path and file name, and the buffer behind them. -/
structure PathAndName where
  repositoryPath : List UInt8
  filename : List UInt8
  buffer : List UInt8

/-- `deSerializeRepositoryAndFilename`. The strings are of fixed capacity, and take no more characters of
    what they are assigned. -/
def deSerializeRepositoryAndFilename (buffer : List UInt8) : Option (Except Error PathAndName) :=
  match strlen buffer with
  | none => none
  | some repositoryLength =>
    -- a path that is too long is only warned about
    if buffer.length < repositoryLength then some (.error .streamTooShort)
    else
      let repositoryPath := (buffer.take repositoryLength).take maxRepositoryPathLength
      let buffer := buffer.drop (repositoryPath.length + 1)
      match strlen buffer with
      | none => none
      | some filenameLength =>
        if maxFilenameLength < filenameLength then some (.ok ⟨repositoryPath, [], buffer⟩)
        else if buffer.length < filenameLength then some (.error .streamTooShort)
        else
          let filename := (buffer.take filenameLength).take maxFilenameLength
          some (.ok ⟨repositoryPath, filename, buffer.drop (filename.length + 1)⟩)

/-- `ReadCommand::deSerialize`. -/
def ReadCommand.deSerialize (buffer : List UInt8) : Option (Except Error ReadCommand) :=
  match deSerializeRepositoryAndFilename buffer with
  | none => none
  | some (.error error) => some (.error error)
  | some (.ok packet) =>
    match packet.buffer with
    | high :: low :: _ =>
      some (.ok
        ⟨packet.repositoryPath, packet.filename, UInt16.ofNat (ofLE [low, high])⟩)
    | _ => some (.error .streamTooShort)

/-! ## The read reply -/

/-- `ReadReply`. -/
structure ReadReply where
  repositoryPath : List UInt8
  filename : List UInt8
  sizeToRead : Nat

def ReadReply.getSerializedSize (r : ReadReply) : Nat :=
  r.repositoryPath.length + r.filename.length + 2 + r.sizeToRead

/-- One string of `serializeRepositoryAndFilename`, with the terminator; `size` is what its check adds to
    the size written so far. -/
def serializeString (maxSize size : Nat) (string written : List UInt8) :
    Except Error (List UInt8) :=
  let newSize := size + written.length
  if newSize ≤ maxSize ∧ written.length < newSize then .ok (written ++ string ++ [0])
  else .error .bufferTooShort

/-- `serializeRepositoryAndFilename`. The terminator of the file name is not part of the check. -/
def serializeRepositoryAndFilename (maxSize : Nat) (repositoryPath filename : List UInt8) :
    Except Error (List UInt8) :=
  match serializeString maxSize (repositoryPath.length + 1) repositoryPath [] with
  | .error error => .error error
  | .ok written => serializeString maxSize filename.length filename written

/-- `ReadReply::serialize`, for the bytes behind the position of the file, of which `f_read` gives no more
    than `readable`. -/
def ReadReply.serialize (r : ReadReply) (fileData : List UInt8) (readable maxSize : Nat) :
    Except Error (List UInt8) :=
  match serializeRepositoryAndFilename maxSize r.repositoryPath r.filename with
  | .error error => .error error
  | .ok written =>
    if maxSize < written.length + r.sizeToRead then .error .bufferTooShort
    else
      let data := (fileData.take r.sizeToRead).take readable
      if data.length ≠ r.sizeToRead then .error .failed else .ok (written ++ data)

/-! ## `SDCardHandler` -/

/-- A command and what it meets: the data of its message, the error of `changeDirectory`, whether `f_open`
    and `f_seek` work, the error of `getFreeElement`, how many bytes `f_read` gives, and the errors of
    the two replies. -/
structure Env where
  message : Option (List UInt8)
  directory : Option Nat
  opens : Bool
  seek : Bool
  freeElement : Option Nat
  readable : Nat
  reply : Option Nat
  finishReply : Option Nat

/-- What is sent: a read reply with its packet, the finish reply, or the failure of the command. -/
inductive Reply where
  | readReply (finished : Bool) (packet : List UInt8)
  | readFinished (packet : List UInt8)
  | failure (error : Error)
  deriving DecidableEq, Repr

/-- The part of the handler a download uses. -/
structure Handler where
  lastPacketReadNumber : UInt16
  currentReadPos : Nat

/-- What a command answers: the error it returns, if any, and the replies. -/
structure Answer where
  error : Option Error
  replies : List Reply

/-- `handleSequenceNumberRead` makes the checks of `handleSequenceNumberWrite`. -/
def handleSequenceNumberRead (lastPacketReadNumber sequenceNumber : UInt16) :
    Except Error UInt16 :=
  match Upload.handleSequenceNumberWrite lastPacketReadNumber sequenceNumber with
  | .error _ => .error .sequencePacketMissingRead
  | .ok last => .ok last

/-- `openFileForReading`: the position of the file and `sizeToRead`. A failing `f_seek` is only
    reported. -/
def openFileForReading (e : Env) (fileSize readPosition : Nat) : Except Error (Nat × Nat) :=
  match e.directory with
  | some code => .error (.directory code)
  | none =>
    if e.opens = false then .error .failed
    else if fileSize < readPosition then .ok (0, 0)
    else
      let position := if e.seek then readPosition else 0
      if fileSize - readPosition < sdCardMaxReadLength then .ok (position, fileSize - readPosition)
      else .ok (position, sdCardMaxReadLength)

/-- The end of `handleReadReplies`: the read reply, and behind the last part the finish reply. A reply
    that finds no room in the queue is not sent. -/
def sendReplies (e : Env) (readOpFinished : Bool) (packet : List UInt8) : Answer :=
  let sent := if e.reply = none then [Reply.readReply readOpFinished packet] else []
  if readOpFinished then
    { error := e.finishReply.map Error.queue
      replies := sent ++ if e.finishReply = none then [Reply.readFinished packet] else [] }
  else { error := e.reply.map Error.queue, replies := sent }

/-- `handleReadReplies`, for the content of the file. -/
def handleReadReplies (e : Env) (content : List UInt8) (command : ReadCommand) (h : Handler) :
    Answer × Handler :=
  let h := { h with currentReadPos := command.sequenceNumber.toNat * sdCardMaxReadLength }
  match openFileForReading e content.length h.currentReadPos with
  | .error error => (⟨some error, []⟩, h)
  | .ok (position, sizeToRead) =>
    let readOpFinished := decide (sizeToRead < sdCardMaxReadLength)
    let replyPacket : ReadReply := ⟨command.repositoryPath, command.filename, sizeToRead⟩
    match e.freeElement with
    | some code => (⟨some (.store code), []⟩, h)
    | none =>
      -- the third argument is the size of the buffer
      match replyPacket.serialize (content.drop position) e.readable sizeToRead with
      | .error error => (⟨some error, [.failure error]⟩, h)
      | .ok packet => (sendReplies e readOpFinished packet, h)

/-- `handleReadCommand`. `none`: a string of the message has no end. -/
def handleReadCommand (e : Env) (content : List UInt8) (h : Handler) : Option (Answer × Handler) :=
  match e.message with
  | none => some (⟨some .failed, []⟩, h)
  | some buffer =>
    match ReadCommand.deSerialize buffer with
    | none => none
    | some (.error error) => some (⟨some error, []⟩, h)
    | some (.ok command) =>
      match handleSequenceNumberRead h.lastPacketReadNumber command.sequenceNumber with
      | .error error => some (⟨some error, []⟩, h)
      | .ok last =>
        some (handleReadReplies e content command { h with lastPacketReadNumber := last })

/-! ## A download -/

/-- The answers to a list of commands. -/
def answers (content : List UInt8) : List Env → Handler → Option (List Answer)
  | [], _ => some []
  | e :: es, h =>
    match handleReadCommand e content h with
    | none => none
    | some (answer, h) => (answers content es h).map (answer :: ·)

/-- The message of a read command. -/
def readCommand (repositoryPath filename : List UInt8) (sequenceNumber : UInt16) : List UInt8 :=
  repositoryPath ++ [0] ++ filename ++ [0] ++ (toLE 2 sequenceNumber.toNat).reverse

/-- Read commands with the sequence numbers 0, 1, …, k. -/
def download (es : Nat → Env) (repositoryPath filename : List UInt8) (k : Nat) : List Env :=
  (List.range (k + 1)).map fun i =>
    { es i with message := some (readCommand repositoryPath filename (UInt16.ofNat i)) }

/-- The data part of a read reply. -/
def dataPart (repositoryPath filename : List UInt8) : Reply → List UInt8
  | .readReply _ packet => packet.drop (repositoryPath.length + filename.length + 2)
  | .readFinished _ | .failure _ => []

def Reply.isFinish : Reply → Bool
  | .readFinished _ => true
  | .readReply _ _ | .failure _ => false

/-- Reading the file by commands 0, 1, …, k gives it back: the last command is the first one answered with
    the finish reply, and the data parts of the replies are the file. -/
def ReadsBack (es : Nat → Env) (content repositoryPath filename : List UInt8) (h : Handler)
    (k : Nat) : Prop :=
  ∃ before last, answers content (download es repositoryPath filename k) h =
      some (before ++ [last]) ∧
    (∀ answer ∈ before, ∀ reply ∈ answer.replies, reply.isFinish = false) ∧
    (∃ reply ∈ last.replies, reply.isFinish = true) ∧
    ((before ++ [last]).flatMap Answer.replies).flatMap (dataPart repositoryPath filename) = content

/-! ## The parser accepts the commands -/

theorem strlen_string {string : List UInt8} (hzero : 0 ∉ string) (rest : List UInt8) :
    strlen (string ++ 0 :: rest) = some string.length := by
  rw [strlen, if_pos (by simp), List.idxOf_append_of_notMem hzero, List.idxOf_cons_self,
    Nat.add_zero]

/-- **Round trip.** A path and a name that fit their strings are parsed from the command. -/
theorem deSerialize_readCommand {repositoryPath filename : List UInt8} {sequenceNumber : UInt16}
    (hpath : repositoryPath.length ≤ maxRepositoryPathLength) (hpathZero : 0 ∉ repositoryPath)
    (hname : filename.length ≤ maxFilenameLength) (hnameZero : 0 ∉ filename) :
    ReadCommand.deSerialize (readCommand repositoryPath filename sequenceNumber) =
      some (.ok ⟨repositoryPath, filename, sequenceNumber⟩) := by
  have hbytes : readCommand repositoryPath filename sequenceNumber = repositoryPath ++ 0 ::
      (filename ++ 0 :: (toLE 2 sequenceNumber.toNat).reverse) := by
    simp [readCommand]
  -- the sequence number is the only number of the message, high byte first
  have hnumber : ofLE (toLE 2 sequenceNumber.toNat) = sequenceNumber.toNat := by
    rw [ofLE_toLE]
    exact Nat.mod_eq_of_lt sequenceNumber.toNat_lt
  have hpacket : deSerializeRepositoryAndFilename
      (readCommand repositoryPath filename sequenceNumber) =
        some (.ok ⟨repositoryPath, filename, (toLE 2 sequenceNumber.toNat).reverse⟩) := by
    rw [hbytes, deSerializeRepositoryAndFilename, strlen_string hpathZero]
    simp only [List.take_left, List.take_of_length_le hpath]
    rw [if_neg (by simp)]
    rw [show repositoryPath ++ 0 :: (filename ++ 0 :: (toLE 2 sequenceNumber.toNat).reverse) =
      (repositoryPath ++ [0]) ++ (filename ++ 0 :: (toLE 2 sequenceNumber.toNat).reverse) by simp]
    rw [show repositoryPath.length + 1 = (repositoryPath ++ [0]).length by simp, List.drop_left]
    simp only [strlen_string hnameZero, List.take_left, List.take_of_length_le hname]
    rw [if_neg (Nat.not_lt.mpr hname), if_neg (by simp)]
    rw [show filename ++ 0 :: (toLE 2 sequenceNumber.toNat).reverse =
      (filename ++ [0]) ++ (toLE 2 sequenceNumber.toNat).reverse by simp]
    rw [show filename.length + 1 = (filename ++ [0]).length by simp, List.drop_left]
  rw [ReadCommand.deSerialize, hpacket]
  have htwo : toLE 2 sequenceNumber.toNat =
      [UInt8.ofNat sequenceNumber.toNat, UInt8.ofNat (sequenceNumber.toNat / 256)] := rfl
  rw [htwo] at hnumber ⊢
  simp only [List.reverse_cons, List.reverse_nil, List.nil_append, List.cons_append]
  rw [hnumber, UInt16.ofNat_toNat]

/-! ## The reply does not fit -/

theorem serializeString_cases (maxSize size : Nat) (string written : List UInt8) :
    serializeString maxSize size string written = .error .bufferTooShort ∨
      serializeString maxSize size string written = .ok (written ++ string ++ [0]) := by
  unfold serializeString
  by_cases h : size + written.length ≤ maxSize ∧ written.length < size + written.length
  · exact Or.inr (if_pos h)
  · exact Or.inl (if_neg h)

theorem serializeRepositoryAndFilename_cases (maxSize : Nat)
    (repositoryPath filename : List UInt8) :
    serializeRepositoryAndFilename maxSize repositoryPath filename = .error .bufferTooShort ∨
      serializeRepositoryAndFilename maxSize repositoryPath filename =
        .ok (repositoryPath ++ [0] ++ filename ++ [0]) := by
  unfold serializeRepositoryAndFilename
  rcases serializeString_cases maxSize (repositoryPath.length + 1) repositoryPath [] with h | h
  · rw [h]
    exact Or.inl rfl
  · rw [h]
    exact serializeString_cases maxSize filename.length filename (repositoryPath ++ [0])

/-- **No packet fits a buffer of the size of its data part:** path and name take two bytes of it. -/
theorem serialize_sizeToRead (r : ReadReply) (fileData : List UInt8) (readable : Nat) :
    r.serialize fileData readable r.sizeToRead = .error .bufferTooShort := by
  unfold ReadReply.serialize
  rcases serializeRepositoryAndFilename_cases r.sizeToRead r.repositoryPath r.filename with h | h
  · rw [h]
  · rw [h]
    apply if_pos
    simp only [List.length_append, List.length_singleton]
    omega

/-- A buffer of the size of the packet holds it, as long as the file has a name. -/
theorem serialize_serializedSize (r : ReadReply) {fileData : List UInt8} {readable : Nat}
    (hname : r.filename ≠ []) (hdata : r.sizeToRead ≤ fileData.length)
    (hreadable : r.sizeToRead ≤ readable) :
    r.serialize fileData readable r.getSerializedSize =
      .ok (r.repositoryPath ++ [0] ++ r.filename ++ [0] ++ fileData.take r.sizeToRead) := by
  have hpos : 0 < r.filename.length := List.length_pos_of_ne_nil hname
  have hwritten : serializeRepositoryAndFilename r.getSerializedSize r.repositoryPath r.filename =
      .ok (r.repositoryPath ++ [0] ++ r.filename ++ [0]) := by
    have hfirst : serializeString r.getSerializedSize (r.repositoryPath.length + 1)
        r.repositoryPath [] = .ok (r.repositoryPath ++ [0]) := by
      apply if_pos
      rw [ReadReply.getSerializedSize]
      exact ⟨by simp only [List.length_nil]; omega, Nat.succ_pos _⟩
    rw [serializeRepositoryAndFilename, hfirst]
    apply if_pos
    rw [ReadReply.getSerializedSize, List.length_append, List.length_singleton]
    exact ⟨by omega, by omega⟩
  rw [ReadReply.serialize, hwritten]
  have hlength : ((fileData.take r.sizeToRead).take readable).length = r.sizeToRead := by
    rw [List.take_take, List.length_take]
    omega
  have htake : (fileData.take r.sizeToRead).take readable = fileData.take r.sizeToRead := by
    rw [List.take_take, Nat.min_eq_right hreadable]
  have hroom : ¬ r.getSerializedSize <
      (r.repositoryPath ++ [0] ++ r.filename ++ [0]).length + r.sizeToRead := by
    simp only [ReadReply.getSerializedSize, List.length_append, List.length_singleton]
    omega
  simp only [if_neg hroom]
  rw [if_neg (fun h => h hlength), htake]

/-! ## What is answered -/

/-- **Step lemma.** A command that opens the file is answered with a failure, and no other with
    anything. -/
theorem handleReadReplies_replies (e : Env) (content : List UInt8) (command : ReadCommand)
    (h : Handler) :
    ∀ reply ∈ (handleReadReplies e content command h).1.replies,
      reply = .failure .bufferTooShort := by
  unfold handleReadReplies
  intro reply hreply
  cases hopen : openFileForReading e content.length
      (command.sequenceNumber.toNat * sdCardMaxReadLength) with
  | error error =>
    simp only [hopen] at hreply
    cases hreply
  | ok opened =>
    obtain ⟨position, sizeToRead⟩ := opened
    cases hstore : e.freeElement with
    | some code =>
      simp only [hopen, hstore] at hreply
      cases hreply
    | none =>
      have hserialize := serialize_sizeToRead
        ⟨command.repositoryPath, command.filename, sizeToRead⟩ (content.drop position) e.readable
      simp only [hopen, hstore, hserialize] at hreply
      exact List.mem_singleton.mp hreply

theorem handleReadCommand_replies {e : Env} {content : List UInt8} {h h' : Handler}
    {answer : Answer} (hcommand : handleReadCommand e content h = some (answer, h')) :
    ∀ reply ∈ answer.replies, reply = .failure .bufferTooShort := by
  intro reply hreply
  unfold handleReadCommand at hcommand
  cases hmessage : e.message with
  | none =>
    simp only [hmessage] at hcommand
    cases hcommand
    cases hreply
  | some buffer =>
    simp only [hmessage] at hcommand
    split at hcommand
    · cases hcommand
    · cases hcommand
      cases hreply
    · split at hcommand
      · cases hcommand
        cases hreply
      · have hanswer : _ = answer := congrArg Prod.fst (Option.some.inj hcommand)
        subst hanswer
        exact handleReadReplies_replies e content _ _ reply hreply

/-- **Run lemma.** Whatever the commands and what they meet, no reply carries data, and none says that
    the file was read. -/
theorem answers_replies {content : List UInt8} (es : List Env) :
    ∀ (h : Handler) (found : List Answer), answers content es h = some found →
      ∀ answer ∈ found, ∀ reply ∈ answer.replies, reply = .failure .bufferTooShort := by
  induction es with
  | nil =>
    intro h found hfound answer hanswer
    cases hfound
    cases hanswer
  | cons e es ih =>
    intro h found hfound answer hanswer
    unfold answers at hfound
    cases hcommand : handleReadCommand e content h with
    | none =>
      simp only [hcommand] at hfound
      cases hfound
    | some result =>
      obtain ⟨first, h'⟩ := result
      simp only [hcommand] at hfound
      obtain ⟨others, hothers, rfl⟩ := Option.map_eq_some_iff.mp hfound
      rcases List.mem_cons.mp hanswer with rfl | hmem
      · exact handleReadCommand_replies hcommand
      · exact ih h' others hothers answer hmem

theorem not_finish_of_answers {content : List UInt8} {es : List Env} {h : Handler}
    {before : List Answer} {last : Answer} (hanswers : answers content es h = some (before ++ [last])) :
    ∀ reply ∈ last.replies, reply.isFinish = false := by
  intro reply hreply
  rw [answers_replies es h _ hanswers last (by simp) reply hreply]
  rfl

/-- When all goes well up to the serialization, this is what the command answers. -/
theorem handleReadCommand_tooShort {e : Env} {content repositoryPath filename : List UInt8}
    {sequenceNumber last : UInt16} {h : Handler}
    (hpath : repositoryPath.length ≤ maxRepositoryPathLength) (hpathZero : 0 ∉ repositoryPath)
    (hname : filename.length ≤ maxFilenameLength) (hnameZero : 0 ∉ filename)
    (hmessage : e.message = some (readCommand repositoryPath filename sequenceNumber))
    (hsequence : handleSequenceNumberRead h.lastPacketReadNumber sequenceNumber = .ok last)
    (hdirectory : e.directory = none) (hopens : e.opens = true) (hstore : e.freeElement = none) :
    ∃ h', handleReadCommand e content h =
      some (⟨some .bufferTooShort, [.failure .bufferTooShort]⟩, h') := by
  have hparse : ReadCommand.deSerialize (readCommand repositoryPath filename sequenceNumber) =
      some (.ok ⟨repositoryPath, filename, sequenceNumber⟩) :=
    deSerialize_readCommand hpath hpathZero hname hnameZero
  obtain ⟨position, sizeToRead, hopen⟩ : ∃ position sizeToRead,
      openFileForReading e content.length (sequenceNumber.toNat * sdCardMaxReadLength) =
        .ok (position, sizeToRead) := by
    simp only [openFileForReading, hdirectory, hopens, Bool.true_eq_false, if_false]
    split
    · exact ⟨_, _, rfl⟩
    · split <;> exact ⟨_, _, rfl⟩
  have hserialize := serialize_sizeToRead ⟨repositoryPath, filename, sizeToRead⟩
    (content.drop position) e.readable
  simp only [handleReadCommand, hmessage, hparse, hsequence, handleReadReplies, hopen, hstore,
    hserialize]
  exact ⟨_, rfl⟩

/-! ## Main result -/

/-- **No file can be read.** Whatever is in the file, whatever its path and name, the state of the handler
    and what the commands meet, read commands 0, 1, …, k do not give the file back, for any k. -/
theorem never_reads_back (es : Nat → Env) (content repositoryPath filename : List UInt8)
    (h : Handler) : ¬ ∃ k, ReadsBack es content repositoryPath filename h k := by
  rintro ⟨k, before, last, hanswers, -, ⟨reply, hreply, hfinish⟩, -⟩
  rw [not_finish_of_answers hanswers reply hreply] at hfinish
  cases hfinish

/-- A file system and a store that answer every call with success. -/
def working : Env where
  message := none
  directory := none
  opens := true
  seek := true
  freeElement := none
  readable := 1024
  reply := none
  finishReply := none

/-- A file of three bytes in the repository "A" with the name "B": the first command fails, and the file
    is never read. -/
theorem three_bytes_not_read :
    (answers [1, 2, 3] (download (fun _ => working) [65] [66] 0) ⟨65535, 0⟩).map
        (List.map Answer.replies) = some [[.failure .bufferTooShort]] ∧
      ¬ ∃ k, ReadsBack (fun _ => working) [1, 2, 3] [65] [66] ⟨65535, 0⟩ k := by
  refine ⟨by decide, ?_⟩
  rintro ⟨k, before, last, hanswers, -, ⟨reply, hreply, hfinish⟩, -⟩
  rw [not_finish_of_answers hanswers reply hreply] at hfinish
  cases hfinish

end Download
end Sdc
end Obsw
