import Obsw.Config
import Obsw.Lib.Loop

/-!
# `Sdc.Append` — uploading a file by append commands

`SDCardHandler::handleAppendCommand`, `appendToFile` and `handleSequenceNumberWrite`. A packet is meant
to be accepted only as the successor of the last one, but the check compares the number with the last
one only from above: a number that is not larger than the last one passes, and the marker for "no
packet yet" is the largest number there is. Nor does the last number stand for a packet that was
stored, since it moves on before the file is opened and written.

An upload is intact as long as these gaps are not hit (`Condition`): then the file is what it was before
the session and the payloads of the packets 0, 1, …, k behind it (`append_run`).
-/

namespace Obsw
namespace Sdc
namespace Upload

open Loop

/-! ## The commands and the answers of the file system -/

/-- `WriteCommand` of type `APPEND_TO_FILE`, for the file of the session. -/
structure AppendCommand where
  packetNumber : UInt16
  fileData : List UInt8

/-- Why `f_open` gives no file. -/
inductive OpenError where
  | notFound
  | locked
  | other
  deriving DecidableEq, Repr

/-- What `appendToFile` returns. -/
inductive AppendResult where
  | ok
  | directory (code : Nat)
  | sequencePacketMissingWrite (packetSeqIfMissing : UInt16)
  | fileDoesNotExist
  | fileLocked
  | failed
  deriving DecidableEq, Repr

/-- The file system during one command: the error of `changeDirectory`, that of `f_open`, whether
    `f_seek` works, how many bytes `f_write` takes, and whether `f_close` works; if not, `left` is the
    file on the card, since the data of a file is stored when it is closed. -/
structure Env where
  directory : Option Nat
  openError : Option OpenError
  seek : Bool
  accepted : Nat
  close : Bool
  left : Option (List UInt8)

/-! ## `SDCardHandler` -/

/-- `UNSET_SEQUENCE`. -/
def unsetSequence : UInt16 := 65535

/-- The part of the handler an upload uses, and the file. -/
structure Handler where
  lastPacketWriteNumber : UInt16
  file : Option (List UInt8)

/-- `handleSequenceNumberWrite`: the new last number, or the number of the packet that is missing. -/
def handleSequenceNumberWrite (lastPacketWriteNumber sequenceNumber : UInt16) :
    Except UInt16 UInt16 :=
  if sequenceNumber = 0 then .ok 0
  else if sequenceNumber = 1 ∧ lastPacketWriteNumber ≠ 0 then .error 0
  -- the difference is taken in `int`
  else if 1 < (sequenceNumber.toNat : Int) - lastPacketWriteNumber.toNat then
    .error (lastPacketWriteNumber + 1)
  else .ok sequenceNumber

/-- `f_open` with "r+" and `f_seek` to the end for packet 0, with "a" for the others: the content of
    the file and the position the next write starts at. A failing `f_seek` is only reported. -/
def openForAppend (e : Env) (packetNumber : UInt16) (file : Option (List UInt8)) :
    Except OpenError (List UInt8 × Nat) :=
  match e.openError with
  | some error => .error error
  | none =>
    if packetNumber = 0 then
      match file with
      | none => .error .notFound
      | some content => .ok (content, if e.seek then content.length else 0)
    else .ok (file.getD [], (file.getD []).length)

/-- `f_write` at a position. -/
def writeAt (content : List UInt8) (position : Nat) (data : List UInt8) : List UInt8 :=
  content.take position ++ data ++ content.drop (position + data.length)

/-- `appendToFile`. The guard that closes the file only prints the error of `f_close`. -/
def appendToFile (e : Env) (command : AppendCommand) (h : Handler) : AppendResult × Handler :=
  match e.directory with
  | some code => (.directory code, h)
  | none =>
    match handleSequenceNumberWrite h.lastPacketWriteNumber command.packetNumber with
    | .error missing => (.sequencePacketMissingWrite missing, h)
    | .ok last =>
      -- the last number has moved on, whatever happens to the file
      let h := { h with lastPacketWriteNumber := last }
      match openForAppend e command.packetNumber h.file with
      | .error .notFound => (.fileDoesNotExist, h)
      | .error .locked => (.fileLocked, h)
      | .error .other => (.failed, h)
      | .ok (content, position) =>
        let data := command.fileData.take e.accepted
        let h := { h with file := if e.close then some (writeAt content position data) else e.left }
        if data.length ≠ command.fileData.length then (.failed, h) else (.ok, h)

/-- `handleAppendCommand`: the completion reply. A message whose data cannot be fetched or parsed is
    not answered. -/
def handleAppendCommand (e : Env) (message : Option AppendCommand) (h : Handler) :
    Option AppendResult × Handler :=
  match message with
  | none => (none, h)
  | some command =>
    let result := appendToFile e command h
    (some result.1, result.2)

/-! ## One session -/

/-- The handler, and the commands answered with success so far, in their order. -/
structure Session where
  handler : Handler
  accepted : List AppendCommand

/-- A message, with the answers it meets. -/
def step (input : Env × Option AppendCommand) (s : Session) : Session :=
  let result := handleAppendCommand input.1 input.2 s.handler
  { handler := result.2
    accepted :=
      match input.2 with
      | some command => if result.1 = some .ok then s.accepted ++ [command] else s.accepted
      | none => s.accepted }

/-- The bytes of a file, none if there is no file. -/
def content (file : Option (List UInt8)) : List UInt8 := file.getD []

/-- The session so far: the packets 0, 1, …, k were accepted, in this order and each once, and the file
    has their payloads behind what it had before. -/
structure Intact (before : List UInt8) (s : Session) : Prop where
  numbers : s.accepted.map (fun c => c.packetNumber.toNat) = List.range s.accepted.length
  file : content s.handler.file = before ++ (s.accepted.map AppendCommand.fileData).flatten

/-- A command that is not answered with success, or repeats a number, leaves the file alone. -/
def LeavesFile (input : Env × Option AppendCommand) (s : Session) : Prop :=
  (step input s).accepted = s.accepted ∨
      (∃ command ∈ s.accepted, ∃ repeated, input.2 = some repeated ∧
        repeated.packetNumber = command.packetNumber) →
    content (step input s).handler.file = content s.handler.file

/-- What `handleSequenceNumberWrite` lets through: the first packet, the second one behind it, and from
    number 2 on everything that is not more than one ahead of the last number. -/
def SequencePasses (lastPacketWriteNumber sequenceNumber : UInt16) : Prop :=
  sequenceNumber = 0 ∨ (sequenceNumber = 1 ∧ lastPacketWriteNumber = 0) ∨
    (2 ≤ sequenceNumber.toNat ∧ sequenceNumber.toNat ≤ lastPacketWriteNumber.toNat + 1)

/-- The command gets as far as `f_write`. -/
def ReachesWrite (e : Env) (command : AppendCommand) (h : Handler) : Prop :=
  e.directory = none ∧ SequencePasses h.lastPacketWriteNumber command.packetNumber ∧
    e.openError = none ∧ (command.packetNumber = 0 → h.file ≠ none)

/-- When a command keeps the session intact: it is turned away before the file is written, it is not
    written completely and nothing of it is stored, or its number is that of the next packet and all of
    it goes to the end of the file. If `f_close` fails, what is stored is what it leaves. -/
def Condition (input : Env × Option AppendCommand) (s : Session) : Prop :=
  ∀ command, input.2 = some command → ReachesWrite input.1 command s.handler →
    (input.1.accepted < command.fileData.length ∧
      if input.1.close then input.1.accepted = 0
      else content input.1.left = content s.handler.file) ∨
    (command.packetNumber.toNat = s.accepted.length ∧
      command.fileData.length ≤ input.1.accepted ∧
      if input.1.close then
        command.packetNumber = 0 → input.1.seek = true ∨ content s.handler.file = [] ∨
          command.fileData = []
      else content input.1.left = content s.handler.file ++ command.fileData)

/-! ## What a command does -/

section

variable {e : Env} {command : AppendCommand} {h : Handler}

theorem handleSequenceNumberWrite_ok_iff {last sequenceNumber : UInt16} :
    (∃ new, handleSequenceNumberWrite last sequenceNumber = .ok new) ↔
      SequencePasses last sequenceNumber := by
  unfold handleSequenceNumberWrite SequencePasses
  by_cases hzero : sequenceNumber = 0
  · exact iff_of_true ⟨0, if_pos hzero⟩ (Or.inl hzero)
  · rw [if_neg hzero]
    have hpos : sequenceNumber.toNat ≠ 0 := fun h => hzero (UInt16.toNat_inj.mp h)
    by_cases hone : sequenceNumber = 1
    · subst hone
      by_cases hlast : last = 0
      · subst hlast
        exact iff_of_true ⟨1, rfl⟩ (Or.inr (Or.inl ⟨rfl, rfl⟩))
      · simp [hlast]
    · -- from number 2 on only the difference to the last number counts
      have htwo : 2 ≤ sequenceNumber.toNat := by
        have : sequenceNumber.toNat ≠ 1 := fun h => hone (UInt16.toNat_inj.mp h)
        omega
      rw [if_neg (fun h => hone h.1)]
      by_cases hahead : 1 < (sequenceNumber.toNat : Int) - last.toNat
      · rw [if_pos hahead]
        simp only [reduceCtorEq, exists_false, false_iff]
        rintro (h | h | h)
        · exact hzero h
        · exact hone h.1
        · omega
      · rw [if_neg hahead]
        exact iff_of_true ⟨_, rfl⟩ (Or.inr (Or.inr ⟨htwo, by omega⟩))

/-- An opened file is the file of the session, and is written at its end, or from its start if the seek
    for packet 0 failed. -/
theorem openForAppend_ok {packetNumber : UInt16} {file : Option (List UInt8)}
    (herror : e.openError = none) (hfile : packetNumber = 0 → file ≠ none) :
    ∃ position, openForAppend e packetNumber file = .ok (content file, position) ∧
      (position = (content file).length ∨ (packetNumber = 0 ∧ e.seek = false ∧ position = 0)) := by
  simp only [openForAppend, herror]
  by_cases hzero : packetNumber = 0
  · simp only [if_pos hzero]
    cases file with
    | none => exact absurd rfl (hfile hzero)
    | some bytes =>
      cases hseek : e.seek with
      | true => exact ⟨_, rfl, Or.inl rfl⟩
      | false => exact ⟨_, rfl, Or.inr ⟨hzero, rfl, rfl⟩⟩
  · simp only [if_neg hzero]
    exact ⟨_, rfl, Or.inl rfl⟩

theorem openForAppend_error {packetNumber : UInt16} {file : Option (List UInt8)}
    (h : e.openError ≠ none ∨ (packetNumber = 0 ∧ file = none)) :
    ∃ error, openForAppend e packetNumber file = .error error := by
  unfold openForAppend
  cases herror : e.openError with
  | some error => exact ⟨error, rfl⟩
  | none =>
    rcases h with h | ⟨hzero, hfile⟩
    · exact absurd herror h
    · exact ⟨.notFound, by rw [hfile]; exact if_pos hzero⟩

@[simp] theorem writeAt_nil (bytes : List UInt8) (position : Nat) :
    writeAt bytes position [] = bytes := by
  simp [writeAt]

theorem writeAt_end (bytes data : List UInt8) :
    writeAt bytes bytes.length data = bytes ++ data := by
  simp [writeAt]

/-- A command that is turned away before the write. -/
theorem appendToFile_turned_away (haway : ¬ ReachesWrite e command h) :
    (appendToFile e command h).1 ≠ .ok ∧ (appendToFile e command h).2.file = h.file := by
  unfold appendToFile
  cases hdir : e.directory with
  | some code => exact ⟨by simp, rfl⟩
  | none =>
    cases hcheck : handleSequenceNumberWrite h.lastPacketWriteNumber command.packetNumber with
    | error missing => exact ⟨by simp, rfl⟩
    | ok last =>
      have hpasses := handleSequenceNumberWrite_ok_iff.mp ⟨last, hcheck⟩
      obtain ⟨error, hopen⟩ : ∃ error,
          openForAppend e command.packetNumber h.file = .error error := by
        apply openForAppend_error
        by_contra hopens
        rw [not_or, not_not, not_and] at hopens
        exact haway ⟨hdir, hpasses, hopens.1, hopens.2⟩
      simp only [hopen]
      cases error <;> exact ⟨by simp, rfl⟩

/-- A command that reaches the write. -/
theorem appendToFile_written (hreach : ReachesWrite e command h) :
    ∃ position,
      (position = (content h.file).length ∨
        (command.packetNumber = 0 ∧ e.seek = false ∧ position = 0)) ∧
      (appendToFile e command h).1 =
        (if (command.fileData.take e.accepted).length ≠ command.fileData.length then .failed
          else .ok) ∧
      (appendToFile e command h).2.file =
        if e.close then some (writeAt (content h.file) position (command.fileData.take e.accepted))
        else e.left := by
  obtain ⟨hdir, hpasses, herror, hfile⟩ := hreach
  obtain ⟨last, hcheck⟩ := handleSequenceNumberWrite_ok_iff.mpr hpasses
  obtain ⟨position, hopen, hposition⟩ := openForAppend_ok herror hfile
  refine ⟨position, hposition, ?_⟩
  simp only [appendToFile, hdir, hcheck, hopen]
  split <;> exact ⟨rfl, rfl⟩

theorem step_failed {s : Session} (hfail : (appendToFile e command s.handler).1 ≠ .ok) :
    (step (e, some command) s).accepted = s.accepted := by
  apply if_neg
  intro h
  exact hfail (Option.some.inj h)

theorem step_ok {s : Session} (hok : (appendToFile e command s.handler).1 = .ok) :
    (step (e, some command) s).accepted = s.accepted ++ [command] :=
  if_pos (congrArg some hok)

end

/-- **Step lemma.** Under the condition a message leaves file and accepted commands alone, or the next
    packet is accepted and its payload goes to the end of the file. -/
theorem step_cases {input : Env × Option AppendCommand} {s : Session} (hc : Condition input s) :
    (content (step input s).handler.file = content s.handler.file ∧
      (step input s).accepted = s.accepted) ∨
    ∃ command, input.2 = some command ∧ command.packetNumber.toNat = s.accepted.length ∧
      content (step input s).handler.file = content s.handler.file ++ command.fileData ∧
      (step input s).accepted = s.accepted ++ [command] := by
  obtain ⟨e, message⟩ := input
  cases message with
  | none => exact Or.inl ⟨rfl, rfl⟩
  | some command =>
    by_cases hreach : ReachesWrite e command s.handler
    · obtain ⟨position, hposition, hreply, hfile⟩ := appendToFile_written hreach
      have hfile' : content (step (e, some command) s).handler.file =
          content (if e.close then
            some (writeAt (content s.handler.file) position (command.fileData.take e.accepted))
            else e.left) := congrArg content hfile
      rcases hc command rfl hreach with ⟨hshort, hkept⟩ | ⟨hnumber, hall, hstored⟩
      · -- nothing is stored, and the command is answered with a failure
        left
        constructor
        · rw [hfile']
          dsimp only at hkept
          split_ifs at hkept ⊢
          · rw [hkept, List.take_zero, writeAt_nil]
            rfl
          · exact hkept
        · refine step_failed ?_
          have hlt : e.accepted < command.fileData.length := hshort
          have hlength : (command.fileData.take e.accepted).length ≠ command.fileData.length := by
            rw [List.length_take]
            omega
          rw [hreply, if_pos hlength]
          simp
      · -- the next packet, stored completely
        have htake : command.fileData.take e.accepted = command.fileData :=
          List.take_of_length_le hall
        rw [htake] at hreply hfile'
        right
        refine ⟨command, rfl, hnumber, ?_, step_ok ?_⟩
        · rw [hfile']
          dsimp only at hstored
          split_ifs at hstored ⊢
          · -- the write starts at the end, or at the start of an empty file, or has no data
            show writeAt _ _ _ = _
            rcases hposition with hend | ⟨hzero, hnoseek, hstart⟩
            · rw [hend, writeAt_end]
            · rcases hstored hzero with hs | hempty | hdata
              · rw [hnoseek] at hs
                cases hs
              · rw [hstart, hempty]
                exact writeAt_end [] command.fileData
              · rw [hdata, writeAt_nil, List.append_nil]
          · exact hstored
        · rw [hreply]
          exact if_neg (fun h => h rfl)
    · -- turned away before the write
      obtain ⟨hfail, hfile⟩ := appendToFile_turned_away hreach
      exact Or.inl ⟨congrArg content hfile, step_failed hfail⟩

theorem intact_step {before : List UInt8} {input : Env × Option AppendCommand} {s : Session}
    (h : Intact before s) (hc : Condition input s) : Intact before (step input s) := by
  rcases step_cases hc with ⟨hfile, haccepted⟩ | ⟨command, -, hnumber, hfile, haccepted⟩
  · constructor
    · rw [haccepted]
      exact h.numbers
    · rw [hfile, haccepted]
      exact h.file
  · constructor
    · rw [haccepted, List.map_append, h.numbers, List.length_append]
      simp only [List.map_cons, List.map_nil, List.length_cons, List.length_nil, hnumber]
      exact List.range_succ.symm
    · rw [hfile, haccepted, h.file]
      simp [List.append_assoc]

theorem leavesFile_step {before : List UInt8} {input : Env × Option AppendCommand} {s : Session}
    (h : Intact before s) (hc : Condition input s) : LeavesFile input s := by
  rcases step_cases hc with ⟨hfile, -⟩ | ⟨command, hinput, hnumber, -, haccepted⟩
  · exact fun _ => hfile
  · -- the number of the next packet is none of the numbers accepted before
    rintro (hsame | ⟨old, hold, again, hagain, hrepeat⟩)
    · rw [haccepted] at hsame
      have hlen := congrArg List.length hsame
      simp at hlen
    · rw [hinput] at hagain
      cases hagain
      have hmem : old.packetNumber.toNat ∈ List.range s.accepted.length := by
        rw [← h.numbers]
        exact List.mem_map_of_mem hold
      have hlt := List.mem_range.mp hmem
      rw [← hrepeat, hnumber] at hlt
      exact absurd hlt (Nat.lt_irrefl _)

/-! ## Main result -/

/-- The start of a session: a file, and any number left over from the last upload. -/
def start (lastPacketWriteNumber : UInt16) (file : Option (List UInt8)) : Session :=
  ⟨⟨lastPacketWriteNumber, file⟩, []⟩

/-- **Upload.** If every message of a session meets the condition, the file is what it was before the
    session and the payloads of the packets 0, 1, …, k behind it, each once and in order, and no
    message that is turned away or repeats a packet changes it. -/
theorem append_run (lastPacketWriteNumber : UInt16) (file : Option (List UInt8))
    (inputs : List (Env × Option AppendCommand))
    (h : AlongRun Condition step inputs (start lastPacketWriteNumber file)) :
    Intact (content file) (run step inputs (start lastPacketWriteNumber file)) ∧
      AlongRun LeavesFile step inputs (start lastPacketWriteNumber file) := by
  have hstart : Intact (content file) (start lastPacketWriteNumber file) :=
    ⟨rfl, (List.append_nil _).symm⟩
  have hstep : ∀ input s, Intact (content file) s → Condition input s →
      Intact (content file) (step input s) := fun _ _ hi hc => intact_step hi hc
  constructor
  · exact run_invariant hstep inputs _ hstart h
  · refine alongRun_of_invariant (I := Intact (content file)) ?_ hstep inputs _ hstart h
    intro input s hi hc
    exact leavesFile_step hi hc

/-- A file system that answers every call with success. -/
def working : Env := ⟨none, none, true, 64, true, none⟩

/-- A session: the file is locked at first; half of packet 0 is written, `f_close` fails and leaves the
    file as it was; then the packets 0, 1 and 2 are stored. -/
def storedSession : List (Env × Option AppendCommand) :=
  [({ working with openError := some .locked }, some ⟨0, [1, 2]⟩),
    ({ working with accepted := 1, close := false, left := some [9] }, some ⟨0, [1, 2]⟩),
    (working, some ⟨0, [1, 2]⟩), (working, some ⟨1, [3]⟩), (working, some ⟨2, [4]⟩)]

theorem append_run_stored :
    AlongRun Condition step storedSession (start unsetSequence (some [9])) ∧
      Intact [9] (run step storedSession (start unsetSequence (some [9]))) ∧
      (run step storedSession (start unsetSequence (some [9]))).handler.file =
        some [9, 1, 2, 3, 4] := by
  have h : AlongRun Condition step storedSession (start unsetSequence (some [9])) := by
    refine ⟨?_, ?_, ?_, ?_, ?_, trivial⟩
    · rintro command - ⟨-, -, hopen, -⟩
      cases hopen
    · rintro command hcommand -
      cases hcommand
      exact Or.inl ⟨by decide, rfl⟩
    · rintro command hcommand -
      cases hcommand
      exact Or.inr ⟨rfl, by decide, fun _ => Or.inl rfl⟩
    · rintro command hcommand -
      cases hcommand
      exact Or.inr ⟨rfl, by decide, fun hzero => absurd hzero (by decide)⟩
    · rintro command hcommand -
      cases hcommand
      exact Or.inr ⟨rfl, by decide, fun hzero => absurd hzero (by decide)⟩
  exact ⟨h, (append_run unsetSequence (some [9]) _ h).1, by decide⟩

/-- Packet 2 arrives twice: both copies are answered with success, and the file has its payload twice. In
    another session packet 2 comes first, and is stored as well; in a third one `f_close` fails behind
    packet 0, which is answered with success and is not in the file. -/
theorem duplicate_stored_twice :
    (run step
        [(working, some ⟨0, [1]⟩), (working, some ⟨1, [2]⟩), (working, some ⟨2, [3]⟩),
          (working, some ⟨2, [3]⟩)] (start unsetSequence (some [9]))).handler.file =
        some [9, 1, 2, 3, 3] ∧
      ¬ Intact [9] (run step
        [(working, some ⟨0, [1]⟩), (working, some ⟨1, [2]⟩), (working, some ⟨2, [3]⟩),
          (working, some ⟨2, [3]⟩)] (start unsetSequence (some [9]))) ∧
      ¬ Intact [9] (run step [(working, some ⟨2, [3]⟩)] (start unsetSequence (some [9]))) ∧
      ¬ Intact [9] (run step [({ working with close := false, left := some [9] }, some ⟨0, [1]⟩)]
        (start unsetSequence (some [9]))) := by
  refine ⟨by decide, ?_, ?_, ?_⟩
  · intro h
    exact absurd h.numbers (by decide)
  · intro h
    exact absurd h.numbers (by decide)
  · intro h
    exact absurd h.file (by decide)

end Upload
end Sdc
end Obsw
