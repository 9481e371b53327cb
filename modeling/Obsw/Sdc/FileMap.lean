import Obsw.Lib.Agreement
import Obsw.Sdc.Files

/-!
# `Sdc.FileMap` — the SD card API beside a map of files

A run of calls of `create_file`, `read_whole_file`, `lock_file`, `unlock_file`, `get_file_info` and
`delete_file` beside a reference map from paths to bytes and a read-only flag. What `read_whole_file`
reads does not come to the caller. A file that `get_file_info` left open cannot be deleted any more, and
in the end no file can be opened.
-/

namespace Obsw
namespace Sdc
namespace FileMap

open Loop Agreement Files

/-! ## Calls -/

inductive Call where
  | createFile (path : Path) (initialData : Option SdFile)
  | readWholeFile (path : Path) (buffer : List UInt8)
  | lockFile (path : Path)
  | unlockFile (path : Path)
  | getFileInfo (path : Path) (info : FileInfo)
  | deleteFile (path : Path)

def Call.path : Call → Path
  | createFile path _ => path
  | readWholeFile path _ => path
  | lockFile path => path
  | unlockFile path => path
  | getFileInfo path _ => path
  | deleteFile path => path

/-- What the caller gets. -/
inductive Answer where
  | created (code : Int)
  | read (bytesRead : Int) (buffer : List UInt8)
  | done (success : Bool)
  | info (report : Option FileInfo)
  deriving DecidableEq, Repr

/-- A call of the API. -/
def perform : Call → FileSystem → Answer × FileSystem
  | .createFile path initialData, fs =>
    let r := createFile fs path.1 path.2 initialData
    (.created r.1, r.2)
  | .readWholeFile path buffer, fs =>
    let r := readWholeFile fs path.1 path.2 buffer
    (.read r.1.1 r.1.2, r.2)
  | .lockFile path, fs =>
    let r := lockFile fs path.1 path.2
    (.done (r.1 = 0), r.2)
  | .unlockFile path, fs =>
    let r := unlockFile fs path.1 path.2
    (.done (r.1 = 0), r.2)
  | .getFileInfo path info, fs =>
    let r := getFileInfo fs path.1 path.2 info
    (.info (if r.1.1 = 0 then some r.1.2 else none), r.2)
  | .deleteFile path, fs =>
    let r := deleteFile fs path.1 path.2
    (.done (r.1 = 0), r.2)

/-! ## The reference -/

/-- The read-only flag of a file that is there. -/
def flag (m : Reference) (path : Path) (readOnly : Bool) : Answer × Reference :=
  match m path with
  | some file => (.done true, Function.update m path (some { file with readOnly := readOnly }))
  | none => (.done false, m)

/-- What the calls are for. -/
def reference : Call → Reference → Answer × Reference
  | .createFile path initialData, m =>
    match m path with
    | some _ => (.created (-1), m)
    | none =>
      let content := initialData.getD emptyFile
      (.created content.bytes.length, Function.update m path (some ⟨content, false⟩))
  | .readWholeFile path buffer, m =>
    match m path with
    | some file =>
      let count := min file.content.bytes.length buffer.length
      (.read count (file.content.bytes.take count ++ buffer.drop count), m)
    | none => (.read 0 buffer, m)
  | .lockFile path, m => flag m path true
  | .unlockFile path, m => flag m path false
  | .getFileInfo path _, m =>
    (.info ((m path).map fun file => ⟨file.content.bytes.length, file.readOnly⟩), m)
  | .deleteFile path, m =>
    match m path with
    | some ⟨_, false⟩ => (.done true, Function.update m path none)
    | _ => (.done false, m)

/-- The calls that do what they are for. -/
def Truthful : Call → FileSystem → Prop
  | .createFile path _, fs =>
    match fs.files path with
    | some file => file.system = false
    | none => fs.Room
  | .readWholeFile path buffer, fs =>
    ∀ file, fs.files path = some file →
      buffer.take file.content.bytes.length = file.content.bytes.take buffer.length ∧
        (file.content.bytes = [] ∨ buffer = [] ∨ fs.Room)
  | .lockFile _, _ => True
  | .unlockFile _, _ => True
  | .getFileInfo path _, fs => fs.files path = none ∨ fs.Room
  | .deleteFile path, fs => ∀ file, fs.files path = some file → file.readOnly = false → path ∉ fs.opened

/-! ## Agreement -/

theorem lock_readOnly (attr : BitVec 8) :
    (attr ||| fAttrReadonly) &&& fAttrReadonly = fAttrReadonly := by
  revert attr
  decide +kernel

theorem unlock_readOnly (attr : BitVec 8) :
    (attr &&& ~~~fAttrReadonly) &&& fAttrReadonly ≠ fAttrReadonly := by
  revert attr
  decide +kernel

theorem new_readOnly (content : SdFile) : File.readOnly ⟨content, 0⟩ = false :=
  decide_eq_false (show ¬ (0 : BitVec 8) &&& fAttrReadonly = fAttrReadonly by decide)

section Calls

variable {fs : FileSystem} {path : Path}

theorem agrees_createFile (h : path.1 ∈ fs.repositories) (initialData : Option SdFile) :
    Agrees perform reference FileSystem.kept (.createFile path initialData) fs ↔
      Truthful (.createFile path initialData) fs := by
  unfold Agrees perform reference Truthful
  dsimp only
  cases hfile : fs.files path with
  | none =>
      rw [fs.kept_none hfile]
      dsimp only
      by_cases hroom : fs.Room
      · rw [createFile_of_none h hfile hroom]
        have hset := fs.kept_set path (some ⟨initialData.getD emptyFile, 0⟩)
        rw [Option.map_some, new_readOnly] at hset
        exact iff_of_true ⟨rfl, hset⟩ hroom
      · -- no file can be opened: the path stays free, while the reference has a file there
        rw [createFile_of_full h hfile hroom]
        refine iff_of_false (fun hagrees => ?_) hroom
        have hkept := congrFun hagrees.2 path
        rw [fs.kept_inDirectory, fs.kept_none hfile, Function.update_self] at hkept
        cases hkept
  | some file =>
      rw [fs.kept_some hfile]
      dsimp only
      by_cases hsystem : file.system = true
      · -- the search does not find the file, which is written over
        refine iff_of_false (fun hagrees => ?_) (by rw [hsystem]; decide)
        have hcode := createFile_of_system h hfile hsystem initialData
        rw [Answer.created.inj hagrees.1] at hcode
        exact absurd hcode (by decide)
      · rw [Bool.not_eq_true] at hsystem
        rw [createFile_of_some h hfile hsystem]
        exact iff_of_true ⟨rfl, fs.kept_inDirectory path⟩ hsystem

/-- The buffer of the caller is right already. -/
theorem buffer_eq_iff (bytes buffer : List UInt8) :
    buffer = bytes.take (min bytes.length buffer.length) ++ buffer.drop (min bytes.length buffer.length) ↔
      buffer.take bytes.length = bytes.take buffer.length := by
  have htake : bytes.take (min bytes.length buffer.length) = bytes.take buffer.length := by
    rw [Nat.min_comm, ← List.take_take, List.take_length]
  have hself : buffer.take (min bytes.length buffer.length) = buffer.take bytes.length := by
    rw [← List.take_take, List.take_length]
  conv_lhs =>
    lhs
    rw [← List.take_append_drop (min bytes.length buffer.length) buffer]
  rw [List.append_cancel_right_eq, htake, hself]

theorem agrees_readWholeFile (h : path.1 ∈ fs.repositories) (buffer : List UInt8) :
    Agrees perform reference FileSystem.kept (.readWholeFile path buffer) fs ↔
      Truthful (.readWholeFile path buffer) fs := by
  unfold Agrees perform reference Truthful
  dsimp only
  cases hfile : fs.files path with
  | none =>
      rw [fs.kept_none hfile, readWholeFile_refused h (.inl hfile)]
      exact iff_of_true ⟨rfl, fs.kept_inDirectory path⟩ fun file hno => by cases hno
  | some file =>
      rw [fs.kept_some hfile]
      dsimp only
      by_cases hroom : fs.Room
      · rw [readWholeFile_of_some h hfile hroom]
        dsimp only
        rw [Answer.read.injEq, eq_self, true_and, buffer_eq_iff]
        constructor
        · rintro ⟨hbuffer, _⟩ _ ⟨⟩
          exact ⟨hbuffer, .inr (.inr hroom)⟩
        · intro htruthful
          exact ⟨(htruthful file rfl).1, fs.kept_inDirectory path⟩
      · -- without a free handle 0 is returned, which is right if no byte is to be read
        rw [readWholeFile_refused h (.inr hroom)]
        dsimp only
        rw [Answer.read.injEq, buffer_eq_iff]
        constructor
        · rintro ⟨⟨hcount, hbuffer⟩, _⟩ _ ⟨⟩
          refine ⟨hbuffer, ?_⟩
          rcases (by omega : file.content.bytes.length = 0 ∨ buffer.length = 0) with hempty | hempty
          · exact .inl (List.length_eq_zero_iff.mp hempty)
          · exact .inr (.inl (List.length_eq_zero_iff.mp hempty))
        · intro htruthful
          obtain ⟨hbuffer, hempty⟩ := htruthful file rfl
          refine ⟨⟨?_, hbuffer⟩, fs.kept_inDirectory path⟩
          rcases hempty with hempty | hempty | hno
          · rw [hempty]
            simp
          · rw [hempty]
            simp
          · exact absurd hno hroom

/-- What `lock_file` and `unlock_file` change is the flag. -/
theorem agrees_flag (h : path.1 ∈ fs.repositories) {change : BitVec 8 → BitVec 8} {readOnly : Bool}
    (hchange : ∀ content attr, File.readOnly ⟨content, change attr⟩ = readOnly) :
    Answer.done ((changeAttribute fs change path.1 path.2).1 = 0) = (flag fs.kept path readOnly).1 ∧
      (changeAttribute fs change path.1 path.2).2.kept = (flag fs.kept path readOnly).2 := by
  unfold flag
  cases hfile : fs.files path with
  | none =>
      rw [fs.kept_none hfile, changeAttribute_none h hfile]
      exact ⟨rfl, fs.kept_inDirectory path⟩
  | some file =>
      rw [fs.kept_some hfile, changeAttribute_some h hfile]
      refine ⟨rfl, ?_⟩
      rw [FileSystem.kept_set, Option.map_some, hchange]
      rfl

theorem agrees_lockFile (h : path.1 ∈ fs.repositories) :
    Agrees perform reference FileSystem.kept (.lockFile path) fs :=
  agrees_flag h fun _ attr => decide_eq_true (lock_readOnly attr)

theorem agrees_unlockFile (h : path.1 ∈ fs.repositories) :
    Agrees perform reference FileSystem.kept (.unlockFile path) fs :=
  agrees_flag h fun _ attr => decide_eq_false (unlock_readOnly attr)

theorem agrees_getFileInfo (h : path.1 ∈ fs.repositories) (info : FileInfo) :
    Agrees perform reference FileSystem.kept (.getFileInfo path info) fs ↔
      Truthful (.getFileInfo path info) fs := by
  unfold Agrees perform reference Truthful
  dsimp only
  cases hfile : fs.files path with
  | none =>
      obtain ⟨hcode, hstate⟩ := getFileInfo_refused h (.inl hfile) info
      rw [fs.kept_none hfile, hstate, if_neg hcode]
      exact iff_of_true ⟨rfl, fs.kept_inDirectory path⟩ (.inl rfl)
  | some file =>
      rw [fs.kept_some hfile]
      by_cases hroom : fs.Room
      · rw [getFileInfo_of_some h hfile hroom]
        exact iff_of_true ⟨rfl, rfl⟩ (.inr hroom)
      · obtain ⟨hcode, _⟩ := getFileInfo_refused h (.inr hroom) info
        rw [if_neg hcode]
        refine iff_of_false (fun hagrees => ?_) (by simp [hroom])
        cases Answer.info.inj hagrees.1

theorem agrees_deleteFile (h : path.1 ∈ fs.repositories) :
    Agrees perform reference FileSystem.kept (.deleteFile path) fs ↔ Truthful (.deleteFile path) fs := by
  unfold Agrees perform reference Truthful
  dsimp only
  cases hfile : fs.files path with
  | none =>
      rw [fs.kept_none hfile, deleteFile_none h hfile]
      exact iff_of_true ⟨rfl, fs.kept_inDirectory path⟩ fun file hno => by cases hno
  | some file =>
      rw [fs.kept_some hfile, deleteFile_some h hfile]
      by_cases hlocked : file.readOnly = true
      · rw [if_pos (.inl hlocked), hlocked]
        refine iff_of_true ⟨rfl, fs.kept_inDirectory path⟩ ?_
        rintro _ ⟨⟩ hunlocked
        rw [hlocked] at hunlocked
        cases hunlocked
      · by_cases hopened : path ∈ fs.opened
        · -- a file that is not locked but open is refused
          rw [if_pos (.inr hopened)]
          rw [Bool.not_eq_true] at hlocked
          rw [hlocked]
          refine iff_of_false (fun hagrees => ?_) fun hno => hno file rfl hlocked hopened
          cases hagrees.1
        · rw [if_neg (by simp [hlocked, hopened])]
          rw [Bool.not_eq_true] at hlocked
          rw [hlocked]
          refine iff_of_true ⟨rfl, fs.kept_set path none⟩ ?_
          rintro _ ⟨⟩ _
          exact hopened

end Calls

/-! ## Runs -/

/-- The card behind a call. -/
def after (call : Call) (fs : FileSystem) : FileSystem := (perform call fs).2

/-- A call agrees with the reference exactly if it is truthful. -/
theorem agrees_iff (call : Call) {fs : FileSystem} (h : call.path.1 ∈ fs.repositories) :
    Agrees perform reference FileSystem.kept call fs ↔ Truthful call fs := by
  cases call with
  | createFile path initialData => exact agrees_createFile h initialData
  | readWholeFile path buffer => exact agrees_readWholeFile h buffer
  | lockFile path => exact iff_of_true (agrees_lockFile h) trivial
  | unlockFile path => exact iff_of_true (agrees_unlockFile h) trivial
  | getFileInfo path info => exact agrees_getFileInfo h info
  | deleteFile path => exact agrees_deleteFile h

theorem after_repositories (call : Call) (fs : FileSystem) :
    (after call fs).repositories = fs.repositories := by
  cases call with
  | createFile path initialData => exact createFile_repositories fs path.1 path.2 initialData
  | readWholeFile path buffer => exact readWholeFile_repositories fs path.1 path.2 buffer
  | lockFile path => exact changeAttribute_repositories fs _ path.1 path.2
  | unlockFile path => exact changeAttribute_repositories fs _ path.1 path.2
  | getFileInfo path info => exact getFileInfo_repositories fs path.1 path.2 info
  | deleteFile path => exact deleteFile_repositories fs path.1 path.2

/-- **The API as a map of files.** A run of calls in repositories of the card agrees with the reference
    map, answer by answer and state by state, exactly if every call is truthful where it is made: a new
    file can still be opened, and one that is there is not a system file; the bytes to be read are in the
    caller's buffer already; a file whose size is asked for can still be opened; and a file to be deleted
    that is not locked has not been left open. -/
theorem sdCardApi_agrees_iff (fs : FileSystem) (calls : List Call)
    (hrepositories : ∀ call ∈ calls, call.path.1 ∈ fs.repositories) :
    AgreeAlong perform reference FileSystem.kept calls fs fs.kept ↔ AlongRun Truthful after calls fs :=
  agreeAlong_iff (fun call s hs => (after_repositories call s).trans hs) calls fs
    (fun call hcall s hs => agrees_iff call (by rw [hs]; exact hrepositories call hcall)) rfl

/-- A card with a repository and no files. -/
def emptyCard : FileSystem where
  repositories := ["MISC"]
  cwd := "/"
  files := fun _ => none
  opened := []
  maxFiles := 7

theorem singleton_length_lt : [(1 : UInt8)].length < 2 ^ 31 := by decide

def oneByte : SdFile := ⟨[1], singleton_length_lt⟩

theorem sdCardApi_agrees_iff_create_delete :
    AgreeAlong perform reference FileSystem.kept
        [.createFile ("MISC", "A.BIN") (some oneByte), .deleteFile ("MISC", "A.BIN")] emptyCard
        emptyCard.kept ↔
      AlongRun Truthful after
        [.createFile ("MISC", "A.BIN") (some oneByte), .deleteFile ("MISC", "A.BIN")] emptyCard :=
  sdCardApi_agrees_iff emptyCard _ (by simp [Call.path, emptyCard])

/-- A byte that was just stored is not delivered. -/
theorem stored_byte_not_read :
    (∀ call ∈ [Call.createFile ("MISC", "A.BIN") (some oneByte),
        .readWholeFile ("MISC", "A.BIN") [0]], call.path.1 ∈ emptyCard.repositories) ∧
      ¬ AgreeAlong perform reference FileSystem.kept
        [.createFile ("MISC", "A.BIN") (some oneByte), .readWholeFile ("MISC", "A.BIN") [0]] emptyCard
        emptyCard.kept := by
  refine ⟨by simp [Call.path, emptyCard], fun hno => ?_⟩
  -- the reference answers with the byte in the buffer
  have hread : Answer.read 1 [0] = .read 1 [1] := hno.2.1.1
  cases (Answer.read.inj hread).2

end FileMap
end Sdc
end Obsw
