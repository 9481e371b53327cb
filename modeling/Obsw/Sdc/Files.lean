import Mathlib.Logic.Function.Basic
import Obsw.SdCard
import Obsw.Sdc.ClearCard

/-!
# `Sdc.Files` — the SD card API on the files of a card

`create_file`, `read_whole_file`, `lock_file`, `unlock_file`, `get_file_info` and `delete_file` of
`SDCardApi.c`, called with a repository path, with what they do to the files of a card. The file system is
a library outside the repository; what is used of it is documented: a search ignores files with the system
attribute, so many files can be open at once, a file can be open for reading several times, and a
read-only or open file cannot be deleted.

`read_whole_file` reads into an array of its own, and the caller's buffer stays as it is. `get_file_info`
opens the file and never closes it.
-/

namespace Obsw
namespace Sdc
namespace Files

open ClearCard

/-! ## The file system -/

/-- `F_ATTR_READONLY` and `F_ATTR_SYSTEM`, as bits of a directory entry. -/
def fAttrReadonly : BitVec 8 := 0x01#8
def fAttrSystem : BitVec 8 := 0x04#8

def fErrNomoreentry : Int := 7
def fErrAccessdenied : Int := 13

structure File where
  content : SdFile
  attr : BitVec 8

def File.readOnly (file : File) : Bool := file.attr &&& fAttrReadonly = fAttrReadonly

def File.system (file : File) : Bool := file.attr &&& fAttrSystem = fAttrSystem

theorem nil_length_lt : ([] : List UInt8).length < 2 ^ 31 := by decide

def emptyFile : SdFile := ⟨[], nil_length_lt⟩

/-- A card with its repositories, its files and the current directory. `opened` has a path for every open
    file; there can be `maxFiles` of them. -/
structure FileSystem where
  repositories : List String
  cwd : String
  files : Path → Option File
  opened : List Path
  maxFiles : Nat

variable (fs : FileSystem)

/-- The path of a name in the current directory. -/
def FileSystem.here (filename : String) : Path := (fs.cwd, filename)

/-- One more file can be opened. -/
def FileSystem.Room : Prop := fs.opened.length < fs.maxFiles

instance : Decidable fs.Room := inferInstanceAs (Decidable (_ < _))

def FileSystem.set (path : Path) (file : Option File) : FileSystem :=
  { fs with files := Function.update fs.files path file }

/-- `f_chdir("/")`. -/
def toRoot : FileSystem := { fs with cwd := "/" }

/-- `f_chdir` from the root. -/
def fChdir (repositoryPath : String) : Int × FileSystem :=
  if repositoryPath ∈ fs.repositories then (0, { fs with cwd := repositoryPath })
  else (fErrInvaliddir, fs)

/-- `f_findfirst` for a name without wildcards. -/
def fFindfirst (filename : String) : Int :=
  match fs.files (fs.here filename) with
  | some file => if file.system then fErrNotfound else 0
  | none => fErrNotfound

/-- `f_open` with `r`, and what `f_getlasterror` gives behind it. -/
def fOpenRead (filename : String) : Int × FileSystem :=
  match fs.files (fs.here filename) with
  | none => (fErrNotfound, fs)
  | some _ =>
    if fs.Room then (0, { fs with opened := fs.here filename :: fs.opened }) else (fErrNomoreentry, fs)

/-- `f_open` with `w`: a file that is there is cut off at its beginning. -/
def fOpenWrite (filename : String) : Int × FileSystem :=
  let path := fs.here filename
  match fs.files path with
  | some file =>
    if file.readOnly then (fErrAccessdenied, fs)
    else if path ∈ fs.opened then (fErrLocked, fs)
    else if fs.Room then
      (0, { fs.set path (some { file with content := emptyFile }) with opened := path :: fs.opened })
    else (fErrNomoreentry, fs)
  | none =>
    if fs.Room then (0, { fs.set path (some ⟨emptyFile, 0⟩) with opened := path :: fs.opened })
    else (fErrNomoreentry, fs)

/-- `f_write` of all bytes to a file that was just opened for writing. -/
def fWrite (data : SdFile) (filename : String) : Nat × FileSystem :=
  let path := fs.here filename
  (data.bytes.length, fs.set path ((fs.files path).map fun file => { file with content := data }))

/-- The first `count` bytes of a file, by `f_read`. -/
def fReadFirst (filename : String) (count : Nat) : List UInt8 :=
  match fs.files (fs.here filename) with
  | some file => file.content.bytes.take count
  | none => []

def fClose (filename : String) : FileSystem :=
  { fs with opened := fs.opened.erase (fs.here filename) }

def fFilelengthOf (filename : String) : Int :=
  match fs.files (fs.here filename) with
  | some file => file.content.bytes.length
  | none => -1

/-- `f_getattr`: the code, and the attribute if it is 0. -/
def fGetattr (filename : String) : Int × BitVec 8 :=
  match fs.files (fs.here filename) with
  | some file => (0, file.attr)
  | none => (fErrNotfound, 0)

def fSetattr (filename : String) (attr : BitVec 8) : Int × FileSystem :=
  match fs.files (fs.here filename) with
  | some file => (0, fs.set (fs.here filename) (some { file with attr := attr }))
  | none => (fErrNotfound, fs)

def fDelete (filename : String) : Int × FileSystem :=
  match fs.files (fs.here filename) with
  | some file =>
    if file.readOnly ∨ fs.here filename ∈ fs.opened then (fErrLocked, fs)
    else (0, fs.set (fs.here filename) none)
  | none => (fErrNotfound, fs)

/-! ## `SDCardApi.c` -/

/-- `change_directory` from the root. -/
def changeDirectory (repositoryPath : String) : Int × FileSystem := fChdir (toRoot fs) repositoryPath

/-- `create_file`. -/
def createFile (repositoryPath filename : String) (initialData : Option SdFile) : Int × FileSystem :=
  let changed := changeDirectory fs repositoryPath
  if changed.1 ≠ 0 then (-2, changed.2)
  else if fFindfirst changed.2 filename = 0 then (-1, changed.2)
  else
    let opened := fOpenWrite changed.2 filename
    if opened.1 ≠ 0 then (opened.1, opened.2)
    else
      let written :=
        match initialData with
        | some data => fWrite opened.2 data filename
        | none => (0, opened.2)
      (written.1, toRoot (fClose written.2 filename))

/-- `read_whole_file`, with the buffer of the caller behind it. What is read goes to `filecontent`. -/
def readWholeFile (repositoryPath fileName : String) (buffer : List UInt8) :
    (Int × List UInt8) × FileSystem :=
  let changed := changeDirectory fs repositoryPath
  if changed.1 ≠ 0 then ((0, buffer), changed.2)
  else
    let opened := fOpenRead changed.2 fileName
    if opened.1 ≠ 0 then ((0, buffer), opened.2)
    else
      let filesize := fFilelengthOf opened.2 fileName
      -- the file stays open
      if filesize = -1 then ((0, buffer), opened.2)
      else
        let filecontent :=
          if buffer.length < filesize.toNat then fReadFirst opened.2 fileName buffer.length
          else fReadFirst opened.2 fileName filesize.toNat
        ((filecontent.length, buffer), fClose opened.2 fileName)

/-- The shape of `lock_file` and `unlock_file`. -/
def changeAttribute (change : BitVec 8 → BitVec 8) (repositoryPath filename : String) :
    Int × FileSystem :=
  let changed := changeDirectory fs repositoryPath
  if changed.1 ≠ 0 then changed
  else
    let current := fGetattr changed.2 filename
    if current.1 ≠ 0 then (current.1, changed.2)
    else fSetattr changed.2 filename (change current.2)

/-- `lock_file`. -/
def lockFile (repositoryPath filename : String) : Int × FileSystem :=
  changeAttribute fs (fun attr => attr ||| fAttrReadonly) repositoryPath filename

/-- `unlock_file`. -/
def unlockFile (repositoryPath filename : String) : Int × FileSystem :=
  changeAttribute fs (fun attr => attr &&& ~~~fAttrReadonly) repositoryPath filename

/-- The variables that `get_file_info` sets. -/
structure FileInfo where
  filesize : Nat
  locked : Bool
  deriving DecidableEq, Repr

/-- `get_file_info`, called with a variable for the lock and none for the date. The file stays open. -/
def getFileInfo (repositoryPath filename : String) (info : FileInfo) : (Int × FileInfo) × FileSystem :=
  let changed := changeDirectory fs repositoryPath
  if changed.1 ≠ 0 then ((changed.1, info), changed.2)
  else
    let opened := fOpenRead changed.2 filename
    if opened.1 ≠ 0 then ((opened.1, info), opened.2)
    else
      let info := { info with filesize := (fFilelengthOf opened.2 filename % 2 ^ 32).toNat }
      let current := fGetattr opened.2 filename
      if current.1 ≠ 0 then ((current.1, info), opened.2)
      else ((0, { info with locked := current.2 &&& fAttrReadonly = fAttrReadonly }), opened.2)

/-- `delete_file`. -/
def deleteFile (repositoryPath filename : String) : Int × FileSystem :=
  let changed := changeDirectory fs repositoryPath
  if changed.1 ≠ 0 then changed
  else fDelete changed.2 filename

/-! ## The current directory -/

/-- The card with the repository of a path as current directory. -/
def FileSystem.inDirectory (path : Path) : FileSystem := { fs with cwd := path.1 }

@[simp] theorem FileSystem.here_inDirectory (path : Path) : (fs.inDirectory path).here path.2 = path :=
  rfl

@[simp] theorem FileSystem.files_inDirectory (path : Path) : (fs.inDirectory path).files = fs.files := rfl

@[simp] theorem FileSystem.room_inDirectory (path : Path) : (fs.inDirectory path).Room ↔ fs.Room :=
  Iff.rfl

/-! ## The files as a map -/

/-- What a map of files keeps of a file. -/
structure Kept where
  content : SdFile
  readOnly : Bool

abbrev Reference := Path → Option Kept

/-- The files of a card as such a map. -/
def FileSystem.kept : Reference := Option.map (fun file => ⟨file.content, file.readOnly⟩) ∘ fs.files

@[simp] theorem FileSystem.kept_inDirectory (path : Path) : (fs.inDirectory path).kept = fs.kept := rfl

theorem FileSystem.kept_none {path : Path} (h : fs.files path = none) : fs.kept path = none := by
  unfold FileSystem.kept
  rw [Function.comp_apply, h]
  rfl

theorem FileSystem.kept_some {path : Path} {file : File} (h : fs.files path = some file) :
    fs.kept path = some ⟨file.content, file.readOnly⟩ := by
  unfold FileSystem.kept
  rw [Function.comp_apply, h]
  rfl

theorem FileSystem.kept_set (path : Path) (file : Option File) :
    (fs.set path file).kept =
      Function.update fs.kept path (file.map fun file => ⟨file.content, file.readOnly⟩) :=
  Function.comp_update _ _ _ _

/-! ## The functions, one by one -/

section Functions

variable {fs : FileSystem} {path : Path}

theorem changeDirectory_of_mem (h : path.1 ∈ fs.repositories) :
    changeDirectory fs path.1 = (0, fs.inDirectory path) :=
  if_pos h

theorem fFindfirst_none (hfile : fs.files path = none) :
    fFindfirst (fs.inDirectory path) path.2 = fErrNotfound := by
  unfold fFindfirst
  rw [FileSystem.here_inDirectory, FileSystem.files_inDirectory, hfile]

theorem fFindfirst_some {file : File} (hfile : fs.files path = some file) :
    fFindfirst (fs.inDirectory path) path.2 = if file.system then fErrNotfound else 0 := by
  unfold fFindfirst
  rw [FileSystem.here_inDirectory, FileSystem.files_inDirectory, hfile]

theorem createFile_of_none (h : path.1 ∈ fs.repositories) (hfile : fs.files path = none)
    (hroom : fs.Room) (initialData : Option SdFile) :
    createFile fs path.1 path.2 initialData =
      (((initialData.getD emptyFile).bytes.length : Int),
        toRoot (fs.set path (some ⟨initialData.getD emptyFile, 0⟩))) := by
  unfold createFile
  rw [changeDirectory_of_mem h]
  dsimp only
  have hopen : fOpenWrite (fs.inDirectory path) path.2 =
      (0, { (fs.inDirectory path).set path (some ⟨emptyFile, 0⟩) with opened := path :: fs.opened }) := by
    unfold fOpenWrite
    dsimp only
    rw [FileSystem.here_inDirectory, FileSystem.files_inDirectory, hfile]
    exact if_pos hroom
  rw [if_neg (by decide), fFindfirst_none hfile, if_neg (by decide), hopen]
  dsimp only
  rw [if_neg (by decide)]
  cases initialData with
  | none =>
      unfold fClose toRoot FileSystem.set FileSystem.inDirectory FileSystem.here
      simp [emptyFile]
  | some data =>
      unfold fWrite fClose toRoot FileSystem.set FileSystem.inDirectory FileSystem.here
      simp

theorem createFile_of_full (h : path.1 ∈ fs.repositories) (hfile : fs.files path = none)
    (hroom : ¬ fs.Room) (initialData : Option SdFile) :
    createFile fs path.1 path.2 initialData = (fErrNomoreentry, fs.inDirectory path) := by
  unfold createFile
  rw [changeDirectory_of_mem h]
  dsimp only
  have hopen : fOpenWrite (fs.inDirectory path) path.2 = (fErrNomoreentry, fs.inDirectory path) := by
    unfold fOpenWrite
    dsimp only
    rw [FileSystem.here_inDirectory, FileSystem.files_inDirectory, hfile]
    exact if_neg hroom
  rw [if_neg (by decide), fFindfirst_none hfile, if_neg (by decide), hopen]
  exact if_pos (show fErrNomoreentry ≠ 0 by decide)

theorem createFile_of_some {file : File} (h : path.1 ∈ fs.repositories)
    (hfile : fs.files path = some file) (hsystem : file.system = false) (initialData : Option SdFile) :
    createFile fs path.1 path.2 initialData = (-1, fs.inDirectory path) := by
  unfold createFile
  rw [changeDirectory_of_mem h]
  dsimp only
  rw [if_neg (by decide), fFindfirst_some hfile, hsystem]
  exact if_pos rfl

theorem fOpenRead_nonneg (fs : FileSystem) (filename : String) : 0 ≤ (fOpenRead fs filename).1 := by
  unfold fOpenRead
  cases fs.files (fs.here filename) with
  | none => exact (by decide : 0 ≤ fErrNotfound)
  | some file =>
      dsimp only
      split_ifs
      · exact Int.le_refl 0
      · exact (by decide : 0 ≤ fErrNomoreentry)

/-- The code of an error is the same as a natural number. -/
theorem fOpenRead_toNat_ne_zero (fs : FileSystem) (filename : String) :
    (fOpenRead fs filename).1.toNat ≠ 0 ↔ (fOpenRead fs filename).1 ≠ 0 := by
  have hnonneg := fOpenRead_nonneg fs filename
  omega

theorem fOpenWrite_nonneg (fs : FileSystem) (filename : String) : 0 ≤ (fOpenWrite fs filename).1 := by
  unfold fOpenWrite
  dsimp only
  cases fs.files (fs.here filename) with
  | none =>
      dsimp only
      split_ifs
      · exact Int.le_refl 0
      · exact (by decide : 0 ≤ fErrNomoreentry)
  | some file =>
      dsimp only
      split_ifs
      · exact (by decide : 0 ≤ fErrAccessdenied)
      · exact (by decide : 0 ≤ fErrLocked)
      · exact Int.le_refl 0
      · exact (by decide : 0 ≤ fErrNomoreentry)

/-- A file with the system attribute is not found, and opened for writing. -/
theorem createFile_of_system {file : File} (h : path.1 ∈ fs.repositories)
    (hfile : fs.files path = some file) (hsystem : file.system = true) (initialData : Option SdFile) :
    0 ≤ (createFile fs path.1 path.2 initialData).1 := by
  unfold createFile
  rw [changeDirectory_of_mem h]
  dsimp only
  rw [if_neg (by decide), fFindfirst_some hfile, if_pos hsystem, if_neg (by decide)]
  split_ifs
  · exact fOpenWrite_nonneg _ _
  · exact Int.natCast_nonneg _

theorem fOpenRead_none (hfile : fs.files path = none) :
    fOpenRead (fs.inDirectory path) path.2 = (fErrNotfound, fs.inDirectory path) := by
  unfold fOpenRead
  rw [FileSystem.here_inDirectory, FileSystem.files_inDirectory, hfile]

theorem fOpenRead_full {file : File} (hfile : fs.files path = some file) (hroom : ¬ fs.Room) :
    fOpenRead (fs.inDirectory path) path.2 = (fErrNomoreentry, fs.inDirectory path) := by
  unfold fOpenRead
  rw [FileSystem.here_inDirectory, FileSystem.files_inDirectory, hfile]
  exact if_neg hroom

/-- The card with a file opened. -/
def opening (fs : FileSystem) (path : Path) : FileSystem :=
  { fs.inDirectory path with opened := path :: fs.opened }

theorem fOpenRead_some {file : File} (hfile : fs.files path = some file) (hroom : fs.Room) :
    fOpenRead (fs.inDirectory path) path.2 = (0, opening fs path) := by
  unfold fOpenRead
  rw [FileSystem.here_inDirectory, FileSystem.files_inDirectory, hfile]
  exact if_pos hroom

theorem fFilelengthOf_some {file : File} (hfile : fs.files path = some file) :
    fFilelengthOf (opening fs path) path.2 = file.content.bytes.length := by
  unfold fFilelengthOf
  rw [show (opening fs path).files ((opening fs path).here path.2) = some file from hfile]

theorem fReadFirst_some {file : File} (hfile : fs.files path = some file) (count : Nat) :
    fReadFirst (opening fs path) path.2 count = file.content.bytes.take count := by
  unfold fReadFirst
  rw [show (opening fs path).files ((opening fs path).here path.2) = some file from hfile]

/-- Without a file that can be opened, `read_whole_file` returns 0. -/
theorem readWholeFile_refused (h : path.1 ∈ fs.repositories) (hfile : fs.files path = none ∨ ¬ fs.Room)
    (buffer : List UInt8) :
    readWholeFile fs path.1 path.2 buffer = ((0, buffer), fs.inDirectory path) := by
  unfold readWholeFile
  rw [changeDirectory_of_mem h]
  dsimp only
  rw [if_neg (by decide)]
  cases hthere : fs.files path with
  | none =>
      rw [fOpenRead_none hthere]
      exact if_pos (show fErrNotfound ≠ 0 by decide)
  | some file =>
      rw [fOpenRead_full hthere (hfile.resolve_left (by rw [hthere]; exact Option.some_ne_none _))]
      exact if_pos (show fErrNomoreentry ≠ 0 by decide)

/-- The number of bytes is right, and the buffer is as it was. -/
theorem readWholeFile_of_some {file : File} (h : path.1 ∈ fs.repositories)
    (hfile : fs.files path = some file) (hroom : fs.Room) (buffer : List UInt8) :
    readWholeFile fs path.1 path.2 buffer =
      ((((min file.content.bytes.length buffer.length : Nat) : Int), buffer), fs.inDirectory path) := by
  unfold readWholeFile
  rw [changeDirectory_of_mem h]
  dsimp only
  rw [if_neg (by decide), fOpenRead_some hfile hroom]
  dsimp only
  rw [if_neg (by decide), fFilelengthOf_some hfile, if_neg (by omega), fReadFirst_some hfile,
    fReadFirst_some hfile, Int.toNat_natCast]
  have hclose : fClose (opening fs path) path.2 = fs.inDirectory path := by
    unfold fClose opening FileSystem.here FileSystem.inDirectory
    simp
  rw [hclose]
  -- the file is longer than the buffer, or it is read as a whole
  split_ifs with hlong
  · rw [List.length_take, Nat.min_comm]
  · rw [List.length_take, Nat.min_self, Nat.min_eq_left (Nat.le_of_not_lt hlong)]

theorem fGetattr_some {file : File} (hfile : fs.files path = some file) (opened : List Path) :
    fGetattr { fs.inDirectory path with opened := opened } path.2 = (0, file.attr) := by
  unfold fGetattr
  rw [show ({ fs.inDirectory path with opened := opened } : FileSystem).files
    (FileSystem.here { fs.inDirectory path with opened := opened } path.2) = some file from hfile]

theorem changeAttribute_none (h : path.1 ∈ fs.repositories) (hfile : fs.files path = none)
    (change : BitVec 8 → BitVec 8) :
    changeAttribute fs change path.1 path.2 = (fErrNotfound, fs.inDirectory path) := by
  unfold changeAttribute
  rw [changeDirectory_of_mem h]
  dsimp only
  have hgetattr : fGetattr (fs.inDirectory path) path.2 = (fErrNotfound, 0) := by
    unfold fGetattr
    rw [FileSystem.here_inDirectory, FileSystem.files_inDirectory, hfile]
  rw [if_neg (by decide), hgetattr]
  exact if_pos (by decide)

theorem changeAttribute_some {file : File} (h : path.1 ∈ fs.repositories)
    (hfile : fs.files path = some file) (change : BitVec 8 → BitVec 8) :
    changeAttribute fs change path.1 path.2 =
      (0, (fs.inDirectory path).set path (some { file with attr := change file.attr })) := by
  unfold changeAttribute
  rw [changeDirectory_of_mem h]
  dsimp only
  rw [if_neg (by decide), show fGetattr (fs.inDirectory path) path.2 = (0, file.attr) from
    fGetattr_some hfile fs.opened, if_neg (show ¬ (0 : Int) ≠ 0 by decide)]
  unfold fSetattr
  rw [FileSystem.here_inDirectory, FileSystem.files_inDirectory, hfile]

/-- A file that cannot be opened has no information. -/
theorem getFileInfo_refused (h : path.1 ∈ fs.repositories) (hfile : fs.files path = none ∨ ¬ fs.Room)
    (info : FileInfo) :
    (getFileInfo fs path.1 path.2 info).1.1 ≠ 0 ∧
      (getFileInfo fs path.1 path.2 info).2 = fs.inDirectory path := by
  unfold getFileInfo
  rw [changeDirectory_of_mem h]
  dsimp only
  rw [if_neg (by decide)]
  cases hthere : fs.files path with
  | none =>
      rw [fOpenRead_none hthere, if_pos (show fErrNotfound ≠ 0 by decide)]
      exact ⟨(by decide : fErrNotfound ≠ 0), rfl⟩
  | some file =>
      rw [fOpenRead_full hthere (hfile.resolve_left (by rw [hthere]; exact Option.some_ne_none _)),
        if_pos (show fErrNomoreentry ≠ 0 by decide)]
      exact ⟨(by decide : fErrNomoreentry ≠ 0), rfl⟩

/-- The information is right, and the file stays open. -/
theorem getFileInfo_of_some {file : File} (h : path.1 ∈ fs.repositories)
    (hfile : fs.files path = some file) (hroom : fs.Room) (info : FileInfo) :
    getFileInfo fs path.1 path.2 info =
      ((0, ⟨file.content.bytes.length, file.readOnly⟩), opening fs path) := by
  unfold getFileInfo
  rw [changeDirectory_of_mem h]
  dsimp only
  rw [if_neg (by decide), fOpenRead_some hfile hroom]
  dsimp only
  rw [if_neg (by decide), fFilelengthOf_some hfile,
    show fGetattr (opening fs path) path.2 = (0, file.attr) from fGetattr_some hfile _,
    if_neg (show ¬ (0 : Int) ≠ 0 by decide)]
  have hlength := file.content.length_lt
  have hmod : ((file.content.bytes.length : Int) % 2 ^ 32).toNat = file.content.bytes.length := by omega
  rw [hmod]
  rfl

/-- In a repository that is there, the library decides. -/
theorem deleteFile_of_mem (h : path.1 ∈ fs.repositories) :
    deleteFile fs path.1 path.2 = fDelete (fs.inDirectory path) path.2 := by
  unfold deleteFile
  rw [changeDirectory_of_mem h]
  dsimp only
  rw [if_neg (by decide)]

theorem deleteFile_none (h : path.1 ∈ fs.repositories) (hfile : fs.files path = none) :
    deleteFile fs path.1 path.2 = (fErrNotfound, fs.inDirectory path) := by
  rw [deleteFile_of_mem h]
  unfold fDelete
  rw [FileSystem.here_inDirectory, FileSystem.files_inDirectory, hfile]

theorem deleteFile_some {file : File} (h : path.1 ∈ fs.repositories) (hfile : fs.files path = some file) :
    deleteFile fs path.1 path.2 =
      if file.readOnly ∨ path ∈ fs.opened then (fErrLocked, fs.inDirectory path)
      else (0, (fs.inDirectory path).set path none) := by
  rw [deleteFile_of_mem h]
  unfold fDelete
  rw [FileSystem.here_inDirectory, FileSystem.files_inDirectory, hfile]
  rfl

end Functions

/-! ## The models of the codes -/

section Codes

variable (fs : FileSystem) (repositoryPath filename : String)

/-- What the calls inside `create_file` return on this card. -/
def createFileOutcome (initialData : Option SdFile) : Api.CreateFileOutcome where
  changeDirectory := (changeDirectory fs repositoryPath).1
  findfirst := fFindfirst (changeDirectory fs repositoryPath).2 filename
  openError := (fOpenWrite (changeDirectory fs repositoryPath).2 filename).1.toNat
  accepted := (initialData.getD emptyFile).bytes.length
  close := 0

theorem createFile_code (initialData : Option SdFile) :
    (createFile fs repositoryPath filename initialData).1 =
      (Api.createFile (createFileOutcome fs repositoryPath filename initialData)
        (initialData.getD emptyFile).bytes).1 := by
  have hnonneg := fOpenWrite_nonneg (changeDirectory fs repositoryPath).2 filename
  unfold createFile Api.createFile createFileOutcome
  dsimp only
  by_cases hchanged : (changeDirectory fs repositoryPath).1 = 0
  · rw [if_neg (not_not.mpr hchanged), if_neg (not_not.mpr hchanged)]
    by_cases hfind : fFindfirst (changeDirectory fs repositoryPath).2 filename = 0
    · rw [if_pos hfind, if_pos hfind]
    · rw [if_neg hfind, if_neg hfind]
      by_cases hopen : (fOpenWrite (changeDirectory fs repositoryPath).2 filename).1 = 0
      · rw [if_neg (not_not.mpr hopen), if_neg (by omega), Nat.min_self]
        cases initialData with
        | none => rfl
        | some data => rfl
      · rw [if_pos hopen, if_pos (by omega)]
        exact (Int.toNat_of_nonneg hnonneg).symm
  · rw [if_pos hchanged, if_pos hchanged]

/-- What the calls inside `read_whole_file` return on this card. -/
def readWholeFileOutcome : Api.ReadWholeFileOutcome where
  changeDirectory := (changeDirectory fs repositoryPath).1
  openError := (fOpenRead (changeDirectory fs repositoryPath).2 filename).1.toNat
  filelength := fFilelengthOf (fOpenRead (changeDirectory fs repositoryPath).2 filename).2 filename
  readGot := (fFilelengthOf (fOpenRead (changeDirectory fs repositoryPath).2 filename).2 filename).toNat
  close := 0

theorem length_fReadFirst (count : Nat) :
    (fReadFirst fs filename count).length = min count (fFilelengthOf fs filename).toNat := by
  unfold fReadFirst fFilelengthOf
  cases fs.files (fs.here filename) with
  | none => exact (Nat.min_zero count).symm
  | some file => exact List.length_take

theorem readWholeFile_code (buffer : List UInt8) :
    (readWholeFile fs repositoryPath filename buffer).1.1 =
      (Api.readWholeFile (readWholeFileOutcome fs repositoryPath filename) buffer.length).1 := by
  unfold readWholeFile Api.readWholeFile readWholeFileOutcome
  simp only [fOpenRead_toNat_ne_zero]
  split_ifs with hchanged hopen hlength hlong
  · rfl
  · rfl
  · rfl
  · rw [length_fReadFirst]
    dsimp only
    omega
  · rw [length_fReadFirst]
    dsimp only
    omega

/-- What the calls inside `lock_file` and `unlock_file` return on this card. -/
def attributeOutcome (change : BitVec 8 → BitVec 8) : Api.AttributeOutcome where
  changeDirectory := (changeDirectory fs repositoryPath).1
  getattr := (fGetattr (changeDirectory fs repositoryPath).2 filename).1
  setattr := (fSetattr (changeDirectory fs repositoryPath).2 filename
    (change (fGetattr (changeDirectory fs repositoryPath).2 filename).2)).1

theorem changeAttribute_code (change : BitVec 8 → BitVec 8) :
    (changeAttribute fs change repositoryPath filename).1 =
      (Api.changeAttribute (attributeOutcome fs repositoryPath filename change)).1 := by
  unfold changeAttribute Api.changeAttribute attributeOutcome
  dsimp only
  split_ifs <;> rfl

/-- What the calls inside `get_file_info` return on this card. -/
def fileInfoOutcome : Api.FileInfoOutcome where
  changeDirectory := (changeDirectory fs repositoryPath).1
  openError := (fOpenRead (changeDirectory fs repositoryPath).2 filename).1.toNat
  getattr := (fGetattr (fOpenRead (changeDirectory fs repositoryPath).2 filename).2 filename).1

theorem getFileInfo_code (info : FileInfo) :
    (getFileInfo fs repositoryPath filename info).1.1 =
      (Api.getFileInfo (fileInfoOutcome fs repositoryPath filename)).1 := by
  have hnonneg := fOpenRead_nonneg (changeDirectory fs repositoryPath).2 filename
  unfold getFileInfo Api.getFileInfo fileInfoOutcome
  simp only [fOpenRead_toNat_ne_zero]
  split_ifs with hchanged hopen hgetattr
  · rfl
  · exact (Int.toNat_of_nonneg hnonneg).symm
  · rfl
  · exact (not_not.mp hgetattr).symm

theorem deleteFile_code :
    (deleteFile fs repositoryPath filename).1 =
      (Api.deleteFile ⟨(changeDirectory fs repositoryPath).1,
        (fDelete (changeDirectory fs repositoryPath).2 filename).1⟩).1 := by
  unfold deleteFile Api.deleteFile Api.inDirectory
  dsimp only
  split_ifs <;> rfl

end Codes

/-! ## The repositories stay -/

theorem changeDirectory_repositories (fs : FileSystem) (repositoryPath : String) :
    (changeDirectory fs repositoryPath).2.repositories = fs.repositories := by
  unfold changeDirectory fChdir
  split_ifs <;> rfl

theorem fOpenRead_repositories (fs : FileSystem) (filename : String) :
    (fOpenRead fs filename).2.repositories = fs.repositories := by
  unfold fOpenRead
  cases fs.files (fs.here filename) with
  | none => rfl
  | some file =>
      dsimp only
      split_ifs <;> rfl

theorem fOpenWrite_repositories (fs : FileSystem) (filename : String) :
    (fOpenWrite fs filename).2.repositories = fs.repositories := by
  unfold fOpenWrite
  dsimp only
  cases fs.files (fs.here filename) with
  | none =>
      dsimp only
      split_ifs <;> rfl
  | some file =>
      dsimp only
      split_ifs <;> rfl

theorem createFile_repositories (fs : FileSystem) (repositoryPath filename : String)
    (initialData : Option SdFile) :
    (createFile fs repositoryPath filename initialData).2.repositories = fs.repositories := by
  have hchanged := changeDirectory_repositories fs repositoryPath
  have hopened := fOpenWrite_repositories (changeDirectory fs repositoryPath).2 filename
  unfold createFile
  dsimp only
  split_ifs
  · exact hchanged
  · exact hchanged
  · exact hopened.trans hchanged
  · cases initialData with
    | none => exact hopened.trans hchanged
    | some data => exact hopened.trans hchanged

theorem readWholeFile_repositories (fs : FileSystem) (repositoryPath fileName : String)
    (buffer : List UInt8) :
    (readWholeFile fs repositoryPath fileName buffer).2.repositories = fs.repositories := by
  have hchanged := changeDirectory_repositories fs repositoryPath
  have hopened := fOpenRead_repositories (changeDirectory fs repositoryPath).2 fileName
  unfold readWholeFile
  dsimp only
  split_ifs
  · exact hchanged
  all_goals exact hopened.trans hchanged

theorem changeAttribute_repositories (fs : FileSystem) (change : BitVec 8 → BitVec 8)
    (repositoryPath filename : String) :
    (changeAttribute fs change repositoryPath filename).2.repositories = fs.repositories := by
  have hchanged := changeDirectory_repositories fs repositoryPath
  unfold changeAttribute fSetattr
  dsimp only
  split_ifs
  · exact hchanged
  · exact hchanged
  · split <;> exact hchanged

theorem getFileInfo_repositories (fs : FileSystem) (repositoryPath filename : String) (info : FileInfo) :
    (getFileInfo fs repositoryPath filename info).2.repositories = fs.repositories := by
  have hchanged := changeDirectory_repositories fs repositoryPath
  have hopened := fOpenRead_repositories (changeDirectory fs repositoryPath).2 filename
  unfold getFileInfo
  dsimp only
  split_ifs
  · exact hchanged
  all_goals exact hopened.trans hchanged

theorem deleteFile_repositories (fs : FileSystem) (repositoryPath filename : String) :
    (deleteFile fs repositoryPath filename).2.repositories = fs.repositories := by
  have hchanged := changeDirectory_repositories fs repositoryPath
  unfold deleteFile fDelete
  dsimp only
  split_ifs
  · exact hchanged
  · split
    · split_ifs <;> exact hchanged
    · exact hchanged

end Files
end Sdc
end Obsw
