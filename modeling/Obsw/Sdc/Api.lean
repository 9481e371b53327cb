import Obsw.Lib.Handles

/-!
# `Sdc.Api` — the functions of the SD card API that change or read a file

`create_file`, `delete_file`, `lock_file`, `unlock_file`, `get_file_info`, `create_directory`,
`delete_directory` and `read_whole_file` of `SDCardApi.c`, called with a repository path. What the
library calls inside a function return is its outcome; a function returns its code and the calls that
open and close a file.
-/

namespace Obsw
namespace Sdc
namespace Api

open Handles

/-- The number of the only file a function opens. -/
def file : Nat := 0

/-- What a function returns, and the files it opens and closes. -/
abbrev ApiResult := Int × List (Call Nat)

/-- `F_ERR_DUPLICATED`, by the documentation of `create_directory`. -/
def fErrDuplicated : Int := 6

/-- `F_ERR_NOTEMPTY`, by the documentation of `delete_directory`. -/
def fErrNotempty : Int := 14

/-! ## Directories -/

/-- The codes of `change_directory` and of the call behind it. -/
structure DirectoryOutcome where
  changeDirectory : Int
  result : Int

/-- The shape of the functions that change the directory and make one call there. -/
def inDirectory (o : DirectoryOutcome) : ApiResult :=
  (if o.changeDirectory ≠ 0 then o.changeDirectory else o.result, [])

/-- `create_directory`, with `f_mkdir`. -/
def createDirectory (o : DirectoryOutcome) : ApiResult := inDirectory o

/-- `delete_directory`, with `f_rmdir`. -/
def deleteDirectory (o : DirectoryOutcome) : ApiResult := inDirectory o

/-- `delete_file`, with `f_delete`. -/
def deleteFile (o : DirectoryOutcome) : ApiResult := inDirectory o

/-! ## Files -/

structure CreateFileOutcome where
  changeDirectory : Int
  /-- `f_findfirst` returns 0 when the file exists -/
  findfirst : Int
  /-- `f_getlasterror` behind `f_open` -/
  openError : Nat
  /-- how many bytes `f_write` takes -/
  accepted : Nat
  close : Int

/-- `create_file`. It returns the number of bytes written; the result of `f_close` is only printed. -/
def createFile (o : CreateFileOutcome) (initialData : List UInt8) : ApiResult :=
  if o.changeDirectory ≠ 0 then (-2, [])
  else if o.findfirst = 0 then (-1, [])
  else if o.openError ≠ 0 then (o.openError, [])
  else ((min initialData.length o.accepted : Nat), [.opened file, .closed (.handle file)])

structure AttributeOutcome where
  changeDirectory : Int
  getattr : Int
  setattr : Int

/-- The shape of `lock_file` and `unlock_file`. -/
def changeAttribute (o : AttributeOutcome) : ApiResult :=
  (if o.changeDirectory ≠ 0 then o.changeDirectory
    else if o.getattr ≠ 0 then o.getattr
    else o.setattr, [])

/-- `lock_file`, which sets the attribute with `F_ATTR_READONLY`. -/
def lockFile (o : AttributeOutcome) : ApiResult := changeAttribute o

/-- `unlock_file`, which sets the attribute without `F_ATTR_READONLY`. -/
def unlockFile (o : AttributeOutcome) : ApiResult := changeAttribute o

structure FileInfoOutcome where
  changeDirectory : Int
  openError : Nat
  getattr : Int

/-- `get_file_info`, called with a variable for the lock and none for the date. What `f_open` returns is
    not kept. -/
def getFileInfo (o : FileInfoOutcome) : ApiResult :=
  if o.changeDirectory ≠ 0 then (o.changeDirectory, [])
  else if o.openError ≠ 0 then (o.openError, [])
  else (o.getattr, [.opened file])

structure ReadWholeFileOutcome where
  changeDirectory : Int
  openError : Nat
  filelength : Int
  /-- the most `f_read` delivers -/
  readGot : Nat
  close : Int

/-- `read_whole_file`. It returns the number of bytes read. -/
def readWholeFile (o : ReadWholeFileOutcome) (maxBufferSize : Nat) : ApiResult :=
  if o.changeDirectory ≠ 0 then (0, [])
  else if o.openError ≠ 0 then (0, [])
  else if o.filelength = -1 then (0, [.opened file])
  else ((min (min o.filelength.toNat maxBufferSize) o.readGot : Nat),
    [.opened file, .closed (.handle file)])

/-! ## When a function succeeds -/

/-- Every call of `create_file` succeeds, and all data is written. -/
structure CreateFileOutcome.Succeeds (o : CreateFileOutcome) (initialData : List UInt8) : Prop where
  changeDirectory : o.changeDirectory = 0
  new : o.findfirst ≠ 0
  opens : o.openError = 0
  written : initialData.length ≤ o.accepted
  closes : o.close = 0

/-- Every call of `lock_file` or `unlock_file` succeeds. -/
structure AttributeOutcome.Succeeds (o : AttributeOutcome) : Prop where
  changeDirectory : o.changeDirectory = 0
  getattr : o.getattr = 0
  setattr : o.setattr = 0

/-- Every call of `get_file_info` succeeds. -/
structure FileInfoOutcome.Succeeds (o : FileInfoOutcome) : Prop where
  changeDirectory : o.changeDirectory = 0
  opens : o.openError = 0
  getattr : o.getattr = 0

theorem inDirectory_eq_zero_iff {o : DirectoryOutcome} :
    (inDirectory o).1 = 0 ↔ o.changeDirectory = 0 ∧ o.result = 0 := by
  unfold inDirectory
  by_cases h : o.changeDirectory = 0
  · simp [h]
  · simp [h]

theorem changeAttribute_eq_zero_iff {o : AttributeOutcome} :
    (changeAttribute o).1 = 0 ↔ o.Succeeds := by
  unfold changeAttribute
  by_cases hdirectory : o.changeDirectory = 0
  · by_cases hgetattr : o.getattr = 0
    · simp only [hdirectory, hgetattr, ne_eq, not_true_eq_false, if_false]
      exact ⟨fun hsetattr => ⟨hdirectory, hgetattr, hsetattr⟩, fun h => h.setattr⟩
    · simp only [hdirectory, hgetattr, ne_eq, not_true_eq_false, not_false_eq_true, if_false, if_true,
        false_iff]
      exact fun h => hgetattr h.getattr
  · simp only [hdirectory, ne_eq, not_false_eq_true, if_true, false_iff]
    exact fun h => hdirectory h.changeDirectory

theorem getFileInfo_eq_zero_iff {o : FileInfoOutcome} : (getFileInfo o).1 = 0 ↔ o.Succeeds := by
  unfold getFileInfo
  by_cases hdirectory : o.changeDirectory = 0
  · by_cases hopens : o.openError = 0
    · simp only [hdirectory, hopens, ne_eq, not_true_eq_false, if_false]
      exact ⟨fun hgetattr => ⟨hdirectory, hopens, hgetattr⟩, fun h => h.getattr⟩
    · simp only [hdirectory, hopens, ne_eq, not_true_eq_false, not_false_eq_true, if_false, if_true,
        Int.natCast_eq_zero, false_iff]
      exact fun h => hopens h.opens
  · simp only [hdirectory, ne_eq, not_false_eq_true, if_true, false_iff]
    exact fun h => hdirectory h.changeDirectory

end Api
end Sdc
end Obsw
