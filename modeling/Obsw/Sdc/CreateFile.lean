import Obsw.Sdc.FileCommands

/-!
# `Sdc.CreateFile` — what is on the card when a file has been created

`create_file` with the card behind it, and `SDCardHandler::createFile`. Of the values `create_file`
returns, the handler knows -2 and -1 and takes every other one for a success: the error code of an
`f_open` that fails, and a number of bytes that is smaller than what should be written. What `f_close`
returns is only printed.
-/

namespace Obsw
namespace Sdc
namespace CreateFile

open Api FileCommand CopyFile

/-- `create_file` on a card. Without a repository path the directory is not changed. If `f_close` fails,
    `left` is what is on the card at the path. -/
def createFileOn (o : CreateFileOutcome) (left : Option SdFile) (path : Path)
    (initialData : Option (List UInt8)) (card : Card) : Int × Card :=
  if o.changeDirectory ≠ 0 then (-2, card)
  else if o.findfirst = 0 then (-1, card)
  else if o.openError ≠ 0 then (o.openError, card)
  else
    let card := fOpenWrite card path
    let written : Nat × Card :=
      match initialData with
      | some data => (min data.length o.accepted, fWrite card path data o.accepted)
      | none => (0, card)
    (written.1, if o.close ≠ 0 then written.2.set path left else written.2)

/-- `SDCardHandler::createFile`, with the card behind it. `none` is `RETURN_OK`. -/
def createFile (o : CreateFileOutcome) (left : Option SdFile) (path : Path)
    (initialData : Option (List UInt8)) (card : Card) : Option Code × Card :=
  (createFileResult o (initialData.getD []), (createFileOn o left path initialData card).2)

/-- The handler looks at what `create_file` returns. -/
theorem createFileOn_fst (o : CreateFileOutcome) (left : Option SdFile) (path : Path)
    (initialData : Option (List UInt8)) (card : Card) :
    (createFileOn o left path initialData card).1 = (Api.createFile o (initialData.getD [])).1 := by
  unfold createFileOn Api.createFile
  split
  · rfl
  split
  · rfl
  split
  · rfl
  cases initialData with
  | none => simp
  | some data => rfl

/-- The file is on the card with these bytes. -/
def Holds (card : Card) (path : Path) (data : List UInt8) : Prop :=
  ∃ file, card path = some file ∧ file.bytes = data

/-- OK is returned exactly if there was no file and there is one with the data. -/
def Truthful (o : CreateFileOutcome) (left : Option SdFile) (path : Path)
    (initialData : Option (List UInt8)) (card : Card) : Prop :=
  (createFile o left path initialData card).1 = none ↔
    card path = none ∧ Holds (createFile o left path initialData card).2 path (initialData.getD [])

/-- The condition: the directory is not found, the file is found, or the file is new, it is opened, and it
    has all of the data when it is closed. -/
def CreatesOrRefuses (o : CreateFileOutcome) (left : Option SdFile) (path : Path)
    (initialData : Option (List UInt8)) (card : Card) : Prop :=
  o.changeDirectory ≠ 0 ∨ o.findfirst = 0 ∨
    card path = none ∧ o.openError = 0 ∧
      if o.close = 0 then
        (initialData.getD []).length ≤ o.accepted ∧ (initialData.getD []).length < 2 ^ 31
      else ∃ file, left = some file ∧ file.bytes = initialData.getD []

section

variable {o : CreateFileOutcome} {left : Option SdFile} {path : Path}
  {initialData : Option (List UInt8)} {card : Card}

/-- A part of the data is all of it exactly if it is as long. -/
theorem take_take_eq_iff {data : List UInt8} {n m : Nat} :
    (data.take n).take m = data ↔ data.length ≤ n ∧ data.length ≤ m := by
  rw [List.take_take]
  constructor
  · intro htake
    have hlength := congrArg List.length htake
    rw [List.length_take] at hlength
    omega
  · rintro ⟨hn, hm⟩
    exact List.take_of_length_le (by omega)

/-- What a new file holds when `f_close` succeeds. -/
theorem holds_created_iff (hdirectory : o.changeDirectory = 0) (hfind : o.findfirst ≠ 0)
    (hopen : o.openError = 0) (hclose : o.close = 0) :
    Holds (createFileOn o left path initialData card).2 path (initialData.getD []) ↔
      (initialData.getD []).length ≤ o.accepted ∧ (initialData.getD []).length < 2 ^ 31 := by
  unfold createFileOn
  simp only [hdirectory, hfind, hopen, hclose, ne_eq, not_true_eq_false, if_false]
  cases initialData with
  | none => simp [Holds, fOpenWrite]
  | some data =>
      simp only [Option.getD_some]
      have hcard : fWrite (fOpenWrite card path) path data o.accepted path =
          some ((⟨[], noBytes_length_lt⟩ : SdFile).append (data.take o.accepted)) := by
        simp [fWrite, fOpenWrite]
      rw [Holds, hcard]
      simp only [Option.some.injEq, exists_eq_left', SdFile.append, List.nil_append, take_take_eq_iff]
      omega

/-- What is left at the path when `f_close` fails. -/
theorem holds_left_iff (hdirectory : o.changeDirectory = 0) (hfind : o.findfirst ≠ 0)
    (hopen : o.openError = 0) (hclose : o.close ≠ 0) :
    Holds (createFileOn o left path initialData card).2 path (initialData.getD []) ↔
      ∃ file, left = some file ∧ file.bytes = initialData.getD [] := by
  unfold createFileOn
  simp only [hdirectory, hfind, hopen, hclose, ne_eq, not_true_eq_false, not_false_eq_true, if_false,
    if_true]
  rw [Holds, Card.set_same]

/-- **Creating a file.** OK is the truth about the file exactly under the condition. -/
theorem createFile_truthful_iff (o : CreateFileOutcome) (left : Option SdFile) (path : Path)
    (initialData : Option (List UInt8)) (card : Card) :
    Truthful o left path initialData card ↔ CreatesOrRefuses o left path initialData card := by
  have hresult : (createFile o left path initialData card).1 = none ↔
      o.changeDirectory = 0 ∧ o.findfirst ≠ 0 := createFileResult_eq_none_iff
  have hcard : (createFile o left path initialData card).2 =
      (createFileOn o left path initialData card).2 := rfl
  rw [Truthful, CreatesOrRefuses, hresult, hcard]
  by_cases hdirectory : o.changeDirectory = 0
  swap
  · -- the directory does not exist
    have hsame : (createFileOn o left path initialData card).2 = card := by
      rw [createFileOn, if_pos hdirectory]
    refine iff_of_true (iff_of_false (fun h => hdirectory h.1) ?_) (.inl hdirectory)
    rintro ⟨hnone, file, hfile, _⟩
    rw [hsame, hnone] at hfile
    cases hfile
  rw [or_iff_right (not_not.mpr hdirectory)]
  by_cases hfind : o.findfirst = 0
  · have hsame : (createFileOn o left path initialData card).2 = card := by
      rw [createFileOn, if_neg (not_not.mpr hdirectory), if_pos hfind]
    refine iff_of_true (iff_of_false (fun h => h.2 hfind) ?_) (.inl hfind)
    rintro ⟨hnone, file, hfile, _⟩
    rw [hsame, hnone] at hfile
    cases hfile
  rw [or_iff_right hfind]
  refine (iff_true_left ⟨hdirectory, hfind⟩).trans ?_
  by_cases hopen : o.openError = 0
  swap
  · -- the error code of `f_open` is taken for a success
    have hsame : (createFileOn o left path initialData card).2 = card := by
      rw [createFileOn, if_neg (not_not.mpr hdirectory), if_neg hfind, if_pos hopen]
    refine iff_of_false ?_ (fun h => hopen h.2.1)
    rintro ⟨hnone, file, hfile, _⟩
    rw [hsame, hnone] at hfile
    cases hfile
  rw [and_iff_right hopen]
  by_cases hclose : o.close = 0
  · rw [if_pos hclose, holds_created_iff hdirectory hfind hopen hclose]
  · rw [if_neg hclose, holds_left_iff hdirectory hfind hopen hclose]

end

/-- A call that finds no file and cannot open one. -/
def openFails : CreateFileOutcome := ⟨0, 4, 5, 0, 0⟩

/-- **An `f_open` that fails is a success.** The error code is neither -2 nor -1, and there is no file. -/
theorem openFails_ok :
    createFile openFails none ("BIN", "A.BIN") (some [1]) (fun _ => none) = (none, fun _ => none) ∧
    ¬ Truthful openFails none ("BIN", "A.BIN") (some [1]) (fun _ => none) := by
  have hmade : createFile openFails none ("BIN", "A.BIN") (some [1]) (fun _ => none) =
      (none, fun _ => none) := rfl
  refine ⟨hmade, fun htruth => ?_⟩
  rw [Truthful, hmade] at htruth
  obtain ⟨_, file, hfile, _⟩ := htruth.mp rfl
  cases hfile

end CreateFile
end Sdc
end Obsw
