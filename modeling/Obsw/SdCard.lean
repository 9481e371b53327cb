import Mathlib.Algebra.Group.Nat.Defs
import Obsw.Config

/-!
# `Obsw.SdCard` — files on the SD cards

The file system is a library outside the repository; what the code relies on is modelled here. A card
is a partial map from paths to files. An opened file is its bytes and a position, and `f_read`
delivers consecutive bytes from the position on, as many as asked for or fewer.
-/

namespace Obsw

/-- A file. `f_filelength` returns a `long`, which bounds the length. -/
structure SdFile where
  bytes : List UInt8
  length_lt : bytes.length < 2 ^ 31

/-- The files of a card, by repository and name. -/
abbrev Card := Path → Option SdFile

/-- The bytes of a file; none when there is no such file. -/
def fileBytes (card : Card) (path : Path) : List UInt8 :=
  match card path with
  | some file => file.bytes
  | none => []

/-- `f_filelength`: 0 when there is no such file. -/
def fFilelength (card : Card) (path : Path) : Nat := (fileBytes card path).length

/-- A card with one file. -/
def cardWith (path : Path) (file : SdFile) : Card := fun p => if p = path then some file else none

@[simp] theorem fileBytes_cardWith (path : Path) (file : SdFile) :
    fileBytes (cardWith path file) path = file.bytes := by
  simp [fileBytes, cardWith]

theorem fileBytes_congr {card card' : Card} {path : Path} (h : card' path = card path) :
    fileBytes card' path = fileBytes card path := by
  unfold fileBytes
  rw [h]

theorem fFilelength_lt (card : Card) (path : Path) : fFilelength card path < 2 ^ 31 := by
  unfold fFilelength fileBytes
  cases card path with
  | some file => exact file.length_lt
  | none => simp

theorem exists_of_fileBytes {card : Card} {path : Path} (h : 0 < (fileBytes card path).length) :
    card path ≠ none := by
  intro hnone
  unfold fileBytes at h
  rw [hnone] at h
  exact Nat.lt_irrefl _ h

/-- A file opened for reading: its bytes and the position of the next read. -/
structure FFile where
  bytes : List UInt8
  pos : Nat

/-- The bytes `f_read` delivers when asked for `size` and the medium gives at most `got` of them. -/
def FFile.chunk (file : FFile) (size got : Nat) : List UInt8 :=
  (file.bytes.drop file.pos).take (min size got)

/-- `f_read`: the bytes delivered and the file behind them. An empty list stands for a failed read
    (`f_read` returns 0 or a negative value). -/
def fRead (file : FFile) (size got : Nat) : List UInt8 × FFile :=
  (file.chunk size got, { file with pos := file.pos + (file.chunk size got).length })

theorem fRead_file (file : FFile) (size got : Nat) :
    (fRead file size got).2 = ⟨file.bytes, file.pos + (fRead file size got).1.length⟩ := rfl

theorem fRead_length_le (file : FFile) (size got : Nat) :
    (fRead file size got).1.length ≤ size := by
  simp only [fRead, FFile.chunk, List.length_take]
  omega

/-- **A complete read delivers the next `size` bytes.** -/
theorem fRead_complete {file : FFile} {size got : Nat}
    (h : size ≤ (fRead file size got).1.length) :
    (fRead file size got).1 = (file.bytes.drop file.pos).take size := by
  simp only [fRead, FFile.chunk, List.length_take] at h ⊢
  rw [show min size got = size by omega]

/-- A read within the file that the medium does not cut short is complete. -/
theorem fRead_length {file : FFile} {size got : Nat} (hgot : size ≤ got)
    (hsize : file.pos + size ≤ file.bytes.length) : (fRead file size got).1.length = size := by
  simp only [fRead, FFile.chunk, List.length_take, List.length_drop]
  omega

/-- What is read is a run of the file from the position on. -/
theorem fRead_eq_take (file : FFile) (size got : Nat) :
    (fRead file size got).1 =
      (file.bytes.drop file.pos).take (fRead file size got).1.length := by
  simp only [fRead, FFile.chunk, List.length_take]
  rw [List.take_eq_take_min, Nat.min_comm, List.length_drop]

/-! ## Changing the files of a card -/

/-- The card with another file, or none, at a path. -/
def Card.set (card : Card) (path : Path) (file : Option SdFile) : Card :=
  fun p => if p = path then file else card p

@[simp] theorem Card.set_same (card : Card) (path : Path) (file : Option SdFile) :
    card.set path file path = file := if_pos rfl

theorem Card.set_other {card : Card} {path other : Path} (file : Option SdFile)
    (h : other ≠ path) : card.set path file other = card other := if_neg h

/-- A file with `bs` behind its bytes, as far as a file can grow. -/
def SdFile.append (file : SdFile) (bs : List UInt8) : SdFile where
  bytes := (file.bytes ++ bs).take (2 ^ 31 - 1)
  length_lt := by
    rw [List.length_take]
    omega

theorem SdFile.append_bytes {file : SdFile} {bs : List UInt8}
    (h : (file.bytes ++ bs).length < 2 ^ 31) : (file.append bs).bytes = file.bytes ++ bs :=
  List.take_of_length_le (by omega)

/-- `f_delete`. -/
def fDelete (card : Card) (path : Path) : Card := card.set path none

/-- `f_open` for appending creates the file if there is none. -/
def fOpenAppend (card : Card) (path : Path) : Card :=
  match card path with
  | none => card.set path (some ⟨[], by decide⟩)
  | some _ => card

/-- `f_write` to a file opened for appending. The medium takes the first `accepted` bytes at most. -/
def fWrite (card : Card) (path : Path) (bs : List UInt8) (accepted : Nat) : Card :=
  match card path with
  | none => card
  | some file => card.set path (some (file.append (bs.take accepted)))

theorem fDelete_other {card : Card} {path other : Path} (h : other ≠ path) :
    fDelete card path other = card other := Card.set_other none h

theorem fOpenAppend_other {card : Card} {path other : Path} (h : other ≠ path) :
    fOpenAppend card path other = card other := by
  unfold fOpenAppend
  cases card path with
  | none => exact Card.set_other _ h
  | some file => rfl

theorem fWrite_other {card : Card} {path other : Path} (bs : List UInt8) (accepted : Nat)
    (h : other ≠ path) : fWrite card path bs accepted other = card other := by
  unfold fWrite
  cases card path with
  | none => rfl
  | some file => exact Card.set_other _ h

/-- Opening a file for appending does not change its bytes. -/
theorem fileBytes_fOpenAppend (card : Card) (path : Path) :
    fileBytes (fOpenAppend card path) path = fileBytes card path := by
  unfold fOpenAppend fileBytes
  cases hfile : card path with
  | none => simp
  | some file => simp [hfile]

theorem fOpenAppend_exists (card : Card) (path : Path) : fOpenAppend card path path ≠ none := by
  unfold fOpenAppend
  cases hfile : card path with
  | none => simp
  | some file => simp [hfile]

/-- A complete write appends to the file. -/
theorem fileBytes_fWrite {card : Card} {path : Path} {bs : List UInt8} {accepted : Nat}
    (hopen : card path ≠ none) (haccepted : bs.length ≤ accepted)
    (hlt : (fileBytes card path ++ bs).length < 2 ^ 31) :
    fileBytes (fWrite card path bs accepted) path = fileBytes card path ++ bs := by
  unfold fWrite fileBytes at *
  cases hfile : card path with
  | none => exact absurd hfile hopen
  | some file =>
      simp only [hfile, Card.set_same, List.take_of_length_le haccepted] at hlt ⊢
      exact SdFile.append_bytes hlt

theorem fWrite_exists {card : Card} {path : Path} (bs : List UInt8) (accepted : Nat)
    (hopen : card path ≠ none) : fWrite card path bs accepted path ≠ none := by
  unfold fWrite
  cases hfile : card path with
  | none => exact absurd hfile hopen
  | some file => simp

end Obsw
