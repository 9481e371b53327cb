import Obsw.Fram.Accessors
import Obsw.Lib.Frame
import Obsw.Lib.Handles
import Obsw.Lib.Loop

/-!
# `Fram.Virtual` — the FRAM as a file

Where there is no FRAM, `VirtualFRAMApi.c` keeps its content in a file of an SD card, which is created
with the size of the FRAM. The functions it implements leave the same bytes as the ones for the hardware,
and close the file they open, in calls that satisfy `CallFits` (`virtual_fram_served_iff`).
-/

namespace Obsw
namespace VirtualFram

open Memory LittleEndian Device Loop Handles

/-! ## The file system -/

/-- What the file system answers during one call. -/
structure FsAnswers where
  /-- `change_directory` to the directory of the file -/
  changeDirectory : Int
  /-- `f_getlasterror` behind `f_open` -/
  openError : Int
  seek : Int
  /-- the most bytes `f_read` or `f_write` moves -/
  moved : Nat
  /-- `change_directory` back to the root -/
  changeToRoot : Int
  close : Int
  /-- what is in place of the bytes written in a file that is not closed, or not without error -/
  left : List UInt8

/-- What a function leaves: its return value, the file, the bytes at the caller's pointer, and the calls
    with which it opened and closed the file. -/
structure Outcome where
  retval : Int
  file : Mem UInt8
  out : List UInt8
  fileCalls : List (Call Unit)

/-- `open_fram_file`. A file whose position cannot be set stays open. -/
def openFramFile (fs : FsAnswers) (seekPos : Nat) : Int × List (Call Unit) :=
  if fs.changeDirectory ≠ 0 then (fs.changeDirectory, [])
  else if fs.openError ≠ 0 then (fs.openError, [])
  else if 0 < seekPos ∧ fs.seek ≠ 0 then (fs.seek, [.opened ()])
  else (0, [.opened ()])

/-- `close_fram_file`: the file is closed once the directory is changed. -/
def closeFramFile (fs : FsAnswers) : Int × List (Call Unit) :=
  if fs.changeToRoot ≠ 0 then (fs.changeToRoot, [])
  else (fs.close, [.closed (.handle ())])

/-- The file behind an `f_write`. The bytes are stored when the file is closed. -/
def writtenFile (fs : FsAnswers) (file : Mem UInt8) (pos : Nat) (written : List UInt8) : Mem UInt8 :=
  if (closeFramFile fs).1 = 0 then store file pos written
  else store file pos (fs.left.take written.length)

/-! ## `VirtualFRAMApi.c` -/

/-- `fram_read_critical_block`. -/
def framReadCriticalBlock (fs : FsAnswers) (file : Mem UInt8) (maxSize : Nat) : Outcome :=
  if maxSize < Fram.criticalDataBlockSize then ⟨-3, file, [], []⟩
  else
    let opened := openFramFile fs 0
    if opened.1 ≠ 0 then ⟨opened.1, file, [], opened.2⟩
    else
      let buffer := load file 0 (min Fram.criticalDataBlockSize fs.moved)
      let closed := closeFramFile fs
      if buffer.length ≠ Fram.criticalDataBlockSize then ⟨-1, file, buffer, opened.2 ++ closed.2⟩
      else ⟨closed.1, file, buffer, opened.2 ++ closed.2⟩

/-- `fram_set_ham_check_flag` writes one byte, and does not close the file if that fails. -/
def framSetHamCheckFlag (fs : FsAnswers) (file : Mem UInt8) : Outcome :=
  let opened := openFramFile fs Fram.globalHammingFlag.addr
  if opened.1 ≠ 0 then ⟨opened.1, file, [], opened.2⟩
  else
    let written := [1].take fs.moved
    if written.length ≠ 1 then ⟨-1, file, [], opened.2⟩
    else
      let closed := closeFramFile fs
      ⟨closed.1, writtenFile fs file Fram.globalHammingFlag.addr written, [], opened.2 ++ closed.2⟩

/-- `fram_write_software_version`. -/
def framWriteSoftwareVersion (fs : FsAnswers) (file : Mem UInt8)
    (version subversion subsubversion : UInt8) : Outcome :=
  let opened := openFramFile fs Fram.softwareVersion.addr
  if opened.1 ≠ 0 then ⟨opened.1, file, [], opened.2⟩
  else
    let written := [version, subversion, subsubversion].take fs.moved
    let file := writtenFile fs file Fram.softwareVersion.addr written
    let closed := closeFramFile fs
    if written.length ≠ 3 then ⟨-1, file, [], opened.2 ++ closed.2⟩
    else ⟨closed.1, file, [], opened.2 ++ closed.2⟩

/-- `fram_read_software_version`, with three pointers that may be null. -/
def framReadSoftwareVersion (fs : FsAnswers) (file : Mem UInt8)
    (version subversion subsubversion : Bool) : Outcome :=
  if version = false ∨ subversion = false ∨ subsubversion = false then ⟨-3, file, [], []⟩
  else
    let opened := openFramFile fs Fram.softwareVersion.addr
    if opened.1 ≠ 0 then ⟨opened.1, file, [], opened.2⟩
    else
      let readBuffer := load file Fram.softwareVersion.addr (min 3 fs.moved)
      let closed := closeFramFile fs
      if readBuffer.length ≠ 3 then ⟨-1, file, [], opened.2 ++ closed.2⟩
      else ⟨closed.1, file, readBuffer, opened.2 ++ closed.2⟩

/-- `fram_update_seconds_since_epoch`. The result of closing the file is dropped. -/
def framUpdateSecondsSinceEpoch (fs : FsAnswers) (file : Mem UInt8) (seconds : UInt32) : Outcome :=
  let opened := openFramFile fs Fram.secondsSinceEpoch.addr
  if opened.1 ≠ 0 then ⟨opened.1, file, [], opened.2⟩
  else
    let written := (toLE 4 seconds.toNat).take fs.moved
    let file := writtenFile fs file Fram.secondsSinceEpoch.addr written
    let closed := closeFramFile fs
    ⟨if written.length ≠ 4 then -1 else opened.1, file, [], opened.2 ++ closed.2⟩

/-- `fram_read_seconds_since_epoch`. -/
def framReadSecondsSinceEpoch (fs : FsAnswers) (file : Mem UInt8) (pointer : Bool) : Outcome :=
  if pointer = false then ⟨-3, file, [], []⟩
  else
    let opened := openFramFile fs Fram.secondsSinceEpoch.addr
    if opened.1 ≠ 0 then ⟨opened.1, file, [], opened.2⟩
    else
      let read := load file Fram.secondsSinceEpoch.addr (min 4 fs.moved)
      let closed := closeFramFile fs
      ⟨if read.length ≠ 4 then -1 else opened.1, file, read, opened.2 ++ closed.2⟩

/-! ## Runs -/

/-- The calls the file implements. -/
inductive ApiCall where
  | readCriticalBlock (maxSize : Nat)
  | setHamCheckFlag
  | writeSoftwareVersion (version subversion subsubversion : UInt8)
  | readSoftwareVersion (version subversion subsubversion : Bool)
  | updateSecondsSinceEpoch (seconds : UInt32)
  | readSecondsSinceEpoch (pointer : Bool)
  deriving DecidableEq

namespace ApiCall

def run (c : ApiCall) (fs : FsAnswers) (file : Mem UInt8) : Outcome :=
  match c with
  | readCriticalBlock maxSize => framReadCriticalBlock fs file maxSize
  | setHamCheckFlag => framSetHamCheckFlag fs file
  | writeSoftwareVersion v s t => framWriteSoftwareVersion fs file v s t
  | readSoftwareVersion v s t => framReadSoftwareVersion fs file v s t
  | updateSecondsSinceEpoch seconds => framUpdateSecondsSinceEpoch fs file seconds
  | readSecondsSinceEpoch pointer => framReadSecondsSinceEpoch fs file pointer

/-- What the function for the hardware leaves in the FRAM. -/
def hardware (c : ApiCall) (fram : Mem UInt8) : Mem UInt8 :=
  match c with
  | setHamCheckFlag => (Fram.framSetHamCheckFlag .done fram).2
  | writeSoftwareVersion v s t => (Fram.framWriteSoftwareVersion .done fram v s t).2
  | updateSecondsSinceEpoch seconds => (Fram.framUpdateSecondsSinceEpoch .done fram seconds.toNat).2
  | readCriticalBlock _ => fram
  | readSoftwareVersion _ _ _ => fram
  | readSecondsSinceEpoch _ => fram

/-- The bytes a call may write. -/
def fields : ApiCall → List Field
  | setHamCheckFlag => [Fram.globalHammingFlag]
  | writeSoftwareVersion _ _ _ => [⟨Fram.softwareVersion.addr, 3⟩]
  | updateSecondsSinceEpoch _ => [Fram.secondsSinceEpoch]
  | readCriticalBlock _ => []
  | readSoftwareVersion _ _ _ => []
  | readSecondsSinceEpoch _ => []

/-- The arguments pass the checks in front of the file system. -/
def Accepted : ApiCall → Prop
  | readCriticalBlock maxSize => Fram.criticalDataBlockSize ≤ maxSize
  | readSoftwareVersion v s t => v = true ∧ s = true ∧ t = true
  | readSecondsSinceEpoch pointer => pointer = true
  | setHamCheckFlag => True
  | writeSoftwareVersion _ _ _ => True
  | updateSecondsSinceEpoch _ => True

/-- The position of the field in the file. -/
def seekPos : ApiCall → Nat
  | readCriticalBlock _ => 0
  | setHamCheckFlag => Fram.globalHammingFlag.addr
  | writeSoftwareVersion _ _ _ => Fram.softwareVersion.addr
  | readSoftwareVersion _ _ _ => Fram.softwareVersion.addr
  | updateSecondsSinceEpoch _ => Fram.secondsSinceEpoch.addr
  | readSecondsSinceEpoch _ => Fram.secondsSinceEpoch.addr

end ApiCall

/-- A call, and what the file system answers. -/
structure Event where
  call : ApiCall
  fs : FsAnswers

/-- The file behind a call. -/
def step (e : Event) (file : Mem UInt8) : Mem UInt8 := (e.call.run e.fs file).file

/-! ## What is promised -/

/-- A call that succeeds leaves the bytes the hardware would hold; no call changes other bytes, or leaves
    the file open. -/
structure CallServed (e : Event) (file : Mem UInt8) : Prop where
  same : (e.call.run e.fs file).retval = 0 → step e file = e.call.hardware file
  frame : KeepsOutside e.call.fields file (step e file)
  closed : Disciplined (e.call.run e.fs file).fileCalls

/-- Once the file is open, what is left to do with it succeeds; the second byte of the flag is zero if
    the flag is set; and where `f_close` fails behind the seconds, they are in the file all the same. -/
structure OpenFits (e : Event) (file : Mem UInt8) : Prop where
  seek : 0 < e.call.seekPos → e.fs.seek = 0
  root : e.fs.changeToRoot = 0
  flag : e.call = .setHamCheckFlag →
    e.fs.moved ≠ 0 ∧ (e.fs.close = 0 → file (Fram.globalHammingFlag.addr + 1) = 0)
  seconds : ∀ seconds, e.call = .updateSecondsSinceEpoch seconds →
    4 ≤ e.fs.moved → e.fs.close ≠ 0 →
      load (store file Fram.secondsSinceEpoch.addr (e.fs.left.take 4)) Fram.secondsSinceEpoch.addr 4 =
        toLE 4 seconds.toNat

/-- The file is not opened, or the rest succeeds. -/
def CallFits (e : Event) (file : Mem UInt8) : Prop :=
  e.call.Accepted → e.fs.changeDirectory = 0 → e.fs.openError = 0 → OpenFits e file

/-! ## One call -/

section

variable {c : ApiCall} {fs : FsAnswers} {file : Mem UInt8}

/-- The file is not opened, or its position cannot be set, or it is open at the position. -/
theorem openFramFile_cases (fs : FsAnswers) (pos : Nat) :
    (¬ (fs.changeDirectory = 0 ∧ fs.openError = 0) ∧
        ∃ code, code ≠ 0 ∧ openFramFile fs pos = (code, [])) ∨
      ((fs.changeDirectory = 0 ∧ fs.openError = 0) ∧ (0 < pos ∧ fs.seek ≠ 0) ∧
        openFramFile fs pos = (fs.seek, [.opened ()])) ∨
      ((fs.changeDirectory = 0 ∧ fs.openError = 0) ∧ (0 < pos → fs.seek = 0) ∧
        openFramFile fs pos = (0, [.opened ()])) := by
  unfold openFramFile
  split_ifs with hdir hopen hseek
  · exact Or.inl ⟨fun h => hdir h.1, _, hdir, rfl⟩
  · exact Or.inl ⟨fun h => hopen h.2, _, hopen, rfl⟩
  · exact Or.inr (Or.inl ⟨⟨not_not.mp hdir, not_not.mp hopen⟩, hseek, rfl⟩)
  · refine Or.inr (Or.inr ⟨⟨not_not.mp hdir, not_not.mp hopen⟩, fun hpos => ?_, rfl⟩)
    by_contra hne
    exact hseek ⟨hpos, hne⟩

/-- An open file is closed exactly if the directory can be changed. -/
theorem closeFramFile_disciplined :
    Disciplined ([.opened ()] ++ (closeFramFile fs).2) ↔ fs.changeToRoot = 0 := by
  unfold closeFramFile
  split
  · rename_i hroot
    exact iff_of_false (show ¬ Disciplined ([.opened ()] : List (Call Unit)) by decide) hroot
  · rename_i hroot
    exact iff_of_true (disciplined_open_close ()) (not_not.mp hroot)

theorem closeFramFile_retval (hroot : fs.changeToRoot = 0) : (closeFramFile fs).1 = fs.close := by
  rw [closeFramFile, if_neg (not_not.mpr hroot)]

theorem run_refused (h : ¬ c.Accepted) : c.run fs file = ⟨-3, file, [], []⟩ := by
  cases c with
  | readCriticalBlock maxSize => exact if_pos (Nat.lt_of_not_le h)
  | readSoftwareVersion v s t =>
      apply if_pos
      by_contra hgiven
      simp only [not_or, Bool.not_eq_false] at hgiven
      exact h hgiven
  | readSecondsSinceEpoch pointer => exact if_pos (Bool.eq_false_of_not_eq_true h)
  | setHamCheckFlag => exact absurd trivial h
  | writeSoftwareVersion v s t => exact absurd trivial h
  | updateSecondsSinceEpoch seconds => exact absurd trivial h

/-- A file that could not be opened is left alone. -/
theorem run_not_opened (file : Mem UInt8) (haccepted : c.Accepted) (h : (openFramFile fs c.seekPos).1 ≠ 0) :
    c.run fs file =
      ⟨(openFramFile fs c.seekPos).1, file, [], (openFramFile fs c.seekPos).2⟩ := by
  cases c with
  | readCriticalBlock maxSize => exact (if_neg (Nat.not_lt.mpr haccepted)).trans (if_pos h)
  | readSoftwareVersion v s t =>
      obtain ⟨rfl, rfl, rfl⟩ := haccepted
      exact if_pos h
  | readSecondsSinceEpoch pointer =>
      obtain rfl : pointer = true := haccepted
      exact if_pos h
  | setHamCheckFlag => exact if_pos h
  | writeSoftwareVersion v s t => exact if_pos h
  | updateSecondsSinceEpoch seconds => exact if_pos h

/-- What a call does with the open file: it is served if the file is closed. -/
structure Finished (c : ApiCall) (fs : FsAnswers) (file : Mem UInt8) : Prop where
  same : (c.run fs file).retval = 0 → (c.run fs file).file = c.hardware file
  frame : KeepsOutside c.fields file (c.run fs file).file
  fileCalls : (c.run fs file).fileCalls = [.opened ()] ++ (closeFramFile fs).2

/-- A write that is cut short or not stored changes no more than its field. -/
theorem keepsOutside_written {f : Field} {bs : List UInt8} (moved : Nat) (hlen : bs.length = f.size) :
    KeepsOutside [f] file (writtenFile fs file f.addr (bs.take moved)) := by
  unfold writtenFile
  split_ifs
  · refine KeepsOutside.of_apply (o := .done) (g := fun _ new => new) ?_
    rw [List.length_take]
    omega
  · refine KeepsOutside.of_apply (o := .done) (g := fun _ new => new) ?_
    rw [List.length_take, List.length_take]
    omega

/-- As many bytes as were asked for are all of them. -/
theorem take_of_length {bs : List UInt8} {moved n : Nat} (hlen : bs.length = n)
    (h : (bs.take moved).length = n) : bs.take moved = bs := by
  rw [List.length_take] at h
  exact List.take_of_length_le (by omega)

theorem finished_of_eq {r : Int} {file' : Mem UInt8} {out : List UInt8}
    (hrun : c.run fs file = ⟨r, file', out, [.opened ()] ++ (closeFramFile fs).2⟩)
    (hsame : r = 0 → file' = c.hardware file) (hframe : KeepsOutside c.fields file file') :
    Finished c fs file := by
  constructor
  · rw [hrun]
    exact hsame
  · rw [hrun]
    exact hframe
  · rw [hrun]

theorem finished_of_opened (haccepted : c.Accepted) (hflag : c ≠ .setHamCheckFlag)
    (hseconds : ∀ seconds, c ≠ .updateSecondsSinceEpoch seconds)
    (h : openFramFile fs c.seekPos = (0, [.opened ()])) : Finished c fs file := by
  cases c with
  | setHamCheckFlag => exact absurd rfl hflag
  | readCriticalBlock maxSize =>
      have hopened : openFramFile fs 0 = (0, [.opened ()]) := h
      have hrun : (ApiCall.readCriticalBlock maxSize).run fs file =
        framReadCriticalBlock fs file maxSize := rfl
      unfold framReadCriticalBlock at hrun
      rw [if_neg (Nat.not_lt.mpr haccepted), hopened] at hrun
      dsimp only at hrun
      rw [if_neg (not_not.mpr rfl)] at hrun
      split at hrun
      · exact finished_of_eq hrun (fun _ => rfl) (KeepsOutside.refl _ _)
      · exact finished_of_eq hrun (fun _ => rfl) (KeepsOutside.refl _ _)
  | readSoftwareVersion v s t =>
      obtain ⟨rfl, rfl, rfl⟩ := haccepted
      have hopened : openFramFile fs Fram.softwareVersion.addr = (0, [.opened ()]) := h
      have hrun : (ApiCall.readSoftwareVersion true true true).run fs file =
        framReadSoftwareVersion fs file true true true := rfl
      unfold framReadSoftwareVersion at hrun
      rw [if_neg (show ¬ (true = false ∨ true = false ∨ true = false) by decide), hopened] at hrun
      dsimp only at hrun
      rw [if_neg (not_not.mpr rfl)] at hrun
      split at hrun
      · exact finished_of_eq hrun (fun _ => rfl) (KeepsOutside.refl _ _)
      · exact finished_of_eq hrun (fun _ => rfl) (KeepsOutside.refl _ _)
  | readSecondsSinceEpoch pointer =>
      obtain rfl : pointer = true := haccepted
      have hopened : openFramFile fs Fram.secondsSinceEpoch.addr = (0, [.opened ()]) := h
      have hrun : (ApiCall.readSecondsSinceEpoch true).run fs file =
        framReadSecondsSinceEpoch fs file true := rfl
      unfold framReadSecondsSinceEpoch at hrun
      rw [if_neg (show ¬ true = false by decide), hopened] at hrun
      dsimp only at hrun
      rw [if_neg (not_not.mpr rfl)] at hrun
      exact finished_of_eq hrun (fun _ => rfl) (KeepsOutside.refl _ _)
  | writeSoftwareVersion v s t =>
      have hopened : openFramFile fs Fram.softwareVersion.addr = (0, [.opened ()]) := h
      have hrun : (ApiCall.writeSoftwareVersion v s t).run fs file = framWriteSoftwareVersion fs file v s t := rfl
      have hframe : KeepsOutside [⟨Fram.softwareVersion.addr, 3⟩] file
          (writtenFile fs file Fram.softwareVersion.addr ([v, s, t].take fs.moved)) :=
        keepsOutside_written _ rfl
      unfold framWriteSoftwareVersion at hrun
      rw [hopened] at hrun
      dsimp only at hrun
      rw [if_neg (not_not.mpr rfl)] at hrun
      split at hrun
      · exact finished_of_eq hrun (fun h => absurd h (by decide)) hframe
      · rename_i hlen
        refine finished_of_eq hrun (fun hzero => ?_) hframe
        rw [take_of_length rfl (not_not.mp hlen), writtenFile, if_pos hzero]
        rfl
  | updateSecondsSinceEpoch seconds => exact absurd rfl (hseconds seconds)

/-- The flag has a second byte, which the file keeps. -/
theorem store_flag_iff :
    store file Fram.globalHammingFlag.addr [1] = (Fram.framSetHamCheckFlag .done file).2 ↔
      file (Fram.globalHammingFlag.addr + 1) = 0 := by
  have hhardware : (Fram.framSetHamCheckFlag .done file).2 = store file Fram.globalHammingFlag.addr [1, 0] :=
    rfl
  rw [hhardware]
  have hbyte : store file Fram.globalHammingFlag.addr [1, 0] (Fram.globalHammingFlag.addr + 1) = 0 :=
    store_at (show 1 < [(1 : UInt8), 0].length by decide)
  have hkept : store file Fram.globalHammingFlag.addr [1] (Fram.globalHammingFlag.addr + 1) =
      file (Fram.globalHammingFlag.addr + 1) := store_frame (Or.inr (Nat.le_refl _))
  constructor
  · intro h
    rw [← hkept, h, hbyte]
  · intro h
    funext i
    rcases Nat.lt_trichotomy i Fram.globalHammingFlag.addr with hlow | rfl | hhigh
    · rw [store_frame (Or.inl hlow), store_frame (Or.inl hlow)]
    · exact (store_at (i := 0) (show 0 < [(1 : UInt8)].length by decide)).trans
        (store_at (i := 0) (show 0 < [(1 : UInt8), 0].length by decide)).symm
    · rcases Nat.eq_or_lt_of_le hhigh with rfl | hbeyond
      · exact hkept.trans (h.trans hbyte.symm)
      · rw [store_frame (Or.inr hhigh), store_frame (Or.inr hbeyond)]

theorem keepsOutside_flag :
    KeepsOutside [Fram.globalHammingFlag] file (writtenFile fs file Fram.globalHammingFlag.addr [1]) := by
  unfold writtenFile
  split_ifs
  · exact KeepsOutside.of_apply (o := .done) (g := fun _ new => new) (show 1 ≤ 2 by decide)
  · refine KeepsOutside.of_apply (o := .done) (g := fun _ new => new) ?_
    rw [List.length_take]
    exact (Nat.min_le_left _ _).trans (show 1 ≤ 2 by decide)

/-- Setting the flag, once the file is open. -/
theorem setHamCheckFlag_served (h : openFramFile fs Fram.globalHammingFlag.addr = (0, [.opened ()])) :
    CallServed ⟨.setHamCheckFlag, fs⟩ file ↔
      fs.changeToRoot = 0 ∧ fs.moved ≠ 0 ∧
        (fs.close = 0 → file (Fram.globalHammingFlag.addr + 1) = 0) := by
  have hrun : ApiCall.setHamCheckFlag.run fs file = framSetHamCheckFlag fs file := rfl
  unfold framSetHamCheckFlag at hrun
  rw [h] at hrun
  dsimp only at hrun
  rw [if_neg (not_not.mpr rfl)] at hrun
  cases hmoved : fs.moved with
  | zero =>
      rw [hmoved] at hrun
      refine iff_of_false (fun hserved => ?_) fun hfits => hfits.2.1 rfl
      have hclosed : Disciplined (ApiCall.setHamCheckFlag.run fs file).fileCalls := hserved.closed
      rw [hrun] at hclosed
      exact absurd hclosed (show ¬ Disciplined ([.opened ()] : List (Call Unit)) by decide)
  | succ n =>
      have htake : ([1] : List UInt8).take fs.moved = [1] :=
        List.take_of_length_le (by rw [hmoved]; exact Nat.le_add_left 1 n)
      rw [htake, if_neg (show ¬ [(1 : UInt8)].length ≠ 1 by decide)] at hrun
      constructor
      · intro hserved
        have hclosed : Disciplined (ApiCall.setHamCheckFlag.run fs file).fileCalls := hserved.closed
        rw [hrun] at hclosed
        have hroot := closeFramFile_disciplined.mp hclosed
        refine ⟨hroot, Nat.succ_ne_zero n, fun hclose => store_flag_iff.mp ?_⟩
        have hsame : (ApiCall.setHamCheckFlag.run fs file).retval = 0 →
          (ApiCall.setHamCheckFlag.run fs file).file = (Fram.framSetHamCheckFlag .done file).2 := hserved.same
        rw [hrun] at hsame
        have hclosed₀ : (closeFramFile fs).1 = 0 := (closeFramFile_retval hroot).trans hclose
        rw [← hsame hclosed₀]
        exact (if_pos hclosed₀).symm
      · rintro ⟨hroot, -, hflag⟩
        refine ⟨?_, ?_, ?_⟩
        · intro hzero
          show (ApiCall.setHamCheckFlag.run fs file).file = _
          have hclose : (ApiCall.setHamCheckFlag.run fs file).retval = 0 := hzero
          rw [hrun] at hclose ⊢
          exact (if_pos hclose).trans
            (store_flag_iff.mpr (hflag ((closeFramFile_retval hroot).symm.trans hclose)))
        · show KeepsOutside _ file (ApiCall.setHamCheckFlag.run fs file).file
          rw [hrun]
          exact keepsOutside_flag
        · show Disciplined (ApiCall.setHamCheckFlag.run fs file).fileCalls
          rw [hrun]
          exact closeFramFile_disciplined.mpr hroot

/-- Two writes to a place leave the same memory if they leave the same bytes there. -/
theorem store_eq_store_iff {a n : Nat} {bs data : List UInt8} (hbs : bs.length ≤ n) (hdata : data.length = n) :
    store file a bs = store file a data ↔ load (store file a bs) a n = data := by
  constructor
  · intro h
    rw [h, ← hdata]
    exact load_store_same file a data
  · intro h
    funext i
    by_cases hi : a ≤ i ∧ i < a + n
    · obtain ⟨k, rfl⟩ := Nat.exists_eq_add_of_le hi.1
      have hk : k < data.length := by omega
      have hcell := List.getElem_of_eq h.symm hk
      rw [load_getElem] at hcell
      rw [store_at hk, hcell]
    · rw [store_frame (by omega), store_frame (by omega)]

/-- Updating the seconds, once the file is open: the result of closing it is dropped. -/
theorem updateSeconds_served {seconds : UInt32}
    (h : openFramFile fs Fram.secondsSinceEpoch.addr = (0, [.opened ()])) :
    CallServed ⟨.updateSecondsSinceEpoch seconds, fs⟩ file ↔
      fs.changeToRoot = 0 ∧ (4 ≤ fs.moved → fs.close ≠ 0 →
        load (store file Fram.secondsSinceEpoch.addr (fs.left.take 4)) Fram.secondsSinceEpoch.addr 4 =
          toLE 4 seconds.toNat) := by
  have hrun : (ApiCall.updateSecondsSinceEpoch seconds).run fs file =
    framUpdateSecondsSinceEpoch fs file seconds := rfl
  unfold framUpdateSecondsSinceEpoch at hrun
  rw [h] at hrun
  dsimp only at hrun
  rw [if_neg (not_not.mpr rfl)] at hrun
  have hlen : (toLE 4 seconds.toNat).length = 4 := toLE_length 4 _
  have hshort : (fs.left.take 4).length ≤ 4 := by
    rw [List.length_take]
    omega
  have hhardware : (ApiCall.updateSecondsSinceEpoch seconds).hardware file =
    store file Fram.secondsSinceEpoch.addr (toLE 4 seconds.toNat) := rfl
  -- the file behind a write that took all four bytes
  have hwritten : 4 ≤ fs.moved → fs.changeToRoot = 0 →
      writtenFile fs file Fram.secondsSinceEpoch.addr ((toLE 4 seconds.toNat).take fs.moved) =
        if fs.close = 0 then store file Fram.secondsSinceEpoch.addr (toLE 4 seconds.toNat)
        else store file Fram.secondsSinceEpoch.addr (fs.left.take 4) := by
    intro hmoved hroot
    rw [List.take_of_length_le (by omega), writtenFile, closeFramFile_retval hroot, hlen]
  constructor
  · intro hserved
    have hclosed : Disciplined ((ApiCall.updateSecondsSinceEpoch seconds).run fs file).fileCalls :=
      hserved.closed
    rw [hrun] at hclosed
    have hroot := closeFramFile_disciplined.mp hclosed
    refine ⟨hroot, fun hmoved hclose => (store_eq_store_iff hshort hlen).mp ?_⟩
    have hsame : ((ApiCall.updateSecondsSinceEpoch seconds).run fs file).retval = 0 →
      ((ApiCall.updateSecondsSinceEpoch seconds).run fs file).file =
        (ApiCall.updateSecondsSinceEpoch seconds).hardware file := hserved.same
    rw [hrun, hhardware, hwritten hmoved hroot, if_neg hclose] at hsame
    refine hsame (if_neg (not_not.mpr ?_))
    rw [List.length_take, hlen]
    omega
  · rintro ⟨hroot, hstored⟩
    refine ⟨fun hzero => ?_, ?_, ?_⟩
    · show ((ApiCall.updateSecondsSinceEpoch seconds).run fs file).file =
        (ApiCall.updateSecondsSinceEpoch seconds).hardware file
      have hresult : ((ApiCall.updateSecondsSinceEpoch seconds).run fs file).retval = 0 := hzero
      rw [hrun] at hresult ⊢
      dsimp only at hresult ⊢
      split at hresult
      · exact absurd hresult (by decide)
      · rename_i hall
        have hmoved : 4 ≤ fs.moved := by
          rw [not_not, List.length_take, hlen] at hall
          omega
        rw [hhardware, hwritten hmoved hroot]
        split_ifs with hclose
        · rfl
        · exact (store_eq_store_iff hshort hlen).mpr (hstored hmoved hclose)
    · show KeepsOutside _ file ((ApiCall.updateSecondsSinceEpoch seconds).run fs file).file
      rw [hrun]
      exact keepsOutside_written (f := Fram.secondsSinceEpoch) fs.moved hlen
    · show Disciplined ((ApiCall.updateSecondsSinceEpoch seconds).run fs file).fileCalls
      rw [hrun]
      exact closeFramFile_disciplined.mpr hroot

/-- A call that fails before it writes is served if it leaves no file open. -/
theorem served_of_failed {code : Int} {fileCalls : List (Call Unit)} (hcode : code ≠ 0)
    (hrun : c.run fs file = ⟨code, file, [], fileCalls⟩) :
    CallServed ⟨c, fs⟩ file ↔ Disciplined fileCalls := by
  constructor
  · intro hserved
    have hclosed : Disciplined (c.run fs file).fileCalls := hserved.closed
    rwa [hrun] at hclosed
  · intro hclosed
    refine ⟨?_, ?_, ?_⟩
    · intro hzero
      have hzero' : (c.run fs file).retval = 0 := hzero
      rw [hrun] at hzero'
      exact absurd hzero' hcode
    · show KeepsOutside _ file (c.run fs file).file
      rw [hrun]
      exact KeepsOutside.refl _ _
    · show Disciplined (c.run fs file).fileCalls
      rwa [hrun]

theorem served_of_finished (h : Finished c fs file) :
    CallServed ⟨c, fs⟩ file ↔ fs.changeToRoot = 0 := by
  constructor
  · intro hserved
    have hclosed : Disciplined (c.run fs file).fileCalls := hserved.closed
    rw [h.fileCalls] at hclosed
    exact closeFramFile_disciplined.mp hclosed
  · intro hroot
    refine ⟨h.same, h.frame, ?_⟩
    show Disciplined (c.run fs file).fileCalls
    rw [h.fileCalls]
    exact closeFramFile_disciplined.mpr hroot

/-- **One call.** -/
theorem callServed_iff (e : Event) (file : Mem UInt8) : CallServed e file ↔ CallFits e file := by
  obtain ⟨c, fs⟩ := e
  by_cases haccepted : c.Accepted
  · rcases openFramFile_cases fs c.seekPos with ⟨hnot, code, hcode, hopen⟩ | ⟨hopens, hseek, hopen⟩ |
      ⟨hopens, hseek, hopen⟩
    · -- the file is not opened
      have hrun := run_not_opened file haccepted (by rw [hopen]; exact hcode)
      rw [hopen] at hrun
      refine iff_of_true ((served_of_failed hcode hrun).mpr disciplined_nil) fun _ hdir herror => ?_
      exact absurd ⟨hdir, herror⟩ hnot
    · -- it stays open where it could not be positioned
      have hrun := run_not_opened file haccepted (by rw [hopen]; exact hseek.2)
      rw [hopen] at hrun
      refine iff_of_false (fun hserved => ?_) fun hfits => ?_
      · exact absurd ((served_of_failed hseek.2 hrun).mp hserved)
          (show ¬ Disciplined ([.opened ()] : List (Call Unit)) by decide)
      · exact hseek.2 ((hfits haccepted hopens.1 hopens.2).seek hseek.1)
    · by_cases hflag : c = .setHamCheckFlag
      · subst hflag
        refine (setHamCheckFlag_served hopen).trans ⟨fun h _ _ _ => ?_, fun h => ?_⟩
        · exact ⟨hseek, h.1, fun _ => h.2, fun _ heq => by cases heq⟩
        · have hfits := h haccepted hopens.1 hopens.2
          exact ⟨hfits.root, hfits.flag rfl⟩
      · by_cases hseconds : ∃ seconds, c = .updateSecondsSinceEpoch seconds
        · obtain ⟨seconds, rfl⟩ := hseconds
          refine (updateSeconds_served hopen).trans ⟨fun h _ _ _ => ?_, fun h => ?_⟩
          · refine ⟨hseek, h.1, fun heq => absurd heq hflag, fun other heq => ?_⟩
            obtain rfl := ApiCall.updateSecondsSinceEpoch.inj heq
            exact h.2
          · have hfits := h haccepted hopens.1 hopens.2
            exact ⟨hfits.root, hfits.seconds seconds rfl⟩
        · refine (served_of_finished (finished_of_opened haccepted hflag
            (fun seconds heq => hseconds ⟨seconds, heq⟩) hopen)).trans ⟨fun h _ _ _ => ?_, fun h => ?_⟩
          · exact ⟨hseek, h, fun heq => absurd heq hflag, fun seconds heq => absurd ⟨seconds, heq⟩ hseconds⟩
          · exact (h haccepted hopens.1 hopens.2).root
  · refine iff_of_true ?_ fun h => absurd h haccepted
    exact (served_of_failed (by decide) (run_refused haccepted)).mpr disciplined_nil

end

/-- **The FRAM as a file.** Along every run the calls leave what the hardware would hold and close what
    they open exactly if each of them finds the file system, and the flag, as it needs them. -/
theorem virtual_fram_served_iff (events : List Event) (file : Mem UInt8) :
    AlongRun CallServed step events file ↔ AlongRun CallFits step events file :=
  alongRun_congr callServed_iff events file

/-- **Refinement.** A run of calls that succeed leaves what the hardware would hold behind the same
    calls. -/
theorem run_eq_hardware (events : List Event) (file : Mem UInt8)
    (hserved : AlongRun CallServed step events file)
    (hok : AlongRun (fun e file => (e.call.run e.fs file).retval = 0) step events file) :
    run step events file = run (fun e => e.call.hardware) events file := by
  induction events generalizing file with
  | nil => rfl
  | cons e events ih =>
      have hstep := hserved.1.same hok.1
      rw [run_cons, run_cons, ih _ hserved.2 hok.2, hstep]

/-- The bytes a call hands out. -/
def ApiCall.source : ApiCall → Field
  | readCriticalBlock _ => ⟨0, Fram.criticalDataBlockSize⟩
  | readSoftwareVersion _ _ _ => ⟨Fram.softwareVersion.addr, 3⟩
  | readSecondsSinceEpoch _ => Fram.secondsSinceEpoch
  | setHamCheckFlag => ⟨0, 0⟩
  | writeSoftwareVersion _ _ _ => ⟨0, 0⟩
  | updateSecondsSinceEpoch _ => ⟨0, 0⟩

theorem load_min_of_length {file : Mem UInt8} {a n moved : Nat}
    (h : ¬ (load file a (min n moved)).length ≠ n) : load file a (min n moved) = load file a n := by
  have hmin : min n moved = n := by rwa [not_not, load_length] at h
  rw [hmin]

/-- A call that succeeds hands out the bytes of its field. -/
theorem out_of_ok (c : ApiCall) (fs : FsAnswers) (file : Mem UInt8) (h : (c.run fs file).retval = 0) :
    (c.run fs file).out = load file c.source.addr c.source.size := by
  cases c with
  | readCriticalBlock maxSize =>
      unfold ApiCall.run framReadCriticalBlock at h ⊢
      dsimp only at h ⊢
      split_ifs at h ⊢ with hsize hopened hlen
      · cases h
      · exact absurd h hopened
      · cases h
      · exact load_min_of_length hlen
  | readSoftwareVersion v s t =>
      unfold ApiCall.run framReadSoftwareVersion at h ⊢
      dsimp only at h ⊢
      split_ifs at h ⊢ with hgiven hopened hlen
      · cases h
      · exact absurd h hopened
      · cases h
      · exact load_min_of_length hlen
  | readSecondsSinceEpoch pointer =>
      unfold ApiCall.run framReadSecondsSinceEpoch at h ⊢
      dsimp only at h ⊢
      split_ifs at h ⊢ with hgiven hopened hlen
      · cases h
      · exact absurd h hopened
      · cases h
      · exact load_min_of_length hlen
  | setHamCheckFlag =>
      unfold ApiCall.run framSetHamCheckFlag
      dsimp only
      split_ifs <;> rfl
  | writeSoftwareVersion v s t =>
      unfold ApiCall.run framWriteSoftwareVersion
      dsimp only
      split_ifs <;> rfl
  | updateSecondsSinceEpoch seconds =>
      unfold ApiCall.run framUpdateSecondsSinceEpoch
      dsimp only
      split_ifs <;> rfl

/-- A file system that answers every call. -/
def FsAnswers.ok : FsAnswers := ⟨0, 0, 0, 4, 0, 0, []⟩

/-- The second byte of the flag stays as it was. -/
theorem flag_second_byte_kept :
    ¬ ∀ (events : List Event) (file : Mem UInt8), AlongRun CallServed step events file := by
  intro h
  have hfits := (callServed_iff _ _).mp (h [⟨.setHamCheckFlag, .ok⟩] (fun _ => 0xff)).1
  exact absurd (((hfits trivial rfl rfl).flag rfl).2 rfl) (by decide)

end VirtualFram
end Obsw
