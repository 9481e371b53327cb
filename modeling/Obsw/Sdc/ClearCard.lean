import Obsw.Lib.FileTree
import Obsw.Sdc.Actions
import Obsw.Sdc.Api

/-!
# `Sdc.ClearCard` — clearing a card

`clear_sd_card`, `delete_file_system_object` and `delete_directory_force` of `SDCardApi.c` on the
directory tree of a card. The file system is a library outside the repository; what is used of it is
documented: a search finds the entries of the current directory but for those with the system attribute,
below the root after `.` and `..`; a read-only or open file and a directory that is read-only or not empty
cannot be deleted.

A directory with more than 255 entries, or with one that cannot be deleted or found, makes the deletion of
its parent fail, and so on up to the root. The root itself is not deleted: what its loop does not reach or
skips stays there without an error.
-/

namespace Obsw
namespace Sdc
namespace ClearCard

open FileTree

/-- A card with its current directory. -/
abbrev CardTree := Cursor String

/-! ## The file system -/

def fErrInvaliddir : Int := 3
def fErrNotfound : Int := 5
def fErrLocked : Int := 12

/-- `f_chdir` to an entry of the current directory, which is all that `change_directory` does when it
    does not start from the root. -/
def changeDirectory (name : String) (c : CardTree) : Int × CardTree :=
  match c.enter name with
  | some c => (0, c)
  | none => (fErrInvaliddir, c)

/-- `f_chdir("..")`. -/
def changeToParent (c : CardTree) : CardTree := c.leave.getD c

/-- `f_findfirst` for `*.*` and `f_findnext`: the names they give one after the other. -/
def findNames (c : CardTree) : List String :=
  (if c.up.isEmpty then [] else [".", ".."]) ++ (found c.here).map Prod.fst

/-- `delete_file` without a repository path, that is, `f_delete`. -/
def deleteFile (name : String) (c : CardTree) : Int × CardTree :=
  match c.delete name with
  | some c => (0, c)
  | none => (fErrLocked, c)

/-- `delete_directory` without a repository path, that is, `f_rmdir`. -/
def deleteDirectory (name : String) (c : CardTree) : Int × CardTree :=
  match c.rmdir name with
  | some c => (0, c)
  | none => (Api.fErrNotempty, c)

/-! ## `SDCardApi.c` -/

/-- The loops over what is found: what is not skipped is deleted, and the last error is kept. -/
def deleteFound (skip : String → Bool) (delete : String → CardTree → Option (Int × CardTree)) :
    List String → Int → CardTree → Option (Int × CardTree)
  | [],            status, c => some (status, c)
  | name :: names, status, c =>
    if skip name then deleteFound skip delete names status c
    else
      match delete name c with
      | none => none
      | some (result, c) => deleteFound skip delete names (if result ≠ 0 then result else status) c

/-- `delete_directory_force` without a repository path. It starts behind `.` and `..`, and makes 255
    passes at most. -/
def deleteDirectoryForce (delete : String → CardTree → Option (Int × CardTree)) (dirname : String)
    (c : CardTree) : Option (Int × CardTree) :=
  let removed := deleteDirectory dirname c
  if removed.1 = 0 then some removed
  else
    let changed := changeDirectory dirname c
    if changed.1 ≠ 0 then some changed
    else
      match findNames changed.2 with
      | [] => some (fErrNotfound, changed.2)
      | first :: rest =>
        let names := if first.toList.head? = some '.' then rest.drop 1 else first :: rest
        match deleteFound (fun _ => false) delete (names.take 255) 0 changed.2 with
        | none => none
        | some (status, c) =>
          let removed := deleteDirectory dirname (changeToParent c)
          some (if removed.1 ≠ 0 then removed.1 else status, removed.2)

/-- `delete_file_system_object`. The fuel bounds the depth of the recursion. -/
def deleteFileSystemObject : Nat → String → CardTree → Option (Int × CardTree)
  | 0,        _,    _ => none
  | fuel + 1, name, c =>
    let changed := changeDirectory name c
    if changed.1 = 0 then
      deleteDirectoryForce (deleteFileSystemObject fuel) name (changeToParent changed.2)
    else some (deleteFile name c)

/-- The comparison of the first six characters with `SYSTEM`. -/
def isSystemName (name : String) : Bool := name.toList.take 6 = "SYSTEM".toList

/-- `clear_sd_card`. A first entry that is skipped costs no pass. -/
def clearSdCard (fuel : Nat) (c : CardTree) : Option (Int × CardTree) :=
  match findNames c.top with
  | [] => some (0, c.top)
  | first :: rest =>
    let names := if isSystemName first then rest else first :: rest
    deleteFound isSystemName (deleteFileSystemObject fuel) (names.take 255) 0 c.top

/-! ## What is left -/

mutual

/-- What is left of an entry that is to be deleted. -/
def left : Node String → Option (Node String)
  | .file attr => if attr.locked then some (.file attr) else none
  | .dir attr es =>
    let entries := sweep (fun _ => false) 255 es
    if entries.isEmpty && !attr.locked then none else some (.dir attr entries)

/-- What is left of the entries of a directory behind so many passes. -/
def sweep (skip : String → Bool) : Nat → Entries String → Entries String
  | _,      [] => []
  | passes, (name, node) :: es =>
    if node.attr.system then (name, node) :: sweep skip passes es
    else
      match passes with
      | 0 => (name, node) :: es
      | passes + 1 =>
        if skip name then (name, node) :: sweep skip passes es
        else ((left node).map (name, ·)).toList ++ sweep skip passes es

end

section Sweep

variable {skip : String → Bool} {passes : Nat} {e : String × Node String} {es : Entries String}

@[simp] theorem sweep_nil : sweep skip passes [] = [] := by
  cases passes <;> rw [sweep]

@[simp] theorem sweep_zero : sweep skip 0 es = es := by
  induction es with
  | nil => exact sweep_nil
  | cons e es ih =>
      obtain ⟨name, node⟩ := e
      rw [sweep, ih]
      split_ifs <;> rfl

theorem sweep_cons_system (h : e.2.attr.system = true) :
    sweep skip passes (e :: es) = e :: sweep skip passes es := by
  obtain ⟨name, node⟩ := e
  cases passes with
  | zero => rw [sweep_zero, sweep_zero]
  | succ passes =>
      rw [sweep]
      exact if_pos h

theorem sweep_cons_skip (h : e.2.attr.system = false) (hskip : skip e.1 = true) :
    sweep skip (passes + 1) (e :: es) = e :: sweep skip passes es := by
  obtain ⟨name, node⟩ := e
  rw [sweep, if_neg (by rw [show node.attr.system = false from h]; decide)]
  exact if_pos hskip

theorem sweep_cons (h : e.2.attr.system = false) (hskip : skip e.1 = false) :
    sweep skip (passes + 1) (e :: es) =
      ((left e.2).map (e.1, ·)).toList ++ sweep skip passes es := by
  obtain ⟨name, node⟩ := e
  rw [sweep, if_neg (by rw [show node.attr.system = false from h]; decide)]
  exact if_neg (by rw [show skip name = false from hskip]; decide)

end Sweep

/-- An entry that can be deleted with all that is in it. -/
inductive Removable : Node String → Prop where
  | file {attr : Attr} (unlocked : attr.locked = false) : Removable (.file attr)
  | dir {attr : Attr} {es : Entries String} (unlocked : attr.locked = false)
      (found : ∀ e ∈ es, e.2.attr.system = false) (few : es.length ≤ 255)
      (entries : ∀ e ∈ es, Removable e.2) : Removable (.dir attr es)

/-- The entries a loop gets to. -/
def visited (skip : String → Bool) (passes : Nat) (es : Entries String) : Entries String :=
  ((found es).take passes).filter fun e => !skip e.1

@[simp] theorem visited_nil (skip : String → Bool) (passes : Nat) : visited skip passes [] = [] := by
  simp [visited]

theorem visited_zero (skip : String → Bool) (es : Entries String) : visited skip 0 es = [] := by
  simp [visited]

section Visited

variable {skip : String → Bool} {passes : Nat} {e : String × Node String} {es : Entries String}

theorem visited_cons_system (h : e.2.attr.system = true) :
    visited skip passes (e :: es) = visited skip passes es := by
  simp [visited, found_cons_system h]

theorem visited_cons_skip (h : e.2.attr.system = false) (hskip : skip e.1 = true) :
    visited skip (passes + 1) (e :: es) = visited skip passes es := by
  simp [visited, found_cons h, hskip]

theorem visited_cons (h : e.2.attr.system = false) (hskip : skip e.1 = false) :
    visited skip (passes + 1) (e :: es) = e :: visited skip passes es := by
  simp [visited, found_cons h, hskip]

theorem mem_of_mem_visited (h : e ∈ visited skip passes es) : e ∈ es :=
  List.mem_of_mem_filter (List.mem_of_mem_take (List.mem_of_mem_filter h))

end Visited

/-- Nothing is left exactly if every entry is found and reached, and nothing is left of any. -/
theorem sweep_eq_nil_iff (passes : Nat) (es : Entries String) :
    sweep (fun _ => false) passes es = [] ↔
      (∀ e ∈ es, e.2.attr.system = false) ∧ es.length ≤ passes ∧ ∀ e ∈ es, left e.2 = none := by
  induction es generalizing passes with
  | nil => simp
  | cons e es ih =>
      rw [List.length_cons, List.forall_mem_cons, List.forall_mem_cons]
      by_cases hsystem : e.2.attr.system = true
      · rw [sweep_cons_system hsystem]
        simp [hsystem]
      · rw [Bool.not_eq_true] at hsystem
        cases passes with
        | zero => simp
        | succ passes =>
            rw [sweep_cons hsystem rfl, List.append_eq_nil_iff, ih, Option.toList_eq_nil_iff,
              Option.map_eq_none_iff, Nat.add_le_add_iff_right]
            tauto

/-- **An entry is deleted as a whole exactly if it is removable.** -/
theorem left_eq_none_iff (node : Node String) : left node = none ↔ Removable node := by
  induction node using Node.induct with
  | file attr =>
      rw [left]
      split_ifs with hlocked
      · refine iff_of_false (by simp) fun hno => ?_
        cases hno with
        | file unlocked => exact absurd hlocked (by rw [unlocked]; decide)
      · exact iff_of_true rfl (.file (by simpa using hlocked))
  | dir attr es ih =>
      rw [left]
      have hnil := sweep_eq_nil_iff 255 es
      constructor
      · intro h
        split_ifs at h with hempty
        rw [Bool.and_eq_true, List.isEmpty_iff] at hempty
        obtain ⟨hfound, hfew, hleft⟩ := hnil.mp hempty.1
        exact .dir (by simpa using hempty.2) hfound hfew fun e he => (ih e he).mp (hleft e he)
      · intro h
        cases h with
        | dir unlocked hfound hfew hentries =>
            have hempty := hnil.mpr ⟨hfound, hfew, fun e he => (ih e he).mpr (hentries e he)⟩
            rw [hempty, unlocked]
            rfl

/-! ## The loops -/

/-- What is left of an entry, as an entry. -/
def leftEntry (e : String × Node String) : Entries String := ((left e.2).map (e.1, ·)).toList

theorem leftEntry_names (e : String × Node String) :
    (leftEntry e).map Prod.fst = [] ∨ (leftEntry e).map Prod.fst = [e.1] := by
  unfold leftEntry
  cases left e.2 with
  | none => exact .inl rfl
  | some node => exact .inr rfl

/-- `delete` leaves of an entry what `left` says, and returns 0 exactly if that is nothing. -/
def DeletesEntry (delete : String → CardTree → Option (Int × CardTree)) (up : List (Level String))
    (e : String × Node String) : Prop :=
  ∀ before after : Entries String, e.1 ∉ before.map Prod.fst →
    ∃ r, delete e.1 ⟨before ++ e :: after, up⟩ = some (r, ⟨before ++ leftEntry e ++ after, up⟩) ∧
      (r = 0 ↔ left e.2 = none)

/-- **Loop.** It deletes the entries it gets to, whatever lies before them, and the last error is 0
    exactly if nothing is left of any of them. -/
theorem deleteFound_sweep (skip : String → Bool)
    {delete : String → CardTree → Option (Int × CardTree)} (up : List (Level String))
    {es : Entries String} (hdelete : ∀ e ∈ es, DeletesEntry delete up e) :
    ∀ (passes : Nat) (before : Entries String) (status : Int), Distinct (before ++ es) →
      ∃ r, deleteFound skip delete (((found es).take passes).map Prod.fst) status
          ⟨before ++ es, up⟩ = some (r, ⟨before ++ sweep skip passes es, up⟩) ∧
        (r = 0 ↔ status = 0 ∧ ∀ e ∈ visited skip passes es, left e.2 = none) := by
  induction es with
  | nil =>
      intro passes before status _
      refine ⟨status, ?_, by simp⟩
      rw [found_nil, List.take_nil, sweep_nil]
      rfl
  | cons e es ih =>
      intro passes before status hdistinct
      have ih' := ih fun e' he' => hdelete e' (List.mem_cons_of_mem _ he')
      have hmoved : Distinct (before ++ [e] ++ es) := by simpa using hdistinct
      -- the search passes over what carries the system attribute, without a pass of the loop
      by_cases hsystem : e.2.attr.system = true
      · obtain ⟨r, hrun, hzero⟩ := ih' passes (before ++ [e]) status hmoved
        refine ⟨r, ?_, by rw [visited_cons_system hsystem]; exact hzero⟩
        rw [found_cons_system hsystem, sweep_cons_system hsystem]
        simpa using hrun
      · rw [Bool.not_eq_true] at hsystem
        cases passes with
        | zero =>
            refine ⟨status, ?_, by simp [visited_zero]⟩
            rw [sweep_zero]
            rfl
        | succ passes =>
            rw [found_cons hsystem, List.take_succ_cons, List.map_cons, deleteFound]
            by_cases hskip : skip e.1 = true
            · obtain ⟨r, hrun, hzero⟩ := ih' passes (before ++ [e]) status hmoved
              refine ⟨r, ?_, by rw [visited_cons_skip hsystem hskip]; exact hzero⟩
              rw [if_pos hskip, sweep_cons_skip hsystem hskip]
              simpa using hrun
            · -- `e` is deleted as far as it can be, and what is left of it stands in front of the rest
              have hnot : e.1 ∉ before.map Prod.fst := by
                unfold Distinct at hdistinct
                rw [List.map_append, List.map_cons] at hdistinct
                exact fun hmem => (List.nodup_append.mp hdistinct).2.2 _ hmem _
                  List.mem_cons_self rfl
              obtain ⟨result, hcall, hresult⟩ := hdelete e List.mem_cons_self before es hnot
              have hrest : Distinct (before ++ leftEntry e ++ es) := by
                unfold Distinct at hdistinct ⊢
                rw [List.map_append, List.map_append]
                rw [List.map_append, List.map_cons] at hdistinct
                rcases leftEntry_names e with hnames | hnames
                · rw [hnames, List.append_nil]
                  exact hdistinct.sublist (List.sublist_cons_self _ _ |>.append_left _)
                · rwa [hnames, List.append_assoc, List.singleton_append]
              obtain ⟨r, hrun, hzero⟩ := ih' passes (before ++ leftEntry e)
                (if result ≠ 0 then result else status) hrest
              rw [Bool.not_eq_true] at hskip
              refine ⟨r, ?_, ?_⟩
              · rw [if_neg (by rw [hskip]; decide), hcall]
                dsimp only
                rw [hrun, sweep_cons hsystem hskip, List.append_assoc]
                rfl
              · rw [hzero, visited_cons hsystem hskip, List.forall_mem_cons, ← hresult]
                by_cases hr : result = 0
                · simp [hr]
                · simp [hr]

/-- A directory can be removed if it is empty and unlocked. -/
theorem deleteDirectory_eq {name : String} {attr : Attr} {es before after : Entries String}
    {up : List (Level String)} (h : name ∉ before.map Prod.fst) :
    deleteDirectory name ⟨before ++ (name, .dir attr es) :: after, up⟩ =
      if es.isEmpty && !attr.locked then (0, ⟨before ++ after, up⟩)
      else (Api.fErrNotempty, ⟨before ++ (name, .dir attr es) :: after, up⟩) := by
  unfold deleteDirectory
  cases es with
  | nil =>
      rw [Cursor.rmdir_empty h]
      by_cases hlocked : attr.locked = true
      · rw [hlocked]
        rfl
      · rw [Bool.not_eq_true] at hlocked
        rw [hlocked]
        rfl
  | cons e es =>
      rw [Cursor.rmdir_not_empty h]
      rfl

/-- **An entry.** It is deleted as far as `left` says, and the current directory stays the same. -/
theorem deleteFileSystemObject_left (fuel : Nat) :
    ∀ (e : String × Node String) (up : List (Level String)), e.2.height < fuel → e.2.All Distinct →
      DeletesEntry (deleteFileSystemObject fuel) up e := by
  induction fuel with
  | zero => exact fun e up hlt => absurd hlt (Nat.not_lt_zero _)
  | succ fuel ih =>
      rintro ⟨name, node⟩ up hlt hdistinct before after hname
      rw [deleteFileSystemObject]
      cases node with
      | file attr =>
          have hchdir : changeDirectory name ⟨before ++ (name, .file attr) :: after, up⟩ =
              (fErrInvaliddir, ⟨before ++ (name, .file attr) :: after, up⟩) := by
            unfold changeDirectory
            rw [Cursor.enter_file hname]
          rw [hchdir]
          dsimp only
          rw [if_neg (by decide)]
          unfold deleteFile leftEntry
          rw [Cursor.delete_file hname, left]
          by_cases hlocked : attr.locked = true
          · rw [if_pos hlocked, if_pos hlocked]
            exact ⟨fErrLocked, by simp, iff_of_false (by decide) (by simp)⟩
          · rw [if_neg hlocked, if_neg hlocked]
            exact ⟨0, by simp, iff_of_true rfl rfl⟩
      | dir attr es =>
          have hes : Throughout Distinct es := by
            rwa [Node.All] at hdistinct
          have hchdir : changeDirectory name ⟨before ++ (name, .dir attr es) :: after, up⟩ =
              (0, ⟨es, ⟨before, name, attr, after⟩ :: up⟩) := by
            unfold changeDirectory
            rw [Cursor.enter_dir hname]
          -- the loop runs in the directory, behind the two entries for itself and its parent
          have hheight : height es < fuel + 1 := by
            rwa [Node.height] at hlt
          obtain ⟨status, hloop, hstatus⟩ := deleteFound_sweep (fun _ => false)
            (⟨before, name, attr, after⟩ :: up) (fun e' he' => ih e' _
              (Nat.lt_of_lt_of_le (height_lt_of_mem he') (Nat.le_of_lt_succ hheight))
              (allBelow_iff.mp hes.2 e' he')) 255 [] 0 hes.1
          rw [List.nil_append, List.nil_append] at hloop
          have hparent : ∀ entries, changeToParent ⟨entries, ⟨before, name, attr, after⟩ :: up⟩ =
              ⟨before ++ (name, .dir attr entries) :: after, up⟩ := fun _ => rfl
          rw [hchdir]
          dsimp only
          rw [if_pos rfl, hparent]
          unfold deleteDirectoryForce leftEntry
          rw [deleteDirectory_eq hname, left]
          by_cases hempty : (es.isEmpty && !attr.locked) = true
          · rw [if_pos hempty]
            rw [Bool.and_eq_true, List.isEmpty_iff] at hempty
            obtain ⟨rfl, hlocked⟩ := hempty
            rw [sweep_nil, List.isEmpty_nil, hlocked]
            exact ⟨0, by simp, iff_of_true rfl rfl⟩
          · rw [if_neg hempty]
            dsimp only
            rw [if_neg (by decide), hchdir]
            dsimp only
            rw [if_neg (not_not.mpr rfl)]
            have hnames : findNames ⟨es, ⟨before, name, attr, after⟩ :: up⟩ =
                "." :: ".." :: (found es).map Prod.fst := rfl
            rw [hnames]
            dsimp only
            rw [if_pos (by decide), List.drop_succ_cons, List.drop_zero, ← List.map_take, hloop]
            dsimp only
            rw [hparent, deleteDirectory_eq hname]
            by_cases hleft : ((sweep (fun _ => false) 255 es).isEmpty && !attr.locked) = true
            · rw [if_pos hleft, if_pos hleft]
              have hall := (sweep_eq_nil_iff _ _).mp (List.isEmpty_iff.mp (Bool.and_eq_true _ _ ▸ hleft).1)
              refine ⟨status, by simp, iff_of_true (hstatus.mpr ⟨rfl, fun e' he' => ?_⟩) rfl⟩
              exact hall.2.2 e' (mem_of_mem_visited he')
            · rw [if_neg hleft, if_neg hleft]
              exact ⟨Api.fErrNotempty, by simp [Api.fErrNotempty], iff_of_false (by decide) (by simp)⟩

/-! ## The card -/

theorem Distinct.not_mem {e : String × Node String} {es : Entries String} (h : Distinct (e :: es)) :
    e ∉ es := by
  unfold Distinct at h
  rw [List.map_cons, List.nodup_cons] at h
  exact fun hmem => h.1 (List.mem_map_of_mem hmem)

/-- If nothing is left of the entries the loop gets to, the others are left. -/
theorem mem_sweep {skip : String → Bool} {e : String × Node String} {es : Entries String}
    (hdistinct : Distinct es) : ∀ {passes : Nat}, (∀ e ∈ visited skip passes es, left e.2 = none) →
      (e ∈ sweep skip passes es ↔ e ∈ es ∧ e ∉ visited skip passes es) := by
  induction es with
  | nil => simp
  | cons e' es ih =>
      intro passes hall
      have hrest : Distinct es := by
        unfold Distinct at hdistinct ⊢
        exact (List.nodup_cons.mp hdistinct).2
      have hnot : ∀ k, e' ∉ visited skip k es := fun k hmem =>
        Distinct.not_mem hdistinct (mem_of_mem_visited hmem)
      have hkept : ∀ k, (∀ e ∈ visited skip k es, left e.2 = none) →
          (e ∈ e' :: sweep skip k es ↔ e ∈ e' :: es ∧ e ∉ visited skip k es) := by
        intro k hk
        rw [List.mem_cons, List.mem_cons, ih hrest hk]
        constructor
        · rintro (rfl | ⟨hmem, hno⟩)
          · exact ⟨.inl rfl, hnot k⟩
          · exact ⟨.inr hmem, hno⟩
        · rintro ⟨rfl | hmem, hno⟩
          · exact .inl rfl
          · exact .inr ⟨hmem, hno⟩
      by_cases hsystem : e'.2.attr.system = true
      · rw [visited_cons_system hsystem] at hall ⊢
        rw [sweep_cons_system hsystem]
        exact hkept passes hall
      · rw [Bool.not_eq_true] at hsystem
        cases passes with
        | zero => simp [visited_zero]
        | succ passes =>
            by_cases hskip : skip e'.1 = true
            · rw [visited_cons_skip hsystem hskip] at hall ⊢
              rw [sweep_cons_skip hsystem hskip]
              exact hkept passes hall
            · rw [Bool.not_eq_true] at hskip
              rw [visited_cons hsystem hskip] at hall ⊢
              rw [List.forall_mem_cons] at hall
              rw [sweep_cons hsystem hskip, hall.1, Option.map_none, Option.toList_none,
                List.nil_append, ih hrest hall.2, List.mem_cons, List.mem_cons, not_or]
              constructor
              · rintro ⟨hmem, hno⟩
                refine ⟨.inr hmem, ?_, hno⟩
                rintro rfl
                exact Distinct.not_mem hdistinct hmem
              · rintro ⟨rfl | hmem, hne, hno⟩
                · exact absurd rfl hne
                · exact ⟨hmem, hno⟩

/-- A mounted card: no directory has two entries of one name. -/
structure Mounted where
  tree : CardTree
  distinct : Throughout Distinct tree.top.here

/-- The entries of the root. -/
def Mounted.root (card : Mounted) : Entries String := card.tree.top.here

/-- The passes of the loop of `clear_sd_card`, with the one that is not counted. -/
def rootPasses (root : Entries String) : Nat :=
  match found root with
  | [] => 255
  | e :: _ => if isSystemName e.1 then 256 else 255

/-- The protected folder. -/
def Protected (e : String × Node String) : Prop := e.1 = "SYSTEM" ∧ ∃ attr es, e.2 = .dir attr es

/-- The condition under which a card that is reported as clear is clear: an entry the loop gets to cannot
    be deleted as a whole, so that an error is returned, or the loop gets to every entry but the
    protected folder. -/
def TruthfullyCleared (root : Entries String) : Prop :=
  (∃ e ∈ visited isSystemName (rootPasses root) root, ¬ Removable e.2) ∨
    ∀ e ∈ root, e ∈ visited isSystemName (rootPasses root) root ∨ Protected e

theorem clearSdCard_eq (fuel : Nat) (card : Mounted) :
    clearSdCard fuel card.tree = deleteFound isSystemName (deleteFileSystemObject fuel)
      (((found card.root).take (rootPasses card.root)).map Prod.fst) 0 ⟨[] ++ card.root, []⟩ := by
  have htop : card.tree.top = ⟨card.root, []⟩ := rfl
  have hnames : findNames card.tree.top = (found card.root).map Prod.fst := rfl
  unfold clearSdCard rootPasses
  rw [hnames, htop]
  rcases found card.root with _ | ⟨e, es⟩
  · rfl
  · rw [List.map_cons, List.nil_append]
    dsimp only
    by_cases hsystem : isSystemName e.1 = true
    · rw [if_pos hsystem, if_pos hsystem, List.take_succ_cons, List.map_cons, deleteFound,
        if_pos hsystem, List.map_take]
    · rw [if_neg hsystem, if_neg hsystem, List.map_take, List.map_cons]

/-- **What `clear_sd_card` does.** It returns, with enough fuel for the depth of the tree; it leaves of
    the root what its loop leaves, and returns 0 exactly if every entry the loop gets to is removable. -/
theorem clearSdCard_sweep {fuel : Nat} (card : Mounted) (hfuel : height card.root ≤ fuel) :
    ∃ r, clearSdCard fuel card.tree =
        some (r, ⟨sweep isSystemName (rootPasses card.root) card.root, []⟩) ∧
      (r = 0 ↔ ∀ e ∈ visited isSystemName (rootPasses card.root) card.root, left e.2 = none) := by
  obtain ⟨r, hrun, hzero⟩ := deleteFound_sweep isSystemName [] (fun e he =>
    deleteFileSystemObject_left fuel e [] (Nat.lt_of_lt_of_le (height_lt_of_mem he) hfuel)
      (allBelow_iff.mp card.distinct.2 e he)) (rootPasses card.root) [] 0 card.distinct.1
  refine ⟨r, ?_, hzero.trans (and_iff_right rfl)⟩
  rw [clearSdCard_eq]
  exact hrun

/-- **A card reported as clear.** `clear_sd_card` returns on every card, however deep its tree. If it
    returns `F_NO_ERROR`, nothing is left in the root but the protected folder, exactly under the
    condition. -/
theorem clearSdCard_clear_iff (card : Mounted) (extra : Nat) :
    ∃ r c', clearSdCard (height card.root + extra) card.tree = some (r, c') ∧ c'.up = [] ∧
      ((r = 0 → ∀ e ∈ c'.here, Protected e) ↔ TruthfullyCleared card.root) := by
  obtain ⟨r, hrun, hzero⟩ := clearSdCard_sweep card (Nat.le_add_right (height card.root) extra)
  refine ⟨r, _, hrun, rfl, ?_⟩
  have hmem := fun e (hr : r = 0) => mem_sweep (e := e) card.distinct.1 (hzero.mp hr)
  constructor
  · intro hclear
    by_cases hr : r = 0
    · refine .inr fun e he => ?_
      by_cases hvisited : e ∈ visited isSystemName (rootPasses card.root) card.root
      · exact .inl hvisited
      · exact .inr (hclear hr e ((hmem e hr).mpr ⟨he, hvisited⟩))
    · rw [hzero] at hr
      push Not at hr
      obtain ⟨e, he, hleft⟩ := hr
      exact .inl ⟨e, he, fun hremovable => hleft ((left_eq_none_iff _).mpr hremovable)⟩
  · rintro (⟨e, he, hstays⟩ | hall) hr e' he'
    · exact absurd ((left_eq_none_iff _).mp (hzero.mp hr e he)) hstays
    · obtain ⟨hroot, hnot⟩ := (hmem e' hr).mp he'
      exact (hall e' hroot).resolve_left hnot

/-- A card with one file, whose name begins like that of the protected folder. -/
def lookalikeCard : Mounted where
  tree := ⟨[("SYSTEM1.TXT", .file ⟨false, false⟩)], []⟩
  distinct := ⟨by simp [Distinct, Cursor.top], trivial, trivial⟩

/-- The file is skipped, and the card is reported as clear. -/
theorem lookalike_stays :
    clearSdCard (height lookalikeCard.root) lookalikeCard.tree = some (0, lookalikeCard.tree) ∧
      ¬ ∀ e ∈ lookalikeCard.tree.here, Protected e := by
  refine ⟨rfl, fun hall => ?_⟩
  obtain ⟨hname, _⟩ := hall _ List.mem_cons_self
  exact absurd hname (by decide)

/-! ## The action -/

/-- The loop of the action model on what is found, if the deletions return these codes. -/
theorem deleteFound_clearLoop {delete : String → CardTree → Option (Int × CardTree)}
    {names : List String} {status r : Int} {c c' : CardTree}
    (h : deleteFound isSystemName delete names status c = some (r, c')) :
    ∃ objects : List Actions.Found, objects.map Actions.Found.filename = names ∧
      Actions.clearLoop objects status = r := by
  induction names generalizing status c with
  | nil =>
      obtain ⟨rfl, _⟩ := Prod.mk.inj (Option.some.inj h)
      exact ⟨[], rfl, rfl⟩
  | cons name names ih =>
      rw [deleteFound] at h
      by_cases hsystem : isSystemName name = true
      · rw [if_pos hsystem] at h
        obtain ⟨objects, hnames, hloop⟩ := ih h
        refine ⟨⟨name, 0⟩ :: objects, congrArg (name :: ·) hnames, ?_⟩
        rw [Actions.clearLoop, if_pos (show Actions.Found.isSystem ⟨name, 0⟩ = true from hsystem)]
        exact hloop
      · rw [if_neg hsystem] at h
        rcases hdelete : delete name c with _ | ⟨result, c₁⟩
        · rw [hdelete] at h
          cases h
        · rw [hdelete] at h
          obtain ⟨objects, hnames, hloop⟩ := ih h
          refine ⟨⟨name, result⟩ :: objects, congrArg (name :: ·) hnames, ?_⟩
          rw [Actions.clearLoop,
            if_neg (show ¬ Actions.Found.isSystem ⟨name, result⟩ = true from hsystem)]
          exact hloop

/-- Objects that begin like the names found, for the first 255 of them. -/
theorem exists_objects {names : List String} {objects : List Actions.Found}
    (h : objects.map Actions.Found.filename = names.take 255) :
    ∃ all : List Actions.Found, all.map Actions.Found.filename = names ∧ all.take 255 = objects := by
  refine ⟨objects ++ (names.drop 255).map (⟨·, 0⟩), ?_, ?_⟩
  · rw [List.map_append, h, List.map_map]
    exact (congrArg (names.take 255 ++ ·) (List.map_id _)).trans (List.take_append_drop 255 names)
  · have hlength : objects.length = min 255 names.length := by
      rw [← List.length_map Actions.Found.filename, h, List.length_take]
    by_cases hfew : names.length ≤ 255
    · rw [List.drop_of_length_le hfew, List.map_nil, List.append_nil]
      exact List.take_of_length_le (by omega)
    · exact List.take_left' (by omega)

/-- **The action model.** What `clear_sd_card` returns is what the model of the action computes from the
    names in the root and the codes of the deletions. -/
theorem clearSdCard_action {fuel : Nat} {c c' : CardTree} {r : Int}
    (h : clearSdCard fuel c = some (r, c')) :
    ∃ o : Actions.ClearOutcome, o.found.map Actions.Found.filename = findNames c.top ∧
      Actions.clearSdCard o = r := by
  unfold clearSdCard at h
  rcases hnames : findNames c.top with _ | ⟨first, rest⟩
  · rw [hnames] at h
    obtain ⟨rfl, _⟩ := Prod.mk.inj (Option.some.inj h)
    exact ⟨⟨[], true⟩, rfl, rfl⟩
  · rw [hnames] at h
    dsimp only at h
    obtain ⟨objects, hobjects, hloop⟩ := deleteFound_clearLoop h
    obtain ⟨all, hall, htake⟩ := exists_objects hobjects
    by_cases hsystem : isSystemName first = true
    · rw [if_pos hsystem] at hall
      refine ⟨⟨⟨first, 0⟩ :: all, true⟩, congrArg (first :: ·) hall, ?_⟩
      unfold Actions.clearSdCard Actions.ClearOutcome.visited
      dsimp only
      rw [if_pos (show Actions.Found.isSystem ⟨first, 0⟩ = true from hsystem), htake]
      exact hloop
    · rw [if_neg hsystem] at hall
      refine ⟨⟨all, true⟩, hall, ?_⟩
      unfold Actions.clearSdCard Actions.ClearOutcome.visited
      rcases all with _ | ⟨object, all⟩
      · cases hall
      · obtain ⟨rfl, _⟩ := List.cons.inj hall
        dsimp only
        rw [if_neg (show ¬ Actions.Found.isSystem object = true from hsystem), htake]
        exact hloop

end ClearCard
end Sdc
end Obsw
