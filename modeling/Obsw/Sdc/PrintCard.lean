import Obsw.Lib.Memory
import Obsw.Sdc.ClearCard

/-!
# `Sdc.PrintCard` — printing the content of a card

`SDCardHandler::printSdCard` and `printFilesystemHelper`, in the build without C++ streams. In front of
each line the helper writes one dash for each level, with a terminating zero behind it, into a buffer of
ten bytes: at the tenth level the zero lies behind the buffer. Entries with the system attribute are not
found, and so not printed.
-/

namespace Obsw
namespace Sdc
namespace PrintCard

open FileTree Memory ClearCard

/-! ## The buffer -/

/-- The size of `subdirDepth`. -/
def subdirDepthSize : Nat := 10

def nul : Char := Char.ofNat 0

/-- The memory from the start of `subdirDepth` on, `subdirsLen`, and the indices written. -/
structure Subdirs where
  subdirDepth : Mem Char
  subdirsLen : Nat
  written : List Nat

/-- `subdirsLen += sprintf(subdirDepth + subdirsLen, "-")`, with `subdirsLen` a `uint8_t`. -/
def Subdirs.dash (s : Subdirs) : Subdirs where
  subdirDepth := store s.subdirDepth s.subdirsLen ['-', nul]
  subdirsLen := (s.subdirsLen + 1) % 2 ^ 8
  written := s.written ++ [s.subdirsLen, s.subdirsLen + 1]

/-- The loop that writes the dashes of a line. -/
def dashes : Nat → Subdirs → Subdirs
  | 0,                  s => s
  | recursionDepth + 1, s => (dashes recursionDepth s).dash

/-- What `%s` prints of the buffer, in which the zero is looked for in the first 256 cells. -/
def text (subdirDepth : Mem Char) : List Char :=
  ((List.range 256).map subdirDepth).takeWhile fun c => c ≠ nul

/-! ## Lines -/

/-- A line: what stands in front, `D` or `F`, and the name. -/
structure Line where
  dashes : List Char
  isDir : Bool
  name : String
  deriving DecidableEq, Repr

/-- The card, the lines printed and the indices of the buffers written. -/
structure Print where
  tree : CardTree
  lines : List Line
  written : List Nat

/-- What is written in front of a line: the text, the buffer behind it and the indices written. -/
abbrev Mark := Mem Char → List Char × Mem Char × List Nat

/-- The root has no buffer. -/
def rootMark : Mark := fun subdirDepth => ([], subdirDepth, [])

/-- The dashes in a subdirectory. `subdirsLen` is 0 in front of every line. -/
def depthMark (recursionDepth : Nat) : Mark := fun subdirDepth =>
  let s := dashes recursionDepth ⟨subdirDepth, 0, []⟩
  (text s.subdirDepth, s.subdirDepth, s.written)

/-! ## `SDCardHandler` -/

/-- The loops over the entries of a directory. An entry into which the directory can be changed is printed
    as a directory, followed by what is in it. -/
def printFound (mark : Mark) (helper : Print → Option Print) :
    List String → Mem Char → Print → Option Print
  | [],            _,           s => some s
  | name :: names, subdirDepth, s =>
    let changed := changeDirectory name s.tree
    let marked := mark subdirDepth
    let s : Print :=
      { tree := changed.2
        lines := s.lines ++ [⟨marked.1, changed.1 = 0, name⟩]
        written := s.written ++ marked.2.2 }
    if changed.1 = 0 then
      match helper s with
      | none => none
      | some s => printFound mark helper names marked.2.1 { s with tree := changeToParent s.tree }
    else printFound mark helper names marked.2.1 s

/-- `printFilesystemHelper`, with what the stack holds where `subdirDepth` is not set yet. The fuel bounds
    the depth of the recursion; `recursionDepth` is a `uint8_t`. -/
def printFilesystemHelper (stack : Mem Char) : Nat → Nat → Print → Option Print
  | 0,        _,              _ => none
  | fuel + 1, recursionDepth, s =>
    match findNames s.tree with
    | [] => some s
    | first :: rest =>
      let names := if first.toList.head? = some '.' then rest.drop 1 else first :: rest
      printFound (depthMark recursionDepth)
        (printFilesystemHelper stack fuel ((recursionDepth + 1) % 2 ^ 8)) (names.take 255) stack s

/-- `printSdCard`. An empty root is printed as such, without an entry. -/
def printSdCard (stack : Mem Char) (fuel : Nat) (tree : CardTree) : Option Print :=
  printFound rootMark (printFilesystemHelper stack fuel 1) ((findNames tree.top).take 255) stack
    ⟨tree.top, [], []⟩

/-! ## The listing -/

/-- What is to be printed: every entry once, with as many dashes as its depth. -/
def listing (root : Entries String) : List Line :=
  (walkAll 0 root).map fun v => ⟨List.replicate v.depth '-', v.isDir, v.name⟩

/-- The content is listed, the current directory is the one the listing started from, and no index behind
    the buffer was written. -/
structure Prints (card : Mounted) (s : Print) : Prop where
  lines : s.lines = listing card.root
  directory : s.tree = card.tree.top
  inside : ∀ i ∈ s.written, i < subdirDepthSize

/-- No directory has more than 255 entries. -/
def AtMost255 (es : Entries String) : Prop := es.length ≤ 255

/-! ## The dashes -/

/-- The indices that are written for so many dashes. -/
def indices (k : Nat) : List Nat := (List.range k).flatMap fun j => [j, j + 1]

theorem dashes_spec (subdirDepth : Mem Char) : ∀ k < 2 ^ 8,
    (dashes k ⟨subdirDepth, 0, []⟩).subdirsLen = k ∧
      (dashes k ⟨subdirDepth, 0, []⟩).written = indices k ∧
      (∀ j < k, (dashes k ⟨subdirDepth, 0, []⟩).subdirDepth j = '-') ∧
      (k ≠ 0 → (dashes k ⟨subdirDepth, 0, []⟩).subdirDepth k = nul) := by
  intro k
  induction k with
  | zero =>
      exact fun _ => ⟨rfl, rfl, fun j hj => absurd hj (Nat.not_lt_zero j), fun hno => absurd rfl hno⟩
  | succ k ih =>
      intro hk
      obtain ⟨hlen, hwritten, hdash, _⟩ := ih (by omega)
      rw [dashes]
      unfold Subdirs.dash
      dsimp only
      rw [hlen, hwritten]
      have hzero : store (dashes k ⟨subdirDepth, 0, []⟩).subdirDepth k ['-', nul] (k + 0) = '-' :=
        store_at (by decide)
      have hone : store (dashes k ⟨subdirDepth, 0, []⟩).subdirDepth k ['-', nul] (k + 1) = nul :=
        store_at (by decide)
      refine ⟨Nat.mod_eq_of_lt hk, ?_, fun j hj => ?_, fun _ => hone⟩
      · unfold indices
        rw [List.range_succ, List.flatMap_append]
        rfl
      · rcases Nat.lt_succ_iff_lt_or_eq.mp hj with hlt | rfl
        · rw [store_frame (.inl hlt)]
          exact hdash j hlt
        · exact hzero

/-- The text of a buffer that holds `k` dashes and a zero. -/
theorem text_of_dashes {subdirDepth : Mem Char} {k : Nat} (hk : k < 2 ^ 8)
    (hdash : ∀ j < k, subdirDepth j = '-') (hnul : subdirDepth k = nul) :
    text subdirDepth = List.replicate k '-' := by
  obtain ⟨rest, hsplit⟩ : ∃ rest, (List.range 256).map subdirDepth =
      List.replicate k '-' ++ nul :: rest := by
    have hfirst : (List.range k).map subdirDepth = List.replicate k '-' := by
      refine List.eq_replicate_iff.mpr ⟨by simp, fun c hc => ?_⟩
      obtain ⟨j, hj, rfl⟩ := List.mem_map.mp hc
      exact hdash j (List.mem_range.mp hj)
    have hsum : 256 = k + ((255 - k) + 1) := by omega
    rw [hsum, List.range_add, List.map_append, hfirst, List.range_succ_eq_map, List.map_cons,
      List.map_cons, Nat.add_zero, hnul]
    exact ⟨_, rfl⟩
  unfold text
  rw [hsplit, List.takeWhile_append_of_pos, List.takeWhile_cons_of_neg, List.append_nil]
  · simp
  · intro c hc
    rw [List.eq_of_mem_replicate hc]
    decide

/-! ## The loops -/

/-- The text in front of the lines of a depth. It is that of the stack where the depth, which is counted
    in eight bits, has come round to 0. -/
def lineText (stack : Mem Char) (depth : Nat) : List Char :=
  if depth = 0 then [] else if depth % 2 ^ 8 = 0 then text stack
  else List.replicate (depth % 2 ^ 8) '-'

def lineOf (stack : Mem Char) (v : Visit String) : Line := ⟨lineText stack v.depth, v.isDir, v.name⟩

/-- What a walk adds to what has been printed. -/
def Print.add (stack : Mem Char) (s : Print) (walk : List (Visit String)) : Print where
  tree := s.tree
  lines := s.lines ++ walk.map (lineOf stack)
  written := s.written ++ walk.flatMap fun v => indices (v.depth % 2 ^ 8)

@[simp] theorem Print.add_nil (stack : Mem Char) (s : Print) : s.add stack [] = s := by
  simp [Print.add]

theorem Print.add_append (stack : Mem Char) (s : Print) (walk walk' : List (Visit String)) :
    s.add stack (walk ++ walk') = (s.add stack walk).add stack walk' := by
  simp [Print.add]

/-- The lines of a depth have their text, whatever the lines before them have left in the buffer. -/
structure Marks (stack : Mem Char) (mark : Mark) (depth : Nat) (I : Mem Char → Prop) : Prop where
  starts : I stack
  keeps : ∀ subdirDepth, I subdirDepth → I (mark subdirDepth).2.1
  text : ∀ subdirDepth, I subdirDepth → (mark subdirDepth).1 = lineText stack depth
  written : ∀ subdirDepth, (mark subdirDepth).2.2 = indices (depth % 2 ^ 8)

theorem marks_root (stack : Mem Char) : Marks stack rootMark 0 fun _ => True :=
  ⟨trivial, fun _ _ => trivial, fun _ _ => rfl, fun _ => rfl⟩

theorem marks_depth (stack : Mem Char) {depth : Nat} (hdepth : depth ≠ 0) :
    Marks stack (depthMark (depth % 2 ^ 8)) depth
      fun subdirDepth => depth % 2 ^ 8 = 0 → subdirDepth = stack := by
  have hlt : depth % 2 ^ 8 < 2 ^ 8 := Nat.mod_lt _ (by decide)
  refine ⟨fun _ => rfl, fun subdirDepth h hzero => ?_, fun subdirDepth h => ?_, fun subdirDepth => ?_⟩
  · unfold depthMark
    rw [hzero]
    exact h hzero
  · unfold depthMark lineText
    rw [if_neg hdepth]
    by_cases hzero : depth % 2 ^ 8 = 0
    · rw [if_pos hzero, hzero, ← h hzero]
      exact rfl
    · rw [if_neg hzero]
      obtain ⟨_, _, hdash, hnul⟩ := dashes_spec subdirDepth _ hlt
      exact text_of_dashes hlt hdash (hnul hzero)
  · exact (dashes_spec subdirDepth _ hlt).2.1

/-- `helper` prints the directories one level deeper and comes back to where it was called. -/
def PrintsBelow (stack : Mem Char) (helper : Print → Option Print) (depth : Nat)
    (es : Entries String) : Prop :=
  ∀ (up : List (Level String)) (s : Print), up ≠ [] → s.tree = ⟨es, up⟩ →
    helper s = some (s.add stack (walkFound depth es))

/-- **Loop.** It prints what the search has found, whatever lies before it, and stays in the directory. -/
theorem printFound_walk {stack : Mem Char} {mark : Mark} {helper : Print → Option Print} {depth : Nat}
    {I : Mem Char → Prop} (hmark : Marks stack mark depth I) {up : List (Level String)}
    {es : Entries String} (hhelper : ∀ e ∈ es, ∀ attr es', e.2 = .dir attr es' →
      PrintsBelow stack helper (depth + 1) es') :
    ∀ (before : Entries String) (subdirDepth : Mem Char) (s : Print), I subdirDepth →
      Distinct (before ++ es) → s.tree = ⟨before ++ es, up⟩ →
      printFound mark helper ((found es).map Prod.fst) subdirDepth s =
        some (s.add stack (walkFound depth es)) := by
  induction es with
  | nil =>
      intro before subdirDepth s _ _ _
      rw [found_nil, List.map_nil]
      exact congrArg some (Print.add_nil stack s).symm
  | cons e es ih =>
      intro before subdirDepth s hI hdistinct htree
      have ih' := ih fun e' he' => hhelper e' (List.mem_cons_of_mem _ he')
      have hmoved : Distinct (before ++ [e] ++ es) := by simpa using hdistinct
      -- the search passes over what carries the system attribute
      by_cases hsystem : e.2.attr.system = true
      · rw [found_cons_system hsystem, walkFound_cons_system depth es hsystem]
        exact ih' (before ++ [e]) subdirDepth s hI hmoved (by simpa using htree)
      · rw [Bool.not_eq_true] at hsystem
        have hnot : e.1 ∉ before.map Prod.fst := by
          unfold Distinct at hdistinct
          rw [List.map_append, List.map_cons] at hdistinct
          exact fun hmem => (List.nodup_append.mp hdistinct).2.2 _ hmem _ List.mem_cons_self rfl
        have hkeeps := hmark.keeps subdirDepth hI
        rw [found_cons hsystem, List.map_cons, walkFound_cons depth es hsystem, printFound,
          htree, Print.add_append]
        obtain ⟨name, node⟩ := e
        cases node with
        | file attr =>
            have hchdir : changeDirectory name ⟨before ++ (name, .file attr) :: es, up⟩ =
                (fErrInvaliddir, ⟨before ++ (name, .file attr) :: es, up⟩) := by
              unfold changeDirectory
              rw [Cursor.enter_file hnot]
            rw [hchdir]
            dsimp only
            rw [if_neg (by decide), ih' (before ++ [(name, .file attr)]) _ _ hkeeps hmoved (by simp)]
            refine congrArg (fun s => some (Print.add stack s (walkFound depth es))) ?_
            rw [Node.walk, hmark.text subdirDepth hI, hmark.written]
            unfold Print.add lineOf
            rw [htree, List.flatMap_singleton]
            rfl
        | dir attr es' =>
            have hchdir : changeDirectory name ⟨before ++ (name, .dir attr es') :: es, up⟩ =
                (0, ⟨es', ⟨before, name, attr, es⟩ :: up⟩) := by
              unfold changeDirectory
              rw [Cursor.enter_dir hnot]
            rw [hchdir]
            dsimp only
            rw [if_pos rfl, hhelper _ List.mem_cons_self attr es' rfl (⟨before, name, attr, es⟩ :: up) _
              (List.cons_ne_nil _ _) rfl]
            dsimp only
            rw [ih' (before ++ [(name, .dir attr es')]) _ _ hkeeps hmoved (by
              rw [List.append_assoc]
              rfl)]
            refine congrArg (fun s => some (Print.add stack s (walkFound depth es))) ?_
            rw [Node.walk, hmark.text subdirDepth hI, hmark.written]
            unfold Print.add lineOf walkFound
            rw [htree, List.map_cons, List.flatMap_cons, List.append_assoc, List.append_assoc]
            rfl

theorem findNames_below {c : CardTree} (h : c.up ≠ []) :
    findNames c = "." :: ".." :: (found c.here).map Prod.fst := by
  unfold findNames
  rw [if_neg fun hno => h (List.isEmpty_iff.mp hno)]
  rfl

theorem take_found {es : Entries String} (h : AtMost255 es) :
    ((found es).map Prod.fst).take 255 = (found es).map Prod.fst := by
  apply List.take_of_length_le
  rw [List.length_map]
  exact Nat.le_trans (List.length_filter_le _ es) h

/-- **Recursion.** With fuel for the levels below it, the helper prints what the searches find. -/
theorem printFilesystemHelper_prints (stack : Mem Char) (fuel : Nat) :
    ∀ (depth : Nat) (es : Entries String), depth ≠ 0 → Throughout Distinct es →
      Throughout AtMost255 es → height es < fuel →
        PrintsBelow stack (printFilesystemHelper stack fuel (depth % 2 ^ 8)) depth es := by
  induction fuel with
  | zero => exact fun _ _ _ _ _ hno => absurd hno (Nat.not_lt_zero _)
  | succ fuel ih =>
      intro depth es hdepth hdistinct hsmall hfuel up s hup htree
      have hnames : findNames s.tree = "." :: ".." :: (found es).map Prod.fst := by
        rw [htree]
        exact findNames_below hup
      have hhelper : ∀ e ∈ es, ∀ attr es', e.2 = .dir attr es' →
          PrintsBelow stack (printFilesystemHelper stack fuel ((depth % 2 ^ 8 + 1) % 2 ^ 8))
            (depth + 1) es' := by
        intro e he attr es' hdir
        have hmem : (e.1, .dir attr es') ∈ es := by
          rw [← hdir]
          exact he
        have hlt := height_lt_of_mem he
        rw [hdir, Node.height] at hlt
        rw [Nat.mod_add_mod]
        exact ih (depth + 1) es' (Nat.succ_ne_zero _) (hdistinct.dir hmem) (hsmall.dir hmem) (by omega)
      rw [printFilesystemHelper, hnames]
      dsimp only
      rw [if_pos (by decide), List.drop_one, List.tail_cons, take_found hsmall.1]
      exact printFound_walk (marks_depth stack hdepth) hhelper [] stack s
        (marks_depth stack hdepth).starts hdistinct.1 htree

/-- `printSdCard` prints what the searches find from the root on, and ends in the root. -/
theorem printSdCard_walk (stack : Mem Char) (card : Mounted) (hsmall : Throughout AtMost255 card.root)
    {fuel : Nat} (hfuel : height card.root ≤ fuel) :
    printSdCard stack fuel card.tree =
      some (Print.add stack ⟨card.tree.top, [], []⟩ (walkFound 0 card.root)) := by
  have hnames : findNames card.tree.top = (found card.root).map Prod.fst := rfl
  have hhelper : ∀ e ∈ card.root, ∀ attr es', e.2 = .dir attr es' →
      PrintsBelow stack (printFilesystemHelper stack fuel 1) (0 + 1) es' := by
    intro e he attr es' hdir
    have hmem : (e.1, .dir attr es') ∈ card.root := by
      rw [← hdir]
      exact he
    have hlt := height_lt_of_mem he
    rw [hdir, Node.height] at hlt
    exact printFilesystemHelper_prints stack fuel 1 es' Nat.one_ne_zero (card.distinct.dir hmem)
      (hsmall.dir hmem) (by omega)
  unfold printSdCard
  rw [hnames, take_found hsmall.1]
  exact printFound_walk (marks_root stack) hhelper [] stack ⟨card.tree.top, [], []⟩ trivial
    card.distinct.1 rfl

/-! ## The outcome -/

theorem mem_indices {i k : Nat} : i ∈ indices k ↔ ∃ j < k, i = j ∨ i = j + 1 := by
  simp [indices]

/-- The indices written in front of an entry lie in the buffer exactly down to the ninth level. -/
theorem indices_inside {depth : Nat} (h : depth < 2 ^ 8) :
    (∀ i ∈ indices (depth % 2 ^ 8), i < subdirDepthSize) ↔ depth < subdirDepthSize := by
  rw [Nat.mod_eq_of_lt h]
  constructor
  · intro hinside
    cases depth with
    | zero => decide
    | succ k => exact hinside (k + 1) (mem_indices.mpr ⟨k, Nat.lt_succ_self k, .inr rfl⟩)
  · intro hdepth i hi
    obtain ⟨j, hj, hij⟩ := mem_indices.mp hi
    omega

theorem lineOf_shallow (stack : Mem Char) {v : Visit String} (h : v.depth < 2 ^ 8) :
    lineOf stack v = ⟨List.replicate v.depth '-', v.isDir, v.name⟩ := by
  unfold lineOf lineText
  by_cases hroot : v.depth = 0
  · rw [if_pos hroot, hroot]
    rfl
  · rw [if_neg hroot, Nat.mod_eq_of_lt h, if_neg hroot]

/-- A tree that is found as a whole and has at most ten levels is printed. -/
theorem prints_of_shallow (stack : Mem Char) {card : Mounted}
    (hheight : height card.root ≤ subdirDepthSize) (hfound : Throughout AllFound card.root) :
    Prints card (Print.add stack ⟨card.tree.top, [], []⟩ (walkFound 0 card.root)) := by
  have hdepth : ∀ v ∈ walkAll 0 card.root, v.depth < subdirDepthSize := by
    intro v hv
    have hlt := depth_lt_of_mem_walk hv
    omega
  have hbyte : ∀ v ∈ walkAll 0 card.root, v.depth < 2 ^ 8 := fun v hv =>
    Nat.lt_trans (hdepth v hv) (by decide)
  rw [walkFound_of_allFound hfound]
  refine ⟨List.map_congr_left fun v hv => lineOf_shallow stack (hbyte v hv), rfl, fun i hi => ?_⟩
  obtain ⟨v, hv, hi⟩ := List.mem_flatMap.mp hi
  exact (indices_inside (hbyte v hv)).mpr (hdepth v hv) i hi

/-- What is printed as a whole was found as a whole. -/
theorem allFound_of_prints {stack : Mem Char} {card : Mounted}
    (h : Prints card (Print.add stack ⟨card.tree.top, [], []⟩ (walkFound 0 card.root))) :
    Throughout AllFound card.root := by
  have hlength := congrArg List.length h.lines
  unfold Print.add listing at hlength
  rw [List.nil_append, List.length_map, List.length_map] at hlength
  exact walkFound_length_iff.mp hlength

/-- In a tree of more than ten levels the tenth level is reached. -/
theorem shallow_of_prints {stack : Mem Char} {card : Mounted}
    (h : Prints card (Print.add stack ⟨card.tree.top, [], []⟩ (walkFound 0 card.root))) :
    height card.root ≤ subdirDepthSize := by
  by_contra hdeep
  obtain ⟨v, hv, hdepth⟩ := exists_depth_of_lt (Nat.lt_of_not_le hdeep)
  -- what is listed was found, so the printing gets to an entry at that depth
  rw [← walkFound_of_allFound (allFound_of_prints h)] at hv
  have hlt := (indices_inside (show v.depth < 2 ^ 8 by rw [hdepth]; decide)).mp fun i hi =>
    h.inside i (List.mem_append_right _ (List.mem_flatMap.mpr ⟨v, hv, hi⟩))
  exact Nat.lt_irrefl _ (hdepth ▸ hlt)

/-- **Printing a card.** With at most 255 entries in every directory, the printing comes to an end. The
    card is listed as it is, with every index in the buffer and the root, where the listing starts, as
    the current directory, exactly if there are no more than ten levels and no entry has the system
    attribute. The directory that was the current one before is so again only if it is the root. -/
theorem printSdCard_lists_iff (stack : Mem Char) (extra : Nat) (card : Mounted)
    (hsmall : Throughout AtMost255 card.root) :
    ∃ s, printSdCard stack (height card.root + extra) card.tree = some s ∧
      (Prints card s ↔
        height card.root ≤ subdirDepthSize ∧ Throughout AllFound card.root) ∧
      (s.tree = card.tree ↔ card.tree.up = []) := by
  refine ⟨_, printSdCard_walk stack card hsmall (Nat.le_add_right _ _), ⟨fun h => ?_, fun h => ?_⟩,
    fun h => ?_, fun h => ?_⟩
  · exact ⟨shallow_of_prints h, allFound_of_prints h⟩
  · exact prints_of_shallow stack h.1 h.2
  · rw [← h]
    rfl
  · exact Cursor.top_of_up_nil h

/-- Folders in one another, with a file in the innermost. -/
def folders : Nat → Entries String
  | 0     => [("DATA.BIN", .file ⟨false, false⟩)]
  | k + 1 => [("FOLDER", .dir ⟨false, false⟩ (folders k))]

theorem height_folders (k : Nat) : height (folders k) = k + 1 := by
  induction k with
  | zero => rfl
  | succ k ih => rw [folders, height, Node.height, ih, height, Nat.max_eq_left (Nat.zero_le _)]

/-- What holds of a directory with one entry holds throughout. -/
theorem throughout_folders {P : Entries String → Prop} (h : ∀ e, P [e]) (k : Nat) :
    Throughout P (folders k) := by
  induction k with
  | zero => exact ⟨h _, by rw [folders, AllBelow, Node.All, AllBelow]; exact ⟨trivial, trivial⟩⟩
  | succ k ih =>
      refine ⟨h _, ?_⟩
      rw [folders, AllBelow, Node.All, AllBelow]
      exact ⟨ih, trivial⟩

/-- A card that has them in its root. -/
def foldersCard (k : Nat) : Mounted where
  tree := ⟨folders k, []⟩
  distinct := throughout_folders (fun _ => by simp [Distinct]) k

theorem atMost255_foldersCard (k : Nat) : Throughout AtMost255 (foldersCard k).root :=
  throughout_folders (fun _ => (by decide : 1 ≤ 255)) k

theorem printSdCard_lists_iff_two_folders :
    ∃ s, printSdCard (fun _ => nul) (height (foldersCard 2).root + 0) (foldersCard 2).tree = some s ∧
      (Prints (foldersCard 2) s ↔
        height (foldersCard 2).root ≤ subdirDepthSize ∧ Throughout AllFound (foldersCard 2).root) ∧
      (s.tree = (foldersCard 2).tree ↔ (foldersCard 2).tree.up = []) :=
  printSdCard_lists_iff (fun _ => nul) 0 (foldersCard 2) (atMost255_foldersCard 2)

/-- Below ten folders, the zero behind the dashes is written behind the buffer. -/
theorem tenth_level_overflows :
    Throughout AtMost255 (foldersCard 10).root ∧
      ∃ s, printSdCard (fun _ => nul) 11 (foldersCard 10).tree = some s ∧
        subdirDepthSize ∈ s.written ∧ ¬ Prints (foldersCard 10) s := by
  have hwritten : subdirDepthSize ∈ (Print.add (fun _ => nul) ⟨(foldersCard 10).tree.top, [], []⟩
      (walkFound 0 (foldersCard 10).root)).written := by decide +kernel
  refine ⟨atMost255_foldersCard 10, _, ?_, hwritten, fun hno => ?_⟩
  · exact printSdCard_walk _ (foldersCard 10) (atMost255_foldersCard 10)
      (Nat.le_of_eq (height_folders 10))
  · exact Nat.lt_irrefl _ (hno.inside _ hwritten)

end PrintCard
end Sdc
end Obsw
