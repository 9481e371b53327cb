import Mathlib.Data.List.Basic

/-!
# `Lib.FileTree` — directory trees and a current directory

A directory is a list of named entries, in the order in which a search finds them; an entry is a file or a
directory again. A `Cursor` is a tree with a current directory: its entries, and on the way up to the root
what lies around each directory that was entered. An entry with the system attribute is not found by a
search, and a locked one (read-only, or a file that is open) cannot be deleted.

## Contents
- **Trees.** `Node.induct` is the induction on a tree; `Throughout P` says that every directory of a tree
  satisfies `P`, and `height` is the number of levels.
- **Cursors.** `enter`, `leave`, `top`, `delete` and `rmdir`, with one lemma for each on an entry that is
  named: what lies before and behind it stays.
-/

namespace FileTree

/-- What matters of the attributes of an entry. -/
structure Attr where
  locked : Bool
  system : Bool
  deriving DecidableEq, Repr

inductive Node (ν : Type) where
  | file (attr : Attr)
  | dir (attr : Attr) (entries : List (ν × Node ν))

/-- The entries of a directory. -/
abbrev Entries (ν : Type) := List (ν × Node ν)

variable {ν : Type}

namespace Node

def attr : Node ν → Attr
  | file attr => attr
  | dir attr _ => attr

/-- **Induction on a tree.** -/
theorem induct {P : Node ν → Prop} (file : ∀ attr, P (.file attr))
    (dir : ∀ attr (es : Entries ν), (∀ e ∈ es, P e.2) → P (.dir attr es)) : ∀ node, P node
  | .file attr => file attr
  | .dir attr es => dir attr es fun e _ => induct file dir e.2
decreasing_by
  have hlt := List.sizeOf_lt_of_mem ‹e ∈ es›
  obtain ⟨name, node⟩ := e
  simp only [Node.dir.sizeOf_spec, Prod.mk.sizeOf_spec] at hlt ⊢
  omega

end Node

/-! ## Trees -/

mutual

/-- Every directory of the tree satisfies `P`. -/
def Node.All (P : Entries ν → Prop) : Node ν → Prop
  | .file _ => True
  | .dir _ es => P es ∧ AllBelow P es

/-- Every directory below these entries satisfies `P`. -/
def AllBelow (P : Entries ν → Prop) : Entries ν → Prop
  | [] => True
  | (_, node) :: es => node.All P ∧ AllBelow P es

end

/-- Every directory satisfies `P`, from this one on. -/
def Throughout (P : Entries ν → Prop) (es : Entries ν) : Prop := P es ∧ AllBelow P es

theorem allBelow_iff {P : Entries ν → Prop} {es : Entries ν} :
    AllBelow P es ↔ ∀ e ∈ es, e.2.All P := by
  induction es with
  | nil => simp [AllBelow]
  | cons e es ih => simp [AllBelow, ih]

/-- The subdirectory `es` of a directory satisfies `P` throughout. -/
theorem Throughout.dir {P : Entries ν → Prop} {es es' : Entries ν} {name : ν} {attr : Attr}
    (h : Throughout P es) (hmem : (name, .dir attr es') ∈ es) : Throughout P es' := by
  have hall := allBelow_iff.mp h.2 _ hmem
  rwa [Node.All] at hall

mutual

/-- The number of levels below an entry. -/
def Node.height : Node ν → Nat
  | .file _ => 0
  | .dir _ es => FileTree.height es

/-- The number of levels of a directory. -/
def height : Entries ν → Nat
  | [] => 0
  | (_, node) :: es => max (node.height + 1) (height es)

end

theorem height_lt_of_mem {es : Entries ν} {e : ν × Node ν} (h : e ∈ es) :
    e.2.height < height es := by
  induction es with
  | nil => cases h
  | cons e' es ih =>
      rw [height]
      rcases List.mem_cons.mp h with rfl | h
      · omega
      · have hlt := ih h
        omega

/-- What a search finds. -/
def found (es : Entries ν) : Entries ν := es.filter fun e => !e.2.attr.system

@[simp] theorem found_nil : found ([] : Entries ν) = [] := rfl

theorem found_cons_system {e : ν × Node ν} {es : Entries ν} (h : e.2.attr.system = true) :
    found (e :: es) = found es := by simp [found, h]

theorem found_cons {e : ν × Node ν} {es : Entries ν} (h : e.2.attr.system = false) :
    found (e :: es) = e :: found es := by simp [found, h]

/-- No two entries of the directory have one name. -/
def Distinct (es : Entries ν) : Prop := (es.map Prod.fst).Nodup

/-! ## Walking a tree -/

/-- An entry met on a walk, and how deep it lies. -/
structure Visit (ν : Type) where
  depth : Nat
  isDir : Bool
  name : ν
  deriving DecidableEq, Repr

mutual

/-- An entry and what is below it, in order. -/
def Node.walk (sees : Attr → Bool) (depth : Nat) (name : ν) : Node ν → List (Visit ν)
  | .file _ => [⟨depth, false, name⟩]
  | .dir _ es => ⟨depth, true, name⟩ :: FileTree.walk sees (depth + 1) es

/-- The entries of a tree that are seen, each before what is below it. -/
def walk (sees : Attr → Bool) (depth : Nat) : Entries ν → List (Visit ν)
  | [] => []
  | (name, node) :: es =>
    (if sees node.attr then node.walk sees depth name else []) ++ walk sees depth es

end

/-- A walk over all entries. -/
def walkAll (depth : Nat) (es : Entries ν) : List (Visit ν) := walk (fun _ => true) depth es

/-- A walk over what searches find. -/
def walkFound (depth : Nat) (es : Entries ν) : List (Visit ν) := walk (fun attr => !attr.system) depth es

/-- No entry of the directory has the system attribute. -/
def AllFound (es : Entries ν) : Prop := ∀ e ∈ es, e.2.attr.system = false

theorem walkAll_cons (depth : Nat) (e : ν × Node ν) (es : Entries ν) :
    walkAll depth (e :: es) = e.2.walk (fun _ => true) depth e.1 ++ walkAll depth es := by
  unfold walkAll
  rw [walk]
  rfl

theorem walkFound_cons_system {e : ν × Node ν} (depth : Nat) (es : Entries ν)
    (h : e.2.attr.system = true) : walkFound depth (e :: es) = walkFound depth es := by
  unfold walkFound
  rw [walk, h]
  rfl

theorem walkFound_cons {e : ν × Node ν} (depth : Nat) (es : Entries ν) (h : e.2.attr.system = false) :
    walkFound depth (e :: es) =
      e.2.walk (fun attr => !attr.system) depth e.1 ++ walkFound depth es := by
  unfold walkFound
  rw [walk, h]
  rfl

theorem mem_walk {sees : Attr → Bool} {depth : Nat} {es : Entries ν} {v : Visit ν} :
    v ∈ walk sees depth es ↔
      ∃ e ∈ es, sees e.2.attr = true ∧ v ∈ e.2.walk sees depth e.1 := by
  induction es with
  | nil => simp [walk]
  | cons e es ih =>
      rw [walk, List.mem_append, ih, List.exists_mem_cons_iff]
      by_cases hsees : sees e.2.attr = true
      · simp [hsees]
      · simp [hsees]

/-- What a walk meets at an entry is no deeper than the entry is high. -/
theorem depth_of_mem_walk {sees : Attr → Bool} (node : Node ν) :
    ∀ (depth : Nat) (name : ν), ∀ v ∈ node.walk sees depth name,
      depth ≤ v.depth ∧ v.depth ≤ depth + node.height := by
  induction node using Node.induct with
  | file attr =>
      intro depth name v hv
      rw [Node.walk, List.mem_singleton] at hv
      rw [hv]
      exact ⟨Nat.le_refl _, Nat.le_add_right _ _⟩
  | dir attr es ih =>
      intro depth name v hv
      rw [Node.walk] at hv
      rw [Node.height]
      rcases List.mem_cons.mp hv with rfl | hv
      · exact ⟨Nat.le_refl _, Nat.le_add_right _ _⟩
      · obtain ⟨e, he, _, hmem⟩ := mem_walk.mp hv
        obtain ⟨hlow, hhigh⟩ := ih e he (depth + 1) e.1 v hmem
        have hheight := height_lt_of_mem he
        exact ⟨by omega, by omega⟩

theorem depth_lt_of_mem_walk {sees : Attr → Bool} {depth : Nat} {es : Entries ν} {v : Visit ν}
    (h : v ∈ walk sees depth es) : v.depth < depth + height es := by
  obtain ⟨e, he, _, hmem⟩ := mem_walk.mp h
  have hle := (depth_of_mem_walk e.2 depth e.1 v hmem).2
  have hheight := height_lt_of_mem he
  omega

theorem exists_of_lt_height {k : Nat} {es : Entries ν} (h : k < height es) :
    ∃ e ∈ es, k ≤ e.2.height := by
  induction es with
  | nil => exact absurd h (Nat.not_lt_zero k)
  | cons e es ih =>
      rw [height] at h
      rcases (by omega : k < e.2.height + 1 ∨ k < height es) with h | h
      · exact ⟨e, List.mem_cons_self, Nat.le_of_lt_succ h⟩
      · obtain ⟨e', he', hle⟩ := ih h
        exact ⟨e', List.mem_cons_of_mem _ he', hle⟩

/-- A walk over all entries meets one at each depth. -/
theorem exists_depth (node : Node ν) : ∀ (depth : Nat) (name : ν), ∀ k ≤ node.height,
    ∃ v ∈ node.walk (fun _ => true) depth name, v.depth = depth + k := by
  induction node using Node.induct with
  | file attr =>
      intro depth name k hk
      rw [Node.height, Nat.le_zero] at hk
      rw [Node.walk, hk]
      exact ⟨_, List.mem_singleton_self _, rfl⟩
  | dir attr es ih =>
      intro depth name k hk
      rw [Node.height] at hk
      rw [Node.walk]
      cases k with
      | zero => exact ⟨_, List.mem_cons_self, rfl⟩
      | succ k =>
          obtain ⟨e, he, hle⟩ := exists_of_lt_height hk
          obtain ⟨v, hv, hdepth⟩ := ih e he (depth + 1) e.1 k hle
          exact ⟨v, List.mem_cons_of_mem _ (mem_walk.mpr ⟨e, he, rfl, hv⟩), by omega⟩

theorem exists_depth_of_lt {k : Nat} {es : Entries ν} (h : k < height es) :
    ∃ v ∈ walkAll 0 es, v.depth = k := by
  obtain ⟨e, he, hle⟩ := exists_of_lt_height h
  obtain ⟨v, hv, hdepth⟩ := exists_depth e.2 0 e.1 k hle
  exact ⟨v, mem_walk.mpr ⟨e, he, rfl, hv⟩, by omega⟩

/-- What every entry of a list satisfies, its walks satisfy together. -/
theorem walkFound_length_of_entries {depth : Nat} {es : Entries ν}
    (h : ∀ e ∈ es, (e.2.walk (fun attr => !attr.system) depth e.1).length ≤
        (e.2.walk (fun _ => true) depth e.1).length ∧
      ((e.2.walk (fun attr => !attr.system) depth e.1).length =
        (e.2.walk (fun _ => true) depth e.1).length → e.2.All AllFound)) :
    (walkFound depth es).length ≤ (walkAll depth es).length ∧
      ((walkFound depth es).length = (walkAll depth es).length → Throughout AllFound es) := by
  induction es with
  | nil => exact ⟨Nat.le_refl _, fun _ => ⟨fun e he => (by cases he), trivial⟩⟩
  | cons e es ih =>
      obtain ⟨hle, heq⟩ := h e List.mem_cons_self
      obtain ⟨hles, heqs⟩ := ih fun e' he' => h e' (List.mem_cons_of_mem _ he')
      have hpos : 0 < (e.2.walk (fun _ => true) depth e.1).length := by
        obtain ⟨v, hv, _⟩ := exists_depth e.2 depth e.1 0 (Nat.zero_le _)
        exact List.length_pos_of_mem hv
      rw [walkAll_cons, List.length_append]
      by_cases hsystem : e.2.attr.system = true
      · rw [walkFound_cons_system depth es hsystem]
        exact ⟨by omega, fun hno => by omega⟩
      · rw [Bool.not_eq_true] at hsystem
        rw [walkFound_cons depth es hsystem, List.length_append]
        refine ⟨by omega, fun hsame => ?_⟩
        obtain ⟨hfound, hbelow⟩ := heqs (by omega)
        constructor
        · intro e' he'
          rcases List.mem_cons.mp he' with rfl | he'
          · exact hsystem
          · exact hfound e' he'
        · rw [AllBelow]
          exact ⟨heq (by omega), hbelow⟩

theorem Node.walkFound_length (node : Node ν) : ∀ (depth : Nat) (name : ν),
    (node.walk (fun attr => !attr.system) depth name).length ≤
        (node.walk (fun _ => true) depth name).length ∧
      ((node.walk (fun attr => !attr.system) depth name).length =
        (node.walk (fun _ => true) depth name).length → node.All AllFound) := by
  induction node using Node.induct with
  | file attr =>
      intro depth name
      rw [Node.walk, Node.walk, Node.All]
      exact ⟨Nat.le_refl _, fun _ => trivial⟩
  | dir attr es ih =>
      intro depth name
      obtain ⟨hle, heq⟩ := walkFound_length_of_entries fun e he => ih e he (depth + 1) e.1
      rw [Node.walk, Node.walk, Node.All, List.length_cons, List.length_cons]
      exact ⟨Nat.succ_le_succ hle, fun hsame => heq (Nat.succ.inj hsame)⟩

theorem walkFound_of_entries {depth : Nat} {es : Entries ν} (hfound : AllFound es)
    (h : ∀ e ∈ es, e.2.walk (fun attr => !attr.system) depth e.1 =
      e.2.walk (fun _ => true) depth e.1) : walkFound depth es = walkAll depth es := by
  induction es with
  | nil => rfl
  | cons e es ih =>
      rw [walkFound_cons depth es (hfound e List.mem_cons_self), walkAll_cons,
        h e List.mem_cons_self, ih (fun e' he' => hfound e' (List.mem_cons_of_mem _ he'))
          fun e' he' => h e' (List.mem_cons_of_mem _ he')]

theorem Node.walkFound_eq (node : Node ν) : ∀ (depth : Nat) (name : ν), node.All AllFound →
    node.walk (fun attr => !attr.system) depth name = node.walk (fun _ => true) depth name := by
  induction node using Node.induct with
  | file attr =>
      intro depth name _
      rw [Node.walk, Node.walk]
  | dir attr es ih =>
      intro depth name hall
      rw [Node.All, allBelow_iff] at hall
      rw [Node.walk, Node.walk]
      exact congrArg (_ :: ·) (walkFound_of_entries hall.1 fun e he =>
        ih e he (depth + 1) e.1 (hall.2 e he))

theorem walkFound_of_allFound {depth : Nat} {es : Entries ν} (h : Throughout AllFound es) :
    walkFound depth es = walkAll depth es :=
  walkFound_of_entries h.1 fun e he => e.2.walkFound_eq depth e.1 (allBelow_iff.mp h.2 e he)

/-- **Searches find a tree as a whole** exactly if no entry has the system attribute. -/
theorem walkFound_length_iff {depth : Nat} {es : Entries ν} :
    (walkFound depth es).length = (walkAll depth es).length ↔ Throughout AllFound es := by
  constructor
  · exact (walkFound_length_of_entries fun e _ => e.2.walkFound_length depth e.1).2
  · intro hall
    rw [walkFound_of_allFound hall]

/-! ## Cursors -/

/-- What lies around a directory that was entered. -/
structure Level (ν : Type) where
  before : Entries ν
  name : ν
  attr : Attr
  after : Entries ν

/-- A tree with a current directory. -/
structure Cursor (ν : Type) where
  here : Entries ν
  up : List (Level ν)

/-- The directory around a level whose own entries are `here`. -/
def Level.close (level : Level ν) (here : Entries ν) : Entries ν :=
  level.before ++ (level.name, .dir level.attr here) :: level.after

namespace Cursor

/-- Go to the parent of the current directory. -/
def leave (c : Cursor ν) : Option (Cursor ν) :=
  match c.up with
  | [] => none
  | level :: up => some ⟨level.close c.here, up⟩

/-- Go to the root. -/
def top (c : Cursor ν) : Cursor ν := ⟨c.up.foldl (fun here level => level.close here) c.here, []⟩

theorem top_of_up_nil {c : Cursor ν} (h : c.up = []) : c.top = c := by
  obtain ⟨here, up⟩ := c
  obtain rfl : up = [] := h
  rfl

end Cursor

variable [DecidableEq ν]

/-- The entry of a name, with what lies before and behind it. -/
def split (name : ν) : Entries ν → Option (Entries ν × Node ν × Entries ν)
  | [] => none
  | e :: es =>
    if e.1 = name then some ([], e.2, es)
    else (split name es).map fun found => (e :: found.1, found.2)

theorem split_append {name : ν} {node : Node ν} {before after : Entries ν}
    (h : name ∉ before.map Prod.fst) :
    split name (before ++ (name, node) :: after) = some (before, node, after) := by
  induction before with
  | nil => simp [split]
  | cons e before ih =>
      rw [List.map_cons, List.mem_cons, not_or] at h
      rw [List.cons_append, split, if_neg fun heq => h.1 heq.symm, ih h.2]
      rfl

namespace Cursor

/-- Go into a directory of the current one. -/
def enter (name : ν) (c : Cursor ν) : Option (Cursor ν) :=
  match split name c.here with
  | some (before, .dir attr es, after) => some ⟨es, ⟨before, name, attr, after⟩ :: c.up⟩
  | _ => none

/-- Delete a file of the current directory. -/
def delete (name : ν) (c : Cursor ν) : Option (Cursor ν) :=
  match split name c.here with
  | some (before, .file attr, after) => if attr.locked then none else some ⟨before ++ after, c.up⟩
  | _ => none

/-- Delete an empty directory of the current one. -/
def rmdir (name : ν) (c : Cursor ν) : Option (Cursor ν) :=
  match split name c.here with
  | some (before, .dir attr [], after) => if attr.locked then none else some ⟨before ++ after, c.up⟩
  | _ => none

section Named

variable {name : ν} {before after : Entries ν} {attr : Attr} {up : List (Level ν)}

theorem enter_dir {es : Entries ν} (h : name ∉ before.map Prod.fst) :
    enter name ⟨before ++ (name, .dir attr es) :: after, up⟩ =
      some ⟨es, ⟨before, name, attr, after⟩ :: up⟩ := by
  unfold enter
  rw [split_append h]

theorem enter_file (h : name ∉ before.map Prod.fst) :
    enter name ⟨before ++ (name, .file attr) :: after, up⟩ = none := by
  unfold enter
  rw [split_append h]

theorem delete_file (h : name ∉ before.map Prod.fst) :
    delete name ⟨before ++ (name, .file attr) :: after, up⟩ =
      if attr.locked then none else some ⟨before ++ after, up⟩ := by
  unfold delete
  rw [split_append h]

theorem rmdir_empty (h : name ∉ before.map Prod.fst) :
    rmdir name ⟨before ++ (name, .dir attr []) :: after, up⟩ =
      if attr.locked then none else some ⟨before ++ after, up⟩ := by
  unfold rmdir
  rw [split_append h]

theorem rmdir_not_empty {e : ν × Node ν} {es : Entries ν} (h : name ∉ before.map Prod.fst) :
    rmdir name ⟨before ++ (name, .dir attr (e :: es)) :: after, up⟩ = none := by
  unfold rmdir
  rw [split_append h]

end Named

end Cursor

end FileTree
