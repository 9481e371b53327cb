import Mathlib.Data.List.Nodup
import Mathlib.Logic.Function.Basic

/-!
# `Lib.Guards` — binary semaphores that guard what is in flight

Each key has a binary semaphore. Something is launched under a key once its semaphore is acquired, and
when it lands the semaphore is released. `Paired` says that a semaphore is taken exactly while something
is in flight under its key, and then only one thing. It is kept by the two pairs of operations,
`acquire` with `launch` and `land` with `release`, and by no single one of them.
-/

/-- The semaphores that are taken, and the keys of what is in flight. -/
structure Guards (κ : Type) where
  taken : κ → Bool
  inFlight : List κ

namespace Guards

variable {κ : Type} [DecidableEq κ]

/-- All semaphores are free, and nothing is in flight. -/
def free : Guards κ := ⟨fun _ => false, []⟩

/-- `none`: the semaphore is taken. -/
def acquire (k : κ) (g : Guards κ) : Option (Guards κ) :=
  if g.taken k then none else some { g with taken := Function.update g.taken k true }

def release (k : κ) (g : Guards κ) : Guards κ := { g with taken := Function.update g.taken k false }

def launch (k : κ) (g : Guards κ) : Guards κ := { g with inFlight := g.inFlight ++ [k] }

def land (k : κ) (g : Guards κ) : Guards κ := { g with inFlight := g.inFlight.erase k }

/-- What is in flight under these keys is given up. -/
def drop (ks : List κ) (g : Guards κ) : Guards κ :=
  { g with inFlight := g.inFlight.filter fun k => k ∉ ks }

/-- A semaphore is taken exactly while something is in flight under its key. -/
structure Paired (g : Guards κ) : Prop where
  nodup : g.inFlight.Nodup
  taken_iff : ∀ k, g.taken k = true ↔ k ∈ g.inFlight

variable {g g' : Guards κ} {k : κ}

omit [DecidableEq κ] in
theorem paired_free : Paired (free : Guards κ) :=
  ⟨List.nodup_nil, fun _ => ⟨fun h => absurd h Bool.false_ne_true, fun h => absurd h List.not_mem_nil⟩⟩

theorem acquire_eq_none : g.acquire k = none ↔ g.taken k = true := by
  unfold acquire
  split
  · simp [*]
  · simp [*]

theorem acquire_eq_some (h : g.acquire k = some g') :
    g.taken k = false ∧ g' = { g with taken := Function.update g.taken k true } := by
  unfold acquire at h
  split at h
  · cases h
  · exact ⟨by simpa using ‹¬ g.taken k = true›, (Option.some.inj h).symm⟩

/-- Taking a semaphore and giving it back is nothing. -/
theorem release_of_acquire (h : g.acquire k = some g') : g'.release k = g := by
  obtain ⟨hfree, rfl⟩ := acquire_eq_some h
  rw [release, Function.update_idem, ← hfree, Function.update_eq_self]

namespace Paired

/-- What is launched under a semaphore that was free is guarded by it. -/
theorem launch (h : Paired g) (hacquire : g.acquire k = some g') : Paired (g'.launch k) := by
  obtain ⟨hfree, rfl⟩ := acquire_eq_some hacquire
  have hnot : k ∉ g.inFlight := fun hmem => by
    rw [(h.taken_iff k).mpr hmem] at hfree
    cases hfree
  refine ⟨(List.perm_append_singleton _ _).nodup_iff.mpr (List.nodup_cons.mpr ⟨hnot, h.nodup⟩), ?_⟩
  intro j
  by_cases hj : j = k
  · simp [Guards.launch, hj]
  · simp [Guards.launch, hj, h.taken_iff j]

/-- What lands releases its semaphore. -/
theorem land (h : Paired g) (k : κ) : Paired ((g.land k).release k) := by
  refine ⟨h.nodup.erase k, fun j => ?_⟩
  by_cases hj : j = k
  · subst hj
    simp [Guards.land, release, h.nodup.not_mem_erase]
  · simp [Guards.land, release, hj, h.taken_iff j, List.mem_erase_of_ne hj]

theorem drop (h : Paired g) {ks : List κ} (hks : ∀ k ∈ ks, k ∉ g.inFlight) :
    Paired (g.drop ks) := by
  have hsame : g.drop ks = g := by
    have hfilter : g.inFlight.filter (fun k => k ∉ ks) = g.inFlight := by
      rw [List.filter_eq_self]
      intro k hk
      simpa using fun hmem => hks k hmem hk
    rw [Guards.drop, hfilter]
  rwa [hsame]

end Paired
end Guards
