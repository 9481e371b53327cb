import Mathlib.Data.List.Basic

/-!
# `Lib.Handles` — handles that are opened and closed

A library hands out handles and takes them back through pointers, which may also be null or hold what was
never a handle. `run` follows the calls of such a library, with the handles that are open; a close of
anything but an open handle has no outcome. Calls are `Disciplined` if they start with no open handle
and end with none.

## Contents
- `run_append`: calls are put together.
- `Disciplined.not_append_closed`: a close too many.
- `Disciplined.count_eq`: every handle is closed as often as it is opened.
- `Disciplined.exists_of_closed`: what is closed is a handle that was opened.
-/

namespace Handles

/-- What a pointer to a handle holds. -/
inductive Pointer (η : Type) where
  | null
  | garbage
  | handle (h : η)
  deriving DecidableEq, Repr

/-- A call: a handle is given out, or one is taken back through a pointer. -/
inductive Call (η : Type) where
  | opened (h : η)
  | closed (p : Pointer η)
  deriving DecidableEq, Repr

variable {η : Type} [DecidableEq η]

/-- The open handles behind the calls. A handle that is open is not given out. -/
def run : List (Call η) → List η → Option (List η)
  | [],                              held => some held
  | .opened h :: calls,              held => if h ∈ held then none else run calls (h :: held)
  | .closed (.handle h) :: calls,    held => if h ∈ held then run calls (held.erase h) else none
  | .closed .null :: _,              _ => none
  | .closed .garbage :: _,           _ => none

/-- Every handle is closed once while it is open, and nothing else is closed. -/
def Disciplined (calls : List (Call η)) : Prop := run calls [] = some []

instance (calls : List (Call η)) : Decidable (Disciplined calls) :=
  inferInstanceAs (Decidable (run calls [] = some []))

/-- A guard closes what a pointer holds unless it is null. -/
def guardClose : Pointer η → List (Call η)
  | .null => []
  | p => [.closed p]

variable {calls calls' : List (Call η)} {held held' : List η}

theorem run_append (calls calls' : List (Call η)) (held : List η) :
    run (calls ++ calls') held = (run calls held).bind (run calls') := by
  fun_induction run calls held with
  | case1 held => rfl
  | case2 h calls held hmem => simp [run, hmem]
  | case3 h calls held hmem ih => simpa [run, hmem] using ih
  | case4 h calls held hmem ih => simpa [run, hmem] using ih
  | case5 h calls held hmem => simp [run, hmem]
  | case6 => rfl
  | case7 => rfl

omit [DecidableEq η] in
theorem guardClose_of_ne_null {p : Pointer η} (h : p ≠ .null) : guardClose p = [.closed p] := by
  cases p with
  | null => exact absurd rfl h
  | garbage => rfl
  | handle h => rfl

theorem disciplined_nil : Disciplined ([] : List (Call η)) := rfl

/-- A handle is opened and closed. -/
theorem disciplined_open_close (h : η) : Disciplined [.opened h, .closed (.handle h)] := by
  simp [Disciplined, run]

/-- Behind disciplined calls, there is nothing left to close. -/
theorem Disciplined.not_append_closed (h : Disciplined calls) (p : Pointer η) :
    ¬ Disciplined (calls ++ [.closed p]) := by
  rw [Disciplined, run_append, h]
  cases p with
  | null => simp [run]
  | garbage => simp [run]
  | handle h => simp [run]

/-- Handles are neither lost nor made up. -/
theorem run_count (h : η) (hrun : run calls held = some held') :
    held.count h + calls.count (.opened h) = held'.count h + calls.count (.closed (.handle h)) := by
  fun_induction run calls held with
  | case1 held =>
      obtain rfl := Option.some.inj hrun
      simp
  | case2 => cases hrun
  | case3 h₁ calls held hmem ih =>
      have hrest := ih hrun
      rw [List.count_cons] at hrest
      simp only [List.count_cons, reduceCtorEq, beq_iff_eq, Call.opened.injEq, if_false]
      by_cases heq : h₁ = h
      · simp only [heq, beq_self_eq_true, if_true] at hrest ⊢
        omega
      · simp only [heq, beq_iff_eq, if_false] at hrest ⊢
        omega
  | case4 h₁ calls held hmem ih =>
      have hrest := ih hrun
      simp only [List.count_cons, reduceCtorEq, beq_iff_eq, Call.closed.injEq, Pointer.handle.injEq,
        if_false]
      by_cases heq : h₁ = h
      · subst heq
        have hpos := List.count_pos_iff.mpr hmem
        rw [List.count_erase_self] at hrest
        simp only [if_true]
        omega
      · rw [List.count_erase_of_ne (Ne.symm heq)] at hrest
        simp only [heq, if_false]
        omega
  | case5 => cases hrun
  | case6 => cases hrun
  | case7 => cases hrun

/-- **Every handle is closed as often as it is opened.** -/
theorem Disciplined.count_eq (hcalls : Disciplined calls) (h : η) :
    calls.count (.opened h) = calls.count (.closed (.handle h)) := by
  simpa using run_count h hcalls

/-- What can be closed is a handle. -/
theorem exists_of_run {p : Pointer η} (hrun : run calls held = some held') (hmem : .closed p ∈ calls) :
    ∃ h, p = .handle h := by
  fun_induction run calls held with
  | case1 => cases hmem
  | case2 => cases hrun
  | case3 h calls held hnot ih =>
      rcases List.mem_cons.mp hmem with heq | hmem
      · cases heq
      · exact ih hrun hmem
  | case4 h calls held hheld ih =>
      rcases List.mem_cons.mp hmem with heq | hmem
      · cases heq
        exact ⟨h, rfl⟩
      · exact ih hrun hmem
  | case5 => cases hrun
  | case6 => cases hrun
  | case7 => cases hrun

/-- **What is closed is a handle that was opened.** -/
theorem Disciplined.exists_of_closed (hcalls : Disciplined calls) {p : Pointer η}
    (hmem : .closed p ∈ calls) : ∃ h, p = .handle h ∧ .opened h ∈ calls := by
  obtain ⟨h, rfl⟩ := exists_of_run hcalls hmem
  refine ⟨h, rfl, ?_⟩
  have hcount := hcalls.count_eq h
  have hpos := List.count_pos_iff.mpr hmem
  exact List.count_pos_iff.mp (by omega)

end Handles
