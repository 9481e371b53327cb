import Mathlib.Data.List.Basic

/-!
# `Lib.Budget` — choosing among candidates that have used up tries

Candidates are tried in order of priority; a candidate whose counter has reached the limit is passed
over. `pick` is the policy: what it picks has tries left (`pick_lt`), so a candidate whose counter is at
the limit is never picked again as long as no counter goes down.
-/

namespace Budget

variable {κ : Type} {counter : κ → Nat} {limit : Nat} {candidates : List κ} {k : κ}

/-- The first candidate whose counter is below the limit. -/
def pick (counter : κ → Nat) (limit : Nat) (candidates : List κ) : Option κ :=
  candidates.find? fun k => decide (counter k < limit)

@[simp] theorem pick_nil : pick counter limit [] = none := rfl

theorem pick_cons_of_lt (h : counter k < limit) : pick counter limit (k :: candidates) = some k := by
  simp [pick, h]

theorem pick_cons_of_le (h : limit ≤ counter k) :
    pick counter limit (k :: candidates) = pick counter limit candidates := by
  simp [pick, Nat.not_lt.mpr h]

theorem pick_append (xs ys : List κ) :
    pick counter limit (xs ++ ys) = (pick counter limit xs).or (pick counter limit ys) :=
  List.find?_append

/-- A picked candidate has tries left. -/
theorem pick_lt (h : pick counter limit candidates = some k) : counter k < limit := by
  simpa using List.find?_some h

/-- Nothing is picked exactly when every candidate is exhausted. -/
theorem pick_eq_none : pick counter limit candidates = none ↔ ∀ k ∈ candidates, limit ≤ counter k := by
  simp [pick, List.find?_eq_none]

end Budget
