import Mathlib.Data.List.Basic

/-!
# `Lib.Requests` — requests served one at a time

A server takes up a request, works on it for some time and answers it; until then it takes up no other.
What it does in a run is a log of the requests it took up and the answers it gave. `Serves good p log q`
says that the log goes from the open request `p` to the open request `q` with each request answered
once, before the next one is taken up, by an answer that is `good` for it.

## Contents
- `Serves.append`, `Serves.request_snoc`, `Serves.answer_snoc`: logs are put together.
- `Serves.none_of_request`, `Serves.some_of_answer`: what the first entry says of the open request.
- `Serves.forall₂`: the i-th request is answered by the i-th answer, and only the open request is left.
-/

namespace Requests

/-- An entry of a log. -/
inductive Event (ρ α : Type) where
  | request (r : ρ)
  | answer (a : α)
  deriving DecidableEq, Repr

variable {ρ α : Type} {good : ρ → α → Prop}

/-- The log goes from one open request (or none) to another, and each request in it is served. -/
inductive Serves (good : ρ → α → Prop) : Option ρ → List (Event ρ α) → Option ρ → Prop where
  | nil {p} : Serves good p [] p
  | request {r log q} : Serves good (some r) log q → Serves good none (.request r :: log) q
  | answer {r a log q} : good r a → Serves good none log q → Serves good (some r) (.answer a :: log) q

/-- The requests of a log. -/
def requests (log : List (Event ρ α)) : List ρ :=
  log.filterMap fun
    | .request r => some r
    | .answer _ => none

/-- The answers of a log. -/
def answers (log : List (Event ρ α)) : List α :=
  log.filterMap fun
    | .request _ => none
    | .answer a => some a

namespace Serves

variable {p q t : Option ρ} {log log' : List (Event ρ α)} {r : ρ} {a : α}

theorem append (h : Serves good p log q) (h' : Serves good q log' t) :
    Serves good p (log ++ log') t := by
  induction h with
  | nil => exact h'
  | request _ ih => exact .request (ih h')
  | answer hgood _ ih => exact .answer hgood (ih h')

/-- A server with no open request takes one up. -/
theorem request_snoc (h : Serves good p log none) : Serves good p (log ++ [.request r]) (some r) :=
  h.append (.request .nil)

/-- The open request is answered. -/
theorem answer_snoc (h : Serves good p log (some r)) (hgood : good r a) :
    Serves good p (log ++ [.answer a]) none :=
  h.append (.answer hgood .nil)

theorem none_of_request (h : Serves good p (.request r :: log) q) :
    p = none ∧ Serves good (some r) log q := by
  cases h with
  | request h => exact ⟨rfl, h⟩

theorem some_of_answer (h : Serves good p (.answer a :: log) q) :
    ∃ r, p = some r ∧ good r a ∧ Serves good none log q := by
  cases h with
  | answer hgood h => exact ⟨_, rfl, hgood, h⟩

/-- **Each request has its answer.** The i-th request is answered by the i-th answer; the open request
    alone is not answered yet, and there is no other answer. -/
theorem forall₂ (h : Serves good p log q) :
    ∃ served, p.toList ++ requests log = served ++ q.toList ∧
      List.Forall₂ good served (answers log) := by
  induction h with
  | nil => exact ⟨[], by simp [requests], .nil⟩
  | @request r log q _ ih =>
    obtain ⟨served, hrequests, hgood⟩ := ih
    exact ⟨served, hrequests, hgood⟩
  | @answer r a log q hgood _ ih =>
    obtain ⟨served, hrequests, hserved⟩ := ih
    refine ⟨r :: served, ?_, .cons hgood hserved⟩
    exact congrArg (r :: ·) hrequests

end Serves

end Requests
