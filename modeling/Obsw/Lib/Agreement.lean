import Obsw.Lib.Loop

/-!
# `Lib.Agreement` — a system and its reference

A *reference* answers the calls of a system over states of its own, which say no more than what the
system is for; `abs` gives the state of the reference that a state of the system stands for. A call on
which the system does what the reference does *agrees*, and a run agrees if all its calls do, with the
reference going its own way beside the system.
-/

namespace Agreement

open Loop

variable {ε α σ τ : Type}

/-- The call has the answer of the reference, and leads where it leads. -/
def Agrees (step : ε → σ → α × σ) (reference : ε → τ → α × τ) (abs : σ → τ) (e : ε) (s : σ) : Prop :=
  (step e s).1 = (reference e (abs s)).1 ∧ abs (step e s).2 = (reference e (abs s)).2

/-- The answers are those of the reference, and so is the state behind every call. -/
def AgreeAlong (step : ε → σ → α × σ) (reference : ε → τ → α × τ) (abs : σ → τ) :
    List ε → σ → τ → Prop
  | [],      _, _ => True
  | e :: es, s, t =>
    ((step e s).1 = (reference e t).1 ∧ abs (step e s).2 = (reference e t).2) ∧
      AgreeAlong step reference abs es (step e s).2 (reference e t).2

/-- **Agreement rule.** If under an invariant the good calls are those that agree, a run of calls agrees
    with the reference exactly if they are good where they are made. -/
theorem agreeAlong_iff {step : ε → σ → α × σ} {reference : ε → τ → α × τ} {abs : σ → τ} {I : σ → Prop}
    {good : ε → σ → Prop} (hkeep : ∀ e s, I s → I (step e s).2) :
    ∀ (es : List ε) (s : σ), (∀ e ∈ es, ∀ s, I s → (Agrees step reference abs e s ↔ good e s)) → I s →
      (AgreeAlong step reference abs es s (abs s) ↔
        AlongRun good (fun e s => (step e s).2) es s) := by
  intro es
  induction es with
  | nil => exact fun _ _ _ => Iff.rfl
  | cons e es ih =>
      intro s hstep hI
      have hrest := ih (step e s).2 (fun e' he' => hstep e' (List.mem_cons_of_mem _ he')) (hkeep e s hI)
      have hhere := hstep e List.mem_cons_self s hI
      constructor
      · rintro ⟨hagrees, halong⟩
        rw [← hagrees.2] at halong
        exact ⟨hhere.mp hagrees, hrest.mp halong⟩
      · rintro ⟨hgood, halong⟩
        have hagrees := hhere.mpr hgood
        refine ⟨hagrees, ?_⟩
        rw [← hagrees.2]
        exact hrest.mpr halong

end Agreement
