import Mathlib.Data.List.Basic

/-!
# `Lib.Loop` — loops driven by a schedule

A loop whose passes depend on something outside the program (a device, a clock) reads one entry of a
*schedule* at the start of each pass. `whileLoop cond body` runs `body` while `cond` holds; a pass goes
on with a new state (`Flow.next`) or returns from the enclosing function (`Flow.ret`). The loop is
structural on the schedule, and `none` says that the schedule ended before the loop did.

## Contents
- **Invariant rule.** `whileLoop_induct`: what every pass preserves, and every pass establishes when
  it returns, holds of the outcome. The rule assumes a condition `good` only of the passes the loop
  really makes (`Along`; `along_of_along` leads from one condition to another). `whileLoop_total`,
  `whileLoop_terminates`: a loop that decreases a measure ends.
- **Construction of runs.** `passes` runs a whole schedule without leaving the loop;
  `whileLoop_append` puts runs together.
- **Endless runs.** `run step` is a system that never returns; `AlongRun` assumes a condition of the
  steps it makes, and `run_rel` lifts a relation from one step to a run. `shown` collects what the
  steps show: `shown_pairwise` is the rule for showing that it does not go down, `shown_congr` that it is
  the same from like states.
-/

namespace Loop

/-- What one pass of a loop does: go on, or return from the enclosing function. -/
inductive Flow (ρ σ : Type) where
  | next (s : σ)
  | ret (r : ρ) (s : σ)

variable {ε ρ σ : Type}

/-- Run `body` while `cond` holds, one schedule entry for each pass. -/
def whileLoop (cond : σ → Bool) (body : ε → σ → Option (Flow ρ σ)) :
    List ε → σ → Option (Flow ρ σ)
  | [],      s => if cond s then none else some (.next s)
  | e :: es, s =>
    if cond s then
      match body e s with
      | none => none
      | some (.next s') => whileLoop cond body es s'
      | some (.ret r s') => some (.ret r s')
    else some (.next s)

/-- `good` holds at every pass the loop makes on this schedule. -/
def Along (good : ε → σ → Prop) (cond : σ → Bool) (body : ε → σ → Option (Flow ρ σ)) :
    List ε → σ → Prop
  | [],      _ => True
  | e :: es, s => cond s = true → good e s ∧ ∀ s', body e s = some (.next s') →
      Along good cond body es s'

/-! ## The invariant rule -/

section Rule

variable {cond : σ → Bool} {body : ε → σ → Option (Flow ρ σ)} {good : ε → σ → Prop}
  {I : σ → Prop} {Q : ρ → σ → Prop}

/-- **Invariant rule.** If every good pass keeps `I` when it goes on and establishes `Q` when it
    returns, the loop ends with `I` and its condition false, or returns with `Q`. -/
theorem whileLoop_induct (cond : σ → Bool) (body : ε → σ → Option (Flow ρ σ))
    (hnext : ∀ e s s', I s → cond s = true → good e s → body e s = some (.next s') → I s')
    (hret : ∀ e s r s', I s → cond s = true → good e s → body e s = some (.ret r s') → Q r s') :
    ∀ (es : List ε) (s : σ), I s → Along good cond body es s →
      (∀ s', whileLoop cond body es s = some (.next s') → I s' ∧ cond s' = false) ∧
      (∀ r s', whileLoop cond body es s = some (.ret r s') → Q r s') := by
  intro es
  induction es with
  | nil =>
      intro s hI _
      by_cases hc : cond s = true
      · simp [whileLoop, hc]
      · constructor
        · intro s' h
          simp only [whileLoop, hc, Bool.false_eq_true, if_false, Option.some.injEq,
            Flow.next.injEq] at h
          subst h
          exact ⟨hI, by simpa using hc⟩
        · intro r s' h
          simp [whileLoop, hc] at h
  | cons e es ih =>
      intro s hI hgood
      by_cases hc : cond s = true
      · obtain ⟨hg, hrest⟩ := hgood hc
        cases hb : body e s with
        | none => simp [whileLoop, hc, hb]
        | some fl =>
            cases fl with
            | next s₁ =>
                simp only [whileLoop, hc, if_true, hb]
                exact ih s₁ (hnext e s s₁ hI hc hg hb) (hrest s₁ hb)
            | ret r s₁ =>
                constructor
                · intro s' h
                  simp [whileLoop, hc, hb] at h
                · intro r' s' h
                  simp only [whileLoop, hc, if_true, hb, Option.some.injEq, Flow.ret.injEq] at h
                  obtain ⟨rfl, rfl⟩ := h
                  exact hret e s r s₁ hI hc hg hb
      · constructor
        · intro s' h
          simp only [whileLoop, hc, Bool.false_eq_true, if_false, Option.some.injEq,
            Flow.next.injEq] at h
          subst h
          exact ⟨hI, by simpa using hc⟩
        · intro r s' h
          simp [whileLoop, hc] at h

/-- **Total rule.** If every pass of the schedule returns with `Q`, or goes on, keeps `I` and decreases a
    measure, then on a schedule as long as the measure the loop ends: with its condition false, or by
    a pass that returned. -/
theorem whileLoop_total (cond : σ → Bool) (body : ε → σ → Option (Flow ρ σ))
    (entries : List ε) (m : σ → Nat)
    (hpos : ∀ s, I s → cond s = true → 0 < m s)
    (hstep : ∀ e ∈ entries, ∀ s, I s → cond s = true →
      (∃ s', body e s = some (.next s') ∧ I s' ∧ m s' < m s) ∨
        ∃ r s', body e s = some (.ret r s') ∧ Q r s') :
    ∀ s, I s → m s ≤ entries.length →
      (∃ s', whileLoop cond body entries s = some (.next s') ∧ I s' ∧ cond s' = false) ∨
        ∃ r s', whileLoop cond body entries s = some (.ret r s') ∧ Q r s' := by
  induction entries with
  | nil =>
      intro s hI hm
      have hc : cond s = false := by
        by_contra hc
        exact absurd (hpos s hI (by simpa using hc)) (Nat.not_lt.mpr hm)
      exact Or.inl ⟨s, by simp [whileLoop, hc], hI, hc⟩
  | cons e es ih =>
      intro s hI hm
      by_cases hc : cond s = true
      · simp only [whileLoop, hc, if_true]
        rcases hstep e List.mem_cons_self s hI hc with ⟨s₁, hb, hI₁, hlt⟩ | ⟨r, s₁, hb, hQ⟩
        · simp only [hb]
          exact ih (fun e' he' => hstep e' (List.mem_cons_of_mem _ he')) s₁ hI₁
            (by rw [List.length_cons] at hm; omega)
        · simp only [hb]
          exact Or.inr ⟨r, s₁, rfl, hQ⟩
      · have hc' : cond s = false := by simpa using hc
        exact Or.inl ⟨s, by simp [whileLoop, hc'], hI, hc'⟩

/-- **Termination rule.** If every pass of the schedule goes on, keeps `I` and decreases a measure,
    a schedule as long as the measure lets the loop end with its condition false. -/
theorem whileLoop_terminates (cond : σ → Bool) (body : ε → σ → Option (Flow ρ σ))
    (entries : List ε) (m : σ → Nat)
    (hpos : ∀ s, I s → cond s = true → 0 < m s)
    (hstep : ∀ e ∈ entries, ∀ s, I s → cond s = true →
      ∃ s', body e s = some (.next s') ∧ I s' ∧ m s' < m s) :
    ∀ s, I s → m s ≤ entries.length →
      ∃ s', whileLoop cond body entries s = some (.next s') ∧ I s' ∧ cond s' = false := by
  intro s hI hm
  have htotal := whileLoop_total (Q := fun _ _ => False) cond body entries m hpos
    (fun e he s hI hc => Or.inl (hstep e he s hI hc)) s hI hm
  rcases htotal with hend | ⟨_, _, _, hfalse⟩
  · exact hend
  · exact hfalse.elim

theorem along_true (es : List ε) (s : σ) : Along (fun _ _ => True) cond body es s := by
  induction es generalizing s with
  | nil => trivial
  | cons e es ih => exact fun _ => ⟨trivial, fun s' _ => ih s'⟩

/-- A condition that every entry of the schedule satisfies holds along it. -/
theorem along_of_mem {es : List ε} (h : ∀ e ∈ es, ∀ s, good e s) (s : σ) :
    Along good cond body es s := by
  induction es generalizing s with
  | nil => trivial
  | cons e es ih =>
      exact fun _ => ⟨h e List.mem_cons_self s,
        fun s' _ => ih (fun e' he' => h e' (List.mem_cons_of_mem _ he')) s'⟩

/-- Along a schedule, a condition may use an invariant of the passes. -/
theorem along_of_invariant (hgood : ∀ e s, I s → cond s = true → good e s)
    (hnext : ∀ e s s', I s → cond s = true → body e s = some (.next s') → I s') :
    ∀ (es : List ε) (s : σ), I s → Along good cond body es s := by
  intro es
  induction es with
  | nil => exact fun _ _ => trivial
  | cons e es ih => exact fun s hI hc => ⟨hgood e s hI hc, fun s' h => ih s' (hnext e s s' hI hc h)⟩

/-- Along a schedule of good passes holds what a good pass gives under an invariant. -/
theorem along_of_along {P : ε → σ → Prop}
    (hgive : ∀ e s, I s → cond s = true → good e s → P e s)
    (hnext : ∀ e s s', I s → good e s → body e s = some (.next s') → I s') :
    ∀ (es : List ε) (s : σ), I s → Along good cond body es s → Along P cond body es s := by
  intro es
  induction es with
  | nil => exact fun _ _ _ => trivial
  | cons e es ih =>
      intro s hI hgood hc
      obtain ⟨hg, hrest⟩ := hgood hc
      exact ⟨hgive e s hI hc hg, fun s' hs => ih s' (hnext e s s' hI hg hs) (hrest s' hs)⟩

end Rule

/-! ## Putting runs together -/

/-- Make one pass for each entry, all of them going on. -/
def passes (cond : σ → Bool) (body : ε → σ → Option (Flow ρ σ)) : List ε → σ → Option σ
  | [],      s => some s
  | e :: es, s =>
    if cond s then
      match body e s with
      | some (.next s') => passes cond body es s'
      | _ => none
    else none

section Construction

variable {cond : σ → Bool} {body : ε → σ → Option (Flow ρ σ)}

theorem passes_cons {e : ε} {es : List ε} {s s' : σ} (hc : cond s = true)
    (hb : body e s = some (.next s')) :
    passes cond body (e :: es) s = passes cond body es s' := by
  simp [passes, hc, hb]

/-- Passes that all go on begin with one that goes on. -/
theorem exists_of_passes_cons {e : ε} {es : List ε} {s s' : σ}
    (h : passes cond body (e :: es) s = some s') :
    cond s = true ∧ ∃ s₁, body e s = some (.next s₁) ∧ passes cond body es s₁ = some s' := by
  by_cases hc : cond s = true
  · cases hb : body e s with
    | none => simp [passes, hc, hb] at h
    | some fl =>
        cases fl with
        | next s₁ => exact ⟨hc, s₁, rfl, by rwa [passes_cons hc hb] at h⟩
        | ret r s₁ => simp [passes, hc, hb] at h
  · simp [passes, hc] at h

/-- Passes that all go on keep an invariant of good passes. -/
theorem passes_induct {good : ε → σ → Prop} {I : σ → Prop}
    (hnext : ∀ e s s', I s → good e s → body e s = some (.next s') → I s') :
    ∀ (es : List ε) (s s' : σ), I s → Along good cond body es s →
      passes cond body es s = some s' → I s' := by
  intro es
  induction es with
  | nil =>
      intro s s' hI _ h
      obtain rfl : s = s' := by simpa [passes] using h
      exact hI
  | cons e es ih =>
      intro s s' hI hgood h
      obtain ⟨hc, s₁, hb, hrest⟩ := exists_of_passes_cons h
      obtain ⟨hg, halong⟩ := hgood hc
      exact ih s₁ s' (hnext e s s₁ hI hg hb) (halong s₁ hb) hrest

/-- A loop that makes these passes goes on with the rest of its schedule. -/
theorem whileLoop_append {es es' : List ε} {s s' : σ} (h : passes cond body es s = some s') :
    whileLoop cond body (es ++ es') s = whileLoop cond body es' s' := by
  induction es generalizing s with
  | nil =>
      obtain rfl : s = s' := by simpa [passes] using h
      rfl
  | cons e es ih =>
      obtain ⟨hc, s₁, hb, hrest⟩ := exists_of_passes_cons h
      simp only [List.cons_append, whileLoop, hc, if_true, hb]
      exact ih hrest

theorem whileLoop_ret {e : ε} {es : List ε} {s s' : σ} {r : ρ} (hc : cond s = true)
    (hb : body e s = some (.ret r s')) :
    whileLoop cond body (e :: es) s = some (.ret r s') := by
  simp [whileLoop, hc, hb]

theorem whileLoop_next {e : ε} {es : List ε} {s s' : σ} (hc : cond s = true)
    (hb : body e s = some (.next s')) :
    whileLoop cond body (e :: es) s = whileLoop cond body es s' := by
  simp [whileLoop, hc, hb]

theorem whileLoop_exit {es : List ε} {s : σ} (hc : cond s = false) :
    whileLoop cond body es s = some (.next s) := by
  cases es <;> simp [whileLoop, hc]

end Construction

/-! ## Endless runs -/

/-- The state behind the steps of a schedule. -/
def run (step : ε → σ → σ) (es : List ε) (s : σ) : σ := es.foldl (fun s e => step e s) s

/-- `good` holds at every step of the run. -/
def AlongRun (good : ε → σ → Prop) (step : ε → σ → σ) : List ε → σ → Prop
  | [],      _ => True
  | e :: es, s => good e s ∧ AlongRun good step es (step e s)

instance decidableAlongRun (good : ε → σ → Prop) [∀ e s, Decidable (good e s)] (step : ε → σ → σ) :
    ∀ es s, Decidable (AlongRun good step es s)
  | [],      _ => .isTrue trivial
  | e :: es, s =>
    have := decidableAlongRun good step es (step e s)
    inferInstanceAs (Decidable (good e s ∧ AlongRun good step es (step e s)))

section Run

variable {step : ε → σ → σ} {good : ε → σ → Prop}

@[simp] theorem run_nil (s : σ) : run step [] s = s := rfl

@[simp] theorem run_cons (e : ε) (es : List ε) (s : σ) :
    run step (e :: es) s = run step es (step e s) := rfl

theorem run_append (es es' : List ε) (s : σ) :
    run step (es ++ es') s = run step es' (run step es s) := List.foldl_append

theorem alongRun_append {es es' : List ε} {s : σ} :
    AlongRun good step (es ++ es') s ↔
      AlongRun good step es s ∧ AlongRun good step es' (run step es s) := by
  induction es generalizing s with
  | nil => simp [AlongRun]
  | cons e es ih => simp only [List.cons_append, AlongRun, ih, run_cons, and_assoc]

/-- The condition at a step in the middle of the run. -/
theorem alongRun_at {pre post : List ε} {e : ε} {s : σ}
    (h : AlongRun good step (pre ++ e :: post) s) : good e (run step pre s) :=
  (alongRun_append.mp h).2.1

/-- **Relation rule.** A preorder that every good step respects relates both ends of a run. -/
theorem run_rel {R : σ → σ → Prop} (hrefl : ∀ s, R s s)
    (htrans : ∀ a b c, R a b → R b c → R a c) (hstep : ∀ e s, good e s → R s (step e s)) :
    ∀ (es : List ε) (s : σ), AlongRun good step es s → R s (run step es s) := by
  intro es
  induction es with
  | nil => exact fun s _ => hrefl s
  | cons e es ih => exact fun s h => htrans _ _ _ (hstep e s h.1) (ih _ h.2)

/-- **Invariant rule.** What every good step keeps holds behind the run. -/
theorem run_invariant {I : σ → Prop} (hstep : ∀ e s, I s → good e s → I (step e s)) :
    ∀ (es : List ε) (s : σ), I s → AlongRun good step es s → I (run step es s) := by
  intro es s hI h
  refine run_rel (R := fun a b => I a → I b) (fun _ h => h) (fun _ _ _ hab hbc h => hbc (hab h))
    (fun e s hg hI => hstep e s hI hg) es s h hI

/-- Runs from like states end in like states, if every step keeps them alike. -/
theorem run_congr {R : σ → σ → Prop} (hstep : ∀ e s t, R s t → R (step e s) (step e t)) :
    ∀ (es : List ε) (s t : σ), R s t → R (run step es s) (run step es t) := by
  intro es
  induction es with
  | nil => exact fun _ _ h => h
  | cons e es ih => exact fun s t h => ih _ _ (hstep e s t h)

/-- **Exact invariant rule.** If under `I` the good steps are those that keep it, `I` holds at every
    point of a run exactly if its steps are good. -/
theorem forall_run_iff {I : σ → Prop} (hstep : ∀ e s, I s → (I (step e s) ↔ good e s)) :
    ∀ (es : List ε) (s : σ), I s →
      ((∀ reached, reached <+: es → I (run step reached s)) ↔ AlongRun good step es s) := by
  intro es
  induction es with
  | nil =>
      intro s hI
      refine iff_of_true (fun reached hreached => ?_) trivial
      rw [List.prefix_nil.mp hreached]
      exact hI
  | cons e es ih =>
      intro s hI
      constructor
      · intro h
        have hnext : I (step e s) := h [e] ⟨es, rfl⟩
        refine ⟨(hstep e s hI).mp hnext, (ih _ hnext).mp fun reached hreached => ?_⟩
        exact h (e :: reached) (List.cons_prefix_cons.mpr ⟨rfl, hreached⟩)
      · rintro ⟨hgood, hrest⟩ reached hreached
        have hnext : I (step e s) := (hstep e s hI).mpr hgood
        cases reached with
        | nil => exact hI
        | cons e' reached =>
            obtain ⟨rfl, htail⟩ := List.cons_prefix_cons.mp hreached
            exact (ih _ hnext).mpr hrest reached htail

/-- Along a run of good steps holds what a good step gives under an invariant. -/
theorem alongRun_of_invariant {I : σ → Prop} {P : ε → σ → Prop}
    (hgive : ∀ e s, I s → good e s → P e s) (hstep : ∀ e s, I s → good e s → I (step e s)) :
    ∀ (es : List ε) (s : σ), I s → AlongRun good step es s → AlongRun P step es s := by
  intro es
  induction es with
  | nil => exact fun _ _ _ => trivial
  | cons e es ih =>
      intro s hI h
      exact ⟨hgive e s hI h.1, ih _ (hstep e s hI h.1) h.2⟩

theorem alongRun_true (es : List ε) (s : σ) : AlongRun (fun _ _ => True) step es s := by
  induction es generalizing s with
  | nil => trivial
  | cons e es ih => exact ⟨trivial, ih _⟩

theorem AlongRun.and {good' : ε → σ → Prop} {es : List ε} {s : σ} (h : AlongRun good step es s)
    (h' : AlongRun good' step es s) : AlongRun (fun e s => good e s ∧ good' e s) step es s := by
  induction es generalizing s with
  | nil => trivial
  | cons e es ih => exact ⟨⟨h.1, h'.1⟩, ih h.2 h'.2⟩

/-- Two conditions that agree under an invariant agree along a run. -/
theorem alongRun_congr_of_invariant {I : σ → Prop} {good' : ε → σ → Prop}
    (hstep : ∀ e s, I s → I (step e s)) (h : ∀ e s, I s → (good e s ↔ good' e s)) :
    ∀ (es : List ε) (s : σ), I s → (AlongRun good step es s ↔ AlongRun good' step es s) := by
  intro es
  induction es with
  | nil => exact fun _ _ => Iff.rfl
  | cons e es ih => exact fun s hI => and_congr (h e s hI) (ih _ (hstep e s hI))

theorem alongRun_congr {good' : ε → σ → Prop} (h : ∀ e s, good e s ↔ good' e s) (es : List ε) (s : σ) :
    AlongRun good step es s ↔ AlongRun good' step es s :=
  alongRun_congr_of_invariant (I := fun _ => True) (fun _ _ _ => trivial) (fun e s _ => h e s) es s trivial

/-- A condition that every step of the schedule satisfies holds along the run. -/
theorem alongRun_of_mem {es : List ε} (h : ∀ e ∈ es, ∀ s, good e s) (s : σ) :
    AlongRun good step es s := by
  induction es generalizing s with
  | nil => trivial
  | cons e es ih =>
      exact ⟨h e List.mem_cons_self s, ih (fun e' he' => h e' (List.mem_cons_of_mem _ he')) _⟩

end Run

/-! ## What a run shows -/

/-- What the steps of a run show, in order. -/
def shown {α : Type} (view : ε → σ → Option α) (step : ε → σ → σ) : List ε → σ → List α
  | [],      _ => []
  | e :: es, s => (view e s).toList ++ shown view step es (step e s)

section Shown

variable {α : Type} {view : ε → σ → Option α} {step : ε → σ → σ} {good : ε → σ → Prop}

theorem shown_append (es es' : List ε) (s : σ) :
    shown view step (es ++ es') s = shown view step es s ++ shown view step es' (run step es s) := by
  induction es generalizing s with
  | nil => rfl
  | cons e es ih => simp only [List.cons_append, shown, ih, run_cons, List.append_assoc]

/-- **Likeness rule.** If every step keeps like states alike and shows the same in both, runs from like
    states show the same. -/
theorem shown_congr {R : σ → σ → Prop} (hview : ∀ e s t, R s t → view e s = view e t)
    (hstep : ∀ e s t, R s t → R (step e s) (step e t)) :
    ∀ (es : List ε) (s t : σ), R s t → shown view step es s = shown view step es t := by
  intro es
  induction es with
  | nil => exact fun _ _ _ => rfl
  | cons e es ih =>
      intro s t hR
      rw [shown, shown, hview e s t hR, ih _ _ (hstep e s t hR)]

/-- **Order rule.** If a bound does not go down from step to step, and what a step shows lies between the
    bounds in front of it and behind it, the run shows nothing that is less than what came before. -/
theorem shown_pairwise {I : σ → Prop} (bound : σ → Nat) (value : α → Nat)
    (hstep : ∀ e s, I s → good e s → I (step e s))
    (hbound : ∀ e s, I s → good e s → bound s ≤ bound (step e s))
    (hview : ∀ e s a, I s → good e s → view e s = some a →
      bound s ≤ value a ∧ value a ≤ bound (step e s)) :
    ∀ (es : List ε) (s : σ), I s → AlongRun good step es s →
      (∀ a ∈ shown view step es s, bound s ≤ value a) ∧
        (shown view step es s).Pairwise fun a b => value a ≤ value b := by
  intro es
  induction es with
  | nil => exact fun s _ _ => ⟨fun a ha => by simp [shown] at ha, List.Pairwise.nil⟩
  | cons e es ih =>
      intro s hI h
      obtain ⟨hmem, hpairwise⟩ := ih _ (hstep e s hI h.1) h.2
      have hle := hbound e s hI h.1
      rw [shown]
      cases hv : view e s with
      | none => exact ⟨fun a ha => Nat.le_trans hle (hmem a ha), hpairwise⟩
      | some a =>
          obtain ⟨hlow, hhigh⟩ := hview e s a hI h.1 hv
          constructor
          · intro b hb
            rcases List.mem_cons.mp hb with rfl | hb
            · exact hlow
            · exact Nat.le_trans hle (hmem b hb)
          · exact List.pairwise_cons.mpr ⟨fun b hb => Nat.le_trans hhigh (hmem b hb), hpairwise⟩

end Shown

end Loop
