import Obsw.Lib.Memory

/-!
# `Lib.Device` — memory devices whose writes may fail

A driver call that writes a run of cells ends in one of two ways: the cells are written, or an error
code is reported and the cells of the run are left in any state. Either way nothing outside the run
changes (`apply_frame`), which is all a caller that retries may rely on. The commands given to a device
are a log, in which some commands are to come before others.
-/

namespace Device

open Memory

/-- How a device ends a write: done, or with an error code and the run left in some state. -/
inductive WriteOutcome (α : Type) where
  | done
  | failed (code : Int) (nonzero : code ≠ 0) (left : List α)

namespace WriteOutcome

variable {α : Type}

/-- The value the driver returns. -/
def retval : WriteOutcome α → Int
  | done => 0
  | failed code _ _ => code

/-- The memory behind a write of `bs` at `a`, where `f` combines an old cell with a written one. -/
def apply (f : α → α → α) (o : WriteOutcome α) (m : Mem α) (a : Nat) (bs : List α) : Mem α :=
  match o with
  | done => program f m a bs
  | failed _ _ left => store m a (left.take bs.length)

@[simp] theorem retval_done : (done : WriteOutcome α).retval = 0 := rfl

theorem retval_eq_zero {o : WriteOutcome α} : o.retval = 0 ↔ o = done := by
  cases o with
  | done => simp
  | failed code nonzero left => simpa [retval] using nonzero

@[simp] theorem apply_done {f : α → α → α} {m : Mem α} {a : Nat} {bs : List α} :
    done.apply f m a bs = program f m a bs := rfl

/-- Nothing outside the run changes, however the write ends. -/
theorem apply_frame {f : α → α → α} {o : WriteOutcome α} {m : Mem α} {a i : Nat} {bs : List α}
    (h : i < a ∨ a + bs.length ≤ i) : o.apply f m a bs i = m i := by
  cases o with
  | done => exact program_frame h
  | failed code nonzero left =>
      apply store_frame
      rw [List.length_take]
      omega

theorem holds_apply_disjoint {f : α → α → α} {o : WriteOutcome α} {m : Mem α} {a b : Nat}
    {xs bs : List α} (h : Holds m a xs) (hd : a + xs.length ≤ b ∨ b + bs.length ≤ a) :
    Holds (o.apply f m b bs) a xs :=
  holds_congr h fun _ hi => apply_frame (by omega)

end WriteOutcome

/-! ## Logs of commands -/

/-- An entry that is not in the first part of a log stands behind the whole of it. -/
theorem exists_append_of_notMem {α : Type} {first rest earlier later : List α} {c : α}
    (h : first ++ rest = earlier ++ c :: later) (hc : c ∉ first) :
    (∃ more, earlier = first ++ more) ∧ c ∈ rest := by
  rcases List.append_eq_append_iff.mp h with ⟨more, hearlier, hrest⟩ | ⟨more, hfirst, hlater⟩
  · refine ⟨⟨more, hearlier⟩, ?_⟩
    rw [hrest]
    exact List.mem_append_right _ List.mem_cons_self
  · cases more with
    | nil =>
        refine ⟨⟨[], by simpa using hfirst.symm⟩, ?_⟩
        rw [List.nil_append] at hlater
        rw [← hlater]
        exact List.mem_cons_self
    | cons d more =>
        refine absurd ?_ hc
        rw [hfirst, (List.cons.inj hlater).1]
        exact List.mem_append_right _ List.mem_cons_self

end Device
