import Mathlib.Data.Finset.SymmDiff
import Mathlib.Data.Fintype.Basic
import Mathlib.Algebra.BigOperators.Ring.Nat
import Mathlib.Algebra.Order.BigOperators.Group.Finset
import Mathlib.Combinatorics.Enumerative.DoubleCounting

/-!
# `Lib.ParityChecks` — parity checks that see every position equally often

A word is the set of its set positions. A check *covers* some of the positions, and it is set if it
covers an odd number of set ones. Words and their checks are stored together and read back with errors:
the difference between the checks of the read word and the read checks is the *syndrome*, and it does not
depend on the word (`syndrome_of_read`).

Where every position is covered by the same odd number of checks and no two positions by the same ones
(`OddColumns`), the size of the syndrome has the parity of the number of errors (`odd_card_syndrome`).
From this follows what a decoder that goes by the size can tell: one error of the word and one of the
checks are told apart, two errors are taken for neither.
-/

namespace ParityChecks

open Finset
open scoped symmDiff

/-! ## Oddness of a symmetric difference -/

theorem odd_card_symmDiff {α : Type} [DecidableEq α] (s t : Finset α) :
    Odd #(s ∆ t) ↔ ¬ (Odd #s ↔ Odd #t) := by
  have hunion : #(s ∆ t) = #(s \ t) + #(t \ s) := card_union_of_disjoint disjoint_sdiff_sdiff
  have hs := card_sdiff_add_card_inter s t
  have ht := card_sdiff_add_card_inter t s
  rw [inter_comm] at ht
  rw [hunion]
  simp only [Nat.odd_iff]
  omega

/-! ## Oddness over rows and columns -/

section Grid

variable {α β : Type} [Fintype α] [Fintype β] (P : α × β → Prop) [DecidablePred P]

theorem odd_card_rows : Odd #{p | P p} ↔ Odd #{a | Odd #{b | P (a, b)}} := by
  have hsum : #{p | P p} = ∑ a, #{b | P (a, b)} := by
    simp only [card_filter, Fintype.sum_prod_type]
  rw [hsum, odd_sum_iff_odd_card_odd]

theorem odd_card_columns : Odd #{p | P p} ↔ Odd #{b | Odd #{a | P (a, b)}} := by
  have hsum : #{p | P p} = ∑ b, #{a | P (a, b)} := by
    simp only [card_filter, Fintype.sum_prod_type_right]
  rw [hsum, odd_sum_iff_odd_card_odd]

end Grid

variable {ι χ : Type} [Fintype χ] (covers : χ → ι → Prop) [∀ c i, Decidable (covers c i)]

/-! ## Checks -/

/-- The checks that are set for a word. -/
def checks (w : Finset ι) : Finset χ := {c | Odd #{i ∈ w | covers c i}}

@[simp] theorem mem_checks {w : Finset ι} {c : χ} :
    c ∈ checks covers w ↔ Odd #{i ∈ w | covers c i} := by simp [checks]

@[simp] theorem checks_empty : checks covers (∅ : Finset ι) = ∅ := by simp [checks]

theorem checks_singleton (i : ι) : checks covers {i} = ({c | covers c i} : Finset χ) := by
  ext c
  rw [mem_checks, filter_singleton, mem_filter_univ]
  split_ifs with hc
  · simpa using hc
  · simpa using hc

/-- Errors go unnoticed if every check covers an even number of them. -/
theorem checks_eq_empty_iff {e : Finset ι} :
    checks covers e = ∅ ↔ ∀ c, Even #{i ∈ e | covers c i} := by
  simp only [eq_empty_iff_forall_notMem, mem_checks, Nat.not_odd_iff_even]

/-- Every position is covered by the same odd number of checks, and no two positions by the same. -/
structure OddColumns (n : Nat) : Prop where
  odd : Odd n
  one_lt : 1 < n
  card : ∀ i, #{c | covers c i} = n
  distinct : ∀ i j, (∀ c, covers c i ↔ covers c j) → i = j

theorem odd_card_checks {covers : χ → ι → Prop} [∀ c i, Decidable (covers c i)] {n : Nat}
    (h : OddColumns covers n) (e : Finset ι) : Odd #(checks covers e) ↔ Odd #e := by
  have hcount : ∑ c, #{i ∈ e | covers c i} = #e * n := by
    have hswap := sum_card_bipartiteAbove_eq_sum_card_bipartiteBelow (s := univ) (t := e) covers
    simp only [bipartiteAbove, bipartiteBelow] at hswap
    rw [hswap, sum_const_nat fun i _ => h.card i]
  have hodd := odd_sum_iff_odd_card_odd (s := (univ : Finset χ)) fun c => #{i ∈ e | covers c i}
  rw [checks, ← hodd, hcount, Nat.odd_mul]
  exact and_iff_left h.odd

/-! ## Syndromes -/

variable [DecidableEq χ]

/-- What is read with errors `e` in the word and `f` in its checks does not agree at these checks. -/
def syndrome (e : Finset ι) (f : Finset χ) : Finset χ := checks covers e ∆ f

section Linear

variable [DecidableEq ι]

/-- Checks are linear: a change of the word changes the checks of the change. -/
theorem checks_symmDiff (w e : Finset ι) :
    checks covers (w ∆ e) = checks covers w ∆ checks covers e := by
  ext c
  have hfilter : {i ∈ w ∆ e | covers c i} = {i ∈ w | covers c i} ∆ {i ∈ e | covers c i} := by
    ext i
    simp only [mem_filter, mem_symmDiff]
    tauto
  rw [mem_symmDiff, mem_checks, mem_checks, mem_checks, hfilter, odd_card_symmDiff]
  tauto

/-- The syndrome is one of the errors alone. -/
theorem syndrome_of_read (w e : Finset ι) (f : Finset χ) :
    checks covers (w ∆ e) ∆ (checks covers w ∆ f) = syndrome covers e f := by
  rw [checks_symmDiff, syndrome, symmDiff_symmDiff_symmDiff_comm, symmDiff_self, bot_symmDiff]

end Linear

section Decoding

variable {covers} {n : Nat} (h : OddColumns covers n)

include h

/-- **Parity of the syndrome.** The syndrome is of odd size exactly if the number of errors is odd. -/
theorem odd_card_syndrome (e : Finset ι) (f : Finset χ) :
    Odd #(syndrome covers e f) ↔ Odd (#e + #f) := by
  rw [syndrome, odd_card_symmDiff, odd_card_checks h, Nat.odd_add, ← Nat.not_odd_iff_even]
  tauto

/-- One error of the word gives the checks that cover it. -/
theorem card_syndrome_position (i : ι) : #(syndrome covers {i} ∅) = n := by
  rw [syndrome, ← bot_eq_empty, symmDiff_bot, checks_singleton, h.card]

theorem two_positions_ne_empty [DecidableEq ι] {e : Finset ι} (he : #e = 2) : checks covers e ≠ ∅ := by
  intro hempty
  obtain ⟨i, j, hne, rfl⟩ := card_eq_two.mp he
  have hpair : ({i, j} : Finset ι) = {i} ∆ {j} := by
    ext k
    simp only [mem_insert, mem_singleton, mem_symmDiff]
    constructor
    · rintro (rfl | rfl)
      · exact Or.inl ⟨rfl, hne⟩
      · exact Or.inr ⟨rfl, hne.symm⟩
    · tauto
  rw [hpair, checks_symmDiff, ← bot_eq_empty, symmDiff_eq_bot, checks_singleton,
    checks_singleton] at hempty
  refine hne (h.distinct i j fun c => ?_)
  simpa using Finset.ext_iff.mp hempty c

/-- Two errors are noticed. -/
theorem syndrome_ne_empty_of_two [DecidableEq ι] {e : Finset ι} {f : Finset χ} (hef : #e + #f = 2) :
    syndrome covers e f ≠ ∅ := by
  intro hempty
  have heq : checks covers e = f := symmDiff_eq_bot.mp hempty
  rcases Nat.lt_or_ge 0 #f with hpos | hzero
  · have hcases : #e = 1 ∨ #e = 0 := by omega
    rcases hcases with hone | hnone
    · obtain ⟨i, rfl⟩ := card_eq_one.mp hone
      rw [checks_singleton] at heq
      have hcard := h.card i
      have hlarge := h.one_lt
      rw [heq] at hcard
      omega
    · rw [card_eq_zero.mp hnone, checks_empty] at heq
      rw [← heq, card_empty] at hpos
      exact absurd hpos (Nat.lt_irrefl 0)
  · rw [card_eq_zero.mp (Nat.le_zero.mp hzero)] at heq
    exact two_positions_ne_empty h (by omega) heq

end Decoding

/-! ## Deciding by the size of the syndrome -/

/-- What a syndrome is taken for. -/
inductive Verdict where
  | clean
  | position
  | check
  | many
  deriving DecidableEq, Repr

/-- A syndrome of size `n` is taken for one error of the word, one of size one for one of the checks. -/
def verdict (n size : Nat) : Verdict :=
  if size = 0 then .clean else if size = n then .position else if size = 1 then .check else .many

section Verdicts

variable {covers} {n : Nat} (h : OddColumns covers n)

include h

theorem verdict_check {f : Finset χ} (hf : #f = 1) :
    verdict n #(syndrome covers (∅ : Finset ι) f) = .check := by
  have hlarge := h.one_lt
  rw [syndrome, checks_empty, ← bot_eq_empty, bot_symmDiff, hf, verdict, if_neg one_ne_zero,
    if_neg (by omega), if_pos rfl]

/-- **Even errors.** An even number of errors is never taken for one error. -/
theorem verdict_even {e : Finset ι} {f : Finset χ} (heven : Even (#e + #f)) :
    verdict n #(syndrome covers e f) = if syndrome covers e f = ∅ then .clean else .many := by
  have hparity := odd_card_syndrome h e f
  have hodd := h.odd
  rw [← Nat.not_odd_iff_even, ← hparity] at heven
  rw [Nat.odd_iff] at heven hodd
  unfold verdict
  by_cases hempty : syndrome covers e f = ∅
  · rw [if_pos hempty, hempty, card_empty, if_pos rfl]
  · have hpos := mt card_eq_zero.mp hempty
    rw [if_neg hempty, if_neg hpos, if_neg (by omega), if_neg (by omega)]

/-- **Odd errors.** An odd number of errors never goes unnoticed. -/
theorem verdict_odd {e : Finset ι} {f : Finset χ} (hodd : Odd (#e + #f)) :
    verdict n #(syndrome covers e f) ≠ .clean := by
  have hpos : #(syndrome covers e f) ≠ 0 := by
    intro hzero
    have hparity := (odd_card_syndrome h e f).mpr hodd
    rw [hzero] at hparity
    exact absurd hparity (by decide)
  unfold verdict
  rw [if_neg hpos]
  split_ifs <;> simp

/-- Two errors are told from none and from one. -/
theorem verdict_two [DecidableEq ι] {e : Finset ι} {f : Finset χ} (hef : #e + #f = 2) :
    verdict n #(syndrome covers e f) = .many := by
  rw [verdict_even h (hef ▸ even_two), if_neg (syndrome_ne_empty_of_two h hef)]

end Verdicts

end ParityChecks
