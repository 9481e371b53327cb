import Mathlib.Data.List.Basic
import Mathlib.Data.Set.Basic
import Mathlib.Algebra.BigOperators.Group.List.Basic
import Mathlib.Algebra.GroupWithZero.Nat

/-!
# `Lib.Intervals` — sets of numbers as separated intervals

A list of intervals, each a start and a length, stands for the numbers it *covers*. It is *separated* from a
bound if its intervals are not empty, lie in order from the bound on, and leave a gap between any two.
Separated lists are a normal form: a stretch of covered numbers lies in one interval
(`exists_interval_of_stretch`), and two separated lists that cover the same are the same
(`eq_of_covers_iff`).

Separated lists are put together from parts (`separated_append`): the rules for the neighbours of a place
are those that an insertion with merging needs. A range is `Parted` into free intervals, separated, and
taken ones, disjoint: intervals are taken, split and given back.
-/

namespace Intervals

/-- An interval of numbers. -/
structure Interval where
  start : Nat
  size : Nat
  deriving DecidableEq, Repr

namespace Interval

/-- The number behind the last one. -/
def stop (b : Interval) : Nat := b.start + b.size

/-- The interval contains a number. -/
def Contains (b : Interval) (a : Nat) : Prop := b.start ≤ a ∧ a < b.stop

instance (b : Interval) (a : Nat) : Decidable (b.Contains a) :=
  inferInstanceAs (Decidable (_ ∧ _))

end Interval

/-- Some interval of the list contains the number. -/
def Covers (l : List Interval) (a : Nat) : Prop := ∃ b ∈ l, b.Contains a

/-- The numbers covered by a separated list. -/
def total (l : List Interval) : Nat := (l.map Interval.size).sum

/-- The intervals are not empty, lie at `low` or above, and leave gaps. -/
def Separated : Nat → List Interval → Prop
  | _,   [] => True
  | low, b :: l => low ≤ b.start ∧ 0 < b.size ∧ Separated (b.stop + 1) l

variable {l l' : List Interval} {b c : Interval} {low a : Nat}

/-! ## What a list covers -/

@[simp] theorem not_covers_nil (a : Nat) : ¬ Covers [] a := fun ⟨_, h, _⟩ => by cases h

@[simp] theorem covers_cons : Covers (b :: l) a ↔ b.Contains a ∨ Covers l a := by
  simp [Covers]

@[simp] theorem covers_append : Covers (l ++ l') a ↔ Covers l a ∨ Covers l' a := by
  simp only [Covers, List.mem_append]
  constructor
  · rintro ⟨b, hb | hb, ha⟩
    · exact Or.inl ⟨b, hb, ha⟩
    · exact Or.inr ⟨b, hb, ha⟩
  · rintro (⟨b, hb, ha⟩ | ⟨b, hb, ha⟩)
    · exact ⟨b, Or.inl hb, ha⟩
    · exact ⟨b, Or.inr hb, ha⟩

@[simp] theorem total_nil : total [] = 0 := rfl

@[simp] theorem total_cons : total (b :: l) = b.size + total l := by simp [total]

@[simp] theorem total_append : total (l ++ l') = total l + total l' := by simp [total]

/-- Two intervals that touch cover what their union does. -/
theorem contains_join {x s t : Nat} :
    (⟨x, s + t⟩ : Interval).Contains a ↔
      (⟨x, s⟩ : Interval).Contains a ∨ (⟨x + s, t⟩ : Interval).Contains a := by
  simp only [Interval.Contains, Interval.stop]
  omega

/-! ## Separated lists -/

theorem separated_mono (h : Separated low l) {low' : Nat} (hle : low' ≤ low) : Separated low' l := by
  cases l with
  | nil => trivial
  | cons b l => exact ⟨Nat.le_trans hle h.1, h.2⟩

theorem le_of_covers (h : Separated low l) (ha : Covers l a) : low ≤ a := by
  induction l generalizing low with
  | nil => exact absurd ha (not_covers_nil a)
  | cons b l ih =>
      obtain ⟨hlow, hpos, hrest⟩ := h
      rcases covers_cons.mp ha with hb | hl
      · exact Nat.le_trans hlow hb.1
      · have hle := ih hrest hl
        unfold Interval.stop at hle
        omega

theorem start_mem_bounds (h : Separated low l) (hb : b ∈ l) : low ≤ b.start ∧ 0 < b.size := by
  induction l generalizing low with
  | nil => cases hb
  | cons c l ih =>
      obtain ⟨hlow, hpos, hrest⟩ := h
      rcases List.mem_cons.mp hb with rfl | hb
      · exact ⟨hlow, hpos⟩
      · have hbounds := ih hrest hb
        unfold Interval.stop at hbounds
        exact ⟨by omega, hbounds.2⟩

/-- The bound for what may follow behind a separated list. -/
def stopOf : Nat → List Interval → Nat
  | low, [] => low
  | _,   b :: l => stopOf (b.stop + 1) l

@[simp] theorem stopOf_concat (low : Nat) (l : List Interval) (b : Interval) :
    stopOf low (l ++ [b]) = b.stop + 1 := by
  induction l generalizing low with
  | nil => rfl
  | cons c l ih => exact ih (c.stop + 1)

@[simp] theorem separated_cons : Separated low (b :: l) ↔
    low ≤ b.start ∧ 0 < b.size ∧ Separated (b.stop + 1) l := Iff.rfl

theorem separated_append {front behind : List Interval} :
    Separated low (front ++ behind) ↔ Separated low front ∧ Separated (stopOf low front) behind := by
  induction front generalizing low with
  | nil => exact ⟨fun h => ⟨trivial, h⟩, fun h => h.2⟩
  | cons b front ih =>
      simp only [List.cons_append, Separated, ih, stopOf]
      tauto

/-- Around an interval of a separated list there are gaps. -/
theorem gaps_around (h : Separated low (l ++ b :: l')) :
    (∀ c ∈ l, c.stop < b.start) ∧ ∀ c ∈ l', b.stop < c.start := by
  constructor
  · intro c hc
    obtain ⟨front, behind, rfl⟩ := List.append_of_mem hc
    rw [List.append_assoc, separated_append] at h
    have hbehind := h.2
    rw [List.cons_append, separated_cons] at hbehind
    exact (start_mem_bounds hbehind.2.2 (List.mem_append_right _ List.mem_cons_self)).1
  · intro c hc
    exact (start_mem_bounds (separated_append.mp h).2.2.2 hc).1

theorem separated_of_starts {m : Nat} (h : Separated low l) (hm : ∀ c ∈ l, m ≤ c.start) :
    Separated m l := by
  cases l with
  | nil => trivial
  | cons b l => exact ⟨hm b List.mem_cons_self, h.2⟩

theorem covers_start_of_mem (h : Separated low l) (hb : b ∈ l) : Covers l b.start :=
  ⟨b, hb, Nat.le_refl _, Nat.lt_add_of_pos_right (start_mem_bounds h hb).2⟩

/-! ## Merging with what follows -/

/-- An interval in front of a list, merged with the first one if it touches it. -/
def join (c : Interval) : List Interval → List Interval
  | [] => [c]
  | q :: l => if c.stop = q.start then ⟨c.start, c.size + q.size⟩ :: l else c :: q :: l

/-- All starts and sizes are multiples of `m`. -/
def Aligned (m : Nat) (l : List Interval) : Prop := ∀ b ∈ l, m ∣ b.start ∧ m ∣ b.size

theorem aligned_cons {m : Nat} : Aligned m (b :: l) ↔ (m ∣ b.start ∧ m ∣ b.size) ∧ Aligned m l := by
  simp [Aligned]

theorem aligned_append {m : Nat} : Aligned m (l ++ l') ↔ Aligned m l ∧ Aligned m l' := by
  simp only [Aligned, List.mem_append]
  constructor
  · exact fun h => ⟨fun b hb => h b (Or.inl hb), fun b hb => h b (Or.inr hb)⟩
  · exact fun h b hb => hb.elim (h.1 b) (h.2 b)

theorem separated_join (hlow : low ≤ c.start) (hpos : 0 < c.size) (h : Separated c.stop l) :
    Separated low (join c l) := by
  cases l with
  | nil => exact ⟨hlow, hpos, trivial⟩
  | cons q l =>
      obtain ⟨hq, hqpos, hrest⟩ := h
      rw [join]
      split_ifs with htouch
      · refine ⟨hlow, Nat.add_pos_left hpos _, separated_mono hrest ?_⟩
        simp only [Interval.stop] at htouch ⊢
        omega
      · exact ⟨hlow, hpos, by omega, hqpos, hrest⟩

theorem start_of_mem_join {d : Interval} (hd : d ∈ join c l) : d.start = c.start ∨ d ∈ l := by
  cases l with
  | nil => exact Or.inl (congrArg Interval.start (List.mem_singleton.mp hd))
  | cons q l =>
      rw [join] at hd
      split_ifs at hd
      · rcases List.mem_cons.mp hd with rfl | hd
        · exact Or.inl rfl
        · exact Or.inr (List.mem_cons_of_mem _ hd)
      · rcases List.mem_cons.mp hd with rfl | hd
        · exact Or.inl rfl
        · exact Or.inr hd

theorem covers_join : Covers (join c l) a ↔ c.Contains a ∨ Covers l a := by
  cases l with
  | nil => simp [join]
  | cons q l =>
      rw [join]
      split_ifs with htouch
      · obtain ⟨x, s⟩ := c
        obtain ⟨y, t⟩ := q
        obtain rfl : x + s = y := htouch
        rw [covers_cons, contains_join, covers_cons, or_assoc]
      · rw [covers_cons]

theorem total_join : total (join c l) = c.size + total l := by
  cases l with
  | nil => simp [join]
  | cons q l =>
      rw [join]
      split_ifs
      · simp [Nat.add_assoc]
      · simp

theorem aligned_join {m : Nat} (hc : m ∣ c.start ∧ m ∣ c.size) (h : Aligned m l) :
    Aligned m (join c l) := by
  cases l with
  | nil => exact fun b hb => by rw [List.mem_singleton.mp hb]; exact hc
  | cons q l =>
      obtain ⟨hq, hl⟩ := aligned_cons.mp h
      rw [join]
      split_ifs
      · exact aligned_cons.mpr ⟨⟨hc.1, Nat.dvd_add hc.2 hq.2⟩, hl⟩
      · exact aligned_cons.mpr ⟨hc, h⟩

/-! ## The normal form -/

/-- Nothing is covered right behind an interval. -/
theorem not_covers_stop (h : Separated low (b :: l)) : ¬ Covers (b :: l) b.stop := by
  intro ha
  rcases covers_cons.mp ha with hb | hl
  · exact Nat.lt_irrefl _ hb.2
  · exact absurd (le_of_covers h.2.2 hl) (by omega)

/-- **Stretches.** Covered numbers that follow on each other lie in one interval. -/
theorem exists_interval_of_stretch {p n : Nat} (h : Separated low l) (hn : 0 < n)
    (hcovers : ∀ a, p ≤ a → a < p + n → Covers l a) :
    ∃ b ∈ l, b.start ≤ p ∧ p + n ≤ b.stop := by
  induction l generalizing low with
  | nil => exact absurd (hcovers p (Nat.le_refl p) (by omega)) (not_covers_nil p)
  | cons b l ih =>
      by_cases hp : b.Contains p
      · refine ⟨b, List.mem_cons_self, hp.1, ?_⟩
        by_contra hstop
        have hlt := hp.2
        exact not_covers_stop h (hcovers b.stop (by omega) (by omega))
      · have hbehind : b.stop + 1 ≤ p := by
          rcases covers_cons.mp (hcovers p (Nat.le_refl p) (by omega)) with hb | hl
          · exact absurd hb hp
          · exact le_of_covers h.2.2 hl
        obtain ⟨c, hc, hstart, hstop⟩ := ih h.2.2 fun a ha hlt => by
          rcases covers_cons.mp (hcovers a ha hlt) with hb | hl
          · exact absurd hb.2 (by omega)
          · exact hl
        exact ⟨c, List.mem_cons_of_mem _ hc, hstart, hstop⟩

theorem covers_start (h : Separated low (b :: l)) : Covers (b :: l) b.start :=
  covers_cons.mpr (Or.inl ⟨Nat.le_refl _, Nat.lt_add_of_pos_right h.2.1⟩)

/-- **Normal form.** Separated lists that cover the same numbers are the same. -/
theorem eq_of_covers_iff {low' : Nat} (h : Separated low l) (h' : Separated low' l')
    (hsame : ∀ a, Covers l a ↔ Covers l' a) : l = l' := by
  induction l generalizing low low' l' with
  | nil =>
      cases l' with
      | nil => rfl
      | cons c l' => exact absurd ((hsame c.start).mpr (covers_start h')) (not_covers_nil _)
  | cons b l ih =>
      cases l' with
      | nil => exact absurd ((hsame b.start).mp (covers_start h)) (not_covers_nil _)
      | cons c l' =>
          have hb : Separated b.start (b :: l) := ⟨Nat.le_refl _, h.2⟩
          have hc : Separated c.start (c :: l') := ⟨Nat.le_refl _, h'.2⟩
          have hstart : b.start = c.start :=
            Nat.le_antisymm (le_of_covers hb ((hsame _).mpr (covers_start h')))
              (le_of_covers hc ((hsame _).mp (covers_start h)))
          have hpos := h.2.1
          have hpos' := h'.2.1
          have hstop : b.stop = c.stop := by
            rcases Nat.lt_trichotomy b.stop c.stop with hlt | heq | hgt
            · have hin : c.Contains b.stop := ⟨by unfold Interval.stop; omega, hlt⟩
              exact absurd ((hsame _).mpr (covers_cons.mpr (Or.inl hin))) (not_covers_stop h)
            · exact heq
            · have hin : b.Contains c.stop := ⟨by unfold Interval.stop; omega, hgt⟩
              exact absurd ((hsame _).mp (covers_cons.mpr (Or.inl hin))) (not_covers_stop h')
          have heq : b = c := by
            unfold Interval.stop at hstop
            cases b
            cases c
            simp only [Interval.mk.injEq] at hstart hstop ⊢
            omega
          subst heq
          have htail : ∀ a, Covers l a ↔ Covers l' a := by
            intro a
            constructor
            · intro ha
              have hle := le_of_covers h.2.2 ha
              exact (covers_cons.mp ((hsame a).mp (covers_cons.mpr (Or.inr ha)))).resolve_left
                fun hin => absurd hin.2 (by omega)
            · intro ha
              have hle := le_of_covers h'.2.2 ha
              exact (covers_cons.mp ((hsame a).mpr (covers_cons.mpr (Or.inr ha)))).resolve_left
                fun hin => absurd hin.2 (by omega)
          rw [ih h.2.2 h'.2.2 htail]

/-- A place for an interval that a separated list does not cover. -/
theorem exists_position (h : Separated low l) (hpos : 0 < b.size) (hb : ∀ a, b.Contains a → ¬ Covers l a) :
    ∃ front behind, l = front ++ behind ∧ (∀ c ∈ front, c.stop ≤ b.start) ∧
      ∀ c ∈ behind, b.stop ≤ c.start := by
  induction l generalizing low with
  | nil => exact ⟨[], [], rfl, fun c hc => (by cases hc), fun c hc => (by cases hc)⟩
  | cons q l ih =>
      obtain ⟨hlow, hqpos, hrest⟩ := h
      have hstart := hb b.start ⟨Nat.le_refl _, Nat.lt_add_of_pos_right hpos⟩
      have hout : ¬ q.Contains b.start := fun hin => hstart (covers_cons.mpr (Or.inl hin))
      by_cases hle : q.start ≤ b.start
      · have hstop : q.stop ≤ b.start := Nat.le_of_not_lt fun hlt => hout ⟨hle, hlt⟩
        obtain ⟨front, behind, rfl, hfront, hbehind⟩ := ih hrest fun a ha hl =>
          hb a ha (covers_cons.mpr (Or.inr hl))
        refine ⟨q :: front, behind, rfl, fun c hc => ?_, hbehind⟩
        rcases List.mem_cons.mp hc with rfl | hc
        · exact hstop
        · exact hfront c hc
      · have hqstart : ¬ b.Contains q.start := fun hin =>
          hb q.start hin (covers_cons.mpr (Or.inl ⟨Nat.le_refl _, Nat.lt_add_of_pos_right hqpos⟩))
        have hstop : b.stop ≤ q.start := Nat.le_of_not_lt fun hlt => hqstart ⟨by omega, hlt⟩
        refine ⟨[], q :: l, rfl, fun c hc => (by cases hc), fun c hc => ?_⟩
        rcases List.mem_cons.mp hc with rfl | hc
        · exact hstop
        · have hbound := (start_mem_bounds hrest hc).1
          unfold Interval.stop at hbound ⊢
          unfold Interval.stop at hstop
          omega

/-! ## Free and taken -/

/-- No number lies in both. -/
def Interval.Apart (b c : Interval) : Prop := ∀ a, b.Contains a → ¬ c.Contains a

theorem Interval.Apart.symm {b c : Interval} (h : b.Apart c) : c.Apart b := fun a hc hb => h a hb hc

/-- Intervals that are apart lie one behind the other. -/
theorem apart_stop {b c : Interval} (h : b.Apart c) (hb : 0 < b.size) (hc : 0 < c.size) :
    b.stop ≤ c.start ∨ c.stop ≤ b.start := by
  by_contra hover
  push Not at hover
  have hcStop := hover.2
  refine h (max b.start c.start) ⟨Nat.le_max_left _ _, ?_⟩ ⟨Nat.le_max_right _ _, ?_⟩
  · unfold Interval.stop at hover ⊢
    omega
  · unfold Interval.stop at hcStop ⊢
    omega

/-- The numbers from `low` to `high` are parted into free intervals, with gaps between them, and taken ones,
    which do not overlap. All are multiples of `m` long, at multiples of `m`. -/
structure Parted (m low high : Nat) (free taken : List Interval) : Prop where
  separated : Separated low free
  aligned : Aligned m free
  takenAligned : Aligned m taken
  takenPos : ∀ b ∈ taken, 0 < b.size
  disjoint : taken.Pairwise Interval.Apart
  apart : ∀ a, Covers free a → ¬ Covers taken a
  covers : ∀ a, Covers free a ∨ Covers taken a ↔ low ≤ a ∧ a < high
  total : total free + total taken = high - low

section Parted

variable {m high x s t : Nat} {free free' taken taken' front behind : List Interval}

theorem parted_whole (h : low < high) (hlow : m ∣ low) (hhigh : m ∣ high) :
    Parted m low high [⟨low, high - low⟩] [] where
  separated := ⟨Nat.le_refl low, Nat.sub_pos_of_lt h, trivial⟩
  aligned := fun b hb => by
    rw [List.mem_singleton.mp hb]
    exact ⟨hlow, Nat.dvd_sub hhigh hlow⟩
  takenAligned := fun b hb => by cases hb
  takenPos := fun b hb => by cases hb
  disjoint := List.Pairwise.nil
  apart := fun a _ => not_covers_nil a
  covers := fun a => by
    simp only [covers_cons, not_covers_nil, or_false, Interval.Contains, Interval.stop]
    omega
  total := by simp

/-- A free interval is taken. -/
theorem Parted.take (h : Parted m low high (front ++ b :: behind) taken) :
    Parted m low high (front ++ behind) (b :: taken) := by
  obtain ⟨hfront, hlow, hpos, hbehind⟩ := separated_append.mp h.separated
  obtain ⟨hgapFront, hgapBehind⟩ := gaps_around h.separated
  obtain ⟨hfrontAligned, hbAligned, hbehindAligned⟩ := (by
    simpa only [aligned_append, aligned_cons] using h.aligned :
      Aligned m front ∧ (m ∣ b.start ∧ m ∣ b.size) ∧ Aligned m behind)
  have hmem : b ∈ front ++ b :: behind := List.mem_append_right _ List.mem_cons_self
  have hout : ∀ a, Covers (front ++ behind) a → ¬ b.Contains a := by
    rintro a ⟨c, hc, ha⟩ hb
    rcases List.mem_append.mp hc with hc | hc
    · have hgap := hgapFront c hc
      have := ha.2
      have := hb.1
      omega
    · have hgap := hgapBehind c hc
      have := ha.1
      have := hb.2
      omega
  refine ⟨?_, aligned_append.mpr ⟨hfrontAligned, hbehindAligned⟩, aligned_cons.mpr ⟨hbAligned, h.takenAligned⟩,
    ?_, ?_, ?_, ?_, ?_⟩
  · refine separated_append.mpr ⟨hfront, separated_mono hbehind ?_⟩
    unfold Interval.stop
    omega
  · intro c hc
    rcases List.mem_cons.mp hc with rfl | hc
    · exact hpos
    · exact h.takenPos c hc
  · refine List.pairwise_cons.mpr ⟨fun c hc a hb ha => ?_, h.disjoint⟩
    exact h.apart a ⟨b, hmem, hb⟩ ⟨c, hc, ha⟩
  · intro a ha htaken
    rcases covers_cons.mp htaken with hb | htaken
    · exact hout a ha hb
    · refine h.apart a ?_ htaken
      rw [covers_append, covers_cons]
      exact (covers_append.mp ha).imp_right Or.inr
  · intro a
    rw [← h.covers a]
    simp only [covers_append, covers_cons]
    tauto
  · have htotal := h.total
    simp only [total_append, total_cons] at htotal ⊢
    omega

/-- A taken interval is split. -/
theorem Parted.split (h : Parted m low high free (⟨x, s + t⟩ :: taken)) (hs : 0 < s) (ht : 0 < t)
    (hm : m ∣ s) : Parted m low high free (⟨x, s⟩ :: ⟨x + s, t⟩ :: taken) := by
  obtain ⟨hx, htakenAligned⟩ := aligned_cons.mp h.takenAligned
  obtain ⟨hhead, htail⟩ := List.pairwise_cons.mp h.disjoint
  have hsame : ∀ a, Covers (⟨x, s⟩ :: ⟨x + s, t⟩ :: taken) a ↔ Covers (⟨x, s + t⟩ :: taken) a := by
    intro a
    rw [covers_cons, covers_cons, covers_cons, contains_join, or_assoc]
  refine ⟨h.separated, h.aligned, ?_, ?_, ?_, ?_, ?_, ?_⟩
  · refine aligned_cons.mpr ⟨⟨hx.1, hm⟩, aligned_cons.mpr ⟨⟨Nat.dvd_add hx.1 hm, ?_⟩, htakenAligned⟩⟩
    exact (Nat.dvd_add_right hm).mp hx.2
  · intro c hc
    simp only [List.mem_cons] at hc
    rcases hc with rfl | rfl | hc
    · exact hs
    · exact ht
    · exact h.takenPos c (List.mem_cons_of_mem _ hc)
  · refine List.pairwise_cons.mpr ⟨fun c hc a ha hca => ?_, List.pairwise_cons.mpr ⟨fun c hc a ha hca => ?_, htail⟩⟩
    · rcases List.mem_cons.mp hc with rfl | hc
      · exact Nat.lt_irrefl _ (Nat.lt_of_lt_of_le ha.2 hca.1)
      · exact hhead c hc a (contains_join.mpr (Or.inl ha)) hca
    · exact hhead c hc a (contains_join.mpr (Or.inr ha)) hca
  · exact fun a ha htaken => h.apart a ha ((hsame a).mp htaken)
  · intro a
    rw [hsame a]
    exact h.covers a
  · have htotal := h.total
    simp only [total_cons] at htotal ⊢
    omega

/-- A taken interval is given back: a separated list that covers it as well. -/
theorem Parted.give (h : Parted m low high free (b :: taken)) (hseparated : Separated low free')
    (haligned : Aligned m free') (hcovers : ∀ a, Covers free' a ↔ b.Contains a ∨ Covers free a)
    (htotal : Intervals.total free' = b.size + Intervals.total free) : Parted m low high free' taken := by
  obtain ⟨hhead, htail⟩ := List.pairwise_cons.mp h.disjoint
  refine ⟨hseparated, haligned, (aligned_cons.mp h.takenAligned).2, ?_, htail, ?_, ?_, ?_⟩
  · exact fun c hc => h.takenPos c (List.mem_cons_of_mem _ hc)
  · rintro a ha ⟨c, hc, hca⟩
    rcases (hcovers a).mp ha with hb | ha
    · exact hhead c hc a hb hca
    · exact h.apart a ha ⟨c, List.mem_cons_of_mem _ hc, hca⟩
  · intro a
    rw [← h.covers a, hcovers a, covers_cons]
    tauto
  · have hwhole := h.total
    rw [total_cons] at hwhole
    omega

theorem Parted.perm (h : Parted m low high free taken) (hperm : taken.Perm taken') :
    Parted m low high free taken' := by
  have hsame : ∀ a, Covers taken' a ↔ Covers taken a := fun a =>
    ⟨fun ⟨c, hc, ha⟩ => ⟨c, hperm.mem_iff.mpr hc, ha⟩, fun ⟨c, hc, ha⟩ => ⟨c, hperm.mem_iff.mp hc, ha⟩⟩
  refine ⟨h.separated, h.aligned, fun b hb => h.takenAligned b (hperm.mem_iff.mpr hb),
    fun b hb => h.takenPos b (hperm.mem_iff.mpr hb), ?_, fun a ha => (hsame a).not.mpr (h.apart a ha), ?_, ?_⟩
  · exact (hperm.pairwise_iff fun hbc => hbc.symm).mp h.disjoint
  · intro a
    rw [hsame a]
    exact h.covers a
  · have htotal : Intervals.total taken = Intervals.total taken' := (hperm.map Interval.size).sum_eq
    rw [← htotal]
    exact h.total

/-- An interval that covers only numbers of the range lies in it. -/
theorem bounds_of_contains (hpos : 0 < b.size) (hb : ∀ a, b.Contains a → low ≤ a ∧ a < high) :
    low ≤ b.start ∧ b.stop ≤ high := by
  have hfirst := hb b.start ⟨Nat.le_refl _, Nat.lt_add_of_pos_right hpos⟩
  have hlast := hb (b.start + b.size - 1) ⟨by omega, by unfold Interval.stop; omega⟩
  unfold Interval.stop
  omega

theorem Parted.free_bounds (h : Parted m low high free taken) (hb : b ∈ free) :
    low ≤ b.start ∧ b.stop ≤ high :=
  bounds_of_contains (start_mem_bounds h.separated hb).2 fun a ha => (h.covers a).mp (Or.inl ⟨b, hb, ha⟩)

theorem Parted.taken_bounds (h : Parted m low high free taken) (hb : b ∈ taken) :
    low ≤ b.start ∧ b.stop ≤ high :=
  bounds_of_contains (h.takenPos b hb) fun a ha => (h.covers a).mp (Or.inr ⟨b, hb, ha⟩)

theorem Parted.start_ne (h : Parted m low high free taken) (hb : b ∈ taken) (hc : c ∈ free) :
    b.start ≠ c.start := by
  intro heq
  refine h.apart c.start (covers_start_of_mem h.separated hc) ⟨b, hb, ?_⟩
  exact heq ▸ ⟨Nat.le_refl _, Nat.lt_add_of_pos_right (h.takenPos b hb)⟩

theorem Parted.start_lt (h : Parted m low high free taken) (hb : b ∈ free ∨ b ∈ taken) :
    low ≤ b.start ∧ b.start < high := by
  rcases hb with hb | hb
  · exact (h.covers b.start).mp (Or.inl (covers_start_of_mem h.separated hb))
  · exact (h.covers b.start).mp
      (Or.inr ⟨b, hb, Nat.le_refl _, Nat.lt_add_of_pos_right (h.takenPos b hb)⟩)

/-- If nothing is taken, the whole range is one free interval. -/
theorem Parted.eq_whole (h : Parted m low high free []) (hlt : low < high) :
    free = [⟨low, high - low⟩] := by
  have hwhole : Separated low [⟨low, high - low⟩] := ⟨Nat.le_refl low, Nat.sub_pos_of_lt hlt, trivial⟩
  refine eq_of_covers_iff h.separated hwhole fun a => ?_
  have hcovers := h.covers a
  simp only [not_covers_nil, or_false] at hcovers
  rw [hcovers]
  simp only [covers_cons, not_covers_nil, or_false, Interval.Contains, Interval.stop]
  omega

/-- **Room.** There is a free interval of a size exactly if that many numbers in a row are not taken. -/
theorem Parted.exists_free_iff {n : Nat} (h : Parted m low high free taken) (hn : 0 < n) :
    (∃ b ∈ free, n ≤ b.size) ↔
      ∃ p, low ≤ p ∧ p + n ≤ high ∧ ∀ b ∈ taken, p + n ≤ b.start ∨ b.stop ≤ p := by
  constructor
  · rintro ⟨b, hb, hsize⟩
    obtain ⟨hlow, hstop⟩ := h.free_bounds hb
    unfold Interval.stop at hstop
    refine ⟨b.start, hlow, by omega, fun c hc => ?_⟩
    by_contra hover
    push Not at hover
    -- the first number that lies in both
    have hcpos := h.takenPos c hc
    have hstop := hover.2
    have hfree : b.Contains (max b.start c.start) :=
      ⟨Nat.le_max_left _ _, by unfold Interval.stop; omega⟩
    have htaken : c.Contains (max b.start c.start) :=
      ⟨Nat.le_max_right _ _, by unfold Interval.stop at hstop ⊢; omega⟩
    exact h.apart _ ⟨b, hb, hfree⟩ ⟨c, hc, htaken⟩
  · rintro ⟨p, hlow, hhigh, hout⟩
    obtain ⟨b, hb, hstart, hstop⟩ := exists_interval_of_stretch (p := p) h.separated hn fun a hp hlt => by
      refine ((h.covers a).mpr ⟨by omega, by omega⟩).resolve_right ?_
      rintro ⟨c, hc, hca⟩
      have hca1 := hca.1
      have hca2 := hca.2
      rcases hout c hc with hc | hc <;> omega
    refine ⟨b, hb, ?_⟩
    unfold Interval.stop at hstop
    omega

end Parted

end Intervals
