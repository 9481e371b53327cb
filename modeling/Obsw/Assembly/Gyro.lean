import Obsw.Assembly.Children
import Mathlib.Logic.Function.Iterate

/-!
# `Assembly.Gyro` — the gyro assembly in `MODE_NORMAL`, `SINGLE`

`commandChildren` of `GyroAssembly`, and what comes of commanding it again and again while the children
follow. A gyro goes to `MODE_NORMAL` only from another mode than `MODE_OFF`, so that one that is off needs a
second round. If the gyro that is chosen is the first one, the round before turns on the other, and the
assembly never gets on; and in any case `checkChildrenStateOn` is content with every state of the children.
`within_two_rounds_iff` is about the modes alone; `singleNormal_iff`: all is right exactly if the gyro that
is chosen is not off at first.
-/

namespace Obsw
namespace Assembly

namespace Children

variable (a : Children)

/-! ## `commandChildren` -/

/-- `handleNormalModeCommand`, with the mode table. -/
def handleNormalModeCommand (mode : Mode) (submode : Submode) : ReturnValue × ModeTable :=
  let gyro0Mode := (a.childrenMap .one).mode
  let gyro1Mode := (a.childrenMap .two).mode
  let table := (a.modeTable.set .one modeOff submodeNone).set .two modeOff submodeNone
  if submode = single then
    if a.isUseable .one mode then
      if gyro0Mode ≠ modeOff then (.returnOk, table.set .one mode submode)
      -- the second gyro is turned on, although the first one can be used
      else (.needSecondStep, table.set .two modeOn submodeNone)
    else
      if gyro1Mode ≠ modeOff then (.returnOk, table.set .two mode submode)
      else (.needSecondStep, table.set .two modeOn submodeNone)
  else if submode = dual then
    let (result, table) :=
      if gyro0Mode ≠ modeOff then (ReturnValue.returnOk, table.set .one mode submode)
      else (.needSecondStep, table.set .one modeOn submodeNone)
    if gyro1Mode ≠ modeOff then (result, table.set .two mode submode)
    else (.needSecondStep, table.set .two modeOn submodeNone)
  else (.returnOk, table)

/-- `handleOnModeCommand`, with the mode table. -/
def handleOnModeCommand (mode : Mode) (submode : Submode) : ReturnValue × ModeTable :=
  if submode = dual then
    (.returnOk, (a.modeTable.set .one mode submode).set .two mode submode)
  else if submode = single then
    let table := (a.modeTable.set .one modeOff submodeNone).set .two modeOff submodeNone
    if a.isUseable .one mode then (.returnOk, table.set .one modeOn submodeNone)
    else (.returnOk, table.set .two modeOn submodeNone)
  else (.returnOk, a.modeTable)

/-- `commandChildren` of `GyroAssembly`, with the mode table that is executed. -/
def gyroCommandChildren (mode : Mode) (submode : Submode) : ReturnValue × ModeTable :=
  if mode = modeNormal then a.handleNormalModeCommand mode submode
  else if mode = modeOn then a.handleOnModeCommand mode submode
  else (.returnOk, (a.modeTable.set .one mode submode).set .two mode submode)

/-! ## Rounds -/

/-- One round: `commandChildren(MODE_NORMAL, SINGLE)`, and the children follow. -/
def round (e : ExecuteTable) : Children :=
  a.follow e (a.gyroCommandChildren modeNormal single).2

/-- The gyro that a round is about. -/
def chosen : Device := if a.isUseable .one modeNormal then .one else .two

/-- One gyro is usable and in `MODE_NORMAL`, the other one is off. -/
def OneNormal : Prop :=
  ∃ d : Device, a.isUseable d modeNormal = true ∧ (a.childrenMap d).mode = modeNormal ∧
    (a.childrenMap d.other).mode = modeOff

/-- Both gyros are commanded on. -/
def BothOn : Prop := ∀ d : Device, (a.modeTable d).mode ≠ modeOff

end Children

open Children

/-- From the first or the second round on, one gyro is in `MODE_NORMAL` and the other one off. Before that,
    `checkChildrenStateOn` does not accept the children, and no round turns on both gyros. -/
structure SingleNormal (e : ExecuteTable) (a : Children) : Prop where
  reached : ∃ k, 1 ≤ k ∧ k ≤ 2 ∧ ∀ m, k ≤ m → ((round · e)^[m] a).OneNormal
  checked : ∀ k, 1 ≤ k → ((round · e)^[k] a).checkChildrenStateOn modeNormal single = .returnOk →
    ∃ j, 1 ≤ j ∧ j ≤ k ∧ ((round · e)^[j] a).OneNormal
  notBoth : ∀ k, 1 ≤ k → ¬ ((round · e)^[k] a).BothOn

namespace Children

variable {a : Children} {e : ExecuteTable}

/-! ## The step of a round -/

/-- The mode table of a round before the chosen gyro is set. -/
def allOff : ModeTable := fun _ => .off

theorem set_off_off (table : ModeTable) :
    (table.set .one modeOff submodeNone).set .two modeOff submodeNone = allOff := by
  funext d
  cases d <;> rfl

/-- A chosen gyro that is not off is commanded to `MODE_NORMAL`. For one that is off, the second gyro is
    turned on, also if the first one is chosen. -/
theorem gyroCommandChildren_single :
    a.gyroCommandChildren modeNormal single =
      if (a.childrenMap a.chosen).mode ≠ modeOff then
        (.returnOk, allOff.set a.chosen modeNormal single)
      else (.needSecondStep, allOff.set .two modeOn submodeNone) := by
  unfold gyroCommandChildren handleNormalModeCommand chosen
  rw [if_pos rfl, set_off_off]
  dsimp only
  rw [if_pos rfl]
  by_cases huse : a.isUseable .one modeNormal = true
  · rw [if_pos huse, if_pos huse]
  · rw [if_neg huse, if_neg huse]

/-- The children's modes after a round for a gyro that is not off. -/
theorem round_childrenMap_of_on (h : (a.childrenMap a.chosen).mode ≠ modeOff) :
    (a.round e).childrenMap =
      fun d => e.command (a.health d) (allOff.set a.chosen modeNormal single d) := by
  unfold round follow
  rw [gyroCommandChildren_single, if_pos h]

/-- The same for a gyro that is off. -/
theorem round_childrenMap_of_off (h : (a.childrenMap a.chosen).mode = modeOff) :
    (a.round e).childrenMap =
      fun d => e.command (a.health d) (allOff.set .two modeOn submodeNone d) := by
  unfold round follow
  rw [gyroCommandChildren_single, if_neg (not_not.mpr h)]

@[simp] theorem round_health : (a.round e).health = a.health := rfl

theorem chosen_one (h : a.isUseable .one modeNormal = true) : a.chosen = .one := if_pos h

theorem chosen_two (h : ¬ a.isUseable .one modeNormal = true) : a.chosen = .two := if_neg h

/-- Only one gyro is turned on in a round. -/
theorem not_bothOn_round : ¬ (a.round e).BothOn := by
  intro hboth
  unfold round follow BothOn at hboth
  rw [gyroCommandChildren_single] at hboth
  by_cases h : (a.childrenMap a.chosen).mode ≠ modeOff
  · rw [if_pos h] at hboth
    cases hchosen : a.chosen with
    | one => exact hboth .two (by rw [hchosen]; rfl)
    | two => exact hboth .one (by rw [hchosen]; rfl)
  · rw [if_neg h] at hboth
    exact hboth .one rfl

/-! ## A chosen gyro that is not off -/

/-- The chosen gyro is usable, it is in `MODE_NORMAL` and the other one is off. -/
structure Settled (a : Children) : Prop where
  usable : a.isUseable a.chosen modeNormal = true
  normal : (a.childrenMap a.chosen).mode = modeNormal
  off : (a.childrenMap a.chosen.other).mode = modeOff

theorem Settled.oneNormal (h : a.Settled) : a.OneNormal :=
  ⟨a.chosen, h.usable, h.normal, h.off⟩

/-- If one of the gyros is usable, the chosen one is. -/
theorem isUseable_chosen (h : a.isUseable .one modeNormal = true ∨ a.isUseable .two modeNormal = true) :
    a.isUseable a.chosen modeNormal = true := by
  unfold chosen
  by_cases huse : a.isUseable .one modeNormal = true
  · rw [if_pos huse]
    exact huse
  · rw [if_neg huse]
    exact h.resolve_left huse

/-- A gyro in `MODE_NORMAL` that is not faulty is usable. -/
theorem isUseable_of_mode {d : Device} {mode : Mode} (hhealth : (a.health d).isFaulty = false)
    (hmode : (a.childrenMap d).mode = mode) : a.isUseable d mode = true := by
  simp [isUseable, hhealth, hmode]

/-- A gyro that is not usable does not become so when it is turned off. -/
theorem not_isUseable_of_off {b : Children} {d : Device} (hhealth : b.health = a.health)
    (hoff : (b.childrenMap d).mode = modeOff) (h : ¬ a.isUseable d modeNormal = true) :
    ¬ b.isUseable d modeNormal = true := by
  unfold isUseable at h ⊢
  rw [hhealth, hoff, if_neg (show ¬ modeOff = modeNormal by decide)]
  by_cases hfaulty : (a.health d).isFaulty = true
  · rw [if_pos hfaulty]
    exact Bool.false_ne_true
  · rw [if_neg hfaulty] at h ⊢
    intro hcommandable
    apply h
    rw [hcommandable]
    exact ite_self _

/-- A round for a usable gyro that is not off settles the assembly. -/
theorem round_settled (huse : a.isUseable a.chosen modeNormal = true)
    (hon : (a.childrenMap a.chosen).mode ≠ modeOff) : (a.round e).Settled := by
  have hmap := round_childrenMap_of_on (e := e) hon
  have hhealth := a.not_faulty_of_isUseable huse
  -- the chosen gyro follows its entry, the other one is off in the table
  have hnormal : ((a.round e).childrenMap a.chosen).mode = modeNormal := by
    rw [hmap]
    dsimp only
    rw [e.of_not_faulty _ _ hhealth]
    cases a.chosen <;> rfl
  have hoff : ((a.round e).childrenMap a.chosen.other).mode = modeOff := by
    rw [hmap]
    dsimp only
    have hentry : allOff.set a.chosen modeNormal single a.chosen.other = .off := by
      cases a.chosen <;> rfl
    rw [hentry, e.command_off]
    rfl
  have hchosen : (a.round e).chosen = a.chosen := by
    by_cases hone : a.isUseable .one modeNormal = true
    · have hc := chosen_one hone
      rw [hc] at hnormal hhealth ⊢
      exact chosen_one (isUseable_of_mode (a := a.round e) hhealth hnormal)
    · have hc := chosen_two hone
      rw [hc] at hoff ⊢
      exact chosen_two (not_isUseable_of_off (a := a) (b := a.round e) rfl hoff hone)
  refine ⟨?_, ?_, ?_⟩
  · rw [hchosen]
    exact isUseable_of_mode hhealth hnormal
  · rw [hchosen]
    exact hnormal
  · rw [hchosen]
    exact hoff

/-- A settled assembly stays so. -/
theorem Settled.round (h : a.Settled) : (a.round e).Settled :=
  round_settled h.usable (by rw [h.normal]; decide)

/-- From the first round on, the assembly is settled. -/
theorem rounds_settled (huse : a.isUseable a.chosen modeNormal = true)
    (hon : (a.childrenMap a.chosen).mode ≠ modeOff) (k : Nat) :
    ((Children.round · e)^[k + 1] a).Settled := by
  induction k with
  | zero => exact round_settled huse hon
  | succ k ih =>
      rw [Function.iterate_succ_apply']
      exact ih.round

/-! ## A chosen gyro that is off -/

/-- After a round for a gyro that is off, no gyro is in `MODE_NORMAL`. -/
theorem round_not_normal (hoff : (a.childrenMap a.chosen).mode = modeOff) (d : Device) :
    ((a.round e).childrenMap d).mode ≠ modeNormal := by
  rw [round_childrenMap_of_off hoff]
  dsimp only
  cases hfaulty : (a.health d).isFaulty with
  | false =>
      rw [e.of_not_faulty _ _ hfaulty]
      cases d <;> decide
  | true =>
      rcases e.of_faulty _ (allOff.set .two modeOn submodeNone d) hfaulty with h | h
      · rw [h]
        cases d <;> decide
      · rw [h]
        decide

/-- Whichever gyro is chosen, the first one is off after such a round. -/
theorem round_first_off (hoff : (a.childrenMap a.chosen).mode = modeOff) :
    ((a.round e).childrenMap .one).mode = modeOff := by
  rw [round_childrenMap_of_off hoff]
  dsimp only
  rw [set_two_one]
  unfold allOff
  rw [e.command_off]
  rfl

theorem round_not_oneNormal (hoff : (a.childrenMap a.chosen).mode = modeOff) :
    ¬ (a.round e).OneNormal := by
  rintro ⟨d, -, hnormal, -⟩
  exact round_not_normal hoff d hnormal

/-- The first gyro is chosen, and off. -/
def Stuck (a : Children) : Prop :=
  a.isUseable .one modeNormal = true ∧ (a.childrenMap .one).mode = modeOff

/-- A round leaves the first gyro off, and it will be chosen again. -/
theorem Stuck.round (h : a.Stuck) : (a.round e).Stuck := by
  obtain ⟨huse, hoff⟩ := h
  have hmode := round_first_off (a := a) (e := e) (by rw [chosen_one huse]; exact hoff)
  refine ⟨?_, hmode⟩
  -- it is usable while it is off, so that turning it off makes no difference
  by_contra hnot
  exact not_isUseable_of_off (a := a.round e) (b := a) rfl hoff hnot huse

/-- **The redundancy choice.** If the first gyro is usable and off, the assembly commands the second one
    in every round, and no gyro ever goes to `MODE_NORMAL`. -/
theorem Stuck.never_normal (h : a.Stuck) (k : Nat) :
    ¬ ((Children.round · e)^[k + 1] a).OneNormal := by
  have hstuck : ((Children.round · e)^[k] a).Stuck := by
    induction k with
    | zero => exact h
    | succ k ih =>
        rw [Function.iterate_succ_apply']
        exact ih.round
  rw [Function.iterate_succ_apply']
  -- in each round the first gyro is chosen again, and is off
  apply round_not_oneNormal
  rw [chosen_one hstuck.1]
  exact hstuck.2

/-- A round for a second gyro that is off turns it on, and it is still the one that is chosen. -/
theorem round_second (huse : a.isUseable .two modeNormal = true)
    (hnot : ¬ a.isUseable .one modeNormal = true) (hoff : (a.childrenMap .two).mode = modeOff) :
    (a.round e).isUseable (a.round e).chosen modeNormal = true ∧
      ((a.round e).childrenMap (a.round e).chosen).mode ≠ modeOff := by
  have hhealth := a.not_faulty_of_isUseable huse
  have hoff' : (a.childrenMap a.chosen).mode = modeOff := by
    rw [chosen_two hnot]
    exact hoff
  have hone := round_first_off (e := e) hoff'
  have htwo : ((a.round e).childrenMap .two).mode = modeOn := by
    rw [round_childrenMap_of_off hoff']
    dsimp only
    rw [e.of_not_faulty _ _ hhealth]
    rfl
  have hchosen : (a.round e).chosen = .two :=
    chosen_two (not_isUseable_of_off (a := a) (b := a.round e) rfl hone hnot)
  rw [hchosen]
  refine ⟨?_, by rw [htwo]; decide⟩
  -- a gyro that is usable while it is off is commandable
  unfold isUseable at huse ⊢
  rw [hoff, hhealth, if_neg Bool.false_ne_true, if_neg (by decide)] at huse
  rw [htwo, round_health, hhealth, if_neg Bool.false_ne_true, if_neg (by decide)]
  exact huse

/-- Apart from the check, the assembly is right as long as the first gyro is not both usable and off. -/
theorem within_two_rounds_iff
    (h : a.isUseable .one modeNormal = true ∨ a.isUseable .two modeNormal = true) :
    (∃ k, 1 ≤ k ∧ k ≤ 2 ∧ ∀ m, k ≤ m → ((Children.round · e)^[m] a).OneNormal) ↔ ¬ a.Stuck := by
  constructor
  · rintro ⟨k, -, -, hreached⟩ hstuck
    exact hstuck.never_normal k (hreached (k + 1) (Nat.le_succ k))
  · intro hnot
    by_cases hoff : (a.childrenMap a.chosen).mode = modeOff
    · -- the second gyro is chosen and off: it is turned on first
      have hone : ¬ a.isUseable .one modeNormal = true := by
        intro hone
        rw [chosen_one hone] at hoff
        exact hnot ⟨hone, hoff⟩
      rw [chosen_two hone] at hoff
      obtain ⟨huse, hon⟩ := round_second (e := e) (h.resolve_left hone) hone hoff
      refine ⟨2, by omega, Nat.le_refl 2, ?_⟩
      intro m hm
      obtain ⟨k, rfl⟩ := Nat.exists_eq_add_of_le' hm
      exact (rounds_settled huse hon k).oneNormal
    · refine ⟨1, Nat.le_refl 1, by omega, ?_⟩
      intro m hm
      obtain ⟨k, rfl⟩ := Nat.exists_eq_add_of_le' hm
      exact (rounds_settled (isUseable_chosen h) hoff k).oneNormal

end Children

/-! ## Single mode -/

/-- **The gyro assembly.** With a usable gyro, one gyro comes to `MODE_NORMAL` within two rounds, is not
    reported before, and is never on together with the other one, exactly if the chosen gyro is not off
    when the first round begins. -/
theorem singleNormal_iff (e : ExecuteTable) (a : Children)
    (h : a.isUseable .one modeNormal = true ∨ a.isUseable .two modeNormal = true) :
    SingleNormal e a ↔ (a.childrenMap a.chosen).mode ≠ modeOff := by
  constructor
  · intro hright hoff
    -- the check accepts the children after the first round already
    obtain ⟨j, hj, hj', hnormal⟩ := hright.checked 1 (Nat.le_refl 1) rfl
    obtain rfl : j = 1 := by omega
    exact round_not_oneNormal hoff hnormal
  · intro hon
    refine ⟨(within_two_rounds_iff h).mpr ?_, ?_, ?_⟩
    · rintro ⟨hone, hoff⟩
      rw [chosen_one hone] at hon
      exact hon hoff
    · intro k hk _
      exact ⟨1, Nat.le_refl 1, hk, (rounds_settled (isUseable_chosen h) hon 0).oneNormal⟩
    · -- every round turns off both gyros before it turns on one
      intro k hk
      obtain ⟨k, rfl⟩ := Nat.exists_eq_add_of_le' hk
      rw [Function.iterate_succ_apply']
      exact not_bothOn_round

/-- Two healthy gyros that are off. -/
def bothOff : Children := ⟨fun _ => .off, fun _ => ⟨false, true⟩, fun _ => .off⟩

/-- With the first gyro on and the second one faulty, one round is enough. -/
def firstOn : Children :=
  { bothOff with
    childrenMap := fun d => match d with | .one => ⟨modeOn, submodeNone⟩ | .two => .off
    health := fun d => match d with | .one => ⟨false, true⟩ | .two => ⟨true, true⟩ }

theorem singleNormal_firstOn : SingleNormal .plain firstOn :=
  (singleNormal_iff .plain firstOn (Or.inl rfl)).mpr (by decide)

/-- Two healthy gyros that are off: the first one is chosen and the second one turned on, for ever. -/
theorem healthy_gyros_stuck :
    ¬ ∀ (e : ExecuteTable) (a : Children),
      a.isUseable .one modeNormal = true ∨ a.isUseable .two modeNormal = true → SingleNormal e a := by
  intro hall
  obtain ⟨k, -, -, hreached⟩ := (hall .plain bothOff (Or.inl rfl)).reached
  exact Stuck.never_normal ⟨rfl, rfl⟩ k (hreached (k + 1) (Nat.le_succ k))

end Assembly
end Obsw
