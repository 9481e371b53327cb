import Obsw.Assembly.Gyro

/-!
# `Assembly.ModePairs` — which modes the assemblies accept

`isModeCombinationValid` decides which pair of a mode and a submode an assembly accepts. `commandChildren`
and `checkChildrenStateOn` decide which one it implements: the first commands the children to it, and the
second reports it as reached when they have followed. All pairs are implemented but those with an unknown
submode of `MODE_ON` and, in the gyro assembly, of `MODE_NORMAL` (`implements_iff`), and all are accepted
but those with `MODE_ON` or `MODE_NORMAL` (`valid_iff`).
-/

namespace Obsw
namespace Assembly

/-- `commandChildren` of `GPSAssembly`, with the mode table that is executed. -/
def Children.gpsCommandChildren (a : Children) (mode : Mode) (submode : Submode) :
    ReturnValue × ModeTable :=
  if mode = modeOn then
    if submode = dual then
      (.returnOk, (a.modeTable.set .one mode submode).set .two mode submode)
    else if submode = single then
      let table := (a.modeTable.set .one modeOff submodeNone).set .two modeOff submodeNone
      if a.isUseable .one mode then (.returnOk, table.set .one mode submode)
      else (.returnOk, table.set .two mode submode)
    else (.returnOk, a.modeTable)
  else (.returnOk, (a.modeTable.set .one mode submode).set .two mode submode)

/-- The two assemblies. -/
inductive AssemblyKind where
  | gyro
  | gps
  deriving DecidableEq, Repr

/-- `commandChildren` of an assembly. -/
def commandChildren (kind : AssemblyKind) (a : Children) (mode : Mode) (submode : Submode) :
    ReturnValue × ModeTable :=
  match kind with
  | .gyro => a.gyroCommandChildren mode submode
  | .gps => a.gpsCommandChildren mode submode

/-- The table puts the children into the mode and submode: one of them in `SINGLE`, both otherwise. -/
def Puts (mode : Mode) (submode : Submode) (table : ModeTable) : Prop :=
  if (mode = modeOn ∨ mode = modeNormal) ∧ submode = single then ∃ d, table d = ⟨mode, submode⟩
  else ∀ d, table d = ⟨mode, submode⟩

/-- `commandChildren` has a case for the pair: whatever was in the table before, it puts the children into
    the pair, or says that this takes a second step. -/
def Commands (kind : AssemblyKind) (a : Children) (mode : Mode) (submode : Submode) : Prop :=
  ∀ table, (commandChildren kind { a with modeTable := table } mode submode).1 = .needSecondStep ∨
    Puts mode submode (commandChildren kind { a with modeTable := table } mode submode).2

/-- The children are commanded to the pair, which is then reported as reached. -/
structure Implements (kind : AssemblyKind) (a : Children) (mode : Mode) (submode : Submode) : Prop where
  commanded : Commands kind a mode submode
  reported : (a.follow .plain (commandChildren kind a mode submode).2).checkChildrenStateOn mode submode =
    .returnOk

/-- What is accepted is implemented, and what is rejected is not. -/
structure PairRight (kind : AssemblyKind) (a : Children) (mode : Mode) (submode : Submode) : Prop where
  accepted : isModeCombinationValid mode submode = .returnOk → Implements kind a mode submode
  rejected : isModeCombinationValid mode submode ≠ .returnOk → ¬ Implements kind a mode submode

variable {kind : AssemblyKind} {a : Children} {mode : Mode} {submode : Submode}

/-! ## What is accepted -/

/-- Every submode differs from one of the two. -/
theorem ne_single_or_ne_dual (submode : Submode) : submode ≠ single ∨ submode ≠ dual := by
  by_cases h : submode = single
  · right
    rw [h]
    decide
  · exact Or.inl h

theorem valid_iff :
    isModeCombinationValid mode submode = .returnOk ↔ mode ≠ modeOn ∧ mode ≠ modeNormal := by
  unfold isModeCombinationValid
  constructor
  · intro h
    constructor
    · -- the test of the submode holds of each of them
      intro hon
      rw [if_pos ⟨hon, ne_single_or_ne_dual submode⟩] at h
      cases h
    · intro hnormal
      rw [if_neg (by rw [hnormal]; exact fun hon => absurd hon.1 (by decide)), if_pos hnormal] at h
      cases h
  · rintro ⟨hon, hnormal⟩
    rw [if_neg (fun h => hon h.1), if_neg hnormal]

/-! ## What is implemented -/

/-- The submode is known, where `commandChildren` asks for it. -/
def SubmodeKnown (kind : AssemblyKind) (mode : Mode) (submode : Submode) : Prop :=
  mode = modeOn ∨ kind = .gyro ∧ mode = modeNormal → submode = single ∨ submode = dual

theorem puts_single {table : ModeTable} (hmode : mode = modeOn ∨ mode = modeNormal) :
    Puts mode single table ↔ ∃ d, table d = ⟨mode, single⟩ := by
  rw [Puts, if_pos ⟨hmode, rfl⟩]

theorem puts_all {table : ModeTable} (h : ∀ d, table d = ⟨mode, submode⟩) : Puts mode submode table := by
  unfold Puts
  split
  · exact ⟨.one, h .one⟩
  · exact h

/-- Who has been put into no entry of the pair is not in it. -/
theorem not_puts {table : ModeTable} (h : ∀ d, table d ≠ ⟨mode, submode⟩) : ¬ Puts mode submode table := by
  unfold Puts
  split
  · rintro ⟨d, hd⟩
    exact h d hd
  · exact fun hall => h .one (hall .one)

/-- `MODE_ON`: one child is turned on in `SINGLE`, both are in `DUAL`. -/
theorem puts_on (kind : AssemblyKind) (a : Children) (hsubmode : submode = single ∨ submode = dual) :
    Puts modeOn submode (commandChildren kind a modeOn submode).2 := by
  rcases hsubmode with rfl | rfl
  · rw [puts_single (.inl rfl)]
    by_cases huse : a.isUseable .one modeOn = true
    · refine ⟨.one, ?_⟩
      cases kind with
      | gyro => simp [commandChildren, Children.gyroCommandChildren, Children.handleOnModeCommand, huse,
          show modeOn ≠ modeNormal by decide, show single ≠ dual by decide, show submodeNone = single by rfl]
      | gps => simp [commandChildren, Children.gpsCommandChildren, huse, show single ≠ dual by decide]
    · refine ⟨.two, ?_⟩
      cases kind with
      | gyro => simp [commandChildren, Children.gyroCommandChildren, Children.handleOnModeCommand, huse,
          show modeOn ≠ modeNormal by decide, show single ≠ dual by decide, show submodeNone = single by rfl]
      | gps => simp [commandChildren, Children.gpsCommandChildren, huse, show single ≠ dual by decide]
  · apply puts_all
    intro d
    cases kind <;> cases d <;> rfl

/-- `MODE_ON` with an unknown submode leaves the table as it is. -/
theorem commandChildren_on_unknown (kind : AssemblyKind) (a : Children)
    (hsubmode : ¬ (submode = single ∨ submode = dual)) :
    commandChildren kind a modeOn submode = (.returnOk, a.modeTable) := by
  obtain ⟨hsingle, hdual⟩ := not_or.mp hsubmode
  cases kind with
  | gyro => simp [commandChildren, Children.gyroCommandChildren, Children.handleOnModeCommand,
      show modeOn ≠ modeNormal by decide, hsingle, hdual]
  | gps => simp [commandChildren, Children.gpsCommandChildren, hsingle, hdual]

/-- `MODE_NORMAL` of the gyros: a second step, or the gyros are put into it. -/
theorem gyro_normal (a : Children) (hsubmode : submode = single ∨ submode = dual) :
    (commandChildren .gyro a modeNormal submode).1 = .needSecondStep ∨
      Puts modeNormal submode (commandChildren .gyro a modeNormal submode).2 := by
  rcases hsubmode with rfl | rfl
  · rw [puts_single (.inr rfl), commandChildren, Children.gyroCommandChildren_single]
    split
    · exact .inr ⟨a.chosen, Function.update_self _ _ _⟩
    · exact .inl rfl
  · by_cases hone : (a.childrenMap .one).mode = modeOff
    · left
      simp only [commandChildren, Children.gyroCommandChildren, Children.handleNormalModeCommand,
        if_pos, if_neg (show dual ≠ single by decide), hone]
      split <;> rfl
    · by_cases htwo : (a.childrenMap .two).mode = modeOff
      · left
        simp [commandChildren, Children.gyroCommandChildren, Children.handleNormalModeCommand,
          show dual ≠ single by decide, hone, htwo]
      · right
        apply puts_all
        intro d
        cases d <;> simp [commandChildren, Children.gyroCommandChildren,
          Children.handleNormalModeCommand, show dual ≠ single by decide, hone, htwo]

/-- `MODE_NORMAL` of the gyros with an unknown submode turns both off. -/
theorem gyro_normal_unknown (a : Children) (hsubmode : ¬ (submode = single ∨ submode = dual)) :
    commandChildren .gyro a modeNormal submode = (.returnOk, Children.allOff) := by
  obtain ⟨hsingle, hdual⟩ := not_or.mp hsubmode
  simp [commandChildren, Children.gyroCommandChildren, Children.handleNormalModeCommand, hsingle, hdual,
    Children.set_off_off]

/-- Every other mode is commanded to both children. -/
theorem puts_other (a : Children) (hon : mode ≠ modeOn) (hnormal : ¬ (kind = .gyro ∧ mode = modeNormal)) :
    Puts mode submode (commandChildren kind a mode submode).2 := by
  apply puts_all
  intro d
  cases kind with
  | gyro =>
      have hgyro : mode ≠ modeNormal := fun h => hnormal ⟨rfl, h⟩
      simp only [commandChildren, Children.gyroCommandChildren, if_neg hgyro, if_neg hon]
      cases d <;> rfl
  | gps =>
      simp only [commandChildren, Children.gpsCommandChildren, if_neg hon]
      cases d <;> rfl

/-- The pairs that `commandChildren` has a case for. -/
theorem commands_iff : Commands kind a mode submode ↔ SubmodeKnown kind mode submode := by
  constructor
  · rintro hcommands (rfl | ⟨rfl, rfl⟩)
    · -- the table of children that are off stays as it is
      by_contra hunknown
      rcases hcommands Children.allOff with hstep | hputs
      · rw [commandChildren_on_unknown _ _ hunknown] at hstep
        cases hstep
      · rw [commandChildren_on_unknown _ _ hunknown] at hputs
        exact not_puts (fun d hd => (show modeOff ≠ modeOn by decide)
          (congrArg ModeListEntry.mode hd)) hputs
    · by_contra hunknown
      rcases hcommands a.modeTable with hstep | hputs
      · rw [gyro_normal_unknown _ hunknown] at hstep
        cases hstep
      · rw [gyro_normal_unknown _ hunknown] at hputs
        exact not_puts (fun d hd => (show modeOff ≠ modeNormal by decide)
          (congrArg ModeListEntry.mode hd)) hputs
  · intro hknown table
    by_cases hon : mode = modeOn
    · subst hon
      exact .inr (puts_on kind _ (hknown (.inl rfl)))
    · by_cases hnormal : kind = .gyro ∧ mode = modeNormal
      · obtain ⟨rfl, rfl⟩ := hnormal
        exact gyro_normal _ (hknown (.inr ⟨rfl, rfl⟩))
      · exact .inr (puts_other _ hon hnormal)

/-- Children in `MODE_ON` and the submode are reported. -/
theorem checkChildrenStateOn_of_puts (hsubmode : submode = single ∨ submode = dual)
    (h : Puts modeOn submode a.childrenMap) : a.checkChildrenStateOn modeOn submode = .returnOk := by
  unfold Children.checkChildrenStateOn
  rw [if_pos rfl]
  rcases hsubmode with rfl | rfl
  · rw [if_pos rfl]
    apply if_neg
    rintro ⟨hone, htwo⟩
    obtain ⟨d, hd⟩ := (puts_single (.inl rfl)).mp h
    have hmode := congrArg ModeListEntry.mode hd
    cases d with
    | one => exact absurd (hone.symm.trans hmode) (by decide)
    | two => exact absurd (htwo.symm.trans hmode) (by decide)
  · rw [if_neg (by decide), if_pos rfl]
    rw [Puts, if_neg (by decide)] at h
    exact if_pos ⟨congrArg ModeListEntry.mode (h .one), congrArg ModeListEntry.mode (h .two)⟩

/-- All pairs are implemented for which there is a case. -/
theorem implements_iff : Implements kind a mode submode ↔ SubmodeKnown kind mode submode := by
  constructor
  · exact fun h => commands_iff.mp h.commanded
  · intro hknown
    refine ⟨commands_iff.mpr hknown, ?_⟩
    by_cases hon : mode = modeOn
    · subst hon
      exact checkChildrenStateOn_of_puts (hknown (.inl rfl)) (puts_on kind a (hknown (.inl rfl)))
    · -- every state of the children will do
      exact if_neg hon

/-! ## Both together -/

/-- **The modes of the assemblies.** For every state of the children, a pair is accepted if and only if it
    is implemented, exactly if it is neither `MODE_ON` with `SINGLE` or `DUAL` nor a pair with
    `MODE_NORMAL`, in the gyro assembly one with `SINGLE` or `DUAL`. -/
theorem pairRight_iff (kind : AssemblyKind) (a : Children) (mode : Mode) (submode : Submode) :
    PairRight kind a mode submode ↔
      ¬ (mode = modeOn ∧ (submode = single ∨ submode = dual) ∨
        mode = modeNormal ∧ (kind = .gps ∨ submode = single ∨ submode = dual)) := by
  have hnormal_on : modeNormal ≠ modeOn := by decide
  constructor
  · rintro ⟨-, hrejected⟩ (⟨rfl, hsubmode⟩ | ⟨rfl, hcase⟩)
    · exact hrejected (fun h => (valid_iff.mp h).1 rfl) (implements_iff.mpr fun _ => hsubmode)
    · refine hrejected (fun h => (valid_iff.mp h).2 rfl) (implements_iff.mpr ?_)
      rintro (hon | ⟨rfl, -⟩)
      · exact absurd hon hnormal_on
      · exact hcase.resolve_left (by decide)
  · intro h
    refine ⟨?_, ?_⟩
    · intro hvalid
      obtain ⟨hon, hnormal⟩ := valid_iff.mp hvalid
      apply implements_iff.mpr
      rintro (hmode | ⟨-, hmode⟩)
      · exact absurd hmode hon
      · exact absurd hmode hnormal
    · intro hinvalid himplements
      have hknown := implements_iff.mp himplements
      refine hinvalid (valid_iff.mpr ⟨?_, ?_⟩)
      · intro hon
        exact h (.inl ⟨hon, hknown (.inl hon)⟩)
      · intro hnormal
        refine h (.inr ⟨hnormal, ?_⟩)
        cases kind with
        | gyro => exact .inr (hknown (.inr ⟨rfl, hnormal⟩))
        | gps => exact .inl rfl

/-- `MODE_ON` with `SINGLE` is rejected by both assemblies, whose functions implement it. -/
theorem single_on_rejected :
    ¬ ∀ (kind : AssemblyKind) (a : Children) (mode : Mode) (submode : Submode),
      PairRight kind a mode submode := by
  intro hall
  exact (hall .gps bothOff modeOn single).rejected (by decide) (implements_iff.mpr fun _ => .inl rfl)

end Assembly
end Obsw
