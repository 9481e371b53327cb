import Obsw.Freertos.TaskStates

/-!
# `Freertos.TaskTicks` — the tick

Ticks are counted without end here; `xTickCount` wraps. A task that is delayed wakes at a tick of its own
(`wake`): it is in the current delayed list if that tick comes before the next wrap, else in the overflow list
(`Timed`). The tick `wake t` makes the task `t` ready, and no other (`xTaskIncrementTick_spec`).
-/

namespace Obsw
namespace Freertos
namespace Kernel

/-- A task is delayed, whichever list it is in. -/
def Delayed (k : Kernel) (t : Task) : Prop :=
  k.InState t k.pxDelayedTaskList ∨ k.InState t k.pxOverflowDelayedTaskList

/-- The delayed tasks wake at ticks from `bound` on. -/
structure Timed (k : Kernel) (ticks bound : Nat) (wake : Task → Nat) : Prop where
  tick : k.xTickCount = ticks % 2 ^ 32
  overflows : k.xNumOfOverflows = ticks / 2 ^ 32 % 2 ^ 32
  delayed : ∀ t, k.InState t k.pxDelayedTaskList →
    k.value (.state t) = wake t % 2 ^ 32 ∧ bound ≤ wake t ∧ wake t / 2 ^ 32 = ticks / 2 ^ 32
  overflow : ∀ t, k.InState t k.pxOverflowDelayedTaskList →
    k.value (.state t) = wake t % 2 ^ 32 ∧ wake t / 2 ^ 32 = ticks / 2 ^ 32 + 1

/-- No delayed task is overlooked. -/
def Unblocks (k : Kernel) : Prop :=
  ∀ t, k.InState t k.pxDelayedTaskList → k.xNextTaskUnblockTime ≤ k.value (.state t)

/-- Some tasks have become ready, and the others are where they were. -/
structure Woken (k k' : Kernel) (p : Task → Prop) : Prop where
  uxPriority : k'.uxPriority = k.uxPriority
  left : ∀ t, p t → k'.InState t (.ready (k.uxPriority t)) ∧ k'.pxContainer (.event t) = none
  stayed : ∀ t, ¬ p t → k'.pxContainer (.state t) = k.pxContainer (.state t) ∧
    k'.pxContainer (.event t) = k.pxContainer (.event t)
  waiters : ∀ e, (k'.items (.event e)).Sublist (k.items (.event e))

/-- Tasks have become ready, with no other variable changed. -/
structure Released (k k' : Kernel) (p : Task → Prop) : Prop where
  same : SameControl k k'
  yield : k'.xYieldPending = k.xYieldPending
  value : ∀ x, k'.value x = k.value x
  woken : Woken k k' p

/-- A task is taken out of the lists it is in and becomes ready. -/
def release (k : Kernel) (t : Task) : Kernel :=
  ((k.remove (.state t)).remove (.event t)).prvAddTaskToReadyList t

section Release

variable {alive : Task → Prop} {k k' k'' : Kernel} {t u : Task} {n : ListName}
  {p q : Task → Prop}

theorem Base.delayed_ne (h : Base alive k) : (∀ p, k.pxDelayedTaskList ≠ .ready p) ∧
    (∀ p, k.pxOverflowDelayedTaskList ≠ .ready p) ∧ k.pxDelayedTaskList ≠ k.pxOverflowDelayedTaskList := by
  rcases h.delayedLists with ⟨h1, h2⟩ | ⟨h1, h2⟩ <;> rw [h1, h2] <;> simp

theorem release_base (h : Base alive k) (halive : alive t) : Base alive (k.release t) := by
  refine ((h.remove _).remove _).addReady ?_ halive
  simp

@[simp] theorem release_container (x : Node) : (k.release t).pxContainer x =
    if x = .state t then some (.list (.ready (k.uxPriority t)))
    else if x = .event t then none else k.pxContainer x := by
  have hpriority : ((k.remove (.state t)).remove (.event t)).uxPriority t = k.uxPriority t := by
    rw [(remove_same _).uxPriority, (remove_same _).uxPriority]
  simp only [release, addReady_container, remove_container, Function.update_apply, hpriority]
  split_ifs <;> rfl

theorem release_items (h : k.Wf) (hn : ∀ p, n ≠ .ready p) :
    (k.release t).items n = ((k.items n).erase (.state t)).erase (.event t) := by
  rw [← remove_items h, ← remove_items h.remove]
  exact insertEnd_items.trans (if_neg (hn _))

theorem release_released (h : k.Wf) : Released k (k.release t) (· = t) := by
  have hsame : SameControl k (k.release t) := (remove_same _).trans ((remove_same _).trans (addReady_same t))
  refine ⟨hsame, by simp [release], fun x => by simp [release], hsame.uxPriority, ?_, fun u hu => ?_, fun e => ?_⟩
  · rintro u rfl
    exact ⟨by simp [InState], by simp⟩
  · have hstate : (.state u : Node) ≠ .state t := fun heq => hu (Node.state.inj heq)
    have hevent : (.event u : Node) ≠ .event t := fun heq => hu (Node.event.inj heq)
    simp [hstate, hevent]
  · rw [release_items h (fun p heq => by cases heq)]
    exact List.erase_sublist.trans List.erase_sublist

theorem Woken.refl (k : Kernel) : Woken k k fun _ => False :=
  ⟨rfl, fun _ h => h.elim, fun _ _ => ⟨rfl, rfl⟩, fun _ => List.Sublist.refl _⟩

theorem Woken.trans (h : Woken k k' p) (h' : Woken k' k'' q) : Woken k k'' fun t => p t ∨ q t := by
  refine ⟨h'.uxPriority.trans h.uxPriority, fun t ht => ?_, fun t ht => ?_,
    fun e => (h'.waiters e).trans (h.waiters e)⟩
  · by_cases hq : q t
    · have hleft := h'.left t hq
      rw [h.uxPriority] at hleft
      exact hleft
    · obtain ⟨hstate, hevent⟩ := h'.stayed t hq
      obtain ⟨hp, hp'⟩ := h.left t (ht.resolve_right hq)
      exact ⟨hstate.trans hp, hevent.trans hp'⟩
  · obtain ⟨hstate, hevent⟩ := h.stayed t fun hp => ht (Or.inl hp)
    obtain ⟨hstate', hevent'⟩ := h'.stayed t fun hq => ht (Or.inr hq)
    exact ⟨hstate'.trans hstate, hevent'.trans hevent⟩

theorem Woken.congr (h : Woken k k' p) (hpq : ∀ t, p t ↔ q t) : Woken k k' q := by
  rw [← show p = q from funext fun t => propext (hpq t)]
  exact h

theorem Released.refl (k : Kernel) : Released k k fun _ => False := ⟨.rfl k, rfl, fun _ => rfl, .refl k⟩

theorem Released.trans (h : Released k k' p) (h' : Released k' k'' q) : Released k k'' fun t => p t ∨ q t :=
  ⟨h.same.trans h'.same, h'.yield.trans h.yield, fun x => (h'.value x).trans (h.value x), h.woken.trans h'.woken⟩

theorem Released.congr (h : Released k k' p) (hpq : ∀ t, p t ↔ q t) : Released k k' q :=
  ⟨h.same, h.yield, h.value, h.woken.congr hpq⟩

/-- A task in the delayed list is the owner of its item. -/
theorem Base.head_state (h : Base alive k) {x : Node} (hx : (k.items k.pxDelayedTaskList).head? = some x) :
    ∃ t, x = .state t ∧ k.InState t k.pxDelayedTaskList := by
  have hmem := (h.wf.mem x _).mp (List.mem_of_mem_head? hx)
  have hkind := h.kinds x _ hmem
  rcases h.delayedLists with ⟨h1, _⟩ | ⟨h1, _⟩
  all_goals
    rw [h1] at hkind
    obtain ⟨t, rfl⟩ := hkind
    exact ⟨t, rfl, hmem⟩

theorem release_length (h : Base alive k) {x : Node} (hx : x = .state t ∨ x = .event t) (hmem : x ∈ k.items n)
    (hn : ∀ p, n ≠ .ready p) : ((k.release t).items n).length + 1 ≤ (k.items n).length := by
  have hpos := List.length_pos_of_mem hmem
  rw [release_items h.wf hn]
  rcases hx with rfl | rfl
  · have hle : (((k.items n).erase (.state t)).erase (.event t)).length ≤ ((k.items n).erase (.state t)).length :=
      List.erase_sublist.length_le
    rw [List.length_erase_of_mem hmem] at hle
    omega
  · have hmem' : (.event t : Node) ∈ (k.items n).erase (.state t) :=
      (List.mem_erase_of_ne fun heq => by cases heq).mpr hmem
    have hle : ((k.items n).erase (.state t)).length ≤ (k.items n).length := List.erase_sublist.length_le
    have hpos' := List.length_pos_of_mem hmem'
    rw [List.length_erase_of_mem hmem']
    omega

end Release

section Tick

variable {alive : Task → Prop} {k k' : Kernel} {wake : Task → Nat} {ticks bound : Nat}

theorem Woken.inState {p : Task → Prop} (h : Woken k k' p) {t : Task} {n : ListName} (hn : ∀ p, n ≠ .ready p)
    (ht : k'.InState t n) : k.InState t n := by
  by_cases hp : p t
  · have hleft := (h.left t hp).1
    exact absurd (Node.list.inj (Option.some.inj (ht.symm.trans hleft))) (hn _)
  · exact ((h.stayed t hp).1).symm.trans ht

theorem Timed.released (h : Timed k ticks bound wake) (hbase : Base alive k) {p : Task → Prop}
    (hreleased : Released k k' p) : Timed k' ticks bound wake := by
  obtain ⟨hdelayed, hoverflow, _⟩ := hbase.delayed_ne
  constructor
  · rw [hreleased.same.xTickCount]
    exact h.tick
  · rw [hreleased.same.xNumOfOverflows]
    exact h.overflows
  · intro t ht
    rw [hreleased.same.pxDelayedTaskList] at ht
    rw [hreleased.value]
    exact h.delayed t (hreleased.woken.inState hdelayed ht)
  · intro t ht
    rw [hreleased.same.pxOverflowDelayedTaskList] at ht
    rw [hreleased.value]
    exact h.overflow t (hreleased.woken.inState hoverflow ht)

/-- **The inner loop.** The tasks that wake at this tick become ready. -/
theorem unblockDue_spec {passes : Nat} (xSwitchRequired : Bool) (hbase : Base alive k)
    (htimed : Timed k ticks ticks wake) (hpasses : (k.items k.pxDelayedTaskList).length < passes) :
    ∃ k' xSwitchRequired', unblockDue (ticks % 2 ^ 32) passes k xSwitchRequired = some (k', xSwitchRequired') ∧
      Base alive k' ∧ Timed k' ticks (ticks + 1) wake ∧ Unblocks k' ∧
      Released k k' (fun t => k.InState t k.pxDelayedTaskList ∧ wake t = ticks) ∧
      (xSwitchRequired' = true ↔ xSwitchRequired = true ∨
        ∃ t, (k.InState t k.pxDelayedTaskList ∧ wake t = ticks) ∧
          k.uxPriority k.pxCurrentTCB ≤ k.uxPriority t) := by
  induction passes generalizing k xSwitchRequired with
  | zero => exact absurd hpasses (Nat.not_lt_zero _)
  | succ passes ih =>
      rw [unblockDue]
      cases hhead : (k.items k.pxDelayedTaskList).head? with
      | none =>
          -- no task is left in the list
          have hempty : ∀ t, ¬ k.InState t k.pxDelayedTaskList := by
            intro t ht
            have hmem := (hbase.wf.mem _ _).mpr ht
            rw [List.head?_eq_none_iff.mp hhead] at hmem
            cases hmem
          refine ⟨_, _, rfl, ?_, ⟨htimed.tick, htimed.overflows, fun t ht => absurd ht (hempty t),
            htimed.overflow⟩, ?_, ?_, ?_⟩
          · exact hbase.congr (fun _ => rfl) (fun _ => rfl) rfl rfl (Or.inl ⟨rfl, rfl⟩) hbase.top
          · exact fun t ht => absurd ht (hempty t)
          · refine ⟨by constructor <;> rfl, rfl, fun _ => rfl, rfl, fun t ht => absurd ht.1 (hempty t),
              fun _ _ => ⟨rfl, rfl⟩, fun _ => List.Sublist.refl _⟩
          · exact ⟨Or.inl, fun h => h.elim id fun ⟨t, ht, _⟩ => absurd ht.1 (hempty t)⟩
      | some x =>
          obtain ⟨t, rfl, ht⟩ := hbase.head_state hhead
          obtain ⟨hvalue, hbound, hepoch⟩ := htimed.delayed t ht
          have hsorted : k.SortedList k.pxDelayedTaskList := by
            refine hbase.sorted _ ?_
            rcases hbase.delayedLists with ⟨h1, _⟩ | ⟨h1, _⟩ <;> rw [h1] <;> trivial
          dsimp only [Node.owner]
          by_cases hlater : ticks % 2 ^ 32 < k.value (.state t)
          · -- the first one is not due, so none is
            rw [if_pos hlater]
            have hnone : ∀ u, k.InState u k.pxDelayedTaskList → wake u ≠ ticks := by
              intro u hu heq
              have hle := hsorted.head_le hhead ((hbase.wf.mem _ _).mpr hu)
              rw [(htimed.delayed u hu).1, heq] at hle
              omega
            refine ⟨_, _, rfl, ?_, ⟨htimed.tick, htimed.overflows, fun u hu => ?_, htimed.overflow⟩, ?_, ?_, ?_⟩
            · exact hbase.congr (fun _ => rfl) (fun _ => rfl) rfl rfl (Or.inl ⟨rfl, rfl⟩) hbase.top
            · obtain ⟨hv, hb, he⟩ := htimed.delayed u hu
              have hne := hnone u hu
              exact ⟨hv, by omega, he⟩
            · exact fun u hu => hsorted.head_le hhead ((hbase.wf.mem _ _).mpr hu)
            · refine ⟨by constructor <;> rfl, rfl, fun _ => rfl, rfl, fun u hu => absurd hu.2 (hnone u hu.1),
                fun _ _ => ⟨rfl, rfl⟩, fun _ => List.Sublist.refl _⟩
            · exact ⟨Or.inl, fun h => h.elim id fun ⟨u, hu, _⟩ => absurd hu.2 (hnone u hu.1)⟩
          · -- the first one is due, and the next pass finds the others
            rw [if_neg hlater]
            have hdue : wake t = ticks := by omega
            have halive : alive t := hbase.known t fun hnone => by
              have hstate : k.pxContainer (.state t) = _ := ht
              rw [hnone] at hstate
              cases hstate
            have hreleased : Released k (k.release t) (· = t) := release_released hbase.wf
            have hsame := hreleased.same
            have hlength := release_length hbase (Or.inl rfl) ((hbase.wf.mem _ _).mpr ht) hbase.delayed_ne.1
            obtain ⟨k', sw', heq, hbase', htimed', hunblocks, hreleased', hsw⟩ :=
              ih (xSwitchRequired ||
                  (k.release t).uxPriority (k.release t).pxCurrentTCB ≤ (k.release t).uxPriority t)
                (release_base hbase halive) (htimed.released hbase hreleased)
                (by rw [hsame.pxDelayedTaskList]; omega)
            have hinState : ∀ u, (u = t ∨ (k.release t).InState u (k.release t).pxDelayedTaskList ∧
                wake u = ticks) ↔ k.InState u k.pxDelayedTaskList ∧ wake u = ticks := by
              intro u
              rw [hsame.pxDelayedTaskList]
              by_cases hu : u = t
              · subst hu
                exact ⟨fun _ => ⟨ht, hdue⟩, fun _ => Or.inl rfl⟩
              · unfold InState
                rw [(hreleased.woken.stayed u hu).1, or_iff_right hu]
            refine ⟨k', sw', heq, hbase', htimed', hunblocks, (hreleased.trans hreleased').congr hinState, ?_⟩
            rw [hsw, hsame.uxPriority, hsame.pxCurrentTCB]
            simp only [Bool.or_eq_true, decide_eq_true_eq]
            constructor
            · rintro ((hsw | hle) | ⟨u, hu, hle⟩)
              · exact Or.inl hsw
              · exact Or.inr ⟨t, ⟨ht, hdue⟩, hle⟩
              · exact Or.inr ⟨u, (hinState u).mp (Or.inr hu), hle⟩
            · rintro (hsw | ⟨u, hu, hle⟩)
              · exact Or.inl (Or.inl hsw)
              · rcases (hinState u).mpr hu with rfl | hu
                · exact Or.inl (Or.inr hle)
                · exact Or.inr ⟨u, hu, hle⟩

/-- A tick has made some tasks ready. The delayed lists may have changed places. -/
structure Ticked (k k' : Kernel) (p : Task → Prop) : Prop where
  pxCurrentTCB : k'.pxCurrentTCB = k.pxCurrentTCB
  xPendedTicks : k'.xPendedTicks = k.xPendedTicks
  uxSchedulerSuspended : k'.uxSchedulerSuspended = k.uxSchedulerSuspended
  yield : k'.xYieldPending = k.xYieldPending
  value : ∀ x, k'.value x = k.value x
  woken : Woken k k' p

/-- `prvResetNextTaskUnblockTime` goes back to the first task to wake. -/
theorem resetNextTaskUnblockTime_le {x : Node} (hsorted : k.SortedList k.pxDelayedTaskList)
    (hx : x ∈ k.items k.pxDelayedTaskList) : k.prvResetNextTaskUnblockTime.xNextTaskUnblockTime ≤ k.value x := by
  unfold prvResetNextTaskUnblockTime
  cases hhead : (k.items k.pxDelayedTaskList).head? with
  | none =>
      rw [List.head?_eq_none_iff.mp hhead] at hx
      cases hx
  | some y => exact hsorted.head_le hhead hx

/-- The count of ticks moves on; at a wrap the overflow list becomes the current one. -/
theorem advance_spec (hbase : Base alive k) (htimed : Timed k ticks (ticks + 1) wake)
    (hunblocks : Unblocks k) :
    let k₁ := { k with xTickCount := (ticks + 1) % 2 ^ 32 }
    let k₂ := if (ticks + 1) % 2 ^ 32 = 0 then k₁.switchDelayedLists else k₁
    Base alive k₂ ∧ Timed k₂ (ticks + 1) (ticks + 1) wake ∧ Unblocks k₂ ∧
      (∀ t, k.Delayed t ∧ wake t = ticks + 1 ↔ k₂.InState t k₂.pxDelayedTaskList ∧ wake t = ticks + 1) ∧
      k₂ = { k with
        xTickCount := k₂.xTickCount
        pxDelayedTaskList := k₂.pxDelayedTaskList
        pxOverflowDelayedTaskList := k₂.pxOverflowDelayedTaskList
        xNumOfOverflows := k₂.xNumOfOverflows
        xNextTaskUnblockTime := k₂.xNextTaskUnblockTime } := by
  intro k₁ k₂
  by_cases hwrap : (ticks + 1) % 2 ^ 32 = 0
  · have hk₂ : k₂ = k₁.switchDelayedLists := if_pos hwrap
    -- whoever wakes before the wrap has woken
    have hempty : ∀ t, ¬ k.InState t k.pxDelayedTaskList := by
      intro t ht
      obtain ⟨_, hbound, hepoch⟩ := htimed.delayed t ht
      omega
    rw [hk₂]
    have hbase₂ : Base alive k₁.switchDelayedLists :=
      hbase.congr (fun _ => rfl) (fun _ => rfl) rfl rfl (Or.inr ⟨rfl, rfl⟩) hbase.top
    refine ⟨hbase₂, ⟨rfl, ?_, fun t ht => ?_, fun t ht => absurd ht (hempty t)⟩, fun t ht => ?_, fun t => ?_, rfl⟩
    · show (k.xNumOfOverflows + 1) % 2 ^ 32 = _
      rw [htimed.overflows]
      omega
    · obtain ⟨hvalue, hepoch⟩ := htimed.overflow t ht
      exact ⟨hvalue, by omega, by omega⟩
    · -- the time is that of the head of the new list
      have hsorted : k.SortedList k.pxOverflowDelayedTaskList := by
        refine hbase.sorted _ ?_
        rcases hbase.delayedLists with ⟨_, h2⟩ | ⟨_, h2⟩ <;> rw [h2] <;> trivial
      have hmem : (.state t : Node) ∈ k.items k.pxOverflowDelayedTaskList := (hbase.wf.mem _ _).mpr ht
      exact resetNextTaskUnblockTime_le hsorted hmem
    · exact ⟨fun h => ⟨h.1.resolve_left (hempty t), h.2⟩, fun h => ⟨Or.inr h.1, h.2⟩⟩
  · have hk₂ : k₂ = k₁ := if_neg hwrap
    rw [hk₂]
    refine ⟨hbase.congr (fun _ => rfl) (fun _ => rfl) rfl rfl (Or.inl ⟨rfl, rfl⟩) hbase.top,
      ⟨rfl, ?_, fun t ht => ?_, fun t ht => ?_⟩,
      hunblocks, fun t => ⟨fun h => ⟨h.1.resolve_right fun ht => ?_, h.2⟩, fun h => ⟨Or.inl h.1, h.2⟩⟩, rfl⟩
    · show k.xNumOfOverflows = _
      rw [htimed.overflows]
      omega
    · obtain ⟨hvalue, hbound, hepoch⟩ := htimed.delayed t ht
      exact ⟨hvalue, hbound, by omega⟩
    · obtain ⟨hvalue, hepoch⟩ := htimed.overflow t ht
      exact ⟨hvalue, by omega⟩
    · obtain ⟨_, hepoch⟩ := htimed.overflow t ht
      have hwake := h.2
      omega

/-- **`xTaskIncrementTick`.** The tasks that wake at the tick become ready. -/
theorem xTaskIncrementTick_spec (hbase : Base alive k) (htimed : Timed k ticks (ticks + 1) wake)
    (hunblocks : Unblocks k) (hsuspended : k.uxSchedulerSuspended = 0) :
    ∃ k' xSwitchRequired, k.xTaskIncrementTick = some (k', xSwitchRequired) ∧ Base alive k' ∧
      Timed k' (ticks + 1) (ticks + 2) wake ∧ Unblocks k' ∧
      Ticked k k' (fun t => k.Delayed t ∧ wake t = ticks + 1) ∧
      (xSwitchRequired = true ↔
        (∃ t, (k.Delayed t ∧ wake t = ticks + 1) ∧ k.uxPriority k.pxCurrentTCB ≤ k.uxPriority t) ∨
        1 < (k'.items (.ready (k.uxPriority k.pxCurrentTCB))).length ∨ k.xYieldPending = true) := by
  have hcount : (k.xTickCount + 1) % 2 ^ 32 = (ticks + 1) % 2 ^ 32 := by
    rw [htimed.tick, Nat.mod_add_mod]
  obtain ⟨hbase₂, htimed₂, hunblocks₂, hdue, hk₂⟩ := advance_spec hbase htimed hunblocks
  unfold xTaskIncrementTick
  rw [if_pos hsuspended]
  dsimp only
  rw [hcount]
  generalize hgen : (if (ticks + 1) % 2 ^ 32 = 0 then
    ({ k with xTickCount := (ticks + 1) % 2 ^ 32 } : Kernel).switchDelayedLists
    else { k with xTickCount := (ticks + 1) % 2 ^ 32 }) = k₂ at hbase₂ htimed₂ hunblocks₂ hdue hk₂ ⊢
  -- before the next unblock time no task is due, so skipping the loop releases the same ones
  have hloop : ∃ k' sw, (if k₂.xNextTaskUnblockTime ≤ (ticks + 1) % 2 ^ 32 then
      unblockDue ((ticks + 1) % 2 ^ 32) ((k₂.items k₂.pxDelayedTaskList).length + 1) k₂ false
      else some (k₂, false)) = some (k', sw) ∧ Base alive k' ∧
        Timed k' (ticks + 1) (ticks + 2) wake ∧ Unblocks k' ∧
        Released k₂ k' (fun t => k₂.InState t k₂.pxDelayedTaskList ∧ wake t = ticks + 1) ∧
        (sw = true ↔ ∃ t, (k₂.InState t k₂.pxDelayedTaskList ∧ wake t = ticks + 1) ∧
          k₂.uxPriority k₂.pxCurrentTCB ≤ k₂.uxPriority t) := by
    split_ifs with hnow
    · obtain ⟨k', sw, heq, hbase', htimed', hunblocks', hreleased, hsw⟩ :=
        unblockDue_spec false hbase₂ htimed₂ (Nat.lt_succ_self _)
      exact ⟨k', sw, heq, hbase', htimed', hunblocks', hreleased, hsw.trans (by simp)⟩
    · have hlater : ∀ t, k₂.InState t k₂.pxDelayedTaskList → wake t ≠ ticks + 1 := by
        intro t ht heq
        have hle := hunblocks₂ t ht
        rw [(htimed₂.delayed t ht).1, heq] at hle
        omega
      refine ⟨k₂, false, rfl, hbase₂, ⟨htimed₂.tick, htimed₂.overflows, fun t ht => ?_, htimed₂.overflow⟩,
        hunblocks₂, (Released.refl k₂).congr fun t => ?_, ?_⟩
      · obtain ⟨hvalue, hbound, hepoch⟩ := htimed₂.delayed t ht
        have hne := hlater t ht
        exact ⟨hvalue, by omega, hepoch⟩
      · exact ⟨False.elim, fun h => hlater t h.1 h.2⟩
      · exact ⟨fun h => (by cases h), fun ⟨t, ht, _⟩ => absurd ht.2 (hlater t ht.1)⟩
  obtain ⟨k', sw, heq, hbase', htimed', hunblocks', hreleased, hsw⟩ := hloop
  have hsame : k₂.uxPriority = k.uxPriority ∧ k₂.pxCurrentTCB = k.pxCurrentTCB ∧
      k₂.xPendedTicks = k.xPendedTicks ∧ k₂.uxSchedulerSuspended = k.uxSchedulerSuspended ∧
      k₂.xYieldPending = k.xYieldPending ∧ k₂.lists = k.lists ∧ k₂.pxContainer = k.pxContainer := by
    rw [hk₂]
    exact ⟨rfl, rfl, rfl, rfl, rfl, rfl, rfl⟩
  obtain ⟨hpriority, hcurrent, hpended, hsusp, hyield, hlists, hcontainer⟩ := hsame
  rw [heq, Option.map_some]
  have hitems : ∀ n, k₂.items n = k.items n := fun n => by rw [items, items, hlists]
  refine ⟨k', _, rfl, hbase', htimed', hunblocks', ⟨?_, ?_, ?_, ?_, fun x => ?_, ?_, fun t ht => ?_, fun t ht => ?_,
    fun e => ?_⟩, ?_⟩
  · exact hreleased.same.pxCurrentTCB.trans hcurrent
  · exact hreleased.same.xPendedTicks.trans hpended
  · exact hreleased.same.uxSchedulerSuspended.trans hsusp
  · exact hreleased.yield.trans hyield
  · rw [hreleased.value, value, value, hlists]
  · exact hreleased.same.uxPriority.trans hpriority
  · have hleft := hreleased.woken.left t ((hdue t).mp ht)
    rw [hpriority] at hleft
    exact hleft
  · have hstayed := hreleased.woken.stayed t fun h => ht ((hdue t).mpr h)
    rw [hcontainer] at hstayed
    exact hstayed
  · rw [← hitems]
    exact hreleased.woken.waiters e
  · rw [hreleased.same.uxPriority, hreleased.same.pxCurrentTCB, hreleased.yield, hpriority, hcurrent, hyield]
    simp only [Bool.or_eq_true, decide_eq_true_eq, hsw, hpriority, hcurrent, hdue, or_assoc]

end Tick

end Kernel
end Freertos
end Obsw
