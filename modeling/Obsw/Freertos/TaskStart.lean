import Obsw.Freertos.TaskCalls

/-!
# `Freertos.TaskStart` — the start of the scheduler

The tasks that are created before the scheduler is started are ready, and the one that is to run first has the
highest priority (`Starting`). So the kernel starts with its invariant (`inv_vTaskStartScheduler`).
-/

namespace Obsw
namespace Freertos
namespace Kernel

/-- The tasks before the scheduler is started. -/
structure Starting (alive : Task → Prop) (k : Kernel) : Prop where
  base : Base alive k
  free : ∀ t, k.pxContainer (.event t) = none
  ready : ∀ t n, k.InState t n → n = .ready (k.uxPriority t)
  placed : ∀ t, alive t → k.InState t (.ready (k.uxPriority t))
  priorities : ∀ t, alive t → k.uxPriority t < configMAX_PRIORITIES
  running : alive k.pxCurrentTCB ∨ k.uxPriority k.pxCurrentTCB = 0 ∧ ∀ t, ¬ alive t
  highest : ∀ t, alive t → k.uxPriority t ≤ k.uxPriority k.pxCurrentTCB
  idleTicks : k.xTickCount = 0 ∧ k.xNumOfOverflows = 0 ∧ k.xPendedTicks = 0

variable {idle t : Task} {alive : Task → Prop} {k : Kernel}

theorem starting_initial (first : Task) : Starting (fun _ => False) (initial first) := by
  have hno : ∀ {x e : Node}, (initial first).pxContainer x ≠ some e := by
    intro x e heq
    cases heq
  have hwf : (initial first).Wf :=
    ⟨fun x n => ⟨fun hx => absurd hx List.not_mem_nil, fun hx => absurd hx hno⟩, fun n => List.nodup_nil,
      fun x e he => absurd he hno⟩
  have hbase : Base (fun _ => False) (initial first) :=
    ⟨hwf, fun x n hx => absurd hx hno, Or.inl ⟨rfl, rfl⟩, fun n _ => List.Pairwise.nil,
      fun t p ht => absurd ht hno, fun t p ht => absurd ht hno, fun t ht => absurd rfl ht, fun t ht => ht.elim⟩
  exact ⟨hbase, fun _ => rfl, fun t n ht => absurd ht hno, fun t ht => ht.elim, fun t ht => ht.elim,
    Or.inr ⟨rfl, fun _ => id⟩, fun t ht => ht.elim, ⟨rfl, rfl, rfl⟩⟩

theorem createBeforeStart_eq (k : Kernel) (t : Task) (uxPriority : Nat) : k.createBeforeStart t uxPriority =
    { k.xTaskCreate t uxPriority with
      pxCurrentTCB :=
        if (k.xTaskCreate t uxPriority).uxPriority k.pxCurrentTCB ≤ (k.xTaskCreate t uxPriority).uxPriority t then t
        else k.pxCurrentTCB } := by
  have hpriority : (k.prvInitialiseNewTask t uxPriority).uxPriority = (k.xTaskCreate t uxPriority).uxPriority := rfl
  unfold createBeforeStart
  dsimp only
  rw [hpriority]
  split_ifs with h h'
  · rfl
  · exact absurd h h'
  · exact absurd ‹_› h
  · rfl

/-- One more task. -/
theorem Starting.create (h : Starting alive k) (ht : ¬ alive t) (uxPriority : Nat) :
    Starting (fun u => u = t ∨ alive u) (k.createBeforeStart t uxPriority) := by
  have hstate : k.pxContainer (.state t) = none := by
    by_contra hne
    exact ht (h.base.known t hne)
  have hbase := h.base.xTaskCreate uxPriority hstate (h.free t)
  have ho := xTaskCreate_others (k := k) (t := t) uxPriority
  have hself : (k.xTaskCreate t uxPriority).uxPriority t = limitPriority uxPriority := by
    rw [xTaskCreate_priority, Function.update_self]
  have hready : (k.xTaskCreate t uxPriority).InState t (.ready ((k.xTaskCreate t uxPriority).uxPriority t)) := by
    rw [hself, InState, xTaskCreate_container, Function.update_self]
  have hne : ∀ {u}, alive u → u ≠ t := by
    rintro u hu rfl
    exact ht hu
  rw [createBeforeStart_eq]
  refine ⟨hbase.congr (fun _ => rfl) (fun _ => rfl) rfl rfl (Or.inl ⟨rfl, rfl⟩) hbase.top, fun u => ?_,
    fun u n hu => ?_, fun u hu => ?_, fun u hu => ?_, ?_, fun u hu => ?_, h.idleTicks⟩
  · show (k.xTaskCreate t uxPriority).pxContainer (.event u) = none
    rw [xTaskCreate_container, Function.update_of_ne fun heq => by cases heq]
    exact h.free u
  · by_cases hut : u = t
    · subst hut
      exact hu.unique hready
    · show n = .ready ((k.xTaskCreate t uxPriority).uxPriority u)
      rw [ho.uxPriority u hut]
      exact h.ready u n ((ho.state u hut).symm.trans hu)
  · by_cases hut : u = t
    · subst hut
      exact hready
    · show (k.xTaskCreate t uxPriority).pxContainer (.state u) =
        some (.list (.ready ((k.xTaskCreate t uxPriority).uxPriority u)))
      rw [ho.uxPriority u hut, ho.state u hut]
      exact h.placed u (hu.resolve_left hut)
  · show (k.xTaskCreate t uxPriority).uxPriority u < configMAX_PRIORITIES
    by_cases hut : u = t
    · rw [hut, hself]
      exact limitPriority_lt uxPriority
    · rw [ho.uxPriority u hut]
      exact h.priorities u (hu.resolve_left hut)
  · dsimp only
    split_ifs with hle
    · exact Or.inl (Or.inl rfl)
    · rcases h.running with hrun | ⟨hzero, _⟩
      · exact Or.inl (Or.inr hrun)
      · have hcurrent : k.pxCurrentTCB ≠ t := by
          intro heq
          rw [heq] at hle
          exact hle (Nat.le_refl _)
        rw [ho.uxPriority _ hcurrent, hzero] at hle
        exact absurd (Nat.zero_le _) hle
  · show (k.xTaskCreate t uxPriority).uxPriority u ≤ (k.xTaskCreate t uxPriority).uxPriority
      (if (k.xTaskCreate t uxPriority).uxPriority k.pxCurrentTCB ≤ (k.xTaskCreate t uxPriority).uxPriority t then t
        else k.pxCurrentTCB)
    -- as high as the one so far, which is the new one if there was none
    have hhigh : alive u → (k.xTaskCreate t uxPriority).uxPriority u ≤
        (k.xTaskCreate t uxPriority).uxPriority k.pxCurrentTCB := by
      intro hu
      have hle := h.highest u hu
      rw [ho.uxPriority u (hne hu)]
      rcases h.running with hrun | ⟨_, hnobody⟩
      · rw [ho.uxPriority _ (hne hrun)]
        exact hle
      · exact absurd hu (hnobody u)
    split_ifs with hle
    · rcases hu with rfl | hu
      · exact Nat.le_refl _
      · exact (hhigh hu).trans hle
    · rcases hu with rfl | hu
      · exact (Nat.not_le.mp hle).le
      · exact hhigh hu

theorem Starting.foldl (h : Starting alive k) (tasks : List (Task × Nat)) (hnodup : (tasks.map Prod.fst).Nodup)
    (hnew : ∀ t ∈ tasks.map Prod.fst, ¬ alive t) :
    Starting (fun u => u ∈ tasks.map Prod.fst ∨ alive u)
      (tasks.foldl (fun k (t, uxPriority) => k.createBeforeStart t uxPriority) k) := by
  induction tasks generalizing k alive with
  | nil =>
      rw [show (fun u => u ∈ ([] : List (Task × Nat)).map Prod.fst ∨ alive u) = alive from funext fun u => by simp]
      exact h
  | cons x tasks ih =>
      obtain ⟨t, uxPriority⟩ := x
      obtain ⟨hx, hnodup⟩ := List.nodup_cons.mp hnodup
      have hstep := ih (h.create (hnew t List.mem_cons_self) uxPriority) hnodup fun u hu => by
        rintro (rfl | halive)
        · exact hx hu
        · exact hnew u (List.mem_cons_of_mem t hu) halive
      rw [List.foldl_cons]
      rw [show (fun u => u ∈ ((t, uxPriority) :: tasks).map Prod.fst ∨ alive u) =
        fun u => u ∈ tasks.map Prod.fst ∨ u = t ∨ alive u from ?_]
      · exact hstep
      · funext u
        rw [List.map_cons, List.mem_cons, or_assoc, or_left_comm]

/-- The kernel once the scheduler is started. -/
theorem Starting.inv (h : Starting alive k) (hidle : alive idle) (hpriority : k.uxPriority idle = 0) :
    Inv idle alive 0 (fun _ => 0) (fun _ => none) { k with xNextTaskUnblockTime := portMAX_DELAY } := by
  obtain ⟨htick, hoverflows, hpended⟩ := h.idleTicks
  have hbase : Base alive { k with xNextTaskUnblockTime := portMAX_DELAY } :=
    h.base.congr (fun _ => rfl) (fun _ => rfl) rfl rfl (Or.inl ⟨rfl, rfl⟩) h.base.top
  have hnone : ∀ {t n}, (∀ p, n ≠ .ready p) → ¬ k.InState t n := fun hn ht => hn _ (h.ready _ _ ht)
  have hidleReady := h.placed idle hidle
  rw [hpriority] at hidleReady
  obtain ⟨hdelayed, hoverflow, _⟩ := h.base.delayed_ne
  have hcore : Core idle alive 0 (fun _ => 0) { k with xNextTaskUnblockTime := portMAX_DELAY } := by
    refine ⟨hbase, ⟨htick, hoverflows, fun t ht => absurd ht (hnone hdelayed), fun t ht =>
      absurd ht (hnone hoverflow)⟩, fun t ht => absurd ht (hnone hdelayed), hidleReady, fun t n ht => ?_,
      fun t ht => ⟨_, h.placed t ht⟩, h.priorities⟩
    have hevent : k.pxContainer (.event t) = _ := ht
    rw [h.free t] at hevent
    cases hevent
  refine ⟨hcore, ⟨hpended ▸ Nat.pow_pos (by decide), fun _ => ⟨fun t ht => ?_, hpended⟩⟩, fun _ t p ht _ => ?_, ?_⟩
  · have hevent : k.pxContainer (.event t) = _ := ht
    rw [h.free t] at hevent
    cases hevent
  · rw [← h.base.ready t p ht]
    refine h.highest t (h.base.known t fun hn => ?_)
    have hstate : k.pxContainer (.state t) = _ := ht
    rw [hn] at hstate
    cases hstate
  · exact h.running.resolve_right fun hnobody => hnobody.2 idle hidle

/-- **The start.** Whatever tasks `main` creates, the kernel starts with its invariant. -/
theorem inv_vTaskStartScheduler (created : List (Task × Nat)) (idle : Task)
    (hnodup : ((created ++ [(idle, 0)]).map Prod.fst).Nodup) :
    Inv idle (fun t => t ∈ (created ++ [(idle, 0)]).map Prod.fst) 0 (fun _ => 0) (fun _ => none)
      (vTaskStartScheduler created idle) := by
  rw [List.map_append, List.nodup_append] at hnodup
  obtain ⟨hcreated, _, hidle⟩ := hnodup
  have hnew : idle ∉ created.map Prod.fst := fun hmem => hidle idle hmem idle List.mem_cons_self rfl
  unfold vTaskStartScheduler
  dsimp only
  rw [List.foldl_append]
  have hstart := ((starting_initial ((((created ++ [(idle, 0)]).head?.map Prod.fst).getD idle))).foldl created hcreated
    fun _ _ => id).create (by rintro (hmem | hmem); exacts [hnew hmem, hmem]) 0
  have halive : ∀ u, (u = idle ∨ u ∈ created.map Prod.fst ∨ False) ↔
      u ∈ (created ++ [(idle, 0)]).map Prod.fst := by
    intro u
    simp only [List.map_append, List.mem_append, List.map_cons, List.map_nil, List.mem_singleton, or_false]
    exact or_comm
  rw [funext fun u => propext (halive u)] at hstart
  refine hstart.inv ((halive idle).mp (Or.inl rfl)) ?_
  rw [createBeforeStart_eq]
  show (xTaskCreate _ idle 0).uxPriority idle = 0
  rw [xTaskCreate_priority, Function.update_self]
  rfl

theorem vTaskStartScheduler_pended (created : List (Task × Nat)) (idle : Task) :
    (vTaskStartScheduler created idle).xPendedTicks = 0 := by
  have hfold : ∀ (tasks : List (Task × Nat)) (k : Kernel),
      (tasks.foldl (fun k (t, uxPriority) => k.createBeforeStart t uxPriority) k).xPendedTicks = k.xPendedTicks := by
    intro tasks
    induction tasks with
    | nil => exact fun _ => rfl
    | cons x tasks ih =>
        intro k
        rw [List.foldl_cons, ih]
        exact (congrArg xPendedTicks (createBeforeStart_eq k x.1 x.2)).trans rfl
  exact hfold _ _

end Kernel
end Freertos
end Obsw
