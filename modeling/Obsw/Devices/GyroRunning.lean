import Obsw.Devices.GyroReplies

/-!
# `Devices.GyroRunning` — the gyroscope goes on sending

In `MODE_NORMAL` the handler builds a command in `RUNNING` only. It comes back to `RUNNING` exactly if it
gets the reply the command of the cycle needs (`running_cycle_iff`), and a run goes on sending exactly as
long as every cycle comes back (`lively_iff`).
-/

namespace Obsw
namespace Gyro

open Loop

/-! ## What is promised -/

/-- In `MODE_NORMAL` the state is `RUNNING`, or one in which the next cycle builds a command. -/
def Handler.Lively (h : Handler) : Prop :=
  h.mode = .normal → h.internalState = .running ∨
    ∀ uptimeSeconds dividerFires, (buildNormalDeviceCommand uptimeSeconds dividerFires h).2.1 ≠ none

/-- A reply to the command is read. -/
def Cycle.Replied (i : Cycle) : Prop := i.sends = true ∧ i.reply.isSome = true

/-- The reply says that the self-test has passed. -/
def Cycle.ReportsSelfTest (i : Cycle) : Prop :=
  i.sends = true ∧ ∃ packet ∈ i.reply, packet 1 ≠ 0xff ∧ packet 1 &&& selftestOk = selftestOk

/-- The reply has the configuration that is cached, which can be stored. -/
def Cycle.ReportsConfig (i : Cycle) (h : Handler) : Prop :=
  i.sends = true ∧ (∃ packet ∈ i.reply, packet 1 ≠ 0xff ∧ packet 2 ≠ 0xff ∧
    packet 1 = h.gyroConfiguration.1 ∧ packet 2 = h.gyroConfiguration.2) ∧
    i.pool.configRead = none ∧ i.pool.configCommit = none

/-- A cycle in `RUNNING` comes back to it: its external command, or the one the handler builds by itself,
    gets the reply it needs. -/
def Cycle.ComesBack (i : Cycle) (h : Handler) : Prop :=
  match i.command.filter fun c => c.1 ∈ implemented with
  | some (id, data) =>
    (id = writePower ∨ id = writeRange → i.Replied) ∧
      (id = writeConfig → data.length = 1 ∨ data.length = 2 ∧ i.Replied) ∧
      (id = readConfig → i.ReportsConfig h) ∧ (id = readStatus → i.ReportsSelfTest)
  | none =>
    (i.SelfTestDue h → i.Replied) ∧ (¬ i.SelfTestDue h → i.StatusDue h → i.ReportsSelfTest)

/-- The same for a cycle that starts in `MODE_NORMAL` or enters it. When the start-up ends, the external
    command is not read. -/
def EventComesBack (e : Event) (h : Handler) : Prop :=
  match e with
  | .cycle i =>
    h.doStateMachine.mode = .normal →
      (if h.mode = .normal then i else { i with command := none }).ComesBack h
  | .restart => True

/-! ## What a reply does to the state -/

section Reply

variable {i : Cycle} {h h' : Handler} {id : DeviceCommandId} {packet : Nat → UInt8}

theorem cycle_of_perform (hperform : i.perform h = (some id, h')) :
    h.cycle i = (i.readReply h').elim h' fun packet => i.parseReply id packet h' := by
  unfold Handler.cycle
  rw [hperform]
  dsimp only
  cases hreply : i.readReply h' with
  | none => rw [Option.elim_none]
  | some packet => rw [Option.elim_some]

theorem readReply_eq_some (hsent : h.rawPacket ≠ []) :
    i.readReply h = some packet ↔ i.sends = true ∧ i.reply = some packet := by
  rw [Cycle.readReply]
  by_cases hsends : i.sends = true
  · rw [if_pos ⟨hsends, hsent⟩]
    exact ⟨fun h => ⟨hsends, h⟩, fun h => h.2⟩
  · rw [if_neg fun h => hsends h.1]
    exact iff_of_false (by simp) fun h => hsends h.1

theorem readReply_eq_none (hsent : h.rawPacket ≠ []) : i.readReply h = none ↔ ¬ i.Replied := by
  rw [Cycle.Replied, Option.isSome_iff_exists, Option.eq_none_iff_forall_ne_some, not_and, not_exists]
  exact ⟨fun h' hsends packet hreply => h' packet ((readReply_eq_some hsent).mpr ⟨hsends, hreply⟩),
    fun h' packet hreply => h' ((readReply_eq_some hsent).mp hreply).1 packet
      ((readReply_eq_some hsent).mp hreply).2⟩

/-- In `RUNNING` no reply changes the state. -/
theorem interpretDeviceReply_running (hstate : h.internalState = .running) (o : PoolOutcome) :
    (interpretDeviceReply id packet o h).2.internalState = .running := by
  unfold interpretDeviceReply
  simp only [hstate]
  split
  · rfl
  · exact hstate

theorem parseReply_running (hstate : h.internalState = .running) :
    (i.parseReply id packet h).internalState = .running := by
  have hscan : scanForReply h = (some (gyroData, 7), h) := by
    unfold scanForReply
    simp only [hstate]
  rw [Cycle.parseReply, hscan]
  dsimp only
  split
  · exact interpretDeviceReply_running hstate i.pool
  · exact hstate

theorem acknowledge_running (hmode : h.mode = .normal) : h.acknowledge.internalState = .running := by
  rw [Handler.acknowledge, if_neg (by rw [hmode]; decide)]

/-- A state whose reply only has to come: `scanForReply` leaves it. -/
theorem parseReply_acknowledged (hmode : h.mode = .normal)
    (hstate : h.internalState = .writePower ∨ h.internalState = .writeConfig ∨
      h.internalState = .writeRange ∨ h.internalState = .performSelftest) :
    (i.parseReply id packet h).internalState = .running := by
  obtain ⟨found, hscan⟩ : ∃ found, scanForReply h = (some found, (scanForReply h).2) ∧
      (scanForReply h).2.internalState = .running := by
    unfold scanForReply
    rcases hstate with hstate | hstate | hstate | hstate
    all_goals simp only [hstate]
    · exact ⟨_, rfl, acknowledge_running hmode⟩
    · exact ⟨_, rfl, acknowledge_running hmode⟩
    · exact ⟨_, rfl, trivial⟩
    · exact ⟨_, rfl, acknowledge_running hmode⟩
  rw [Cycle.parseReply, hscan.1]
  dsimp only
  split
  · exact interpretDeviceReply_running hscan.2 i.pool
  · exact hscan.2

theorem parseReply_readConfig (hmode : h.mode = .normal) (hstate : h.internalState = .readConfig) :
    (i.parseReply readConfig packet h).internalState = .running ↔
      (packet 1 ≠ 0xff ∧ packet 2 ≠ 0xff ∧ packet 1 = h.gyroConfiguration.1 ∧
        packet 2 = h.gyroConfiguration.2) ∧ i.pool.configRead = none ∧ i.pool.configCommit = none := by
  have hscan : scanForReply h = (some (readConfig, 3), h) := by
    unfold scanForReply
    simp only [hstate]
  have hstays : ¬ h.internalState = .running := by rw [hstate]; decide
  rw [Cycle.parseReply, hscan]
  dsimp only
  rw [if_pos (Or.inl rfl)]
  unfold interpretDeviceReply
  simp only [hstate]
  unfold interpretConfig
  by_cases hbytes : packet 1 = 0xff ∨ packet 2 = 0xff
  · rw [if_pos hbytes]
    refine iff_of_false hstays fun h => ?_
    rcases hbytes with hbyte | hbyte
    · exact h.1.1 hbyte
    · exact h.1.2.1 hbyte
  · rw [if_neg hbytes]
    by_cases hsame : packet 1 = h.gyroConfiguration.1 ∧ packet 2 = h.gyroConfiguration.2
    · rw [if_pos hsame]
      have hgood : packet 1 ≠ 0xff ∧ packet 2 ≠ 0xff ∧ packet 1 = h.gyroConfiguration.1 ∧
          packet 2 = h.gyroConfiguration.2 :=
        ⟨fun h => hbytes (Or.inl h), fun h => hbytes (Or.inr h), hsame.1, hsame.2⟩
      cases i.pool.configRead with
      | some result => exact iff_of_false hstays fun h => by cases h.2.1
      | none =>
          cases i.pool.configCommit with
          | some result => exact iff_of_false hstays fun h => by cases h.2.2
          | none => exact iff_of_true (acknowledge_running hmode) ⟨hgood, rfl, rfl⟩
    · rw [if_neg hsame]
      exact iff_of_false hstays fun h => hsame ⟨h.1.2.2.1, h.1.2.2.2⟩

theorem parseReply_readStatus (hmode : h.mode = .normal) (hstate : h.internalState = .readStatus) :
    (i.parseReply readStatus packet h).internalState = .running ↔
      packet 1 ≠ 0xff ∧ packet 1 &&& selftestOk = selftestOk := by
  have hscan : scanForReply h = (some (readStatus, 2), h) := by
    unfold scanForReply
    simp only [hstate]
  have hstays : ¬ h.internalState = .running := by rw [hstate]; decide
  have hnormal : ¬ h.mode = .startUp := by rw [hmode]; decide
  rw [Cycle.parseReply, hscan]
  dsimp only
  rw [if_pos (Or.inl rfl)]
  unfold interpretDeviceReply
  simp only [hstate]
  unfold interpretStatus
  by_cases hbyte : packet 1 = 0xff
  · rw [if_pos hbyte]
    exact iff_of_false hstays fun h => h.1 hbyte
  · rw [if_neg hbyte]
    by_cases hpassed : packet 1 &&& selftestOk = selftestOk
    · rw [if_pos hpassed, if_neg hnormal]
      exact iff_of_true rfl ⟨hbyte, hpassed⟩
    · rw [if_neg hpassed, if_neg hnormal]
      refine iff_of_false ?_ fun h => hpassed h.2
      split <;> exact hstays

end Reply

/-! ## One cycle -/

section Cycles

variable {i : Cycle} {h h' : Handler} {id : DeviceCommandId} {data : List UInt8}

theorem cycle_of_running (hperform : i.perform h = (some id, h'))
    (hstate : h'.internalState = .running) : (h.cycle i).internalState = .running := by
  rw [cycle_of_perform hperform]
  cases i.readReply h' with
  | none => exact hstate
  | some packet => exact parseReply_running hstate

/-- From any other state a cycle comes to `RUNNING` exactly if a reply is read that leads there. -/
theorem cycle_running_iff (hperform : i.perform h = (some id, h')) (hsent : h'.rawPacket ≠ [])
    (hstays : h'.internalState ≠ .running) :
    (h.cycle i).internalState = .running ↔
      i.sends = true ∧ ∃ packet, i.reply = some packet ∧
        (i.parseReply id packet h').internalState = .running := by
  rw [cycle_of_perform hperform]
  cases hreply : i.readReply h' with
  | none =>
      apply iff_of_false hstays
      rintro ⟨hsends, packet, hsome, -⟩
      exact (readReply_eq_none hsent).mp hreply ⟨hsends, by rw [hsome]; rfl⟩
  | some packet =>
      obtain ⟨hsends, hsome⟩ := (readReply_eq_some hsent).mp hreply
      rw [Option.elim_some]
      constructor
      · exact fun hrunning => ⟨hsends, packet, hsome, hrunning⟩
      · rintro ⟨-, packet', hsome', hrunning⟩
        obtain rfl := Option.some.inj (hsome.symm.trans hsome')
        exact hrunning

/-- A command whose reply is acknowledged comes back if there is a reply. -/
theorem cycle_acknowledged_iff (hperform : i.perform h = (some id, h')) (hmode : h'.mode = .normal)
    (hsent : h'.rawPacket ≠ [])
    (hstate : h'.internalState = .writePower ∨ h'.internalState = .writeConfig ∨
      h'.internalState = .writeRange ∨ h'.internalState = .performSelftest) :
    (h.cycle i).internalState = .running ↔ i.Replied := by
  have hstays : h'.internalState ≠ .running := by
    intro hrunning
    rw [hrunning] at hstate
    simp at hstate
  rw [cycle_running_iff hperform hsent hstays, Cycle.Replied, Option.isSome_iff_exists]
  apply and_congr_right'
  apply exists_congr
  intro packet
  exact and_iff_left (parseReply_acknowledged hmode hstate)

theorem cycle_readConfig_iff (hperform : i.perform h = (some readConfig, h'))
    (hmode : h'.mode = .normal) (hsent : h'.rawPacket ≠ []) (hstate : h'.internalState = .readConfig)
    (hcached : h'.gyroConfiguration = h.gyroConfiguration) :
    (h.cycle i).internalState = .running ↔ i.ReportsConfig h := by
  rw [cycle_running_iff hperform hsent (by rw [hstate]; decide)]
  simp only [parseReply_readConfig hmode hstate, hcached]
  constructor
  · rintro ⟨hsends, packet, hsome, hpacket, hpool⟩
    exact ⟨hsends, ⟨packet, hsome, hpacket⟩, hpool⟩
  · rintro ⟨hsends, ⟨packet, hsome, hpacket⟩, hpool⟩
    exact ⟨hsends, packet, hsome, hpacket, hpool⟩

theorem cycle_readStatus_iff (hperform : i.perform h = (some readStatus, h'))
    (hmode : h'.mode = .normal) (hsent : h'.rawPacket ≠ []) (hstate : h'.internalState = .readStatus) :
    (h.cycle i).internalState = .running ↔ i.ReportsSelfTest := by
  rw [cycle_running_iff hperform hsent (by rw [hstate]; decide), Cycle.ReportsSelfTest]
  simp only [parseReply_readStatus hmode hstate, Option.mem_def]

theorem rawPacket_ne_nil {n : Nat} (hlength : h.rawPacket.length = n + 1) : h.rawPacket ≠ [] := by
  intro hempty
  rw [hempty] at hlength
  cases hlength

/-- **One cycle.** From `RUNNING` a cycle comes back to it exactly if it gets the reply it needs. -/
theorem running_cycle_iff (i : Cycle) (h : Handler) (hmode : h.mode = .normal)
    (hrunning : h.internalState = .running) :
    (h.cycle i).internalState = .running ↔ i.ComesBack h := by
  rw [Cycle.ComesBack]
  cases hfilter : i.command.filter fun c => c.1 ∈ implemented with
  | some command =>
      obtain ⟨id, data⟩ := command
      obtain ⟨hcommand, hid⟩ := Option.filter_eq_some_iff.mp hfilter
      obtain ⟨h', hperform, hmode', hbuilt⟩ :=
        perform_of_implemented hmode hcommand (of_decide_eq_true hid)
      dsimp only
      cases hbuilt with
      | writePower state length =>
          rw [cycle_acknowledged_iff hperform hmode' (rawPacket_ne_nil length) (Or.inl state)]
          simp [writePower, writeConfig, readConfig, readStatus]
      | general one state length =>
          apply iff_of_true (cycle_of_running hperform (state.trans hrunning))
          simp [writePower, writeConfig, writeRange, readConfig, readStatus, one]
      | config two state length =>
          rw [cycle_acknowledged_iff hperform hmode' (rawPacket_ne_nil length) (Or.inr (Or.inl state))]
          simp [writePower, writeConfig, writeRange, readConfig, readStatus, two]
      | nothing one two state empty =>
          -- no bytes are sent, and so no reply is read
          have hnothing : i.readReply h' = none := if_neg fun hsent => hsent.2 empty
          refine iff_of_false (fun hback => ?_) (fun hback => ?_)
          · rw [cycle_of_perform hperform, hnothing, Option.elim_none, state] at hback
            cases hback
          · rcases hback.2.1 rfl with hone | ⟨htwo, -⟩
            · exact one hone
            · exact two htwo
      | readConfig state length cached =>
          rw [cycle_readConfig_iff hperform hmode' (rawPacket_ne_nil length) state cached]
          simp [writePower, writeConfig, writeRange, readConfig, readStatus]
      | writeRange state length =>
          rw [cycle_acknowledged_iff hperform hmode' (rawPacket_ne_nil length)
            (Or.inr (Or.inr (Or.inl state)))]
          simp [writeConfig, writeRange, readConfig, readStatus]
      | readPmu state length =>
          apply iff_of_true (cycle_of_running hperform (state.trans hrunning))
          simp [writePower, writeConfig, writeRange, readConfig, readStatus, readPmu]
      | performSelftest state length =>
          apply iff_of_true (cycle_of_running hperform (state.trans hrunning))
          simp [writePower, writeConfig, writeRange, readConfig, readStatus, performSelftest]
      | readStatus state length =>
          rw [cycle_readStatus_iff hperform hmode' (rawPacket_ne_nil length) state]
          simp [writePower, writeConfig, writeRange, readConfig, readStatus]
  | none =>
      have hnone : ∀ id data, i.command = some (id, data) → id ∉ implemented := by
        intro id data hcommand hid
        rw [hcommand, Option.filter_some, if_pos (decide_eq_true hid)] at hfilter
        cases hfilter
      obtain ⟨id, h', hbuild, hmode', hinternal⟩ := buildInternalCommand_internal (i := i) hmode hrunning
      have hperform : i.perform h = (some id, h') := by
        rw [perform_of_not_implemented hmode hnone, hbuild]
      dsimp only
      cases hinternal with
      | performSelftest due state length =>
          rw [cycle_acknowledged_iff hperform hmode' (rawPacket_ne_nil length)
            (Or.inr (Or.inr (Or.inr state)))]
          exact ⟨fun h => ⟨fun _ => h, fun early => absurd due early⟩, fun h => h.1 due⟩
      | readStatus early due state length =>
          rw [cycle_readStatus_iff hperform hmode' (rawPacket_ne_nil length) state]
          exact ⟨fun h => ⟨fun due => absurd due early, fun _ _ => h⟩, fun h => h.2 early due⟩
      | gyroData early notDue state length =>
          exact iff_of_true (cycle_of_running hperform state)
            ⟨fun due => absurd due early, fun _ due => absurd due notDue⟩

end Cycles

/-! ## Runs -/

section Runs

variable {i : Cycle} {h h' : Handler}

theorem lively_iff (h : Handler) : h.Lively ↔ (h.mode = .normal → h.internalState = .running) := by
  refine forall_congr' fun hmode => ⟨fun hlively => ?_, Or.inl⟩
  rcases hlively with hrunning | hbuilds
  · exact hrunning
  · by_contra hstate
    apply hbuilds none false
    rw [buildNormalDeviceCommand, if_neg hstate]

@[simp] theorem acknowledge_mode (h : Handler) : h.acknowledge.mode = h.mode := by
  rw [Handler.acknowledge]
  split <;> rfl

theorem scanForReply_mode (h : Handler) : (scanForReply h).2.mode = h.mode := by
  unfold scanForReply
  cases h.internalState <;> simp
  split <;> rfl

theorem interpretDeviceReply_mode (id : DeviceCommandId) (packet : Nat → UInt8) (o : PoolOutcome)
    (h : Handler) : (interpretDeviceReply id packet o h).2.mode = h.mode := by
  unfold interpretDeviceReply
  cases h.internalState with
  | readPmuStatus =>
      dsimp only
      split_ifs <;> simp
  | readConfig =>
      dsimp only
      unfold interpretConfig
      split_ifs
      · rfl
      · cases o.configRead with
        | some result => rfl
        | none => cases o.configCommit <;> simp
      · rfl
  | readStatus =>
      dsimp only
      unfold interpretStatus
      split_ifs <;> rfl
  | running =>
      dsimp only
      split_ifs <;> rfl
  | _ => rfl

theorem parseReply_mode (i : Cycle) (id : DeviceCommandId) (packet : Nat → UInt8) (h : Handler) :
    (i.parseReply id packet h).mode = h.mode := by
  unfold Cycle.parseReply
  have hscan := scanForReply_mode h
  rcases hfound : scanForReply h with ⟨found, h'⟩
  rw [hfound] at hscan
  cases found with
  | none => exact hscan
  | some found =>
      dsimp only
      split
      · rw [interpretDeviceReply_mode]
        exact hscan
      · exact hscan

/-- Behind the write the mode does not change. -/
theorem cycle_mode (i : Cycle) (h : Handler) : (h.cycle i).mode = (i.perform h).2.mode := by
  rcases hperform : i.perform h with ⟨id, h'⟩
  cases id with
  | none =>
      unfold Handler.cycle
      simp only [hperform]
  | some id =>
      rw [cycle_of_perform hperform]
      cases i.readReply h' with
      | none => rfl
      | some packet => exact parseReply_mode i id packet h'

theorem cycle_normal (hmode : h.mode = .normal) : (h.cycle i).mode = .normal := by
  rw [cycle_mode]
  by_cases hexternal : ∃ id data, i.command = some (id, data) ∧ id ∈ implemented
  · obtain ⟨id, data, hcommand, hid⟩ := hexternal
    obtain ⟨h', hperform, hmode', -⟩ := perform_of_implemented hmode hcommand hid
    rw [hperform]
    exact hmode'
  · rw [perform_of_not_implemented hmode fun id data hcommand hid => hexternal ⟨id, data, hcommand, hid⟩]
    by_cases hrunning : h.internalState = .running
    · obtain ⟨id, h', hbuild, hmode', -⟩ := buildInternalCommand_internal (i := i) hmode hrunning
      rw [hbuild]
      exact hmode'
    · rw [buildInternalCommand_of_not_running hmode hrunning]
      exact hmode

/-- The cycle in which the start-up ends is one from `RUNNING`, without an external command. -/
theorem cycle_of_startUp_end (hmode : h.mode = .startUp) (hnormal : (doStartUp h).mode = .normal) :
    h.cycle i = (doStartUp h).cycle { i with command := none } := by
  unfold Handler.cycle
  rw [perform_of_startUp hmode, perform_of_not_implemented hnormal fun _ _ hcommand => by cases hcommand]
  rfl

/-- **One step.** A handler that sends goes on sending exactly if the cycle comes back. -/
theorem step_running_iff (e : Event) (h : Handler) (hsends : h.mode = .normal → h.internalState = .running) :
    ((Handler.step e h).mode = .normal → (Handler.step e h).internalState = .running) ↔
      EventComesBack e h := by
  cases e with
  | restart => exact iff_of_true (fun hmode => by cases hmode) trivial
  | cycle i =>
      rw [Handler.step, EventComesBack, Handler.doStateMachine]
      cases hmode : h.mode with
      | normal =>
          have hstart : ¬ Mode.normal = .startUp := by decide
          rw [if_neg hstart, if_pos rfl, hmode]
          have hback := running_cycle_iff i h hmode (hsends hmode)
          exact ⟨fun hnext _ => hback.mp (hnext (cycle_normal hmode)), fun hnext _ => hback.mpr (hnext rfl)⟩
      | startUp =>
          have hnot : ¬ Mode.startUp = .normal := by decide
          rw [if_pos rfl, if_neg hnot]
          cases hend : (doStartUp h).mode with
          | startUp =>
              refine iff_of_true (fun hnormal => ?_) (fun hnormal => by cases hnormal)
              rw [cycle_mode, perform_of_startUp hmode, buildInternalCommand_of_startUp hend] at hnormal
              cases hnormal
          | normal =>
              have heq := doStartUp_normal hmode hend
              have hback := running_cycle_iff { i with command := none } (doStartUp h) hend
                (by rw [heq])
              have hsame : Cycle.ComesBack { i with command := none } (doStartUp h) ↔
                  Cycle.ComesBack { i with command := none } h := by
                rw [heq]
                exact Iff.rfl
              rw [cycle_of_startUp_end hmode hend]
              exact ⟨fun hnext _ => hsame.mp (hback.mp (hnext (cycle_normal hend))),
                fun hnext _ => hback.mpr (hsame.mpr (hnext rfl))⟩

/-- **The handler goes on sending.** From the first start-up on the handler is in `RUNNING`, or in a
    state in which it builds a command, exactly as long as every cycle in `MODE_NORMAL` comes back to
    `RUNNING`. -/
theorem goes_on_sending_iff (gyroConfiguration : UInt8 × UInt8) (events : List Event) :
    (∀ reached, reached <+: events →
        (run Handler.step reached (.initial gyroConfiguration)).Lively) ↔
      AlongRun EventComesBack Handler.step events (.initial gyroConfiguration) := by
  simp only [lively_iff]
  exact forall_run_iff step_running_iff events _ fun hmode => by cases hmode

/-- A status without the bit of the self-test leaves the handler in `READ_STATUS`, where it builds
    nothing. -/
theorem failed_selftest_stops_sending :
    ¬ ∀ gyroConfiguration events reached, reached <+: events →
      (run Handler.step reached (.initial gyroConfiguration)).Lively := by
  intro h
  have hlast := h (0, 0) (startUpEvents ++ [.cycle (replied none true fun _ => 0)]) _ (List.prefix_refl _)
  rw [run_append, run_startUp, lively_iff] at hlast
  exact absurd (hlast rfl) (by decide)

end Runs

end Gyro
end Obsw
