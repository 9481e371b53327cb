import Obsw.Devices.Gyro

/-!
# `Devices.GyroReplies` — replies and commands of the gyroscope

In `MODE_NORMAL` a reply is attributed by the internal state. It is attributed to the command that was
sent exactly if the command sets the state (`attributed_iff`), and so along every run, from the first
start-up on (`replies_attributed_iff`).
-/

namespace Obsw
namespace Gyro

open Loop

/-! ## What is promised -/

/-- The reply that is scanned for is that of the command whose bytes are on the bus. -/
def Handler.Identifies (id : DeviceCommandId) (h : Handler) : Prop :=
  (scanForReply h).1 = some (id, h.rawPacket.length)

/-- In a cycle in `MODE_NORMAL` the reply is attributed to the command that is sent. -/
def Cycle.Attributed (i : Cycle) (h : Handler) : Prop :=
  ∀ id h', i.perform h = (some id, h') → h'.mode = .normal → i.sends = true → h'.rawPacket ≠ [] →
    h'.Identifies id

/-- The external command of a cycle sets the state, or the state is that of the command already. -/
def Cycle.SetsState (i : Cycle) (h : Handler) : Prop :=
  i.sends = true → h.mode = .normal → ∀ id data, i.command = some (id, data) →
    (id = readPmu → h.internalState = .readPmuStatus) ∧
      (id = performSelftest → h.internalState = .performSelftest) ∧
      (id = writeConfig → data.length ≠ 1)

def EventAttributed (e : Event) (h : Handler) : Prop :=
  match e with
  | .cycle i => i.Attributed h
  | .restart => True

def EventSetsState (e : Event) (h : Handler) : Prop :=
  match e with
  | .cycle i => i.SetsState h
  | .restart => True

/-- The weekly self-test is due. -/
def Cycle.SelfTestDue (i : Cycle) (h : Handler) : Prop :=
  ∃ uptime ∈ i.uptimeSeconds, uptime - h.lastSelfTestSeconds ≥ selfTestPeriodSecond

/-- The register of the self-test is to be read. -/
def Cycle.StatusDue (i : Cycle) (h : Handler) : Prop :=
  i.uptimeSeconds.isSome = true ∧ h.checkSelfTestRegister = true ∧ i.dividerFires = true

/-- The commands `buildCommandFromCommand` knows. -/
def implemented : List DeviceCommandId :=
  [writePower, writeConfig, readConfig, writeRange, readPmu, performSelftest, readStatus]

/-! ## Commands on the bus -/

section Commands

variable {i : Cycle} {h h' : Handler} {id : DeviceCommandId} {data : List UInt8} {behind : UInt8}
  {code : Code}

/-- A command that was built in `MODE_NORMAL`: its state, and how many bytes it sends. -/
inductive Built (data : List UInt8) (h h' : Handler) : DeviceCommandId → Prop where
  | writePower (state : h'.internalState = .writePower) (length : h'.rawPacket.length = 2) :
      Built data h h' Gyro.writePower
  | general (one : data.length = 1) (state : h'.internalState = h.internalState)
      (length : h'.rawPacket.length = 2) : Built data h h' Gyro.writeConfig
  | config (two : data.length = 2) (state : h'.internalState = .writeConfig)
      (length : h'.rawPacket.length = 3) : Built data h h' Gyro.writeConfig
  | nothing (one : data.length ≠ 1) (two : data.length ≠ 2) (state : h'.internalState = .writeConfig)
      (empty : h'.rawPacket = []) : Built data h h' Gyro.writeConfig
  | readConfig (state : h'.internalState = .readConfig) (length : h'.rawPacket.length = 3)
      (cached : h'.gyroConfiguration = h.gyroConfiguration) : Built data h h' Gyro.readConfig
  | writeRange (state : h'.internalState = .writeRange) (length : h'.rawPacket.length = 2) :
      Built data h h' Gyro.writeRange
  | readPmu (state : h'.internalState = h.internalState) (length : h'.rawPacket.length = 2) :
      Built data h h' Gyro.readPmu
  | performSelftest (state : h'.internalState = h.internalState)
      (length : h'.rawPacket.length = 2) : Built data h h' Gyro.performSelftest
  | readStatus (state : h'.internalState = .readStatus) (length : h'.rawPacket.length = 2) :
      Built data h h' Gyro.readStatus

theorem buildCommandFromCommand_built (hmode : h.mode = .normal)
    (hbuild : buildCommandFromCommand id data behind h = (none, h')) :
    h'.mode = .normal ∧ Built data h h' id := by
  unfold buildCommandFromCommand at hbuild
  split at hbuild
  · rename_i hid
    obtain rfl := hid
    obtain rfl := congrArg Prod.snd hbuild
    exact ⟨hmode, .writePower (if_pos hmode) rfl⟩
  split at hbuild
  · rename_i hid
    obtain rfl := hid
    obtain rfl := congrArg Prod.snd hbuild
    match data with
    | [] => exact ⟨hmode, .nothing (by simp) (by simp) (if_pos hmode) rfl⟩
    | [_] => exact ⟨hmode, .general rfl rfl rfl⟩
    | [_, _] => exact ⟨hmode, .config rfl (if_pos hmode) rfl⟩
    | _ :: _ :: _ :: _ => exact ⟨hmode, .nothing (by simp) (by simp) (if_pos hmode) rfl⟩
  split at hbuild
  · rename_i hid
    obtain rfl := hid
    obtain rfl := congrArg Prod.snd hbuild
    exact ⟨hmode, .readConfig (if_pos hmode) rfl rfl⟩
  split at hbuild
  · rename_i hid
    obtain rfl := hid
    obtain rfl := congrArg Prod.snd hbuild
    exact ⟨hmode, .writeRange (if_pos hmode) rfl⟩
  split at hbuild
  · rename_i hid
    obtain rfl := hid
    obtain rfl := congrArg Prod.snd hbuild
    exact ⟨hmode, .readPmu rfl rfl⟩
  split at hbuild
  · rename_i hid
    obtain rfl := hid
    obtain rfl := congrArg Prod.snd hbuild
    exact ⟨hmode, .performSelftest rfl rfl⟩
  split at hbuild
  · rename_i hid
    obtain rfl := hid
    obtain rfl := congrArg Prod.snd hbuild
    exact ⟨hmode, .readStatus (if_pos hmode) rfl⟩
  · cases hbuild

/-- What the handler sends by itself in `MODE_NORMAL`, in `RUNNING` only. -/
inductive Internal (i : Cycle) (h h' : Handler) : DeviceCommandId → Prop where
  | performSelftest (due : i.SelfTestDue h) (state : h'.internalState = .performSelftest)
      (length : h'.rawPacket.length = 2) : Internal i h h' Gyro.performSelftest
  | readStatus (early : ¬ i.SelfTestDue h) (due : i.StatusDue h)
      (state : h'.internalState = .readStatus) (length : h'.rawPacket.length = 2) :
      Internal i h h' Gyro.readStatus
  | gyroData (early : ¬ i.SelfTestDue h) (notDue : ¬ i.StatusDue h)
      (state : h'.internalState = .running) (length : h'.rawPacket.length = 7) :
      Internal i h h' Gyro.gyroData

/-- In `RUNNING` a command is built, and in no other state. -/
theorem buildInternalCommand_internal (hmode : h.mode = .normal) (hrunning : h.internalState = .running) :
    ∃ id h', i.buildInternalCommand h = (some id, h') ∧ h'.mode = .normal ∧ Internal i h h' id := by
  have hbuild : i.buildInternalCommand h =
      (if (buildNormalDeviceCommand i.uptimeSeconds i.dividerFires h).1 = none then
          (buildNormalDeviceCommand i.uptimeSeconds i.dividerFires h).2.1 else none,
        (buildNormalDeviceCommand i.uptimeSeconds i.dividerFires h).2.2) := by
    rw [Cycle.buildInternalCommand]
    simp only [hmode]
  rw [hbuild, buildNormalDeviceCommand, if_pos hrunning]
  unfold checkSelfTest
  cases huptime : i.uptimeSeconds with
  | none =>
      have hearly : ¬ i.SelfTestDue h := by simp [Cycle.SelfTestDue, huptime]
      have hnotDue : ¬ i.StatusDue h := by simp [Cycle.StatusDue, huptime]
      exact ⟨_, _, rfl, hmode, .gyroData hearly hnotDue hrunning rfl⟩
  | some uptime =>
      by_cases hdue : uptime - h.lastSelfTestSeconds ≥ selfTestPeriodSecond
      · simp only [if_pos hdue]
        exact ⟨_, _, rfl, hmode, .performSelftest ⟨uptime, huptime, hdue⟩ rfl rfl⟩
      · have hearly : ¬ i.SelfTestDue h := by
          rintro ⟨uptime', huptime', hdue'⟩
          rw [huptime] at huptime'
          obtain rfl := Option.some.inj huptime'
          exact hdue hdue'
        simp only [if_neg hdue]
        by_cases hstatus : (h.checkSelfTestRegister && i.dividerFires) = true
        · simp only [if_pos hstatus]
          have hboth := (Bool.and_eq_true _ _).mp hstatus
          exact ⟨_, _, rfl, hmode, .readStatus hearly ⟨by rw [huptime]; rfl, hboth⟩ (if_pos hmode) rfl⟩
        · simp only [if_neg hstatus]
          have hnotDue : ¬ i.StatusDue h := fun h => hstatus ((Bool.and_eq_true _ _).mpr h.2)
          exact ⟨_, _, rfl, hmode, .gyroData hearly hnotDue hrunning rfl⟩

theorem buildInternalCommand_of_not_running (hmode : h.mode = .normal)
    (hstate : h.internalState ≠ .running) : i.buildInternalCommand h = (none, h) := by
  rw [Cycle.buildInternalCommand]
  simp only [hmode, buildNormalDeviceCommand, if_neg hstate]
  rfl

theorem buildCommandFromCommand_of_not_implemented (hid : id ∉ implemented) :
    buildCommandFromCommand id data behind h = (some .commandNotImplemented, h) := by
  simp only [implemented, List.mem_cons, List.not_mem_nil, or_false, not_or] at hid
  obtain ⟨hpower, hconfig, hread, hrange, hpmu, hselftest, hstatus⟩ := hid
  rw [buildCommandFromCommand, if_neg hpower, if_neg hconfig, if_neg hread, if_neg hrange, if_neg hpmu,
    if_neg hselftest, if_neg hstatus]

theorem buildCommandFromCommand_of_implemented (hid : id ∈ implemented) (data : List UInt8)
    (behind : UInt8) (h : Handler) :
    ∃ h', buildCommandFromCommand id data behind h = (none, h') := by
  simp only [implemented, List.mem_cons, List.not_mem_nil, or_false] at hid
  rcases hid with rfl | rfl | rfl | rfl | rfl | rfl | rfl
  all_goals exact ⟨_, rfl⟩

/-- In `MODE_NORMAL` a cycle sends its external command, if that is implemented. -/
theorem perform_of_implemented (hmode : h.mode = .normal) (hcommand : i.command = some (id, data))
    (hid : id ∈ implemented) :
    ∃ h', i.perform h = (some id, h') ∧ h'.mode = .normal ∧ Built data h h' id := by
  obtain ⟨h', hbuild⟩ := buildCommandFromCommand_of_implemented hid data i.behind h
  obtain ⟨hmode', hbuilt⟩ := buildCommandFromCommand_built hmode hbuild
  have hqueue : i.readCommandQueue h = (some id, h') := by
    rw [Cycle.readCommandQueue]
    simp only [hcommand, if_pos hmode, hbuild]
  refine ⟨h', ?_, hmode', hbuilt⟩
  rw [Cycle.perform, hqueue]
  simp only [Handler.doStateMachine, hmode']
  rfl

/-- Else it sends what the handler builds by itself. -/
theorem perform_of_not_implemented (hmode : h.mode = .normal)
    (hcommand : ∀ id data, i.command = some (id, data) → id ∉ implemented) :
    i.perform h = i.buildInternalCommand h := by
  have hqueue : i.readCommandQueue h = (none, h) := by
    rw [Cycle.readCommandQueue]
    cases hc : i.command with
    | none => rfl
    | some c =>
        obtain ⟨id, data⟩ := c
        simp only [if_pos hmode, buildCommandFromCommand_of_not_implemented (hcommand id data hc)]
  rw [Cycle.perform, hqueue]
  simp only [Handler.doStateMachine, hmode]
  rfl

/-- In the start-up the external command is not read. -/
theorem perform_of_startUp (hmode : h.mode = .startUp) :
    i.perform h = i.buildInternalCommand (doStartUp h) := by
  have hqueue : i.readCommandQueue h = (none, h) := by
    rw [Cycle.readCommandQueue]
    cases i.command with
    | none => rfl
    | some c =>
        obtain ⟨id, data⟩ := c
        simp [hmode]
  rw [Cycle.perform, hqueue]
  simp only [Handler.doStateMachine, if_pos hmode]

end Commands

/-! ## Whose reply it is -/

section Replies

variable {i : Cycle} {h h' : Handler} {id : DeviceCommandId} {data : List UInt8}

/-- The reply that is expected in a state. -/
def expectedReply : InternalStates → Option (DeviceCommandId × Nat)
  | .modeSelect => some (spiSelect, 2)
  | .writePower => some (Gyro.writePower, 2)
  | .readPmuStatus => some (Gyro.readPmu, 2)
  | .writeConfig => some (Gyro.writeConfig, 3)
  | .readConfig => some (Gyro.readConfig, 3)
  | .writeRange => some (Gyro.writeRange, 2)
  | .performSelftest => some (Gyro.performSelftest, 2)
  | .readStatus => some (Gyro.readStatus, 2)
  | .running => some (Gyro.gyroData, 7)
  | .none => none
  | .faulty => none

theorem scanForReply_found (h : Handler) : (scanForReply h).1 = expectedReply h.internalState := by
  unfold scanForReply
  cases h.internalState <;> rfl

/-- A reply is identified if the state and the bytes on the bus agree. -/
theorem identifies_iff (id : DeviceCommandId) (h : Handler) :
    h.Identifies id ↔ expectedReply h.internalState = some (id, h.rawPacket.length) := by
  rw [Handler.Identifies, scanForReply_found]

theorem expectedReply_readPmu (state : InternalStates) :
    expectedReply state = some (Gyro.readPmu, 2) ↔ state = .readPmuStatus := by
  cases state <;> decide

theorem expectedReply_performSelftest (state : InternalStates) :
    expectedReply state = some (Gyro.performSelftest, 2) ↔ state = .performSelftest := by
  cases state <;> decide

/-- An external command that sends anything is identified exactly if it sets the state. -/
theorem Built.identifies_iff (hbuilt : Built data h h' id) (hsent : h'.rawPacket ≠ []) :
    h'.Identifies id ↔
      (id = Gyro.readPmu → h.internalState = .readPmuStatus) ∧
        (id = Gyro.performSelftest → h.internalState = .performSelftest) ∧
        (id = Gyro.writeConfig → data.length ≠ 1) := by
  rw [Gyro.identifies_iff]
  cases hbuilt with
  | general one state length =>
      -- two bytes are sent, and no state expects two bytes for this command
      refine iff_of_false (fun hid => ?_) (fun hset => hset.2.2 rfl one)
      rw [length] at hid
      revert hid
      cases h'.internalState <;> decide
  | readPmu state length =>
      rw [length, state, expectedReply_readPmu]
      exact ⟨fun h => ⟨fun _ => h, fun h => absurd h (by decide), fun h => absurd h (by decide)⟩,
        fun h => h.1 rfl⟩
  | performSelftest state length =>
      rw [length, state, expectedReply_performSelftest]
      exact ⟨fun h => ⟨fun h => absurd h (by decide), fun _ => h, fun h => absurd h (by decide)⟩,
        fun h => h.2.1 rfl⟩
  | nothing one two state empty => exact absurd empty hsent
  | config two state length =>
      rw [length, state]
      exact iff_of_true rfl ⟨fun h => absurd h (by decide), fun h => absurd h (by decide), fun _ => by omega⟩
  | writePower state length
  | writeRange state length
  | readStatus state length
  | readConfig state length =>
      rw [length, state]
      exact iff_of_true rfl
        ⟨fun h => absurd h (by decide), fun h => absurd h (by decide), fun h => absurd h (by decide)⟩

/-- What the handler sends by itself is identified. -/
theorem Internal.identifies (hinternal : Internal i h h' id) : h'.Identifies id := by
  rw [Gyro.identifies_iff]
  cases hinternal with
  | performSelftest due state length
  | readStatus early due state length
  | gyroData early notDue state length =>
      rw [length, state]
      rfl

theorem Built.of_empty (hbuilt : Built data h h' id) (hempty : h'.rawPacket = []) :
    id = Gyro.writeConfig ∧ data.length ≠ 1 := by
  cases hbuilt with
  | nothing one two state empty => exact ⟨rfl, one⟩
  | _ => simp_all

/-- In a cycle that starts in `MODE_NORMAL`, a command of the handler itself is identified. -/
theorem buildInternalCommand_identifies (hmode : h.mode = .normal)
    (hbuild : i.buildInternalCommand h = (some id, h')) : h'.Identifies id := by
  by_cases hrunning : h.internalState = .running
  · obtain ⟨id', h'', hbuild', -, hinternal⟩ := buildInternalCommand_internal (i := i) hmode hrunning
    rw [hbuild'] at hbuild
    obtain ⟨hid, rfl⟩ := Prod.mk.inj hbuild
    obtain rfl := Option.some.inj hid
    exact hinternal.identifies
  · rw [buildInternalCommand_of_not_running hmode hrunning] at hbuild
    cases hbuild

theorem buildTransition_mode (h : Handler) : (buildTransition h).2.2.mode = h.mode := by
  unfold buildTransition
  cases h.internalState <;> rfl

/-- The start-up ends in `RUNNING`, and else it stays a start-up. -/
theorem buildInternalCommand_of_startUp (hmode : h.mode = .startUp) :
    (i.buildInternalCommand h).2.mode = .startUp := by
  rw [Cycle.buildInternalCommand]
  simp only [hmode]
  rw [buildTransitionDeviceCommand]
  split
  · exact hmode
  split
  · split
    · exact hmode
    · rw [buildTransition_mode]
      exact hmode
  · rw [buildTransition_mode]
    exact hmode

@[simp] theorem advance_mode (state : InternalStates) (h : Handler) :
    (h.advance state).mode = h.mode := by
  rw [Handler.advance]
  split <;> rfl

/-- The start-up ends in `RUNNING`. -/
theorem doStartUp_normal (hmode : h.mode = .startUp) (hnormal : (doStartUp h).mode = .normal) :
    doStartUp h = { h with internalState := .running, mode := .normal } := by
  unfold doStartUp at hnormal ⊢
  cases hstate : h.internalState with
  | readStatus =>
      simp only [hstate] at hnormal ⊢
      by_cases hexecuted : h.commandExecuted = true
      · rw [if_pos hexecuted]
      · rw [if_neg hexecuted, hmode] at hnormal
        cases hnormal
  | _ => simp [hstate, hmode] at hnormal

/-- **Attribution.** The reply of a cycle is attributed to its command exactly if the command sets the
    state. -/
theorem attributed_iff (i : Cycle) (h : Handler) : i.Attributed h ↔ i.SetsState h := by
  cases hmode : h.mode with
  | startUp =>
      refine iff_of_true (fun id h' hperform hnormal _ _ => ?_) (fun _ hnormal => ?_)
      · rw [perform_of_startUp hmode] at hperform
        cases hend : (doStartUp h).mode with
        | startUp =>
            have hstays := buildInternalCommand_of_startUp (i := i) hend
            rw [hperform, hnormal] at hstays
            cases hstays
        | normal => exact buildInternalCommand_identifies hend hperform
      · rw [hmode] at hnormal
        cases hnormal
  | normal =>
      by_cases hexternal : ∃ id data, i.command = some (id, data) ∧ id ∈ implemented
      · obtain ⟨id, data, hcommand, hid⟩ := hexternal
        obtain ⟨h', hperform, hmode', hbuilt⟩ := perform_of_implemented hmode hcommand hid
        have hset : i.SetsState h ↔ (i.sends = true →
            (id = readPmu → h.internalState = .readPmuStatus) ∧
              (id = performSelftest → h.internalState = .performSelftest) ∧
              (id = writeConfig → data.length ≠ 1)) := by
          rw [Cycle.SetsState, hcommand]
          refine forall_congr' fun _ => ⟨fun h => h hmode id data rfl, fun h _ id' data' hsame => ?_⟩
          obtain ⟨rfl, rfl⟩ := Prod.mk.inj (Option.some.inj hsame)
          exact h
        have hattributed : i.Attributed h ↔
            (i.sends = true → h'.rawPacket ≠ [] → h'.Identifies id) := by
          refine ⟨fun h hsends => h id h' hperform hmode' hsends, fun h id' h'' hperform' _ hsends => ?_⟩
          rw [hperform] at hperform'
          obtain ⟨hsame, rfl⟩ := Prod.mk.inj hperform'
          obtain rfl := Option.some.inj hsame
          exact h hsends
        rw [hset, hattributed]
        refine forall_congr' fun _ => ?_
        by_cases hempty : h'.rawPacket = []
        · -- nothing is on the bus
          obtain ⟨rfl, hone⟩ := hbuilt.of_empty hempty
          exact iff_of_true (fun hsent => absurd hempty hsent)
            ⟨fun h => absurd h (by decide), fun h => absurd h (by decide), fun _ => hone⟩
        · rw [← hbuilt.identifies_iff hempty]
          exact ⟨fun h => h hempty, fun h _ => h⟩
      · have hnone : ∀ id data, i.command = some (id, data) → id ∉ implemented :=
          fun id data hcommand hid => hexternal ⟨id, data, hcommand, hid⟩
        refine iff_of_true (fun id h' hperform _ _ _ => ?_) (fun _ _ id data hcommand => ?_)
        · rw [perform_of_not_implemented hmode hnone] at hperform
          exact buildInternalCommand_identifies hmode hperform
        · have hid := hnone id data hcommand
          exact ⟨fun h => absurd (h ▸ by decide) hid, fun h => absurd (h ▸ by decide) hid,
            fun h => absurd (h ▸ by decide) hid⟩

/-- **Attribution along a run.** Every reply that is read in `MODE_NORMAL` is attributed to the command
    that was sent, exactly if every external command that is sent sets the state. -/
theorem replies_attributed_iff (gyroConfiguration : UInt8 × UInt8) (events : List Event) :
    AlongRun EventAttributed Handler.step events (.initial gyroConfiguration) ↔
      AlongRun EventSetsState Handler.step events (.initial gyroConfiguration) := by
  refine alongRun_congr (fun e h => ?_) events _
  cases e with
  | cycle i => exact attributed_iff i h
  | restart => exact Iff.rfl

end Replies

/-! ## A start-up -/

/-- A cycle that sends a command and gets the reply. -/
def replied (command : Option (DeviceCommandId × List UInt8)) (dividerFires : Bool)
    (packet : Nat → UInt8) : Cycle where
  command := command
  behind := 0
  isAwaitingReply := false
  uptimeSeconds := some 0
  dividerFires := dividerFires
  sends := true
  reply := some packet
  expected := false
  pool := ⟨none, none, true⟩

/-- The configuration that is written, which has the bit of the passed self-test too. -/
def configReply (n : Nat) : UInt8 := if n = 1 then gyroDefConfig else rangeConfig

/-- The reply to `READ_PMU`. -/
def pmuReply (_ : Nat) : UInt8 := 0b00000100

/-- The eight cycles of a start-up without a failure. -/
def startUpEvents : List Event :=
  [configReply, configReply, pmuReply, configReply, configReply, configReply, configReply, configReply].map
    fun packet => .cycle (replied none false packet)

/-- The handler behind them polls the angular velocity. -/
def started : Handler where
  mode := .normal
  comInterface := .spi
  internalState := .running
  commandExecuted := true
  checkSelfTestRegister := true
  lastSelfTestSeconds := 0
  selfTestFailCounter := 0
  gyroConfiguration := (gyroDefConfig, rangeConfig)
  commandBuffer := gyroDataCmd :: List.replicate 11 0
  rawPacketLen := 7
  gyroConfigSet := (gyroDefConfig, rangeConfig)
  gyroDataSet := (0x0417, 0x0404, 0x0404)

theorem run_startUp : run Handler.step startUpEvents (.initial (0, 0)) = started := by
  rfl

/-- The reply to a `READ_PMU` that is sent in `RUNNING` is taken for seven bytes of angular velocities. -/
theorem pmu_reply_misattributed :
    ¬ ∀ gyroConfiguration events,
      AlongRun EventAttributed Handler.step events (.initial gyroConfiguration) := by
  intro h
  have hrun := h (0, 0) (startUpEvents ++ [.cycle (replied (some (readPmu, [])) false pmuReply)])
  have hlast := (alongRun_append.mp hrun).2.1
  rw [run_startUp] at hlast
  have hidentified := hlast readPmu _ rfl rfl rfl (by decide)
  exact absurd hidentified (by unfold Handler.Identifies; decide)
end Gyro
end Obsw
