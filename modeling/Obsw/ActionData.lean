import Obsw.Core.Actions
import Obsw.Image.Handler
import Obsw.Lib.Reads
import Obsw.Sdc.Actions

/-!
# `Obsw.ActionData` — how action commands read their data

`executeAction` of the core controller, of the SD card handler and of the software image handler, with
each access to the data of the command as a read of its own. Every action tests the size by itself. What
is computed from the bytes is computed by the branches of the three components, to which the reads are
connected by `run_readAction` of each of them.
-/

namespace Obsw

open Reads

/-- The reads stay inside the payload, and a payload that is too short for the action is rejected. -/
def Careful {ρ : Type} (r : Reads ρ) (data : Nat → UInt8) (size : Nat) (tooShort : Prop)
    (rejected : ρ → Prop) : Prop :=
  r.Inside data size ∧ (tooShort → rejected (r.run data))

/-- An action that needs no data is careful. -/
theorem careful_done {ρ : Type} (x : ρ) (rejected : ρ → Prop) (data : Nat → UInt8) (size : Nat) :
    Careful (.done x) data size (size < 0) rejected :=
  ⟨inside_done x, fun h => absurd h (Nat.not_lt_zero size)⟩

/-! ## The core controller -/

namespace CoreActions

/-- The indices of the data of a store command. -/
def storeType : Nat := 0
def pageIndex : Nat := 1

/-- The commands with a slot: `branch` is given the bytes that are there to be read. -/
def readSlot (size : Nat) (branch : List UInt8 → Executed) : Reads (Option Executed) :=
  if size < 1 then .done (some (branch []))
  else .read 0 fun slot => .done (some (branch [slot]))

/-- `executeAction` with its reads. -/
def readAction (actionId : ActionId) (commandedBy : MessageQueueId) (size : Nat) (o : ActionOutcome)
    (s : Controller) : Reads (Option Executed) :=
  let command (data : List UInt8) : ActionCommand := ⟨actionId, commandedBy, data⟩
  let invalid : Reads (Option Executed) := .done (some ⟨.failed .invalidParameters, [], [], s⟩)
  if actionId = clearStorePage then
    if size > 2 ∨ size < 1 then invalid
    else .read storeType fun type => .read pageIndex fun page =>
      .done (some (handleClearStoreCommand type actionId page s))
  else if actionId = clearWholeStore then
    if size > 2 ∨ size < 1 then invalid
    else .read storeType fun type => .done (some (handleClearStoreCommand type actionId 0 s))
  else if actionId = getFillCount then
    if size ≠ 1 then invalid
    else .read storeType fun type => .done (getFillCountCommand type o s)
  else if actionId = resetRebootCounterAction then
    readSlot size fun data => resetRebootCounter (command data) o s
  else if actionId = enableLocalHammingCodeChecks then
    readSlot size fun data => manipulateLocalHammingFlag true (command data) o s
  else if actionId = disableLocalHammingCodeChecks then
    readSlot size fun data => manipulateLocalHammingFlag false (command data) o s
  -- no other branch has a look at the data
  else .done (executeAction (command []) o s)

/-- The number of bytes an action needs. -/
def neededSize (actionId : ActionId) : Nat :=
  if actionId = clearStorePage then 2
  else if actionId = clearWholeStore ∨ actionId = getFillCount ∨ actionId = resetRebootCounterAction ∨
      actionId = enableLocalHammingCodeChecks ∨ actionId = disableLocalHammingCodeChecks then 1
  else 0

/-- The command is answered with an error code, and nothing has changed. -/
def RejectedAt (s : Controller) (x : Option Executed) : Prop :=
  ∃ y code, x = some y ∧ y.result = .failed code ∧ y.controller = s

end CoreActions

/-! ## The SD card handler -/

namespace Sdc
namespace Actions

/-- `executeAction` with its reads. -/
def readAction (actionId : ActionId) (commandedBy : MessageQueueId) (size : Nat) (o : ActionOutcome)
    (h : Handler) : Reads Executed :=
  let command (data : List UInt8) : ActionCommand := ⟨actionId, commandedBy, data⟩
  if actionId = setLoadObswUpdate then
    if size < 1 then .done ⟨.failed .invalidParameters, [], h⟩
    else .read 0 fun enable =>
      if enable > 1 then .done ⟨.failed .invalidParameters, [], h⟩
      else if enable ≠ 0 then
        if size < 2 then .done ⟨.failed .invalidParameters, [], h⟩
        else .read 1 fun volume => .done (executeSetLoadObswUpdate (command [enable, volume]) o h)
      else .done (executeSetLoadObswUpdate (command [enable]) o h)
  -- no other branch has a look at the data
  else .done (executeAction (command []) o h)

/-- The number of bytes an action needs: two if an update is to be enabled. -/
def neededSize (actionId : ActionId) (data : Nat → UInt8) : Nat :=
  if actionId = setLoadObswUpdate then if data 0 = 1 then 2 else 1 else 0

/-- The command is answered with an error code, and nothing has changed. -/
def RejectedAt (h : Handler) (x : Executed) : Prop :=
  ∃ code, x.result = .failed code ∧ x.handler = h

end Actions
end Sdc

/-! ## The software image handler -/

namespace Image

open Engine Device

/-- The commands with exactly one byte. -/
def readParameter (size : Nat) (branch : List UInt8 → Executed) : Reads Executed :=
  if size ≠ 1 then .done (branch [])
  else .read 0 fun parameter => .done (branch [parameter])

/-- `handleCopyingSdcBlToFlash` with its reads. -/
def readCopyingSdcBlToFlash (board : Board) (size : Nat) (branch : List UInt8 → Executed)
    (h : SoftwareImageHandler) : Reads Executed :=
  if h.handlerState = .copying then .done (branch [])
  else
    match board with
    | .iobc => readParameter size branch
    | .at91sam9g20Ek =>
      if size < 1 then .done (branch []) else .read 0 fun parameter => .done (branch [parameter])

/-- `executeAction` with its reads. -/
def readAction (board : Board) (flagWrite : WriteOutcome UInt8) (actionId : ActionId)
    (commandedBy : MessageQueueId) (size : Nat) (h : SoftwareImageHandler) (fram : Memory.Mem UInt8) :
    Reads (Executed × Memory.Mem UInt8) :=
  let command (data : List UInt8) : ActionCommand := ⟨actionId, commandedBy, data⟩
  if actionId = copyBootloaderSdcToFlash then
    (readCopyingSdcBlToFlash board size (fun data => handleCopyingSdcBlToFlash board (command data) h)
      h).map (·, fram)
  else if actionId = copyObswSdcToFlash then
    (readParameter size fun data => handleCopyingSdcImgToFlash (command data) h).map (·, fram)
  else if actionId = copyObswSdcToSdc then
    (readParameter size fun data => handleCopyingSdcToSdc (command data) h).map (·, fram)
  else if actionId = copyHammingSdcToStorage then
    (readParameter size fun data => handleCopyingHammingToStorage board (command data) h).map (·, fram)
  -- no other branch has a look at the data
  else .done (executeAction board flagWrite (command []) h fram)

/-- The number of bytes an action needs. -/
def neededSize (actionId : ActionId) : Nat := if IsCopyAction actionId then 1 else 0

/-- The command is answered with an error code, and nothing has changed. -/
def RejectedAt (h : SoftwareImageHandler) (fram : Memory.Mem UInt8)
    (x : Executed × Memory.Mem UInt8) : Prop :=
  ∃ code, x.1.1 = .failed code ∧ x.1.2.2 = h ∧ x.2 = fram

end Image

/-! ## The reads compute what the actions compute -/

namespace CoreActions

variable {actionId : ActionId} {commandedBy : MessageQueueId} {data : Nat → UInt8} {size : Nat}
  {o : ActionOutcome} {s : Controller}

/-- The actions that have no look at their data. -/
theorem executeAction_without_data (bytes : List UInt8) (behind : UInt8)
    (hpage : actionId ≠ clearStorePage) (hstore : actionId ≠ clearWholeStore)
    (hfill : actionId ≠ getFillCount) (hreboot : actionId ≠ resetRebootCounterAction)
    (henable : actionId ≠ enableLocalHammingCodeChecks)
    (hdisable : actionId ≠ disableLocalHammingCodeChecks) :
    executeAction ⟨actionId, commandedBy, []⟩ o s =
      executeAction ⟨actionId, commandedBy, bytes⟩ { o with behind := behind } s := by
  unfold executeAction
  refine ite_congr rfl (fun _ => rfl) fun _ => ?_
  refine ite_congr rfl (fun _ => rfl) fun _ => ?_
  refine ite_congr rfl (fun _ => rfl) fun _ => ?_
  refine ite_congr rfl (fun _ => rfl) fun _ => ?_
  refine ite_congr rfl (fun h => absurd h hpage) fun _ => ?_
  refine ite_congr rfl (fun h => absurd h hstore) fun _ => ?_
  refine ite_congr rfl (fun h => absurd h hfill) fun _ => ?_
  refine ite_congr rfl (fun h => absurd h hreboot) fun _ => ?_
  refine ite_congr rfl (fun _ => rfl) fun _ => ?_
  refine ite_congr rfl (fun _ => rfl) fun _ => ?_
  refine ite_congr rfl (fun h => absurd h henable) fun _ => ?_
  refine ite_congr rfl (fun h => absurd h hdisable) fun _ => ?_
  refine ite_congr rfl (fun _ => rfl) fun _ => ?_
  refine ite_congr rfl (fun _ => rfl) fun _ => ?_
  refine ite_congr rfl (fun _ => rfl) fun _ => ?_
  refine ite_congr rfl (fun _ => rfl) fun _ => ?_
  exact ite_congr rfl (fun _ => rfl) fun _ => rfl

theorem run_readSlot (branch : List UInt8 → Executed)
    (hhead : ∀ slot rest, branch (slot :: rest) = branch [slot]) :
    (readSlot size branch).run data = some (branch (payload data size)) := by
  unfold readSlot
  cases size with
  | zero => rfl
  | succ n =>
      rw [if_neg (by omega), payload, hhead]
      rfl

/-- The reads of the core controller are those of `executeAction`, with the byte behind the data. -/
theorem run_readAction :
    (readAction actionId commandedBy size o s).run data =
      executeAction ⟨actionId, commandedBy, payload data size⟩ { o with behind := data size } s := by
  unfold readAction
  by_cases hpage : actionId = clearStorePage
  · subst hpage
    match size with
    | 0 => rfl
    | 1 => rfl
    | 2 => rfl
    | n + 3 =>
      rw [if_pos rfl, if_pos (by omega)]
      rfl
  rw [if_neg hpage]
  by_cases hstore : actionId = clearWholeStore
  · subst hstore
    match size with
    | 0 => rfl
    | 1 => rfl
    | 2 => rfl
    | n + 3 =>
      rw [if_pos rfl, if_pos (by omega)]
      rfl
  rw [if_neg hstore]
  by_cases hfill : actionId = getFillCount
  · subst hfill
    match size with
    | 0 => rfl
    | 1 => rfl
    | n + 2 =>
      rw [if_pos rfl, if_pos (by omega)]
      rfl
  rw [if_neg hfill]
  by_cases hreboot : actionId = resetRebootCounterAction
  · subst hreboot
    rw [if_pos rfl, run_readSlot _ fun _ _ => rfl]
    rfl
  rw [if_neg hreboot]
  by_cases henable : actionId = enableLocalHammingCodeChecks
  · subst henable
    rw [if_pos rfl, run_readSlot _ fun _ _ => rfl]
    rfl
  rw [if_neg henable]
  by_cases hdisable : actionId = disableLocalHammingCodeChecks
  · subst hdisable
    rw [if_pos rfl, run_readSlot _ fun _ _ => rfl]
    rfl
  rw [if_neg hdisable]
  exact executeAction_without_data _ _ hpage hstore hfill hreboot henable hdisable

/-- The commands with a slot are careful if `branch` rejects a command without data. -/
theorem readSlot_careful (branch : List UInt8 → Executed) (hempty : RejectedAt s (some (branch []))) :
    Careful (readSlot size branch) data size (size < 1) (RejectedAt s) := by
  unfold readSlot
  by_cases hsize : size < 1
  · rw [if_pos hsize]
    exact ⟨inside_done _, fun _ => hempty⟩
  · rw [if_neg hsize]
    refine ⟨?_, fun h => absurd h hsize⟩
    rw [inside_read]
    exact ⟨by omega, inside_done _⟩

/-- A page is cleared with the byte behind the data if there is only one byte. -/
theorem clearStorePage_careful_iff :
    Careful (readAction clearStorePage commandedBy size o s) data size
        (size < neededSize clearStorePage) (RejectedAt s) ↔ size ≠ 1 := by
  have hneeded : neededSize clearStorePage = 2 := rfl
  unfold readAction
  rw [hneeded, if_pos rfl]
  by_cases hrange : size > 2 ∨ size < 1
  · rw [if_pos hrange]
    exact iff_of_true ⟨inside_done _, fun _ => ⟨_, _, rfl, rfl, rfl⟩⟩ (by omega)
  · rw [if_neg hrange]
    constructor
    · rintro ⟨hinside, _⟩
      simp only [inside_read, storeType, pageIndex] at hinside
      omega
    · intro hone
      refine ⟨?_, fun hshort => by omega⟩
      simp [storeType, pageIndex]
      omega

/-- Every other action is careful. -/
theorem readAction_careful (hpage : actionId ≠ clearStorePage) :
    Careful (readAction actionId commandedBy size o s) data size (size < neededSize actionId)
      (RejectedAt s) := by
  unfold readAction
  rw [if_neg hpage]
  by_cases hstore : actionId = clearWholeStore
  · have hneeded : neededSize actionId = 1 := by rw [hstore]; rfl
    rw [if_pos hstore, hneeded]
    by_cases hrange : size > 2 ∨ size < 1
    · rw [if_pos hrange]
      exact ⟨inside_done _, fun _ => ⟨_, _, rfl, rfl, rfl⟩⟩
    · rw [if_neg hrange]
      refine ⟨?_, fun hshort => absurd (.inr hshort) hrange⟩
      simp [storeType]
      omega
  rw [if_neg hstore]
  by_cases hfill : actionId = getFillCount
  · have hneeded : neededSize actionId = 1 := by rw [hfill]; rfl
    rw [if_pos hfill, hneeded]
    by_cases hone : size ≠ 1
    · rw [if_pos hone]
      exact ⟨inside_done _, fun _ => ⟨_, _, rfl, rfl, rfl⟩⟩
    · rw [if_neg hone]
      refine ⟨?_, fun hshort => absurd (Nat.ne_of_lt hshort) hone⟩
      simp [storeType]
      omega
  rw [if_neg hfill]
  by_cases hreboot : actionId = resetRebootCounterAction
  · have hneeded : neededSize actionId = 1 := by rw [hreboot]; rfl
    rw [if_pos hreboot, hneeded]
    exact readSlot_careful _ ⟨_, _, rfl, rfl, rfl⟩
  rw [if_neg hreboot]
  by_cases henable : actionId = enableLocalHammingCodeChecks
  · have hneeded : neededSize actionId = 1 := by rw [henable]; rfl
    rw [if_pos henable, hneeded]
    exact readSlot_careful _ ⟨_, _, rfl, rfl, rfl⟩
  rw [if_neg henable]
  by_cases hdisable : actionId = disableLocalHammingCodeChecks
  · have hneeded : neededSize actionId = 1 := by rw [hdisable]; rfl
    rw [if_pos hdisable, hneeded]
    exact readSlot_careful _ ⟨_, _, rfl, rfl, rfl⟩
  have hneeded : neededSize actionId = 0 := by
    rw [neededSize, if_neg hpage, if_neg (by simp [hstore, hfill, hreboot, henable, hdisable])]
  rw [if_neg hdisable, hneeded]
  exact careful_done _ _ _ _

/-- The data is read inside its size and missing data is rejected, but for the page index of a command
    with one byte. -/
theorem readAction_careful_iff :
    Careful (readAction actionId commandedBy size o s) data size (size < neededSize actionId)
        (RejectedAt s) ↔ ¬ (actionId = clearStorePage ∧ size = 1) := by
  by_cases hpage : actionId = clearStorePage
  · rw [hpage, clearStorePage_careful_iff, and_iff_right rfl]
  · exact iff_of_true (readAction_careful hpage) fun h => hpage h.1

end CoreActions

namespace Sdc
namespace Actions

variable {actionId : ActionId} {commandedBy : MessageQueueId} {data : Nat → UInt8} {size : Nat}
  {o : ActionOutcome} {h : Handler}

/-- The actions that have no look at their data. -/
theorem executeAction_without_data (bytes : List UInt8) (hload : actionId ≠ setLoadObswUpdate) :
    executeAction ⟨actionId, commandedBy, []⟩ o h = executeAction ⟨actionId, commandedBy, bytes⟩ o h := by
  unfold executeAction
  refine ite_congr rfl (fun _ => rfl) fun _ => ?_
  refine ite_congr rfl (fun _ => rfl) fun _ => ?_
  refine ite_congr rfl (fun _ => rfl) fun _ => ?_
  refine ite_congr rfl (fun _ => rfl) fun _ => ?_
  refine ite_congr rfl (fun _ => rfl) fun _ => ?_
  refine ite_congr rfl (fun _ => rfl) fun _ => ?_
  refine ite_congr rfl (fun _ => rfl) fun _ => ?_
  refine ite_congr rfl (fun h => absurd h hload) fun _ => ?_
  refine ite_congr rfl (fun _ => rfl) fun _ => ?_
  exact ite_congr rfl (fun _ => rfl) fun _ => rfl

/-- The reads of the SD card handler are those of `executeAction`. -/
theorem run_readAction :
    (readAction actionId commandedBy size o h).run data =
      executeAction ⟨actionId, commandedBy, payload data size⟩ o h := by
  unfold readAction
  by_cases hload : actionId = setLoadObswUpdate
  swap
  · rw [if_neg hload]
    exact executeAction_without_data _ hload
  have hbranch : ∀ bytes, executeAction ⟨actionId, commandedBy, bytes⟩ o h =
      executeSetLoadObswUpdate ⟨actionId, commandedBy, bytes⟩ o h := by
    intro bytes
    rw [executeAction, hload]
    rfl
  rw [if_pos hload, hbranch]
  rcases size with _ | _ | n
  · rfl
  · rw [if_neg (by omega), run_read]
    by_cases hlarge : data 0 > 1
    · rw [if_pos hlarge]
      exact (if_pos hlarge).symm
    rw [if_neg hlarge]
    by_cases henable : data 0 ≠ 0
    · rw [if_pos henable, if_pos (by omega)]
      exact ((if_neg hlarge).trans (if_pos henable)).symm
    · rw [if_neg henable]
      rfl
  · rw [if_neg (by omega), run_read]
    by_cases hlarge : data 0 > 1
    · rw [if_pos hlarge]
      exact (if_pos hlarge).symm
    rw [if_neg hlarge]
    by_cases henable : data 0 ≠ 0
    · rw [if_pos henable, if_neg (by omega)]
      rfl
    · rw [if_neg henable]
      exact ((if_neg hlarge).trans (if_neg henable)).trans ((if_neg hlarge).trans (if_neg henable)).symm

/-- The data is read inside its size, and missing data is rejected. -/
theorem readAction_careful :
    Careful (readAction actionId commandedBy size o h) data size (size < neededSize actionId data)
      (RejectedAt h) := by
  unfold readAction neededSize
  by_cases hload : actionId = setLoadObswUpdate
  swap
  · rw [if_neg hload, if_neg hload]
    exact ⟨inside_done _, fun h => absurd h (Nat.not_lt_zero size)⟩
  rw [if_pos hload, if_pos hload]
  by_cases hempty : size < 1
  · rw [if_pos hempty]
    exact ⟨inside_done _, fun _ => ⟨_, rfl, rfl⟩⟩
  rw [if_neg hempty]
  have hread : ∀ next : UInt8 → Reads Executed,
      Careful (next (data 0)) data size (size < if data 0 = 1 then 2 else 1) (RejectedAt h) →
      Careful (.read 0 next) data size (size < if data 0 = 1 then 2 else 1) (RejectedAt h) :=
    fun next hnext => ⟨inside_read.mpr ⟨by omega, hnext.1⟩, hnext.2⟩
  apply hread
  by_cases hlarge : data 0 > 1
  · rw [if_pos hlarge]
    exact ⟨inside_done _, fun _ => ⟨_, rfl, rfl⟩⟩
  rw [if_neg hlarge]
  by_cases henable : data 0 ≠ 0
  · rw [if_pos henable]
    by_cases hvolume : size < 2
    · rw [if_pos hvolume]
      exact ⟨inside_done _, fun _ => ⟨_, rfl, rfl⟩⟩
    · rw [if_neg hvolume]
      refine ⟨inside_read.mpr ⟨by omega, inside_done _⟩, fun hshort => ?_⟩
      split at hshort
      · exact absurd hshort hvolume
      · exact absurd hshort hempty
  · have hzero : data 0 = 0 := not_not.mp henable
    rw [if_neg henable, hzero]
    exact ⟨inside_done _, fun hshort => absurd hshort hempty⟩

end Actions
end Sdc

namespace Image

open Engine Device

variable {board : Board} {flagWrite : WriteOutcome UInt8} {actionId : ActionId}
  {commandedBy : MessageQueueId} {data : Nat → UInt8} {size : Nat} {h : SoftwareImageHandler}
  {fram : Memory.Mem UInt8}

/-- A branch that rejects every payload but one byte is given what there is to read. -/
theorem run_readParameter (branch : List UInt8 → Executed)
    (hlong : ∀ first second rest, branch (first :: second :: rest) = branch []) :
    (readParameter size branch).run data = branch (payload data size) := by
  unfold readParameter
  match size with
  | 0 => rfl
  | 1 => rfl
  | n + 2 =>
    rw [if_pos (by omega), run_done]
    exact (hlong _ _ _).symm

theorem run_readCopyingSdcBlToFlash :
    (readCopyingSdcBlToFlash board size
        (fun data => handleCopyingSdcBlToFlash board ⟨actionId, commandedBy, data⟩ h) h).run data =
      handleCopyingSdcBlToFlash board ⟨actionId, commandedBy, payload data size⟩ h := by
  unfold readCopyingSdcBlToFlash
  by_cases hcopying : h.handlerState = .copying
  · rw [if_pos hcopying, run_done]
    exact (if_pos hcopying).trans (if_pos hcopying).symm
  rw [if_neg hcopying]
  cases board with
  | iobc =>
      exact run_readParameter _ fun _ _ _ => (if_neg hcopying).trans (if_neg hcopying).symm
  | at91sam9g20Ek =>
      cases size with
      | zero => rfl
      | succ n =>
          dsimp only
          rw [if_neg (by omega), run_read, run_done]
          exact (if_neg hcopying).trans (if_neg hcopying).symm

/-- The reads of the software image handler are those of `executeAction`. -/
theorem run_readAction :
    (readAction board flagWrite actionId commandedBy size h fram).run data =
      executeAction board flagWrite ⟨actionId, commandedBy, payload data size⟩ h fram := by
  unfold readAction
  by_cases hbootloader : actionId = copyBootloaderSdcToFlash
  · rw [if_pos hbootloader, run_map, run_readCopyingSdcBlToFlash]
    exact (if_pos hbootloader).symm
  rw [if_neg hbootloader]
  by_cases hflash : actionId = copyObswSdcToFlash
  · rw [if_pos hflash, run_map, run_readParameter _ fun _ _ _ => rfl]
    exact ((if_neg hbootloader).trans (if_pos hflash)).symm
  rw [if_neg hflash]
  by_cases hsdc : actionId = copyObswSdcToSdc
  · rw [if_pos hsdc, run_map, run_readParameter _ fun _ _ _ => rfl]
    exact ((if_neg hbootloader).trans ((if_neg hflash).trans (if_pos hsdc))).symm
  rw [if_neg hsdc]
  by_cases hhamming : actionId = copyHammingSdcToStorage
  · subst hhamming
    rw [if_pos rfl, run_map, run_readParameter _ fun _ _ _ => rfl]
    rfl
  rw [if_neg hhamming, run_done]
  unfold executeAction
  refine ite_congr rfl (fun hid => absurd hid hbootloader) fun _ => ?_
  refine ite_congr rfl (fun hid => absurd hid hflash) fun _ => ?_
  refine ite_congr rfl (fun hid => absurd hid hsdc) fun _ => ?_
  refine ite_congr rfl (fun _ => rfl) fun _ => ?_
  exact ite_congr rfl (fun hid => absurd hid hhamming) fun _ => rfl

/-- A command function that turns a command away leaves the handler alone. -/
def Rejects (h : SoftwareImageHandler) (x : Executed) : Prop :=
  ∃ code, x.1 = .failed code ∧ x.2.2 = h

theorem readParameter_careful {branch : List UInt8 → Executed} (hempty : Rejects h (branch [])) :
    Careful (readParameter size branch) data size (size < 1) (Rejects h) := by
  unfold readParameter
  by_cases hone : size ≠ 1
  · rw [if_pos hone]
    exact ⟨inside_done _, fun _ => hempty⟩
  · rw [if_neg hone]
    exact ⟨inside_read.mpr ⟨by omega, inside_done _⟩, fun hshort => absurd (Nat.ne_of_lt hshort) hone⟩

theorem readCopyingSdcBlToFlash_careful {branch : List UInt8 → Executed}
    (hempty : Rejects h (branch [])) :
    Careful (readCopyingSdcBlToFlash board size branch h) data size (size < 1) (Rejects h) := by
  unfold readCopyingSdcBlToFlash
  by_cases hcopying : h.handlerState = .copying
  · rw [if_pos hcopying]
    exact ⟨inside_done _, fun _ => hempty⟩
  rw [if_neg hcopying]
  cases board with
  | iobc => exact readParameter_careful hempty
  | at91sam9g20Ek =>
      dsimp only
      by_cases hsize : size < 1
      · rw [if_pos hsize]
        exact ⟨inside_done _, fun _ => hempty⟩
      · rw [if_neg hsize]
        exact ⟨inside_read.mpr ⟨by omega, inside_done _⟩, fun hshort => absurd hshort hsize⟩

/-- A command function is careful with the FRAM beside it. -/
theorem careful_map {r : Reads Executed} (hcareful : Careful r data size (size < 1) (Rejects h)) :
    Careful (r.map (·, fram)) data size (size < 1) (RejectedAt h fram) := by
  refine ⟨inside_map.mpr hcareful.1, fun hshort => ?_⟩
  obtain ⟨code, hresult, hsame⟩ := hcareful.2 hshort
  rw [run_map]
  exact ⟨code, hresult, hsame, rfl⟩

/-- A copy of a bootloader without data is turned away. -/
theorem handleCopyingSdcBlToFlash_empty :
    Rejects h (handleCopyingSdcBlToFlash board ⟨actionId, commandedBy, []⟩ h) := by
  unfold handleCopyingSdcBlToFlash
  by_cases hcopying : h.handlerState = .copying
  · rw [if_pos hcopying]
    exact ⟨_, rfl, rfl⟩
  · rw [if_neg hcopying]
    cases board with
    | iobc => exact ⟨_, rfl, rfl⟩
    | at91sam9g20Ek => exact ⟨_, rfl, rfl⟩

/-- The data is read inside its size, and missing data is rejected. -/
theorem readAction_careful :
    Careful (readAction board flagWrite actionId commandedBy size h fram) data size
      (size < neededSize actionId) (RejectedAt h fram) := by
  unfold readAction
  have hneeded : IsCopyAction actionId → neededSize actionId = 1 := fun hcopy => if_pos hcopy
  by_cases hbootloader : actionId = copyBootloaderSdcToFlash
  · rw [if_pos hbootloader, hneeded (.inl hbootloader)]
    exact careful_map (readCopyingSdcBlToFlash_careful handleCopyingSdcBlToFlash_empty)
  rw [if_neg hbootloader]
  by_cases hflash : actionId = copyObswSdcToFlash
  · rw [if_pos hflash, hneeded (.inr (.inl hflash))]
    exact careful_map (readParameter_careful ⟨_, rfl, rfl⟩)
  rw [if_neg hflash]
  by_cases hsdc : actionId = copyObswSdcToSdc
  · rw [if_pos hsdc, hneeded (.inr (.inr (.inl hsdc)))]
    exact careful_map (readParameter_careful ⟨_, rfl, rfl⟩)
  rw [if_neg hsdc]
  by_cases hhamming : actionId = copyHammingSdcToStorage
  · rw [if_pos hhamming, hneeded (.inr (.inr (.inr hhamming)))]
    exact careful_map (readParameter_careful ⟨_, rfl, rfl⟩)
  have hnone : neededSize actionId = 0 := if_neg (by
    rintro (hid | hid | hid | hid)
    · exact hbootloader hid
    · exact hflash hid
    · exact hsdc hid
    · exact hhamming hid)
  rw [if_neg hhamming, hnone]
  exact careful_done _ _ _ _

end Image

/-! ## Main result -/

/-- **Reading the data of a command.** The three components read inside the payload and reject one that is
    too short before anything changes, but for the core controller with a page to clear and one byte. -/
theorem actions_careful_iff (actionId : ActionId) (commandedBy : MessageQueueId) (data : Nat → UInt8)
    (size : Nat) :
    (∀ (o : CoreActions.ActionOutcome) (s : CoreActions.Controller),
      Careful (CoreActions.readAction actionId commandedBy size o s) data size
          (size < CoreActions.neededSize actionId) (CoreActions.RejectedAt s) ↔
        ¬ (actionId = CoreActions.clearStorePage ∧ size = 1)) ∧
    (∀ (o : Sdc.Actions.ActionOutcome) (h : Sdc.Actions.Handler),
      Careful (Sdc.Actions.readAction actionId commandedBy size o h) data size
        (size < Sdc.Actions.neededSize actionId data) (Sdc.Actions.RejectedAt h)) ∧
    ∀ (board : Engine.Board) (flagWrite : Device.WriteOutcome UInt8) (h : Image.SoftwareImageHandler)
      (fram : Memory.Mem UInt8),
      Careful (Image.readAction board flagWrite actionId commandedBy size h fram) data size
        (size < Image.neededSize actionId) (Image.RejectedAt h fram) :=
  ⟨fun _ _ => CoreActions.readAction_careful_iff, fun _ _ => Sdc.Actions.readAction_careful,
    fun _ _ _ _ => Image.readAction_careful⟩

/-- The controller with two pages in each store, of which 5 and 7 entries are taken. -/
def CoreActions.twoPages : CoreActions.Controller :=
  { CoreActions.Controller.initial (fun _ => 0) with stores := fun _ => some ⟨[5, 7]⟩ }

/-- **A page is cleared that the command does not name.** The payload is the one byte for the TM store;
    the byte 1 behind it is read as the page. -/
theorem clearStorePage_reads_behind :
    let r := CoreActions.readAction CoreActions.clearStorePage 1 1 .allDone CoreActions.twoPages
    let data : Nat → UInt8 := fun index => if index = 0 then 0 else 1
    r.indices data = [0, 1] ∧
      (r.run data).map (fun x => (x.controller.stores .tmStore, x.result)) =
        some (some ⟨[5, 0]⟩, .executionFinished) ∧
      ¬ Careful r data 1 (1 < CoreActions.neededSize CoreActions.clearStorePage)
        (CoreActions.RejectedAt CoreActions.twoPages) := by
  refine ⟨rfl, rfl, fun hcareful => ?_⟩
  exact absurd (hcareful.1 1 (by decide)) (by decide)

end Obsw
