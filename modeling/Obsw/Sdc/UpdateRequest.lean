import Obsw.Boot.Update
import Obsw.Sdc.Actions

/-!
# `Sdc.UpdateRequest` — the request of a software update boot

The branch of `SET_LOAD_OBSW_UPDATE`, from the payload to the update fields of the FRAM. A volume is
refused if it differs from card 0 or from card 1, and so every volume is: a request can be taken back
(`disable_accepted`), but none can be made (`enable_refused`).
-/

namespace Obsw
namespace Sdc
namespace Actions

open Device Fram Memory Boot

/-! ## Payloads -/

/-- The byte of a card. -/
def volumeByte : VolumeId → UInt8
  | .sdCard0 => 0
  | .sdCard1 => 1

/-- The payload takes the request back. -/
def Disables (data : List UInt8) : Prop := data.head? = some 0

/-- The payload requests the update and names the card. -/
def Enables (volume : VolumeId) (data : List UInt8) : Prop :=
  ∃ rest, data = 1 :: volumeByte volume :: rest

/-! ## What is asked of the command -/

/-- The update fields hold a request for one card. -/
structure HoldsRequest (fram : Mem UInt8) (volume : VolumeId) : Prop where
  available : softwareUpdateAvailable.read fram = 1
  volume0 : softwareUpdateInVolume0.read fram = if volume = .sdCard0 then 1 else 0
  volume1 : softwareUpdateInVolume1.read fram = if volume = .sdCard1 then 1 else 0

/-- A command is accepted exactly if its payload takes the request back or names a card; then the update
    fields hold what it says, and otherwise the FRAM stays as it is. -/
structure Requests (data : List UInt8) (fram : Mem UInt8) (x : Executed) : Prop where
  accepted : x.result = .ok ↔ Disables data ∨ ∃ volume, Enables volume data
  disabled : x.result = .ok → Disables data → softwareUpdateAvailable.read x.handler.fram = 0
  enabled : ∀ volume, x.result = .ok → Enables volume data → HoldsRequest x.handler.fram volume
  rejected : x.result ≠ .ok → x.handler.fram = fram

/-! ## The branches -/

section

variable {data : List UInt8} {commandedBy : MessageQueueId} {o : ActionOutcome} {h : Handler}

theorem executeAction_setLoadObswUpdate (c : ActionCommand) (o : ActionOutcome) (h : Handler)
    (hid : c.actionId = setLoadObswUpdate) : executeAction c o h = executeSetLoadObswUpdate c o h := by
  rw [executeAction, hid]
  rfl

theorem not_enables_of_disables (hdisables : Disables data) (volume : VolumeId) :
    ¬ Enables volume data := by
  rintro ⟨rest, rfl⟩
  cases hdisables

/-- A payload that does not take the request back is refused, whatever volume it names. -/
theorem enable_refused (o : ActionOutcome) (h : Handler) (hdisables : ¬ Disables data) :
    executeAction ⟨setLoadObswUpdate, commandedBy, data⟩ o h =
      ⟨.failed .invalidParameters, [], h⟩ := by
  rw [executeAction_setLoadObswUpdate _ o h rfl]
  unfold executeSetLoadObswUpdate
  cases data with
  | nil => rfl
  | cons enable rest =>
      dsimp only
      by_cases hlarge : enable > 1
      · rw [if_pos hlarge]
      rw [if_neg hlarge]
      have henable : enable ≠ 0 := by
        rintro rfl
        exact hdisables rfl
      rw [if_pos henable]
      cases rest with
      | nil => rfl
      | cons volume rest =>
          -- a volume differs from one of the cards
          have hvolume : volume ≠ 0 ∨ volume ≠ 1 := by
            by_cases hzero : volume = 0
            · exact .inr (by rw [hzero]; decide)
            · exact .inl hzero
          exact if_pos hvolume

/-- A payload that takes the request back leads to the write. -/
theorem executeAction_disable (o : ActionOutcome) (h : Handler) (hdisables : Disables data) :
    executeAction ⟨setLoadObswUpdate, commandedBy, data⟩ o h = executeSetToLoad false .sdCard0 o h := by
  rw [executeAction_setLoadObswUpdate _ o h rfl]
  unfold executeSetLoadObswUpdate
  cases data with
  | nil => cases hdisables
  | cons enable rest =>
      obtain rfl : enable = 0 := Option.some.inj hdisables
      rfl

/-- It is accepted if the FRAM takes the write, which clears the request. -/
theorem disable_accepted (commandedBy : MessageQueueId) (h : Handler) (hdisables : Disables data)
    (hwrite : o.write = .done) :
    (executeAction ⟨setLoadObswUpdate, commandedBy, data⟩ o h).result = .ok ∧
      softwareUpdateAvailable.read
        (executeAction ⟨setLoadObswUpdate, commandedBy, data⟩ o h).handler.fram = 0 := by
  have hset : (framSetToLoadSoftwareupdate o.write h.fram false .sdCard0 o.stack).1 = 0 := by
    rw [hwrite]
    rfl
  have hfram := requested_ok hset
  have hrun : executeSetToLoad false .sdCard0 o h =
      ⟨.ok, [], { h with fram := requested o.write h.fram false .sdCard0 o.stack }⟩ :=
    if_neg (not_not.mpr hset)
  rw [executeAction_disable o h hdisables, hrun]
  refine ⟨rfl, ?_⟩
  dsimp only
  rw [hfram]
  exact (update_reads h.fram _ _ _).1

/-- It is refused if the FRAM does not take the write. -/
theorem disable_refused (commandedBy : MessageQueueId) (h : Handler) (hdisables : Disables data)
    (hwrite : o.write.retval ≠ 0) :
    (executeAction ⟨setLoadObswUpdate, commandedBy, data⟩ o h).result = .failed .returnFailed := by
  have hset : (framSetToLoadSoftwareupdate o.write h.fram false .sdCard0 o.stack).1 ≠ 0 := hwrite
  have hrun : executeSetToLoad false .sdCard0 o h =
      ⟨.failed .returnFailed, [], { h with fram := requested o.write h.fram false .sdCard0 o.stack }⟩ :=
    if_pos hset
  rw [executeAction_disable o h hdisables, hrun]

end

/-! ## Main result -/

/-- **The request of a software update boot.** The command does what is asked of it exactly if its payload
    does not request the update of a card, and the FRAM takes the write of one that takes the request
    back. -/
theorem setLoadObswUpdate_requests_iff (commandedBy : MessageQueueId) (data : List UInt8)
    (o : ActionOutcome) (h : Handler) :
    Requests data h.fram (executeAction ⟨setLoadObswUpdate, commandedBy, data⟩ o h) ↔
      (∀ volume, ¬ Enables volume data) ∧ (Disables data → o.write.retval = 0) := by
  by_cases hdisables : Disables data
  · have hnone := not_enables_of_disables hdisables
    by_cases hwrite : o.write.retval = 0
    · obtain ⟨hok, hread⟩ := disable_accepted commandedBy h hdisables
        (WriteOutcome.retval_eq_zero.mp hwrite)
      refine iff_of_true ?_ ⟨hnone, fun _ => hwrite⟩
      constructor
      case accepted => exact iff_of_true hok (.inl hdisables)
      case disabled => exact fun _ _ => hread
      case enabled => exact fun volume _ henables => absurd henables (hnone volume)
      case rejected => exact fun hne => absurd hok hne
    · have hfailed := disable_refused commandedBy h hdisables hwrite
      refine iff_of_false (fun hrequests => ?_) (fun hcond => hwrite (hcond.2 hdisables))
      have hok := hrequests.accepted.mpr (.inl hdisables)
      rw [hfailed] at hok
      cases hok
  · rw [enable_refused o h hdisables]
    constructor
    · intro hrequests
      refine ⟨fun volume henables => ?_, fun h => absurd h hdisables⟩
      have hok := hrequests.accepted.mpr (.inr ⟨volume, henables⟩)
      cases hok
    · rintro ⟨hnone, _⟩
      constructor
      case accepted =>
        refine iff_of_false (fun hok => by cases hok) ?_
        rintro (hdis | ⟨volume, henables⟩)
        · exact hdisables hdis
        · exact hnone volume henables
      case disabled => exact fun hok => by cases hok
      case enabled => exact fun _ hok => by cases hok
      case rejected => exact fun _ => rfl

/-- **A request for card 0 is refused.** -/
theorem request_card0_refused :
    (executeAction ⟨setLoadObswUpdate, 1, [1, 0]⟩ formatted (.initial fun _ => 0)).result =
      .failed .invalidParameters ∧
    ¬ Requests [1, 0] (fun _ => 0)
      (executeAction ⟨setLoadObswUpdate, 1, [1, 0]⟩ formatted (.initial fun _ => 0)) := by
  refine ⟨rfl, fun hrequests => ?_⟩
  have hok := hrequests.accepted.mpr (.inr ⟨.sdCard0, [], rfl⟩)
  cases hok

end Actions
end Sdc
end Obsw
