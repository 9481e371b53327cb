import Obsw.Sdc.Access

/-!
# `Sdc.Volume` — setting up and tearing down the volume

`select_sd_card` initialises drive 0 for the card it is given. Tearing down takes the number of the
card for the number of the drive: `~SDCardAccess`, `switch_sd_card` and `close_filesystem` hand
`f_delvolume` 0 or 1. For card 1 this is a drive that was never initialised, and drive 0 stays; for
card 0 it is the right drive, but a token deletes the volume also if another token is still alive.

`Condition` leaves these steps out, and those in which the file system fails under a live token. In a
run without them every deletion names the initialised drive, the volume stays initialised while a token
is alive, and a successful switch leaves the volume of the new card (`volume_run`).
-/

namespace Obsw
namespace Sdc

open Loop
open Fram (volumeIdRaw)

/-! ## What should hold -/

/-- The volume is initialised. -/
def Initialised (fs : Filesystem) : Prop := fs.drives 0 ≠ none

/-- Every `f_delvolume` named the drive that was initialised at the call. -/
def DeletionsMatch (fs : Filesystem) : Prop :=
  ∀ e ∈ fs.deletions, ∀ drive volumeId, e.2 drive = some volumeId → drive = e.1

/-- The volume does not go away under a live token that was granted access. -/
def StaysInitialised (a : Action) (s : System) : Prop :=
  Initialised s.fs → 0 < s.granted → 0 < (step a s).granted → Initialised (step a s).fs

/-- A successful switch leaves the volume of the card it was made to. -/
def SwitchSelects (a : Action) (s : System) : Prop :=
  match a with
  | .switchSdCard volumeId delvolume o =>
    (switchSdCard volumeId delvolume o s.fs).1 = 0 → (step a s).fs.drives 0 = some volumeId
  | _ => True

/-- The three properties, along a run from startup. -/
structure VolumesHold (activeSdCard : VolumeId) (actions : List Action) : Prop where
  deletions : DeletionsMatch (run step actions (init activeSdCard)).fs
  stays : AlongRun StaysInitialised step actions (init activeSdCard)
  switch : AlongRun SwitchSelects step actions (init activeSdCard)

/-! ## The condition -/

/-- `f_initvolume` is called, fails, and takes an initialised volume along. -/
def SelectOutcome.Loses (o : SelectOutcome) (enterFs : Bool) : Prop :=
  (enterFs = true → o.enterFs = 0) ∧ ∃ code nonzero, o.initvolume = .failed code nonzero false

/-- The steps that neither take a card for a drive nor tear the volume down under a live token. -/
def Condition (a : Action) (s : System) : Prop :=
  match a with
  | .construct _ select _ =>
    s.mgr.changingSdCard = false →
      s.granted < 255 ∧ (Initialised s.fs → 0 < s.granted → ¬ select.Loses true)
  | .destruct i delvolume _ =>
    ∀ t, s.tokens[i]? = some t → t.accessSuccess = true → Initialised s.fs →
      t.currentVolumeId = .sdCard0 ∧ (s.granted = 1 ∨ delvolume ≠ 0)
  | .selectSdCard _ enterFs o => Initialised s.fs → 0 < s.granted → ¬ o.Loses enterFs
  | .switchSdCard volumeId delvolume o =>
    Initialised s.fs → volumeId = .sdCard1 ∧ (0 < s.granted →
      ∀ code nonzero keeps, o.initvolume = .failed code nonzero keeps →
        delvolume ≠ 0 ∧ keeps = true)
  | .closeFilesystem delVolume volumeId o =>
    Initialised s.fs → (delVolume = true → volumeId = .sdCard0) ∧
      (0 < s.granted → o.drops = false ∧ (delVolume = true → o.delvolume ≠ 0))
  | .checkChangeOngoing => True
  | .tryActiveSdCardChange => True

/-! ## The file system calls -/

/-- Only drive 0 is ever initialised. -/
def OnlyDrive0 (fs : Filesystem) : Prop := ∀ d, d ≠ 0 → fs.drives d = none

/-- What the calls keep: only drive 0 is in use, and every deletion named the initialised drive. -/
structure FsInv (fs : Filesystem) : Prop where
  only : OnlyDrive0 fs
  deletions : DeletionsMatch fs

section

variable {fs : Filesystem}

theorem FsInv.initvolume (h : FsInv fs) (volumeId : VolumeId) : FsInv (fs.initvolume 0 volumeId) := by
  refine ⟨?_, h.deletions⟩
  intro d hd
  simp only [Filesystem.initvolume, if_neg hd]
  exact h.only d hd

theorem FsInv.clear (h : FsInv fs) (drive : Nat) : FsInv (fs.clear drive) := by
  refine ⟨?_, h.deletions⟩
  intro d hd
  simp only [Filesystem.clear]
  split
  · rfl
  · exact h.only d hd

theorem FsInv.drop (h : FsInv fs) : FsInv fs.drop := ⟨fun _ _ => rfl, h.deletions⟩

/-- Deleting drive 0, or deleting while nothing is initialised. -/
theorem FsInv.delvolume (h : FsInv fs) {drive : Nat} {code : Int}
    (hdrive : Initialised fs → drive = 0) : FsInv (fs.delvolume drive code) := by
  have hlogged : FsInv { fs with deletions := fs.deletions ++ [(drive, fs.drives)] } := by
    refine ⟨h.only, ?_⟩
    intro e he d volumeId hd
    rcases List.mem_append.mp he with he | he
    · exact h.deletions e he d volumeId hd
    · rw [List.mem_singleton.mp he] at hd ⊢
      have hd' : fs.drives d = some volumeId := hd
      by_cases hd0 : d = 0
      · have hinit : Initialised fs := by
          rw [Initialised, ← hd0, hd']
          exact Option.some_ne_none _
        show d = drive
        rw [hdrive hinit, hd0]
      · rw [h.only d hd0] at hd'
        cases hd'
  unfold Filesystem.delvolume
  split
  · exact hlogged.clear drive
  · exact hlogged

theorem selectSdCard_inv (h : FsInv fs) (volumeId : VolumeId) (enterFs : Bool)
    (o : SelectOutcome) : FsInv (selectSdCard volumeId enterFs o fs).2 := by
  unfold selectSdCard
  split
  · exact h
  · cases o.initvolume with
    | ok => exact h.initvolume volumeId
    | notFormatted => exact h.initvolume volumeId
    | failed code nonzero keeps =>
      cases keeps with
      | true => exact h
      | false => exact h.clear 0

/-- A selection that does not lose the volume leaves one initialised. -/
theorem selectSdCard_initialised {volumeId : VolumeId} {enterFs : Bool} {o : SelectOutcome}
    (h : Initialised fs) (hkeep : ¬ o.Loses enterFs) :
    Initialised (selectSdCard volumeId enterFs o fs).2 := by
  unfold selectSdCard
  split
  · exact h
  · rename_i henter
    cases hinit : o.initvolume with
    | ok => exact Option.some_ne_none _
    | notFormatted => exact Option.some_ne_none _
    | failed code nonzero keeps =>
      cases keeps with
      | true => exact h
      | false =>
        refine absurd ⟨?_, code, nonzero, hinit⟩ hkeep
        intro he
        by_contra hne
        exact henter ⟨he, hne⟩

/-- A selection that reports success has initialised drive 0 for the card. -/
theorem selectSdCard_ok {volumeId : VolumeId} {enterFs : Bool} {o : SelectOutcome}
    (h : (selectSdCard volumeId enterFs o fs).1 = 0) :
    (selectSdCard volumeId enterFs o fs).2.drives 0 = some volumeId := by
  unfold selectSdCard at h ⊢
  split at h
  · rename_i henter
    exact absurd h henter.2
  · rename_i henter
    rw [if_neg henter]
    cases hinit : o.initvolume with
    | ok => rfl
    | notFormatted => rfl
    | failed code nonzero keeps =>
      rw [hinit] at h
      exact absurd h nonzero

theorem closeFilesystem_inv (h : FsInv fs) {delVolume : Bool} {volumeId : VolumeId}
    {o : CloseOutcome} (hcard : delVolume = true → Initialised fs → volumeId = .sdCard0) :
    FsInv (closeFilesystem delVolume volumeId o fs).2 := by
  have hdel : FsInv (if delVolume then fs.delvolume (volumeIdRaw volumeId) o.delvolume else fs) := by
    split
    · rename_i hdelVolume
      apply h.delvolume
      intro hinit
      rw [hcard hdelVolume hinit]
      rfl
    · exact h
  simp only [closeFilesystem]
  by_cases hdrops : o.drops = true
  · rw [if_pos hdrops]
    exact hdel.drop
  · rw [if_neg hdrops]
    exact hdel

/-- A failing `f_delvolume` leaves the volume. -/
theorem delvolume_initialised {drive : Nat} {code : Int} (h : Initialised fs)
    (hcode : code ≠ 0) : Initialised (fs.delvolume drive code) := by
  simp only [Filesystem.delvolume, if_neg hcode]
  exact h

theorem closeFilesystem_initialised {delVolume : Bool} {volumeId : VolumeId} {o : CloseOutcome}
    (h : Initialised fs) (hdrops : o.drops = false) (hdel : delVolume = true → o.delvolume ≠ 0) :
    Initialised (closeFilesystem delVolume volumeId o fs).2 := by
  simp only [closeFilesystem, hdrops, Bool.false_eq_true, if_false]
  cases delVolume with
  | true => exact delvolume_initialised h (hdel rfl)
  | false => exact h

theorem switchSdCard_inv (h : FsInv fs) {volumeId : VolumeId} {delvolume : Int}
    {o : SelectOutcome} (hcard : Initialised fs → volumeId = .sdCard1) :
    FsInv (switchSdCard volumeId delvolume o fs).2 := by
  apply selectSdCard_inv
  apply h.delvolume
  intro hinit
  rw [hcard hinit]
  rfl

/-- A switch under a live token: the volume of the new card, or the old one if nothing worked. -/
theorem switchSdCard_initialised {volumeId : VolumeId} {delvolume : Int} {o : SelectOutcome}
    (h : Initialised fs)
    (hkeep : ∀ code nonzero keeps, o.initvolume = .failed code nonzero keeps →
      delvolume ≠ 0 ∧ keeps = true) :
    Initialised (switchSdCard volumeId delvolume o fs).2 := by
  simp only [switchSdCard, selectSdCard, Bool.false_eq_true, false_and, if_false]
  cases hinit : o.initvolume with
  | ok => exact Option.some_ne_none _
  | notFormatted => exact Option.some_ne_none _
  | failed code nonzero keeps =>
    obtain ⟨hdel, rfl⟩ := hkeep code nonzero keeps hinit
    exact delvolume_initialised h hdel

end

/-! ## Steps and runs -/

/-- What good steps keep: the counter is the number of granted tokens, and the calls' invariant. -/
structure VolumeInv (s : System) : Prop where
  counts : Counts s
  le : s.granted ≤ 255
  fs : FsInv s.fs

section

variable {s : System}

/-- Under a live token that was granted access the counter is not 0. -/
theorem VolumeInv.activeAccesses_ne (h : VolumeInv s) (hpos : 0 < s.granted) :
    s.mgr.activeAccesses ≠ 0 := by
  intro hzero
  have hcount : s.mgr.activeAccesses.toNat = s.granted % 256 := h.counts
  have hzero' : s.mgr.activeAccesses.toNat = 0 := by rw [hzero]; rfl
  have hle := h.le
  omega

theorem construct_fs {o : OpenOutcome} {select : SelectOutcome} {unset : VolumeId}
    (h : s.mgr.changingSdCard = false) :
    (construct o select unset s).fs =
      (selectSdCard s.mgr.activeSdCard true select
        (if s.mgr.activeAccesses = 0 then openFilesystem o s.fs else (0, s.fs)).2).2 := by
  have hne : ¬ s.mgr.changingSdCard = true := by simp [h]
  rw [construct, if_neg hne]

theorem openFilesystem_inv {fs : Filesystem} (h : FsInv fs) (o : OpenOutcome) :
    FsInv (openFilesystem o fs).2 := by
  simp only [openFilesystem]
  split
  · exact h.drop
  · exact h

theorem destruct_fs {i : Nat} {delvolume : Int} {close : CloseOutcome} {t : Token}
    (h : s.tokens[i]? = some t) (ht : t.accessSuccess = true) :
    (destruct i delvolume close s).fs =
      if s.mgr.activeAccesses - 1 = 0 then
        (closeFilesystem false .sdCard0 close
          (s.fs.delvolume (volumeIdRaw t.currentVolumeId) delvolume)).2
      else s.fs.delvolume (volumeIdRaw t.currentVolumeId) delvolume := by
  simp only [destruct, h, ht, if_true]

theorem construct_granted_denied {o : OpenOutcome} {select : SelectOutcome} {unset : VolumeId}
    (h : s.mgr.changingSdCard = true) : (construct o select unset s).granted = s.granted := by
  rw [construct_denied h]
  exact grantedIn_append s.tokens ⟨false, .sdCardChangeOngoing, unset⟩

theorem construct_granted_succ {o : OpenOutcome} {select : SelectOutcome} {unset : VolumeId}
    (h : s.mgr.changingSdCard = false) :
    (construct o select unset s).granted = s.granted + 1 := by
  obtain ⟨r, htokens, -⟩ := construct_granted o select unset h
  show grantedIn (construct o select unset s).tokens = grantedIn s.tokens + 1
  rw [htokens, grantedIn_append]
  rfl

theorem destruct_granted_eq {i : Nat} {t : Token} (delvolume : Int) (close : CloseOutcome)
    (h : s.tokens[i]? = some t) :
    s.granted = (destruct i delvolume close s).granted + if t.accessSuccess then 1 else 0 := by
  have hcount := grantedIn_eraseIdx h
  by_cases hsuccess : t.accessSuccess = true
  · show grantedIn s.tokens = grantedIn (destruct i delvolume close s).tokens + _
    rw [(destruct_granted _ _ h hsuccess).1]
    exact hcount
  · rw [destruct_denied h (by simpa using hsuccess)]
    exact hcount

theorem volumeInv_step (a : Action) (h : VolumeInv s) (hc : Condition a s) :
    VolumeInv (step a s) := by
  have hcounts := counts_step a h.counts
  cases a with
  | construct o select unset =>
    by_cases hchange : s.mgr.changingSdCard = true
    · refine ⟨hcounts, ?_, ?_⟩
      · rw [step, construct_granted_denied hchange]
        exact h.le
      · rw [step, construct_denied hchange]
        exact h.fs
    · have hfalse : s.mgr.changingSdCard = false := by simpa using hchange
      refine ⟨hcounts, ?_, ?_⟩
      · rw [step, construct_granted_succ hfalse]
        exact (hc hfalse).1
      · rw [step, construct_fs hfalse]
        apply selectSdCard_inv
        split
        · exact openFilesystem_inv h.fs o
        · exact h.fs
  | destruct i delvolume close =>
    cases ht : s.tokens[i]? with
    | none =>
      rw [step, destruct_none ht]
      exact h
    | some t =>
      have hgranted := destruct_granted_eq delvolume close ht
      refine ⟨hcounts, ?_, ?_⟩
      · have hle := h.le
        show (destruct i delvolume close s).granted ≤ 255
        omega
      · by_cases hsuccess : t.accessSuccess = true
        · -- the destructor names the drive of its card, which is drive 0 for card 0 only
          have hdel : FsInv (s.fs.delvolume (volumeIdRaw t.currentVolumeId) delvolume) := by
            apply h.fs.delvolume
            intro hinit
            rw [(hc t ht hsuccess hinit).1]
            rfl
          rw [step, destruct_fs ht hsuccess]
          -- the last token closes the file system, without a volume to delete
          split
          · exact closeFilesystem_inv hdel (fun hfalse => by cases hfalse)
          · exact hdel
        · rw [step, destruct_denied ht (by simpa using hsuccess)]
          exact h.fs
  | checkChangeOngoing => exact h
  | tryActiveSdCardChange =>
    refine ⟨hcounts, ?_, ?_⟩
    all_goals
      rw [step, tryActiveSdCardChange]
      split
    · exact h.le
    · exact h.le
    · exact h.fs
    · exact h.fs
  | selectSdCard volumeId enterFs o => exact ⟨hcounts, h.le, selectSdCard_inv h.fs _ _ _⟩
  | switchSdCard volumeId delvolume o =>
    exact ⟨hcounts, h.le, switchSdCard_inv h.fs fun hinit => (hc hinit).1⟩
  | closeFilesystem delVolume volumeId o =>
    exact ⟨hcounts, h.le, closeFilesystem_inv h.fs fun hdel hinit => (hc hinit).1 hdel⟩

theorem stays_step (a : Action) (h : VolumeInv s) (hc : Condition a s) : StaysInitialised a s := by
  intro hinit hpos hpos'
  have hne := h.activeAccesses_ne hpos
  cases a with
  | construct o select unset =>
    by_cases hchange : s.mgr.changingSdCard = true
    · rw [step, construct_denied hchange]
      exact hinit
    · -- another token is alive, so the file system is open already
      have hfalse : s.mgr.changingSdCard = false := by simpa using hchange
      rw [step, construct_fs hfalse, if_neg hne]
      exact selectSdCard_initialised hinit ((hc hfalse).2 hinit hpos)
  | destruct i delvolume close =>
    cases ht : s.tokens[i]? with
    | none =>
      rw [step, destruct_none ht]
      exact hinit
    | some t =>
      by_cases hsuccess : t.accessSuccess = true
      · have hgranted := destruct_granted_eq delvolume close ht
        rw [hsuccess, if_pos rfl] at hgranted
        have hpos2 : 0 < (destruct i delvolume close s).granted := hpos'
        rcases (hc t ht hsuccess hinit).2 with hone | hdel
        · omega
        · -- the counter is at least 2, so it does not reach 0
          have hcount : s.mgr.activeAccesses.toNat = s.granted % 256 := h.counts
          have hle := h.le
          have hmore : s.mgr.activeAccesses - 1 ≠ 0 := by
            intro hzero
            have hsub := congrArg UInt8.toNat hzero
            rw [UInt8.toNat_sub] at hsub
            have hone : (1 : UInt8).toNat = 1 := rfl
            have hzero' : (0 : UInt8).toNat = 0 := rfl
            rw [hone, hzero'] at hsub
            omega
          rw [step, destruct_fs ht hsuccess, if_neg hmore]
          exact delvolume_initialised hinit hdel
      · rw [step, destruct_denied ht (by simpa using hsuccess)]
        exact hinit
  | checkChangeOngoing => exact hinit
  | tryActiveSdCardChange =>
    rw [step, tryActiveSdCardChange, if_neg hne]
    exact hinit
  | selectSdCard volumeId enterFs o => exact selectSdCard_initialised hinit (hc hinit hpos)
  | switchSdCard volumeId delvolume o =>
    exact switchSdCard_initialised hinit ((hc hinit).2 hpos)
  | closeFilesystem delVolume volumeId o =>
    obtain ⟨hdrops, hdel⟩ := (hc hinit).2 hpos
    exact closeFilesystem_initialised hinit hdrops hdel

end

theorem switch_step (a : Action) (s : System) : SwitchSelects a s := by
  cases a with
  | switchSdCard volumeId delvolume o => exact fun h => selectSdCard_ok h
  | _ => trivial

theorem volumeInv_init (activeSdCard : VolumeId) : VolumeInv (init activeSdCard) := by
  refine ⟨rfl, Nat.zero_le _, fun _ _ => rfl, ?_⟩
  intro e he
  cases he

/-- Two tokens on card 0 and a third one that is refused by a change of the card. A selection under the first
    one fails, the second one cannot delete the volume, the first one does. Then the card is changed, and
    the volume is switched to it. -/
def card0Run : List Action :=
  [.construct ⟨0, true⟩ ⟨0, .ok, 0⟩ .sdCard0,
    .selectSdCard .sdCard0 false ⟨0, .failed 5 (by decide) true, 0⟩,
    .construct ⟨0, true⟩ ⟨0, .ok, 0⟩ .sdCard0, .tryActiveSdCardChange,
    .construct ⟨0, true⟩ ⟨0, .ok, 0⟩ .sdCard1, .destruct 2 0 ⟨0, 0, false, 0⟩,
    .destruct 1 7 ⟨0, 0, false, 0⟩, .destruct 0 0 ⟨0, 0, true, 0⟩, .tryActiveSdCardChange,
    .selectSdCard .sdCard0 true ⟨0, .ok, 0⟩, .switchSdCard .sdCard1 0 ⟨0, .ok, 0⟩]

/-- Two tokens on card 0: the first that goes deletes the volume under the other one. -/
theorem nested_deletes_volume :
    ¬ StaysInitialised (.destruct 0 0 ⟨0, 0, false, 0⟩)
      (run step [.construct ⟨0, true⟩ ⟨0, .ok, 0⟩ .sdCard0,
        .construct ⟨0, true⟩ ⟨0, .ok, 0⟩ .sdCard0] (init .sdCard0)) := by
  intro h
  exact h (Option.some_ne_none _) (by decide) (by decide) rfl

end Sdc
end Obsw
