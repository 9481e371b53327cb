import Mathlib.Data.List.Perm.Basic
import Obsw.Fram.Accessors
import Obsw.Lib.Loop

/-!
# `Sdc.Access` — access tokens and the change of the active SD card

`SDCardAccess`, `SDCardAccessManager` and the part of `SDCardApi.c` they call, on the two-card
configuration. A token that is granted access counts as one access of the manager until it is
destroyed, and the manager changes the active card only when it counts no access. Each construction,
destruction, check and change attempt is one step (`step`), and a run is any list of them. That it is one
step is taken for granted, not shown: the `MutexGuard` of these functions is a temporary without a name,
destroyed before the next statement, so the mutex does not keep two tasks out of them at once.

The library calls of the file system are not part of the repository: each returns what the environment
of the step says. `f_initvolume` binds a drive number to a card, `f_delvolume` takes a drive number.
-/

namespace Obsw
namespace Sdc

open Loop
open Fram (volumeIdRaw)

/-! ## The file system -/

/-- How `f_initvolume` ends. A failure may lose a volume that was initialised before. -/
inductive InitOutcome where
  | ok
  | notFormatted
  | failed (code : Int) (nonzero : code ≠ 0) (keeps : Bool)

/-- Answers of the file system to `select_sd_card`. -/
structure SelectOutcome where
  enterFs : Int
  initvolume : InitOutcome
  format : Int

/-- Answers to `open_filesystem`: the code of `fs_init`, and whether it drops what was initialised. -/
structure OpenOutcome where
  code : Int
  drops : Bool

/-- Answers to `close_filesystem`. -/
structure CloseOutcome where
  delvolume : Int
  fsDelete : Int
  drops : Bool
  memDelete : Int

/-- The drives of the file system, by number, with the card each is initialised for, and the log of the
    `f_delvolume` calls: the number given, and the drives at the call. -/
structure Filesystem where
  drives : Nat → Option VolumeId
  deletions : List (Nat × (Nat → Option VolumeId))

namespace Filesystem

def initvolume (fs : Filesystem) (drive : Nat) (volumeId : VolumeId) : Filesystem :=
  { fs with drives := fun d => if d = drive then some volumeId else fs.drives d }

/-- The drive is not initialised any more. -/
def clear (fs : Filesystem) (drive : Nat) : Filesystem :=
  { fs with drives := fun d => if d = drive then none else fs.drives d }

/-- No drive is initialised any more. -/
def drop (fs : Filesystem) : Filesystem := { fs with drives := fun _ => none }

/-- `f_delvolume`. -/
def delvolume (fs : Filesystem) (drive : Nat) (code : Int) : Filesystem :=
  let logged := { fs with deletions := fs.deletions ++ [(drive, fs.drives)] }
  if code = 0 then logged.clear drive else logged

end Filesystem

/-! ## `SDCardApi.c` -/

/-- `open_filesystem`. -/
def openFilesystem (o : OpenOutcome) (fs : Filesystem) : Int × Filesystem :=
  (o.code, if o.drops then fs.drop else fs)

/-- `select_sd_card`. The volume is always drive 0; the card is a parameter of its driver. -/
def selectSdCard (volumeId : VolumeId) (enterFs : Bool) (o : SelectOutcome) (fs : Filesystem) :
    Int × Filesystem :=
  if enterFs ∧ o.enterFs ≠ 0 then (o.enterFs, fs)
  else
    match o.initvolume with
    | .ok => (0, fs.initvolume 0 volumeId)
    | .notFormatted => (o.format, fs.initvolume 0 volumeId)
    | .failed code _ keeps => (code, if keeps then fs else fs.clear 0)

/-- `close_filesystem`. The number given to `f_delvolume` is that of the card. Releasing the task
    (`releaseFs`) touches no volume. -/
def closeFilesystem (delVolume : Bool) (volumeId : VolumeId) (o : CloseOutcome)
    (fs : Filesystem) : Int × Filesystem :=
  let fs := if delVolume then fs.delvolume (volumeIdRaw volumeId) o.delvolume else fs
  let fs := if o.drops then fs.drop else fs
  (if o.fsDelete ≠ 0 then o.fsDelete else o.memDelete, fs)

def otherVolumeId : VolumeId → VolumeId
  | .sdCard0 => .sdCard1
  | .sdCard1 => .sdCard0

/-- `switch_sd_card`. A failing `f_delvolume` is only reported. -/
def switchSdCard (volumeId : VolumeId) (delvolume : Int) (o : SelectOutcome) (fs : Filesystem) :
    Int × Filesystem :=
  selectSdCard volumeId false o (fs.delvolume (volumeIdRaw (otherVolumeId volumeId)) delvolume)

/-! ## Tokens and the manager -/

inductive AccessResult where
  | ok
  | sdCardChangeOngoing
  | failed
  deriving DecidableEq, Repr

/-- `SDCardAccess`. -/
structure Token where
  accessSuccess : Bool
  accessResult : AccessResult
  currentVolumeId : VolumeId
  deriving DecidableEq, Repr

/-- `SDCardAccessManager`. -/
structure Manager where
  changingSdCard : Bool
  activeAccesses : UInt8
  activeSdCard : VolumeId

/-- The manager, the live tokens and the file system. -/
structure System where
  mgr : Manager
  tokens : List Token
  fs : Filesystem

/-- The tokens of a list that were granted access. -/
def grantedIn (tokens : List Token) : Nat := tokens.countP Token.accessSuccess

/-- The number of live tokens that were granted access. -/
def System.granted (s : System) : Nat := grantedIn s.tokens

/-- `SDCardAccess()`. A denied token keeps the volume number its memory held (`unset`). Access counts as
    granted also if the file system or the card could not be opened. -/
def construct (o : OpenOutcome) (select : SelectOutcome) (unset : VolumeId) (s : System) : System :=
  if s.mgr.changingSdCard then
    { s with tokens := s.tokens ++ [⟨false, .sdCardChangeOngoing, unset⟩] }
  else
    let currentVolumeId := s.mgr.activeSdCard
    let opened := if s.mgr.activeAccesses = 0 then openFilesystem o s.fs else (0, s.fs)
    let selected := selectSdCard currentVolumeId true select opened.2
    let accessResult : AccessResult := if opened.1 ≠ 0 ∨ selected.1 ≠ 0 then .failed else .ok
    { mgr := { s.mgr with activeAccesses := s.mgr.activeAccesses + 1 }
      tokens := s.tokens ++ [⟨true, accessResult, currentVolumeId⟩]
      fs := selected.2 }

/-- `~SDCardAccess()` of the `i`-th live token. -/
def destruct (i : Nat) (delvolume : Int) (close : CloseOutcome) (s : System) : System :=
  match s.tokens[i]? with
  | none => s
  | some token =>
    if token.accessSuccess then
      let fs := s.fs.delvolume (volumeIdRaw token.currentVolumeId) delvolume
      let activeAccesses := s.mgr.activeAccesses - 1
      { mgr := { s.mgr with activeAccesses := activeAccesses }
        tokens := s.tokens.eraseIdx i
        fs := if activeAccesses = 0 then (closeFilesystem false .sdCard0 close fs).2 else fs }
    else { s with tokens := s.tokens.eraseIdx i }

/-- `tryActiveSdCardChange`. -/
def tryActiveSdCardChange (s : System) : Bool × System :=
  if s.mgr.activeAccesses = 0 then
    (true, { s with mgr :=
      { s.mgr with activeSdCard := otherVolumeId s.mgr.activeSdCard, changingSdCard := false } })
  else (false, { s with mgr := { s.mgr with changingSdCard := true } })

/-- The atomic steps of the tasks. -/
inductive Action where
  | construct (o : OpenOutcome) (select : SelectOutcome) (unset : VolumeId)
  | destruct (i : Nat) (delvolume : Int) (close : CloseOutcome)
  | checkChangeOngoing
  | tryActiveSdCardChange
  | selectSdCard (volumeId : VolumeId) (enterFs : Bool) (o : SelectOutcome)
  | switchSdCard (volumeId : VolumeId) (delvolume : Int) (o : SelectOutcome)
  | closeFilesystem (delVolume : Bool) (volumeId : VolumeId) (o : CloseOutcome)

def step (a : Action) (s : System) : System :=
  match a with
  | .construct o select unset => construct o select unset s
  | .destruct i delvolume close => destruct i delvolume close s
  -- `getSdCardChangeOngoing` reads the flag under the mutex
  | .checkChangeOngoing => s
  | .tryActiveSdCardChange => (tryActiveSdCardChange s).2
  | .selectSdCard volumeId enterFs o => { s with fs := (selectSdCard volumeId enterFs o s.fs).2 }
  | .switchSdCard volumeId delvolume o =>
    { s with fs := (switchSdCard volumeId delvolume o s.fs).2 }
  | .closeFilesystem delVolume volumeId o =>
    { s with fs := (closeFilesystem delVolume volumeId o s.fs).2 }

/-- The system at startup: no token, nothing initialised, the card the FRAM gives. -/
def init (activeSdCard : VolumeId) : System where
  mgr := ⟨false, 0, activeSdCard⟩
  tokens := []
  fs := ⟨fun _ => none, []⟩

/-! ## Counting the granted tokens -/

theorem grantedIn_append (tokens : List Token) (t : Token) :
    grantedIn (tokens ++ [t]) = grantedIn tokens + if t.accessSuccess then 1 else 0 := by
  rw [grantedIn, List.countP_append, List.countP_singleton]
  rfl

theorem grantedIn_eraseIdx {tokens : List Token} {i : Nat} {t : Token} (h : tokens[i]? = some t) :
    grantedIn tokens = grantedIn (tokens.eraseIdx i) + if t.accessSuccess then 1 else 0 := by
  obtain ⟨hi, rfl⟩ := List.getElem?_eq_some_iff.mp h
  have hperm := (List.getElem_cons_eraseIdx_perm hi).countP_eq Token.accessSuccess
  rw [List.countP_cons] at hperm
  exact hperm.symm

/-- Nobody holds access: no token of the list was granted it. -/
theorem not_granted_of_zero {tokens : List Token} (h : grantedIn tokens = 0) :
    ∀ t ∈ tokens, t.accessSuccess ≠ true := by
  intro t ht htrue
  have := List.countP_eq_zero.mp h t ht
  exact this htrue

/-! ## What a step does to the manager and the tokens -/

section

variable {s : System}

theorem construct_denied {o : OpenOutcome} {select : SelectOutcome} {unset : VolumeId}
    (h : s.mgr.changingSdCard = true) :
    construct o select unset s =
      { s with tokens := s.tokens ++ [⟨false, .sdCardChangeOngoing, unset⟩] } := by
  rw [construct, if_pos h]

/-- A granted token is bound to the active card and counted once. -/
theorem construct_granted (o : OpenOutcome) (select : SelectOutcome) (unset : VolumeId)
    (h : s.mgr.changingSdCard = false) :
    ∃ accessResult, (construct o select unset s).tokens =
        s.tokens ++ [⟨true, accessResult, s.mgr.activeSdCard⟩] ∧
      (construct o select unset s).mgr =
        { s.mgr with activeAccesses := s.mgr.activeAccesses + 1 } := by
  have hne : ¬ s.mgr.changingSdCard = true := by simp [h]
  rw [construct, if_neg hne]
  exact ⟨_, rfl, rfl⟩

theorem destruct_none {i : Nat} {delvolume : Int} {close : CloseOutcome}
    (h : s.tokens[i]? = none) : destruct i delvolume close s = s := by
  rw [destruct, h]

/-- Destroying a denied token only removes it. -/
theorem destruct_denied {i : Nat} {delvolume : Int} {close : CloseOutcome} {t : Token}
    (h : s.tokens[i]? = some t) (ht : t.accessSuccess = false) :
    destruct i delvolume close s = { s with tokens := s.tokens.eraseIdx i } := by
  simp only [destruct, h, ht, Bool.false_eq_true, if_false]

/-- Destroying a granted token gives its access back. -/
theorem destruct_granted {i : Nat} (delvolume : Int) (close : CloseOutcome) {t : Token}
    (h : s.tokens[i]? = some t) (ht : t.accessSuccess = true) :
    (destruct i delvolume close s).tokens = s.tokens.eraseIdx i ∧
      (destruct i delvolume close s).mgr =
        { s.mgr with activeAccesses := s.mgr.activeAccesses - 1 } := by
  simp only [destruct, h, ht, if_true]
  exact ⟨trivial, trivial⟩

/-- Of the manager, only an attempt to change the card changes more than the counter. -/
theorem step_mgr_of_ne {a : Action} (h : a ≠ .tryActiveSdCardChange) :
    ∃ n, (step a s).mgr = { s.mgr with activeAccesses := n } := by
  cases a with
  | construct o select unset =>
    by_cases hchange : s.mgr.changingSdCard = true
    · rw [step, construct_denied hchange]
      exact ⟨_, rfl⟩
    · obtain ⟨_, -, hmgr⟩ := construct_granted o select unset (by simpa using hchange)
      exact ⟨_, hmgr⟩
  | destruct i delvolume close =>
    cases ht : s.tokens[i]? with
    | none =>
      rw [step, destruct_none ht]
      exact ⟨_, rfl⟩
    | some t =>
      by_cases hsuccess : t.accessSuccess = true
      · exact ⟨_, (destruct_granted delvolume close ht hsuccess).2⟩
      · rw [step, destruct_denied ht (by simpa using hsuccess)]
        exact ⟨_, rfl⟩
  | tryActiveSdCardChange => exact absurd rfl h
  | checkChangeOngoing => exact ⟨_, rfl⟩
  | selectSdCard volumeId enterFs o => exact ⟨_, rfl⟩
  | switchSdCard volumeId delvolume o => exact ⟨_, rfl⟩
  | closeFilesystem delVolume volumeId o => exact ⟨_, rfl⟩

/-- The active card is changed by a change attempt only, and only when no access is counted. -/
theorem step_activeSdCard (a : Action) (h : s.mgr.activeAccesses ≠ 0) :
    (step a s).mgr.activeSdCard = s.mgr.activeSdCard := by
  by_cases hchange : a = .tryActiveSdCardChange
  · rw [hchange, step, tryActiveSdCardChange, if_neg h]
  · obtain ⟨n, hmgr⟩ := step_mgr_of_ne hchange
    rw [hmgr]

/-! ## The invariants -/

/-- The counter is the number of granted tokens, as far as eight bits go. -/
def Counts (s : System) : Prop := s.mgr.activeAccesses.toNat = s.granted % 256

theorem counts_step (a : Action) (h : Counts s) : Counts (step a s) := by
  have hlt : s.mgr.activeAccesses.toNat < 256 := s.mgr.activeAccesses.toNat_lt
  have hcount : s.mgr.activeAccesses.toNat = grantedIn s.tokens % 256 := h
  cases a with
  | construct o select unset =>
    by_cases hchange : s.mgr.changingSdCard = true
    · have hgranted := grantedIn_append s.tokens ⟨false, .sdCardChangeOngoing, unset⟩
      rw [step, construct_denied hchange]
      show s.mgr.activeAccesses.toNat = grantedIn (s.tokens ++ [_]) % 256
      rw [hgranted, hcount]
      rfl
    · obtain ⟨r, htokens, hmgr⟩ := construct_granted o select unset (by simpa using hchange)
      have hgranted := grantedIn_append s.tokens ⟨true, r, s.mgr.activeSdCard⟩
      show (step _ s).mgr.activeAccesses.toNat = grantedIn (step _ s).tokens % 256
      rw [step, htokens, hmgr, hgranted, UInt8.toNat_add, hcount]
      simp
  | destruct i delvolume close =>
    cases ht : s.tokens[i]? with
    | none =>
      rw [step, destruct_none ht]
      exact h
    | some t =>
      have hgranted := grantedIn_eraseIdx ht
      by_cases hsuccess : t.accessSuccess = true
      · rw [hsuccess, if_pos rfl] at hgranted
        obtain ⟨htokens, hmgr⟩ := destruct_granted delvolume close ht hsuccess
        show (step _ s).mgr.activeAccesses.toNat = grantedIn (step _ s).tokens % 256
        rw [step, htokens, hmgr, UInt8.toNat_sub]
        have hone : (1 : UInt8).toNat = 1 := rfl
        rw [hone]
        omega
      · rw [step, destruct_denied ht (by simpa using hsuccess)]
        have hfalse : t.accessSuccess = false := by simpa using hsuccess
        rw [hfalse] at hgranted
        show s.mgr.activeAccesses.toNat = grantedIn (s.tokens.eraseIdx i) % 256
        rw [hcount, hgranted]
        rfl
  | tryActiveSdCardChange =>
    rw [step, tryActiveSdCardChange]
    split <;> exact h
  | checkChangeOngoing => exact h
  | selectSdCard volumeId enterFs o => exact h
  | switchSdCard volumeId delvolume o => exact h
  | closeFilesystem delVolume volumeId o => exact h

/-- Every granted token is bound to the active card. -/
def Bound (s : System) : Prop :=
  ∀ t ∈ s.tokens, t.accessSuccess = true → t.currentVolumeId = s.mgr.activeSdCard

theorem bound_step (a : Action) (hcount : Counts s) (h : Bound s) (hle : s.granted ≤ 255) :
    Bound (step a s) := by
  cases a with
  | construct o select unset =>
    by_cases hchange : s.mgr.changingSdCard = true
    · rw [step, construct_denied hchange]
      intro t ht hsuccess
      rcases List.mem_append.mp ht with ht | ht
      · exact h t ht hsuccess
      · rw [List.mem_singleton.mp ht] at hsuccess
        cases hsuccess
    · obtain ⟨r, htokens, hmgr⟩ := construct_granted o select unset (by simpa using hchange)
      intro t ht hsuccess
      rw [step, htokens] at ht
      rw [step, hmgr]
      rcases List.mem_append.mp ht with ht | ht
      · exact h t ht hsuccess
      · rw [List.mem_singleton.mp ht]
  | destruct i delvolume close =>
    -- the tokens left are tokens of before
    have hmem : ∀ t ∈ (step (.destruct i delvolume close) s).tokens, t ∈ s.tokens := by
      intro t ht
      cases hi : s.tokens[i]? with
      | none => rwa [step, destruct_none hi] at ht
      | some u =>
        by_cases hsuccess : u.accessSuccess = true
        · rw [step, (destruct_granted _ _ hi hsuccess).1] at ht
          exact List.mem_of_mem_eraseIdx ht
        · rw [step, destruct_denied hi (by simpa using hsuccess)] at ht
          exact List.mem_of_mem_eraseIdx ht
    have hcard : (step (.destruct i delvolume close) s).mgr.activeSdCard = s.mgr.activeSdCard := by
      cases hi : s.tokens[i]? with
      | none => rw [step, destruct_none hi]
      | some u =>
        by_cases hsuccess : u.accessSuccess = true
        · rw [step, (destruct_granted _ _ hi hsuccess).2]
        · rw [step, destruct_denied hi (by simpa using hsuccess)]
    intro t ht hsuccess
    rw [hcard]
    exact h t (hmem t ht) hsuccess
  | tryActiveSdCardChange =>
    rw [step, tryActiveSdCardChange]
    by_cases hzero : s.mgr.activeAccesses = 0
    · -- no access is counted, so no token is granted and nothing is bound
      rw [if_pos hzero]
      have hcounter : (0 : UInt8).toNat = s.granted % 256 := hzero ▸ hcount
      have hzero' : (0 : UInt8).toNat = 0 := rfl
      have hnone : grantedIn s.tokens = 0 := by
        show s.granted = 0
        omega
      intro t ht hsuccess
      exact absurd hsuccess (not_granted_of_zero hnone t ht)
    · rw [if_neg hzero]
      exact h
  | checkChangeOngoing => exact h
  | selectSdCard volumeId enterFs o => exact h
  | switchSdCard volumeId delvolume o => exact h
  | closeFilesystem delVolume volumeId o => exact h

end

/-! ## Main result -/

theorem counts_run (activeSdCard : VolumeId) (actions : List Action) :
    Counts (run step actions (init activeSdCard)) := by
  have hstep : ∀ a s, Counts s → (fun _ _ => True : Action → System → Prop) a s →
      Counts (step a s) := fun a s h _ => counts_step a h
  exact run_invariant hstep actions _ rfl (alongRun_true actions _)

theorem bound_run (activeSdCard : VolumeId) (actions : List Action)
    (h : AlongRun (fun _ s => s.granted ≤ 255) step actions (init activeSdCard)) :
    Bound (run step actions (init activeSdCard)) := by
  have hinit : Counts (init activeSdCard) ∧ Bound (init activeSdCard) :=
    ⟨rfl, fun t ht => absurd ht List.not_mem_nil⟩
  apply And.right
  refine run_invariant (I := fun s => Counts s ∧ Bound s) ?_ actions _ hinit h
  intro a s hs hle
  exact ⟨counts_step a hs.1, bound_step a hs.1 hs.2 hle⟩

/-- **Access tokens.** In every run, up to 255 granted tokens: the access counter is their number, no
    step changes the active card while there is one, each of them is bound to the active card, and
    destroying a denied token leaves the counter alone. -/
theorem access_run (activeSdCard : VolumeId) (actions : List Action) :
    ((run step actions (init activeSdCard)).granted ≤ 255 →
      (run step actions (init activeSdCard)).mgr.activeAccesses.toNat =
        (run step actions (init activeSdCard)).granted) ∧
    (∀ a, 0 < (run step actions (init activeSdCard)).granted →
      (run step actions (init activeSdCard)).granted ≤ 255 →
      (step a (run step actions (init activeSdCard))).mgr.activeSdCard =
        (run step actions (init activeSdCard)).mgr.activeSdCard) ∧
    (AlongRun (fun _ s => s.granted ≤ 255) step actions (init activeSdCard) →
      ∀ t ∈ (run step actions (init activeSdCard)).tokens, t.accessSuccess = true →
        t.currentVolumeId = (run step actions (init activeSdCard)).mgr.activeSdCard) ∧
    ∀ i t delvolume close, (run step actions (init activeSdCard)).tokens[i]? = some t →
      t.accessSuccess = false →
      (step (.destruct i delvolume close) (run step actions
          (init activeSdCard))).mgr.activeAccesses =
        (run step actions (init activeSdCard)).mgr.activeAccesses := by
  have hcount : Counts (run step actions (init activeSdCard)) := counts_run activeSdCard actions
  have hbound := bound_run activeSdCard actions
  generalize run step actions (init activeSdCard) = s at hcount hbound ⊢
  have hcounter : s.mgr.activeAccesses.toNat = s.granted % 256 := hcount
  refine ⟨?_, ?_, hbound, ?_⟩
  · intro hle
    omega
  · intro a hpos hle
    apply step_activeSdCard
    intro hzero
    rw [hzero] at hcounter
    have hzero' : (0 : UInt8).toNat = 0 := rfl
    omega
  · intro i t delvolume close ht hdenied
    rw [step, destruct_denied ht hdenied]

/-- A token granted access, a change attempt that has to wait, and a token that is denied. -/
def deniedRun : List Action :=
  [.construct ⟨0, false⟩ ⟨0, .ok, 0⟩ .sdCard0, .tryActiveSdCardChange,
    .construct ⟨0, false⟩ ⟨0, .ok, 0⟩ .sdCard0]

theorem access_run_denied :
    (run step deniedRun (init .sdCard1)).mgr.activeAccesses.toNat = 1 ∧
    (step .tryActiveSdCardChange (run step deniedRun (init .sdCard1))).mgr.activeSdCard =
      .sdCard1 ∧
    (∀ t ∈ (run step deniedRun (init .sdCard1)).tokens, t.accessSuccess = true →
      t.currentVolumeId = .sdCard1) ∧
    (step (.destruct 1 0 ⟨0, 0, false, 0⟩) (run step deniedRun
      (init .sdCard1))).mgr.activeAccesses = 1 := by
  obtain ⟨hcounter, hcard, hbound, hdenied⟩ := access_run .sdCard1 deniedRun
  refine ⟨hcounter (by decide), hcard _ (by decide) (by decide), hbound ?_, ?_⟩
  · exact ⟨by decide, by decide, by decide, trivial⟩
  · exact hdenied 1 ⟨false, .sdCardChangeOngoing, .sdCard0⟩ 0 ⟨0, 0, false, 0⟩ rfl rfl

end Sdc
end Obsw
