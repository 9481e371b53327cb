import Obsw.Boot.Copy
import Obsw.Boot.Policy
import Obsw.Lib.Loop

/-!
# `Boot.Counters` — reboot counters over a run of boots

A boot changes the FRAM in one place only, the reboot counter of the image it selected
(`boot_fram`), whatever the copy does. The counter goes up by one except at two values: 0xff, which
`increment_reboot_counter_no_os` takes for an erased FRAM, and 0xffff, where the 16-bit counter wraps.
Only an image selected as the last resort can have got that far, so over a run of boots the counters
never decrease exactly as long as the NOR flash fallback does not meet one of the two values.
-/

namespace Obsw
namespace Boot

open Memory LittleEndian Fram Budget Loop

/-! ## Counters in the FRAM -/

/-- The field of an image's reboot counter. -/
def rebootCounterField : BootSelect → Field
  | .norFlash => norFlashRebootCounter
  | .sdCard0Slot0 => sdc0ImageSlot0RebootCounter
  | .sdCard0Slot1 => sdc0ImageSlot1RebootCounter
  | .sdCard1Slot0 => sdc1ImageSlot0RebootCounter
  | .sdCard1Slot1 => sdc1ImageSlot1RebootCounter

/-- The counter of an image as stored in the FRAM. -/
def storedCounter (fram : Mem UInt8) (image : BootSelect) : Nat := (rebootCounterField image).read fram

/-- A 16-bit field fits the counter variable it is read into. -/
theorem toNat_ofNat_read {f : Field} (hf : f.size = 2) (m : Mem UInt8) :
    (UInt16.ofNat (f.read m)).toNat = f.read m := by
  have hlt := f.read_lt m
  rw [hf] at hlt
  exact UInt16.toNat_ofNat_of_lt' (by simpa using hlt)

/-- The block read on startup holds the stored counters. -/
theorem rebootCounterOf_read (fram : Mem UInt8) (image : BootSelect) :
    rebootCounterOf (readBootloaderGroup fram) image = storedCounter fram image := by
  cases image <;> exact toNat_ofNat_read rfl fram

theorem imgRebootCounter_read (fram : Mem UInt8) (image : BootSelect) :
    (imgRebootCounter (readBootloaderGroup fram) (slotTypeOf image)).toNat =
      storedCounter fram image := by
  rw [← rebootCounterOf_read]
  cases image <;> rfl

theorem counterAddr_eq (image : BootSelect) :
    determineImgRebootCounterAddr (slotTypeOf image) = (rebootCounterField image).addr := by
  cases image <;> rfl

theorem rebootCounterField_size (image : BootSelect) : (rebootCounterField image).size = 2 := by
  cases image <;> rfl

theorem rebootCounterField_disjoint {image other : BootSelect} (h : image ≠ other) :
    (rebootCounterField image).Disjoint (rebootCounterField other) := by
  cases image <;> cases other <;> first | exact absurd rfl h | decide

/-! ## The increment -/

/-- The counter goes up by one but for the erased value and the wrap. -/
theorem nextRebootCounter_toNat (c : UInt16) :
    (nextRebootCounter c).toNat =
      if c.toNat = 0xff then 1 else if c.toNat = 0xffff then 0 else c.toNat + 1 := by
  unfold nextRebootCounter
  have hlt := c.toNat_lt
  by_cases hff : c = 0xff
  · subst hff
    rfl
  · have hne : c.toNat ≠ 0xff := fun h => hff (UInt16.toNat_inj.mp h)
    rw [if_neg hff, if_neg hne, UInt16.toNat_add]
    split_ifs with hmax
    · simp [hmax]
    · simp only [UInt16.reduceToNat]
      omega

/-- What one boot writes back for a stored counter. -/
def countedUp (counter : Nat) : Nat :=
  if counter = 0xff then 1 else if counter = 0xffff then 0 else counter + 1

theorem countedUp_lt {counter : Nat} (h : counter < 2 ^ 16) : countedUp counter < 2 ^ 16 := by
  unfold countedUp
  split_ifs <;> omega

/-- The counter goes up exactly away from the two special values. -/
theorem le_countedUp_iff {counter : Nat} :
    counter ≤ countedUp counter ↔ counter ≠ 0xff ∧ counter ≠ 0xffff := by
  unfold countedUp
  split_ifs <;> omega

/-! ## One boot -/

/-- **A boot touches one counter.** Between the selection and the restart or jump, the FRAM changes in
    the reboot counter of the selected image only, whatever the copy does. -/
theorem performSelectedCopy_fram (env : BootEnv) (s : BootState) (image : BootSelect)
    (useHamming : Bool) :
    (performSelectedCopy env s image useHamming).2.fram =
      store s.fram (determineImgRebootCounterAddr (slotTypeOf image))
        (toLE 2 (nextRebootCounter (imgRebootCounter s.blFramBlock (slotTypeOf image))).toNat) := by
  obtain ⟨s₁, hext, heq⟩ := performSelectedCopy_counts env s image useHamming
  rw [heq]
  show store s₁.fram _ _ = _
  rw [hext.fram, hext.block]

/-- The selection a boot makes on this FRAM. -/
def bootSelection (env : BootEnv) (fram : Mem UInt8) : BootSelect × Bool :=
  performSelection (initializeAllIobcPeripherals env fram)

/-- The FRAM behind a boot. -/
def framAfterBoot (env : BootEnv) (fram : Mem UInt8) : Mem UInt8 := (boot env fram).2.fram

theorem framAfterBoot_eq (env : BootEnv) (fram : Mem UInt8) :
    framAfterBoot env fram = (rebootCounterField (bootSelection env fram).1).write fram
      (countedUp (storedCounter fram (bootSelection env fram).1)) := by
  unfold framAfterBoot boot performIobcCopyOperationToSdram
  rw [performSelectedCopy_fram, counterAddr_eq, nextRebootCounter_toNat]
  show store fram _ (toLE 2 (countedUp
    (imgRebootCounter (readBootloaderGroup fram) (slotTypeOf (bootSelection env fram).1)).toNat)) = _
  rw [imgRebootCounter_read, Field.write, rebootCounterField_size]
  rfl

/-- Bytes outside the counter of the selected image are unchanged. -/
theorem framAfterBoot_frame {env : BootEnv} {fram : Mem UInt8} {i : Nat}
    (h : i < (rebootCounterField (bootSelection env fram).1).addr ∨
      (rebootCounterField (bootSelection env fram).1).next ≤ i) :
    framAfterBoot env fram i = fram i := by
  rw [framAfterBoot_eq]
  apply store_frame
  rw [toLE_length]
  exact h

theorem storedCounter_selected (env : BootEnv) (fram : Mem UInt8) :
    storedCounter (framAfterBoot env fram) (bootSelection env fram).1 =
      countedUp (storedCounter fram (bootSelection env fram).1) := by
  have hlt : storedCounter fram (bootSelection env fram).1 < 2 ^ 16 := by
    have := (rebootCounterField (bootSelection env fram).1).read_lt fram
    rwa [rebootCounterField_size] at this
  rw [storedCounter, framAfterBoot_eq, Field.read_write, rebootCounterField_size]
  exact Nat.mod_eq_of_lt (countedUp_lt hlt)

theorem storedCounter_other {env : BootEnv} {fram : Mem UInt8} {image : BootSelect}
    (h : image ≠ (bootSelection env fram).1) :
    storedCounter (framAfterBoot env fram) image = storedCounter fram image := by
  rw [storedCounter, framAfterBoot_eq, Field.read_write_disjoint (rebootCounterField_disjoint h)]
  rfl

/-! ## When the counters only go up -/

/-- The boot falls back on the NOR flash as the last resort. -/
def FallsBack (env : BootEnv) (fram : Mem UInt8) : Prop :=
  env.framStart ≠ 0 ∨ Exhausted (readBootloaderGroup fram)

/-- The caller's own test of the faulty flag repeats the one in `determine_boot_select`. -/
theorem performSelection_eq (s : BootState) :
    performSelection s = determineBootSelect s.blFramBlock s.framFaulty := by
  unfold performSelection
  cases s.framFaulty <;> rfl

theorem bootSelection_eq (env : BootEnv) (fram : Mem UInt8) :
    bootSelection env fram =
      determineBootSelect (readBootloaderGroup fram) (decide (env.framStart ≠ 0)) := by
  have hfaulty : (initializeAllIobcPeripherals env fram).framFaulty = decide (env.framStart ≠ 0) :=
    Bool.or_false _
  rw [bootSelection, performSelection_eq, hfaulty]
  rfl

theorem bootSelection_fallsBack {env : BootEnv} {fram : Mem UInt8} (h : FallsBack env fram) :
    bootSelection env fram = (.norFlash, false) := by
  rw [bootSelection_eq]
  by_cases hf : env.framStart ≠ 0
  · rw [decide_eq_true hf]
    rfl
  · have hex : Exhausted (readBootloaderGroup fram) := h.resolve_left hf
    rw [decide_eq_false hf, determineBootSelect_eq, policyPick_eq_none.mpr hex]

/-- Apart from the fallback, a selected image has tries left. -/
theorem storedCounter_lt_of_not_fallsBack {env : BootEnv} {fram : Mem UInt8}
    (h : ¬ FallsBack env fram) :
    storedCounter fram (bootSelection env fram).1 < bootloaderMaxRebootCounter := by
  by_contra hge
  rw [← rebootCounterOf_read, bootSelection_eq] at hge
  obtain ⟨_, hfb⟩ := determineBootSelect_fallback hge
  exact h (hfb.imp (fun hd => of_decide_eq_true hd) id)

/-- The fallback does not meet a counter value that is reset or wraps. -/
def FallbackCountsUp (env : BootEnv) (fram : Mem UInt8) : Prop :=
  FallsBack env fram →
    storedCounter fram .norFlash ≠ 0xff ∧ storedCounter fram .norFlash ≠ 0xffff

/-- **One boot.** No counter decreases exactly if the fallback counts up. -/
theorem boot_counters_le_iff (env : BootEnv) (fram : Mem UInt8) :
    (∀ image, storedCounter fram image ≤ storedCounter (framAfterBoot env fram) image) ↔
      FallbackCountsUp env fram := by
  constructor
  · intro hle hfb
    have hsel := storedCounter_selected env fram
    rw [bootSelection_fallsBack hfb] at hsel
    exact le_countedUp_iff.mp (hsel ▸ hle .norFlash)
  · intro hup image
    by_cases himg : image = (bootSelection env fram).1
    · rw [himg, storedCounter_selected, le_countedUp_iff]
      by_cases hfb : FallsBack env fram
      · rw [bootSelection_fallsBack hfb]
        exact hup hfb
      · have hlt := storedCounter_lt_of_not_fallsBack hfb
        unfold bootloaderMaxRebootCounter at hlt
        omega
    · rw [storedCounter_other himg]

/-! ## Runs of boots -/

/-- The FRAM behind a run of boots in which nothing else writes a counter. -/
def framAfterBoots (envs : List BootEnv) (fram : Mem UInt8) : Mem UInt8 :=
  run framAfterBoot envs fram

theorem framAfterBoots_append (earlier later : List BootEnv) (fram : Mem UInt8) :
    framAfterBoots (earlier ++ later) fram = framAfterBoots later (framAfterBoots earlier fram) :=
  run_append earlier later fram

/-- What the counters are for: at every boot of the run only the counter of the selected image
    changes and no counter decreases, and an image that had used up its tries by any earlier point is
    selected only as the NOR flash fallback without hamming code. -/
def CountersProtect (envs : List BootEnv) (fram : Mem UInt8) : Prop :=
  ∀ pre env post, envs = pre ++ env :: post →
    (∀ i, i < (rebootCounterField (bootSelection env (framAfterBoots pre fram)).1).addr ∨
        (rebootCounterField (bootSelection env (framAfterBoots pre fram)).1).next ≤ i →
      framAfterBoot env (framAfterBoots pre fram) i = framAfterBoots pre fram i) ∧
    (∀ image, storedCounter (framAfterBoots pre fram) image ≤
      storedCounter (framAfterBoot env (framAfterBoots pre fram)) image) ∧
    (∀ earlier later, pre = earlier ++ later →
      bootloaderMaxRebootCounter ≤
        storedCounter (framAfterBoots earlier fram) (bootSelection env (framAfterBoots pre fram)).1 →
      bootSelection env (framAfterBoots pre fram) = (.norFlash, false))

/-- Over a run in which the fallback counts up, no counter is lower at the end. -/
theorem storedCounter_mono {envs : List BootEnv} {fram : Mem UInt8}
    (h : AlongRun FallbackCountsUp framAfterBoot envs fram) (image : BootSelect) :
    storedCounter fram image ≤ storedCounter (framAfterBoots envs fram) image :=
  run_rel (R := fun m m' => storedCounter m image ≤ storedCounter m' image) (fun _ => le_rfl)
    (fun _ _ _ => le_trans) (fun env m hm => (boot_counters_le_iff env m).mpr hm image) envs fram h

/-- **Reboot counters over a run.** The counters protect a run of boots exactly if no boot of it falls
    back on the NOR flash while the NOR flash counter is 0xff or 0xffff. -/
theorem countersProtect_iff (envs : List BootEnv) (fram : Mem UInt8) :
    CountersProtect envs fram ↔ AlongRun FallbackCountsUp framAfterBoot envs fram := by
  constructor
  · intro h
    induction envs generalizing fram with
    | nil => trivial
    | cons env envs ih =>
        refine ⟨(boot_counters_le_iff env fram).mp (h [] env envs rfl).2.1, ih _ ?_⟩
        intro pre e post heq
        obtain ⟨hframe, hle, hsel⟩ := h (env :: pre) e post (by rw [heq]; rfl)
        refine ⟨hframe, hle, fun earlier later hpre hmax => ?_⟩
        exact hsel (env :: earlier) later (by rw [hpre]; rfl) hmax
  · rintro h pre env post rfl
    have hat := alongRun_at h
    refine ⟨fun i hi => framAfterBoot_frame hi, (boot_counters_le_iff _ _).mpr hat, ?_⟩
    rintro earlier later rfl hmax
    -- the counter has not gone down since it reached the maximum
    have hlater : AlongRun FallbackCountsUp framAfterBoot later (framAfterBoots earlier fram) :=
      (alongRun_append.mp (alongRun_append.mp h).1).2
    have hmono := storedCounter_mono hlater
      (bootSelection env (framAfterBoots (earlier ++ later) fram)).1
    rw [← framAfterBoots_append] at hmono
    apply bootSelection_fallsBack
    by_contra hfb
    have hlt := storedCounter_lt_of_not_fallsBack hfb
    exact absurd (le_trans hmax hmono) (Nat.not_le.mpr hlt)

/-- A boot environment in which nothing answers but the FRAM. -/
def bareEnv : BootEnv where
  framStart := 0
  norFlash := fun _ => 0xff
  sdram := fun _ => 0
  cards := fun _ _ => none
  openFilesystem := -1
  selectSdCard := fun _ => 0
  changeDirectory := fun _ _ => 0
  openError := fun _ _ => 0
  readGot := 0
  hamCodeSizeArg := 0
  hammingVerify256x := fun data _ _ => (.noError, data)

/-- A FRAM with all counters at the maximum and the NOR flash counter at 255. -/
def framAt255 : Mem UInt8 :=
  norFlashRebootCounter.write (fun i => if i % 2 = 0 then 5 else 0) 0xff

/-- After 255 fallback boots the NOR flash counter is taken for an erased one and drops to 1. -/
theorem countersProtect_fails_at_255 : ¬ CountersProtect [bareEnv] framAt255 := by
  intro h
  have hle := (h [] bareEnv [] rfl).2.1
  have hup := (boot_counters_le_iff bareEnv framAt255).mp hle
  have hex : FallsBack bareEnv framAt255 := .inr (policyPick_eq_none.mp (by decide))
  exact absurd (hup hex).1 (by decide)

end Boot
end Obsw
