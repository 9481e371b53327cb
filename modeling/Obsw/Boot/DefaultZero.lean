import Obsw.Boot.Policy
import Obsw.Fram.OwnField

/-!
# `Boot.DefaultZero` — the FRAM behind `fram_zero_out_default_zero_fields`

The function is called once after a reset of the FRAM. Behind a call that succeeds the fields of
`zeroedFields` are zero, an erased reboot counter is zero too, and the rest of the FRAM is what it was,
but for the flags of the update volumes (`defaultZero_of_success`). So the next boot takes the NOR flash,
without its hamming code.
-/

namespace Obsw
namespace Boot

open Memory LittleEndian Device Fram

/-! ## What the call is for -/

/-- The fields a successful call leaves at zero, whatever they held. -/
def zeroedFields : List Field :=
  [globalHammingFlag, norFlashHammingFlag, sdc0ImageSlot0HammingFlag, sdc0ImageSlot1HammingFlag,
    sdc1ImageSlot0HammingFlag, sdc1ImageSlot1HammingFlag, norFlashRebootCounter,
    sdc0ImageSlot0RebootCounter, sdc0ImageSlot1RebootCounter, sdc1ImageSlot0RebootCounter,
    sdc1ImageSlot1RebootCounter, norFlashBinarySize, bootloaderSize, norFlashHammingCodeSize,
    bootloaderHammingCodeSize, sdc0ImageSlot0HammingSize, sdc0ImageSlot1HammingSize,
    sdc1ImageSlot0HammingSize, sdc1ImageSlot1HammingSize, bootloaderFaulty, softwareUpdateAvailable]

/-- The FRAM behind a successful call. Nothing is said of an erased preferred card, and of the flags of
    the update volumes. -/
structure DefaultZero (fram after : Mem UInt8) : Prop where
  zero : ∀ f ∈ zeroedFields, f.read after = 0
  rebootCounter : rebootCounter.read after =
    if rebootCounter.read fram = 0xffffffff then 0 else rebootCounter.read fram
  preferred : preferredSdCard.read fram ≠ 0xffff → preferredSdCard.read after = preferredSdCard.read fram
  other : ∀ i, (∀ f ∈ preferredSdCard :: defaultZeroFields, ¬ f.Covers i) → after i = fram i
  boot : determineBootSelect (readBootloaderGroup after) false = (.norFlash, false)

/-- The flags, counters, hamming code sizes and update fields of the group alone. -/
def groupZeroFields : List Field :=
  [globalHammingFlag, norFlashHammingFlag, sdc0ImageSlot0HammingFlag, sdc0ImageSlot1HammingFlag,
    sdc1ImageSlot0HammingFlag, sdc1ImageSlot1HammingFlag, norFlashRebootCounter,
    sdc0ImageSlot0RebootCounter, sdc0ImageSlot1RebootCounter, sdc1ImageSlot0RebootCounter,
    sdc1ImageSlot1RebootCounter, norFlashHammingCodeSize, sdc0ImageSlot0HammingSize,
    sdc0ImageSlot1HammingSize, sdc1ImageSlot0HammingSize, sdc1ImageSlot1HammingSize,
    softwareUpdateAvailable, softwareUpdateInVolume0, softwareUpdateInVolume1]

/-- Only the group is zeroed, and an erased preferred card is set. -/
structure GroupZeroOnly (fram after : Mem UInt8) : Prop where
  zero : ∀ f ∈ groupZeroFields, f.read after = 0
  erased : preferredSdCard.read fram = 0xffff → ∃ v, preferredSdCard.read after = volumeIdRaw v
  preferred : preferredSdCard.read fram ≠ 0xffff → preferredSdCard.read after = preferredSdCard.read fram
  other : ∀ i, (∀ f ∈ preferredSdCard :: groupZeroFields, ¬ f.Covers i) → after i = fram i
  boot : determineBootSelect (readBootloaderGroup after) false = (.norFlash, false)

/-! ## The writes -/

section

variable {fram stack : Mem UInt8} {reads writes : Nat → WriteOutcome UInt8}

/-- A chain of calls that succeeds makes the change of each of them. -/
theorem runUntilError_ok {calls : List (WriteOutcome UInt8 → Mem UInt8 → Int × Mem UInt8)}
    {changes : List (Mem UInt8 → Mem UInt8)}
    (h : List.Forall₂ (fun call change => ∀ o m, (call o m).1 = 0 → (call o m).2 = change m) calls changes)
    (outcomes : Nat → WriteOutcome UInt8) (m : Mem UInt8) (hok : (runUntilError calls outcomes m).1 = 0) :
    (runUntilError calls outcomes m).2 = changes.foldl (fun m change => change m) m := by
  induction h generalizing outcomes m with
  | nil => rfl
  | @cons call change calls changes hcall hrest ih =>
      rw [runUntilError] at hok ⊢
      by_cases hfirst : (call (outcomes 0) m).1 = 0
      · have hnot : ¬ (call (outcomes 0) m).1 ≠ 0 := not_not.mpr hfirst
        rw [if_neg hnot] at hok ⊢
        rw [List.foldl_cons, ← hcall _ _ hfirst]
        exact ih _ _ hok
      · rw [if_pos hfirst] at hok
        exact absurd hok hfirst

/-- The fields that are written in front of the update request. -/
def writtenFields : List Field :=
  [globalHammingFlag, norFlashHammingFlag, sdc0ImageSlot0HammingFlag, sdc0ImageSlot1HammingFlag,
    sdc1ImageSlot0HammingFlag, sdc1ImageSlot1HammingFlag, norFlashRebootCounter,
    sdc0ImageSlot0RebootCounter, sdc0ImageSlot1RebootCounter, sdc1ImageSlot0RebootCounter,
    sdc1ImageSlot1RebootCounter, norFlashBinarySize, bootloaderSize, norFlashHammingCodeSize,
    bootloaderHammingCodeSize, sdc0ImageSlot0HammingSize, sdc0ImageSlot1HammingSize,
    sdc1ImageSlot0HammingSize, sdc1ImageSlot1HammingSize, bootloaderFaulty]

/-- The bytes of the update request: no update, volume 0, and what the stack held. -/
def clearedRequest (stack : Mem UInt8) : List UInt8 := load (softwareUpdateRawData false .sdCard0 stack) 0 3

theorem defaultZeroWrites_ok (stack : Mem UInt8) (outcomes : Nat → WriteOutcome UInt8) (m : Mem UInt8)
    (hok : (runUntilError (defaultZeroWrites stack) outcomes m).1 = 0) :
    (runUntilError (defaultZeroWrites stack) outcomes m).2 =
      store (zeroFields writtenFields m) softwareUpdateFields.addr (clearedRequest stack) := by
  have hzero : ∀ (f : Field) (o : WriteOutcome UInt8) (m : Mem UInt8),
      (framWriteAndVerify o m (toLE f.size 0) f.addr).1 = 0 →
        (framWriteAndVerify o m (toLE f.size 0) f.addr).2 = f.write m 0 :=
    fun f o m h => framWriteAndVerify_ok o m _ _ h
  have hrows : List.Forall₂
      (fun (call : WriteOutcome UInt8 → Mem UInt8 → Int × Mem UInt8) (change : Mem UInt8 → Mem UInt8) =>
        ∀ o m, (call o m).1 = 0 → (call o m).2 = change m)
      (defaultZeroWrites stack)
      ((writtenFields.map fun f m => f.write m 0) ++
        [fun m => store m softwareUpdateFields.addr (clearedRequest stack)]) := by
    refine .cons (hzero globalHammingFlag) <| .cons (hzero norFlashHammingFlag) <|
      .cons (hzero sdc0ImageSlot0HammingFlag) <| .cons (hzero sdc0ImageSlot1HammingFlag) <|
      .cons (hzero sdc1ImageSlot0HammingFlag) <| .cons (hzero sdc1ImageSlot1HammingFlag) <|
      .cons (hzero norFlashRebootCounter) <| .cons (hzero sdc0ImageSlot0RebootCounter) <|
      .cons (hzero sdc0ImageSlot1RebootCounter) <| .cons (hzero sdc1ImageSlot0RebootCounter) <|
      .cons (hzero sdc1ImageSlot1RebootCounter) <| .cons (hzero norFlashBinarySize) <|
      .cons (hzero bootloaderSize) <| .cons (hzero norFlashHammingCodeSize) <|
      .cons (hzero bootloaderHammingCodeSize) <| .cons (hzero sdc0ImageSlot0HammingSize) <|
      .cons (hzero sdc0ImageSlot1HammingSize) <| .cons (hzero sdc1ImageSlot0HammingSize) <|
      .cons (hzero sdc1ImageSlot1HammingSize) <| .cons (hzero bootloaderFaulty) <| .cons ?_ .nil
    exact fun o m h => framWriteAndVerify_ok o m _ _ h
  rw [runUntilError_ok hrows outcomes m hok, List.foldl_append, List.foldl_map]
  rfl

/-- The memory behind the test of the reboot counter. -/
def counterChecked (fram : Mem UInt8) : Mem UInt8 :=
  if rebootCounter.read fram = 0xffffffff then rebootCounter.write fram 0 else fram

theorem varValue_rebootCounter (dest : Mem UInt8) :
    varValue 4 (framReadRebootCounter .done fram dest).out = rebootCounter.read fram := by
  rw [varValue, framReadRebootCounter, framRead]
  have hload := load_store_same dest 0 (load fram rebootCounter.addr 4)
  rw [load_length] at hload
  exact congrArg ofLE hload

/-- The test of the reboot counter, if it succeeds. -/
theorem counterChecked_of_ok (fram : Mem UInt8) (o : WriteOutcome UInt8)
    (hok : (if rebootCounter.read fram = 0xffffffff then framResetRebootCounter o fram else (0, fram)).1 = 0) :
    (if rebootCounter.read fram = 0xffffffff then framResetRebootCounter o fram else (0, fram)).2 =
      counterChecked fram := by
  unfold counterChecked
  by_cases herased : rebootCounter.read fram = 0xffffffff
  · rw [if_pos herased] at hok ⊢
    rw [if_pos herased]
    exact framWriteAndVerify_ok o fram _ _ hok
  · rw [if_neg herased, if_neg herased]

/-- **A successful call**: the counter is checked, and every write is made. -/
theorem framZeroOutDefaultZeroFields_ok
    (hok : (framZeroOutDefaultZeroFields reads writes fram stack).1 = 0) :
    (framZeroOutDefaultZeroFields reads writes fram stack).2 =
      store (zeroFields writtenFields (counterChecked fram)) softwareUpdateFields.addr
        (clearedRequest stack) := by
  unfold framZeroOutDefaultZeroFields at hok ⊢
  dsimp only at hok ⊢
  by_cases hread : (framReadRebootCounter (reads 0) fram fun _ => 0).retval ≠ 0
  · rw [if_pos hread] at hok
    exact absurd hok hread
  rw [if_neg hread] at hok ⊢
  have hdone : reads 0 = .done := WriteOutcome.retval_eq_zero.mp (not_not.mp hread)
  rw [hdone, varValue_rebootCounter] at hok ⊢
  have hchecked := counterChecked_of_ok fram (writes 0)
  generalize (if rebootCounter.read fram = 0xffffffff then framResetRebootCounter (writes 0) fram
    else (0, fram)) = reset at hok hchecked ⊢
  by_cases hreset : reset.1 ≠ 0
  · rw [if_pos hreset] at hok
    exact absurd hok hreset
  rw [if_neg hreset] at hok ⊢
  rw [hchecked (not_not.mp hreset)] at hok ⊢
  by_cases hpreferred : (framGetPreferredSdCard (reads 1) (counterChecked fram) (some 0)).retval ≠ 0
  · rw [if_pos hpreferred] at hok
    exact absurd hok hpreferred
  rw [if_neg hpreferred] at hok ⊢
  exact defaultZeroWrites_ok stack _ _ hok

/-! ## Behind the call -/

/-- A field that is written, and not behind it, is zero. -/
theorem read_zeroed {f : Field} (hf : f ∈ writtenFields) (hdisjoint : f.next ≤ softwareUpdateFields.addr ∨
      softwareUpdateFields.next ≤ f.addr) (m : Mem UInt8) :
    f.read (store (zeroFields writtenFields m) softwareUpdateFields.addr (clearedRequest stack)) = 0 := by
  have hlen : (clearedRequest stack).length = 3 := load_length _ _ _
  rw [Field.read_store_disjoint (by rw [hlen]; exact hdisjoint)]
  exact Field.read_eq_zero fun i hi => zeroFields_covered hf hi m

/-- A field that is not written is what it was. -/
theorem read_kept {f : Field} (hdisjoint : ∀ g ∈ softwareUpdateFields :: writtenFields,
      f.next ≤ g.addr ∨ g.next ≤ f.addr) (m : Mem UInt8) :
    f.read (store (zeroFields writtenFields m) softwareUpdateFields.addr (clearedRequest stack)) =
      f.read m := by
  have hlen : (clearedRequest stack).length = 3 := load_length _ _ _
  rw [Field.read_store_disjoint (by rw [hlen]; exact hdisjoint _ List.mem_cons_self)]
  refine Field.read_congr fun i hi => zeroFields_keepsOutside writtenFields m _ fun g hg hcovers => ?_
  have hapart := hdisjoint g (List.mem_cons_of_mem _ hg)
  have hnext : f.next = f.addr + f.size := rfl
  obtain ⟨hlow, hhigh⟩ := hcovers
  omega

theorem softwareUpdateAvailable_read (m : Mem UInt8) :
    softwareUpdateAvailable.read (store m softwareUpdateFields.addr (clearedRequest stack)) = 0 := by
  refine Field.read_eq_zero fun i hi => ?_
  obtain ⟨hlow, hhigh⟩ := hi
  obtain rfl : i = softwareUpdateFields.addr + 0 := by
    have hnext : softwareUpdateAvailable.next = softwareUpdateAvailable.addr + 1 := rfl
    have haddr : softwareUpdateFields.addr = softwareUpdateAvailable.addr := rfl
    omega
  rw [store_at (by rw [clearedRequest, load_length]; decide)]
  rfl

/-- Without an update, the NOR flash is taken as long as it has tries left. -/
theorem determineBootSelect_norFlash {bl : BootloaderGroup}
    (hupdate : bl.softwareUpdateAvailable.toNat ≠ framTrue)
    (hcounter : bl.norFlashRebootCounter.toNat < bootloaderMaxRebootCounter) :
    determineBootSelect bl false = (.norFlash, decide (bl.globalHammingFlag.toNat = framTrue)) := by
  have hnone : determineUpdateSelect bl = none := if_neg hupdate
  unfold determineBootSelect
  rw [hnone, if_neg Bool.false_ne_true]
  exact if_pos hcounter

/-- **Default zero fields.** Behind a call that succeeds the flags, the counters, the sizes and the update
    request are zero, and the next boot takes the NOR flash without its hamming code. -/
theorem defaultZero_of_success
    (hok : (framZeroOutDefaultZeroFields reads writes fram stack).1 = 0) :
    DefaultZero fram (framZeroOutDefaultZeroFields reads writes fram stack).2 := by
  have hkeeps := framZeroOutDefaultZeroFields_keeps reads writes fram stack
  rw [framZeroOutDefaultZeroFields_ok hok] at hkeeps ⊢
  have hzero : ∀ f ∈ zeroedFields, f.read (store (zeroFields writtenFields (counterChecked fram))
      softwareUpdateFields.addr (clearedRequest stack)) = 0 := by
    intro f hf
    have hsplit : f ∈ writtenFields ++ [softwareUpdateAvailable] := hf
    have hapart : ∀ f ∈ writtenFields, f.next ≤ softwareUpdateFields.addr ∨
        softwareUpdateFields.next ≤ f.addr := by decide
    rcases List.mem_append.mp hsplit with hwritten | hlast
    · exact read_zeroed hwritten (hapart f hwritten) _
    · rw [List.mem_singleton.mp hlast]
      exact softwareUpdateAvailable_read _
  constructor
  · exact hzero
  · rw [read_kept (by decide), counterChecked]
    split
    · rw [Field.read_write]
      rfl
    · rfl
  · intro _
    rw [read_kept (by decide), counterChecked]
    split
    · exact Field.read_write_disjoint (by decide) 0
    · rfl
  · exact fun i hi => hkeeps i fun f hf => hi f (List.mem_cons_of_mem _ hf)
  · have hupdate := hzero softwareUpdateAvailable (by decide)
    have hnor := hzero norFlashRebootCounter (by decide)
    have hflag := hzero globalHammingFlag (by decide)
    generalize store (zeroFields writtenFields (counterChecked fram)) softwareUpdateFields.addr
      (clearedRequest stack) = after at hupdate hnor hflag ⊢
    have havailable : (readBootloaderGroup after).softwareUpdateAvailable = 0 := by
      simp only [readBootloaderGroup, hupdate]
      rfl
    have hcounter : (readBootloaderGroup after).norFlashRebootCounter = 0 := by
      simp only [readBootloaderGroup, hnor]
      rfl
    have hglobal : (readBootloaderGroup after).globalHammingFlag = 0 := by
      simp only [readBootloaderGroup, hflag]
      rfl
    rw [determineBootSelect_norFlash (by rw [havailable]; decide) (by rw [hcounter]; decide), hglobal]
    rfl

/-- A FRAM in which everything is set and the reboot counter is erased. -/
def erasedCounterFram : Mem UInt8 := Fram.rebootCounter.write (fun _ => 0xab) 0xffffffff

theorem defaultZero_of_erasedCounter :
    (framZeroOutDefaultZeroFields (fun _ => .done) (fun _ => .done) erasedCounterFram fun _ => 0xcd).1 = 0 ∧
      DefaultZero erasedCounterFram
        (framZeroOutDefaultZeroFields (fun _ => .done) (fun _ => .done) erasedCounterFram fun _ => 0xcd).2 :=
  ⟨by decide, defaultZero_of_success (by decide)⟩

end

/-- A FRAM with the size of an image in the NOR flash. -/
def withBinarySize : Mem UInt8 := norFlashBinarySize.write (fun _ => 0) 1

/-- The size of the NOR flash image is zeroed too. -/
theorem binary_size_zeroed :
    ¬ ∀ reads writes fram stack, (framZeroOutDefaultZeroFields reads writes fram stack).1 = 0 →
      GroupZeroOnly fram (framZeroOutDefaultZeroFields reads writes fram stack).2 := by
  intro h
  have hother := (h (fun _ => .done) (fun _ => .done) withBinarySize (fun _ => 0) (by decide)).other
    norFlashBinarySize.addr (by decide)
  exact absurd hother (by decide)

end Boot
end Obsw
