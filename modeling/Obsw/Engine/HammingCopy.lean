import Obsw.Engine.Core
import Obsw.Fram.Api
import Obsw.Lib.Loop

/-!
# `Engine.HammingCopy` — copying a hamming code file to the FRAM

`copyImgHammingSdcToFram` of `ImageCopyingiOBC.cpp`. The file is read in buckets of the image buffer
and each bucket is passed to `fram_write_ham_code` with the running offset. That function adds the
offset to the buffer, not to the address in the FRAM. A file of one bucket is copied correctly; behind
the first bucket of a longer file, memory from behind the buffer is written over the start of the
slot's region.
-/

namespace Obsw
namespace Engine

open Memory LittleEndian Device Fram Loop ImageCopyingEngine

/-- `imgBuffer->size()` on the iOBC. -/
def imgBufferSize : Nat := norflashSmallSectorSize

/-- The engine and the FRAM. -/
structure HammingState where
  engine : ImageCopyingEngine
  fram : Mem UInt8

/-- One pass of the copy loop. -/
structure HammingPass where
  /-- the most `f_read` delivers -/
  readGot : Nat
  /-- `FRAM_writeAndVerify` of the bucket -/
  write : WriteOutcome UInt8
  timedOut : Bool

/-- One call of `copyImgHammingSdcToFram`. -/
structure HammingCall where
  sdCardChangeOngoing : Bool
  activeVolume : VolumeId
  fs : FsEnv
  writeSize : WriteOutcome UInt8
  passes : List HammingPass

/-- The FRAM slot of a source slot on the active volume. -/
def hammingFramSlot (activeVolume : VolumeId) (sourceSlot : ImageSlot) : SlotType :=
  if sourceSlot = .flash then .flashSlot
  else
    match activeVolume, sourceSlot with
    | .sdCard0, .sdcSlot0 => .sdc0Sl0
    | .sdCard0, .sdcSlot1 => .sdc0Sl1
    | .sdCard1, .sdcSlot0 => .sdc1Sl0
    | .sdCard1, .sdcSlot1 => .sdc1Sl1
    | _, _ => .sdc0Sl0

/-- The size of the next bucket. -/
def hammingSizeToRead (e : ImageCopyingEngine) : Nat :=
  if imgBufferSize < e.currentFileSize - e.currentByteIdx then imgBufferSize
  else e.currentFileSize - e.currentByteIdx

/-- The opened file and the state, which the copy loop passes on. -/
abbrev HammingLoop := FFile × HammingState

/-- One pass of the copy loop. The loop condition is false behind the last bucket. -/
def hammingPass (framSlot : SlotType) (pass : HammingPass) (s : HammingLoop) :
    Option (Flow ReturnValue HammingLoop) :=
  let e := s.2.engine
  let sizeToRead := hammingSizeToRead e
  let read := fRead s.1 sizeToRead pass.readGot
  let e := { e with imgBuffer := store e.imgBuffer 0 read.1 }
  if read.1.length ≠ sizeToRead then some (.ret .returnFailed (read.2, { s.2 with engine := e }))
  else
    let written :=
      framWriteHamCode pass.write s.2.fram framSlot e.imgBuffer e.currentByteIdx read.1.length
    if written.1 ≠ 0 then
      some (.ret .returnFailed (read.2, { engine := e, fram := written.2 }))
    else
      let e := { e with currentByteIdx := e.currentByteIdx + read.1.length }
      let s := (read.2, { engine := e, fram := written.2 })
      if e.currentByteIdx < e.currentFileSize ∧ pass.timedOut then
        some (.ret .taskPeriodOverSoon s)
      else some (.next s)

/-- There is something left to copy. -/
def hammingMore (s : HammingLoop) : Bool :=
  decide (s.2.engine.currentByteIdx < s.2.engine.currentFileSize)

/-- `copyImgHammingSdcToFram`. The step counter stays 0, so the size is written in each call. -/
def copyImgHammingSdcToFram (card : Card) (call : HammingCall) (s : HammingState) :
    Option (ReturnValue × HammingState) :=
  let s := if s.engine.internalState = .idle
    then { s with engine := { s.engine with internalState := .step1 } } else s
  if s.engine.internalState = .step1 then
    if call.sdCardChangeOngoing then some (.returnFailed, s)
    else
      let framSlot := hammingFramSlot call.activeVolume s.engine.sourceSlot
      match prepareGenericFileInformation .iobc card call.fs s.engine with
      | (.error r, e) => some (r, { s with engine := e })
      | (.ok file, e) =>
        let s := { s with engine := e }
        if e.stepCounter = 0 ∧ imagesHammingReservedSize < e.currentFileSize then
          some (.returnFailed, s)
        else
          let sized :=
            if e.stepCounter = 0
            then framWriteHamSize call.writeSize s.fram framSlot e.currentFileSize else (0, s.fram)
          let s := { s with fram := sized.2 }
          if sized.1 ≠ 0 then some (.framIssue, s)
          else
            match whileLoop hammingMore (hammingPass framSlot) call.passes (file, s) with
            | none => none
            | some (.ret r s) => some (r, s.2)
            | some (.next s) => some (.operationFinished, { s.2 with engine := s.2.engine.reset })
  else some (.returnOk, s)

/-- One call of the operation: it goes on in the next cycle or it has ended. -/
def hammingCall (card : Card) (call : HammingCall) (s : HammingState) :
    Option (Flow ReturnValue HammingState) :=
  match copyImgHammingSdcToFram card call s with
  | none => none
  | some (.taskPeriodOverSoon, s) => some (.next s)
  | some (r, s) => some (.ret r s)

/-- The image slots that have a hamming code. -/
inductive HammingSource where
  | flash
  | sdcSlot0
  | sdcSlot1
  deriving DecidableEq, Repr

namespace HammingSource

def slot : HammingSource → ImageSlot
  | flash => .flash
  | sdcSlot0 => .sdcSlot0
  | sdcSlot1 => .sdcSlot1

/-- The hamming code file. -/
def path : HammingSource → Path
  | flash => (swRepository, swFlashHammingName)
  | sdcSlot0 => (swRepository, swSlot0HammingName)
  | sdcSlot1 => (swRepository, swSlot1HammingName)

end HammingSource

/-- Start the copy of a slot's hamming code on a reset engine. -/
def startHammingCopy (source : HammingSource) (e : ImageCopyingEngine) : ImageCopyingEngine :=
  (startHammingCodeToFramOperation e.reset source.slot).2

/-! ## What is to be stored -/

/-- The field of a slot's hamming code size. -/
def hammingSizeField (slot : SlotType) : Field := ⟨determineHamSizeAddress slot, 4⟩

/-- Going from `fram` to `fram'` has stored the hamming code `xs` of the slot, with its size, and has
    left the regions of the other slots alone. -/
structure HammingStored (slot : SlotType) (xs : List UInt8) (fram fram' : Mem UInt8) : Prop where
  code : Holds fram' (determineHamCodeAddress slot) xs
  size : (hammingSizeField slot).read fram' = xs.length
  others : ∀ other, other ≠ slot → determineHamCodeAddress other ≠ 0 →
    ∀ i < hamCodeReservedSize other,
      fram' (determineHamCodeAddress other + i) = fram (determineHamCodeAddress other + i)

/-- Every run that finishes has stored the file for the slot the finishing call works on. -/
def HammingCopyCorrect (source : HammingSource) (card : Card) : Prop :=
  ∀ (earlier : List HammingCall) (call : HammingCall) (s s₁ s' : HammingState)
    (e : ImageCopyingEngine), s.engine = startHammingCopy source e →
    passes (fun _ => true) (hammingCall card) earlier s = some s₁ →
    copyImgHammingSdcToFram card call s₁ = some (.operationFinished, s') →
    HammingStored (hammingFramSlot call.activeVolume source.slot) (fileBytes card source.path)
      s.fram s'.fram

/-! ## Slots and regions -/

/-- An image slot has a size field and a region of the images' size. -/
theorem hammingFramSlot_spec (activeVolume : VolumeId) (source : HammingSource) :
    determineHamCodeAddress (hammingFramSlot activeVolume source.slot) ≠ 0 ∧
      determineHamSizeAddress (hammingFramSlot activeVolume source.slot) ≠ 0 ∧
      hamCodeReservedSize (hammingFramSlot activeVolume source.slot) = imagesHammingReservedSize := by
  cases activeVolume <;> cases source <;> decide

/-- The regions of two slots do not meet. -/
theorem hamCodeRegions_disjoint {slot other : SlotType} (hne : other ≠ slot)
    (hslot : determineHamCodeAddress slot ≠ 0) (hother : determineHamCodeAddress other ≠ 0) :
    determineHamCodeAddress slot + hamCodeReservedSize slot ≤ determineHamCodeAddress other ∨
      determineHamCodeAddress other + hamCodeReservedSize other ≤ determineHamCodeAddress slot := by
  cases slot <;> cases other <;>
    first | exact absurd rfl hne | exact absurd rfl hslot | exact absurd rfl hother | decide

/-- The size fields lie below all regions. -/
theorem hammingSizeField_below (slot : SlotType) {other : SlotType}
    (hother : determineHamCodeAddress other ≠ 0) :
    (hammingSizeField slot).next ≤ determineHamCodeAddress other := by
  cases slot <;> cases other <;> first | exact absurd rfl hother | decide

/-- Storing the size and a code that fits is what is wanted. -/
theorem hammingStored {slot : SlotType} {xs : List UInt8} {fram : Mem UInt8}
    (hslot : determineHamCodeAddress slot ≠ 0) (hfits : xs.length ≤ hamCodeReservedSize slot)
    (hlt : xs.length < 2 ^ 32) :
    HammingStored slot xs fram
      (store (store fram (determineHamSizeAddress slot) (toLE 4 xs.length))
        (determineHamCodeAddress slot) xs) where
  code := holds_store _ _ _
  size := by
    rw [Field.read_store_disjoint (.inl (hammingSizeField_below slot hslot))]
    exact ((hammingSizeField slot).read_write fram xs.length).trans (Nat.mod_eq_of_lt hlt)
  others other hne hother i hi := by
    have hbelow : determineHamSizeAddress slot + 4 ≤ determineHamCodeAddress other :=
      hammingSizeField_below slot hother
    have hdisjoint := hamCodeRegions_disjoint hne hslot hother
    rw [store_frame (by omega), store_frame (.inr (by rw [toLE_length]; omega))]

/-- A bucket that fits is written to the start of the slot's region. -/
theorem framWriteHamCode_eq (outcome : WriteOutcome UInt8) (fram buffer : Mem UInt8)
    {slot : SlotType} (offset : Nat) {size : Nat} (hslot : determineHamCodeAddress slot ≠ 0)
    (hsize : size ≤ hamCodeReservedSize slot) :
    framWriteHamCode outcome fram slot buffer offset size =
      framWriteAndVerify outcome fram (load buffer offset size) (determineHamCodeAddress slot) := by
  have hcheck : determineHamCodeAddressWithSizecheck slot size =
      .ok (determineHamCodeAddress slot) := by
    unfold determineHamCodeAddressWithSizecheck
    rw [if_neg hslot, if_neg (Nat.not_lt.mpr hsize)]
  unfold framWriteHamCode
  rw [hcheck]

theorem framWriteHamSize_ok (outcome : WriteOutcome UInt8) (fram : Mem UInt8) {slot : SlotType}
    (hamSize : Nat) (hslot : determineHamSizeAddress slot ≠ 0)
    (h : (framWriteHamSize outcome fram slot hamSize).1 = 0) :
    (framWriteHamSize outcome fram slot hamSize).2 =
      store fram (determineHamSizeAddress slot) (toLE 4 hamSize) := by
  unfold framWriteHamSize at h ⊢
  rw [if_neg hslot] at h ⊢
  exact framWriteAndVerify_ok _ _ _ _ h

/-! ## Files of one bucket -/

/-- The copy loop of a file of one bucket: nothing is copied, or all of it. -/
structure SingleBucket (slot : SlotType) (xs : List UInt8) (fram : Mem UInt8) (s : HammingLoop) :
    Prop where
  bytes : s.1.bytes = xs
  pos : s.1.pos = s.2.engine.currentByteIdx
  size : s.2.engine.currentFileSize = xs.length
  copied : s.2.engine.currentByteIdx = 0 ∧ s.2.fram = fram ∨
    s.2.engine.currentByteIdx = xs.length ∧
      s.2.fram = store fram (determineHamCodeAddress slot) xs

/-- A pass of the loop copies the file or fails. -/
theorem hammingPass_single {slot : SlotType} {xs : List UInt8} {fram : Mem UInt8}
    {pass : HammingPass} {s : HammingLoop} (h : SingleBucket slot xs fram s)
    (hlt : s.2.engine.currentByteIdx < s.2.engine.currentFileSize)
    (hslot : determineHamCodeAddress slot ≠ 0) (hbucket : xs.length ≤ imgBufferSize)
    (hfits : xs.length ≤ hamCodeReservedSize slot) :
    (∀ s', hammingPass slot pass s = some (.next s') → SingleBucket slot xs fram s') ∧
      ∀ r s', hammingPass slot pass s = some (.ret r s') → r = .returnFailed := by
  have hsize := h.size
  obtain ⟨hidx, hfram⟩ := h.copied.resolve_right fun hno => by omega
  have hread : hammingSizeToRead s.2.engine = xs.length := by
    unfold hammingSizeToRead
    rw [hsize, hidx, if_neg (by omega), Nat.sub_zero]
  have hpos : s.1.pos = 0 := h.pos.trans hidx
  unfold hammingPass
  dsimp only
  rw [hread]
  by_cases hshort : (fRead s.1 xs.length pass.readGot).1.length ≠ xs.length
  · rw [if_pos hshort]
    exact ⟨fun s' heq => (by cases heq), fun r s' heq => (Flow.ret.inj (Option.some.inj heq)).1.symm⟩
  · have hlen := not_not.mp hshort
    have hall : (fRead s.1 xs.length pass.readGot).1 = xs := by
      rw [fRead_complete hlen.ge, h.bytes, hpos, List.drop_zero, List.take_length]
    rw [if_neg hshort, hall, hidx, hfram, hsize]
    rw [framWriteHamCode_eq pass.write fram _ 0 hslot hfits, load_store_same]
    have hwrite := framWriteAndVerify_ok pass.write fram xs (determineHamCodeAddress slot)
    generalize framWriteAndVerify pass.write fram xs (determineHamCodeAddress slot) = written
      at hwrite ⊢
    by_cases hfailed : written.1 ≠ 0
    · rw [if_pos hfailed]
      exact ⟨fun s' heq => (by cases heq),
        fun r s' heq => (Flow.ret.inj (Option.some.inj heq)).1.symm⟩
    · rw [if_neg hfailed, if_neg (fun hno => by omega)]
      refine ⟨fun s' heq => ?_, fun r s' heq => (by cases heq)⟩
      obtain rfl := Flow.next.inj (Option.some.inj heq)
      refine ⟨?_, ?_, rfl, .inr ⟨Nat.zero_add _, hwrite (not_not.mp hfailed)⟩⟩
      · rw [fRead_file]
        exact h.bytes
      · rw [fRead_file, hlen, hpos]

/-- The engine of an operation that has been started. -/
structure HammingStart (source : HammingSource) (e : ImageCopyingEngine) : Prop where
  source : e.sourceSlot = source.slot
  hamming : e.hammingCode = true
  internal : e.internalState = .idle
  step : e.stepCounter = 0
  idx : e.currentByteIdx = 0

theorem startHammingCopy_start (source : HammingSource) (e : ImageCopyingEngine) :
    HammingStart source (startHammingCopy source e) := by
  cases source <;> exact ⟨rfl, rfl, rfl, rfl, rfl⟩

theorem HammingStart.genericFile_eq {source : HammingSource} {e : ImageCopyingEngine}
    (h : HammingStart source e) :
    genericFile .iobc { e with internalState := .step1 } = some source.path := by
  unfold genericFile
  dsimp only
  rw [h.source, h.hamming]
  cases source <;> rfl

/-- The file and the engine behind its preparation in the first call. -/
theorem HammingStart.prepare {source : HammingSource} {card : Card} {fs : FsEnv}
    {e e₁ : ImageCopyingEngine} {file : FFile} (h : HammingStart source e)
    (hprep : prepareGenericFileInformation .iobc card fs { e with internalState := .step1 } =
      (.ok file, e₁)) :
    file = ⟨fileBytes card source.path, 0⟩ ∧ e₁ = { e with
      internalState := .step1, currentFileSize := (fileBytes card source.path).length } := by
  obtain ⟨path, hpath, he, hfile⟩ := prepareGenericFileInformation_ok hprep
  rw [h.genericFile_eq] at hpath
  obtain rfl := Option.some.inj hpath
  have he' : e₁ = { e with
      internalState := .step1, currentFileSize := (fileBytes card source.path).length } := by
    rw [he]
    exact if_pos h.step
  refine ⟨?_, he'⟩
  rw [hfile, he']
  exact congrArg _ h.idx

/-- The copy loop of a file of one bucket either fails or copies the file. -/
theorem hammingLoop_single {slot : SlotType} {xs : List UInt8} {ps : List HammingPass}
    {s : HammingLoop} {fl : Flow ReturnValue HammingLoop}
    (hslot : determineHamCodeAddress slot ≠ 0) (hbucket : xs.length ≤ imgBufferSize)
    (hfits : xs.length ≤ hamCodeReservedSize slot) (h : SingleBucket slot xs s.2.fram s)
    (hloop : whileLoop hammingMore (hammingPass slot) ps s = some fl) :
    (∀ s', fl = .next s' → s'.2.fram = store s.2.fram (determineHamCodeAddress slot) xs) ∧
      ∀ r s', fl = .ret r s' → r = .returnFailed := by
  obtain ⟨hnext, hret⟩ := whileLoop_induct hammingMore (hammingPass slot)
    (I := SingleBucket slot xs s.2.fram) (Q := fun r _ => r = .returnFailed)
    (fun _ _ s' hI hc _ hb =>
      (hammingPass_single hI (of_decide_eq_true hc) hslot hbucket hfits).1 s' hb)
    (fun _ _ r s' hI hc _ hb =>
      (hammingPass_single hI (of_decide_eq_true hc) hslot hbucket hfits).2 r s' hb)
    ps s h (along_true ps s)
  refine ⟨fun s' heq => ?_, fun r s' heq => hret r s' (by rw [hloop, heq])⟩
  obtain ⟨hend, hc⟩ := hnext s' (by rw [hloop, heq])
  have hge := of_decide_eq_false hc
  rw [hend.size] at hge
  rcases hend.copied with ⟨hidx, hfram⟩ | ⟨_, hfram⟩
  · -- an empty file
    have hnil : xs = [] := List.eq_nil_of_length_eq_zero (by omega)
    rw [hfram, hnil, store_nil]
  · exact hfram

/-- **The first call on a file of one bucket** ends the operation, and if it is finished, the file is
    stored. A file that is too large is rejected. -/
theorem copyImgHammingSdcToFram_single {source : HammingSource} {card : Card} {call : HammingCall}
    {s s' : HammingState} {r : ReturnValue} {e : ImageCopyingEngine}
    (hlen : (fileBytes card source.path).length ≤ imgBufferSize ∨
      imagesHammingReservedSize < (fileBytes card source.path).length)
    (hengine : s.engine = startHammingCopy source e)
    (h : copyImgHammingSdcToFram card call s = some (r, s')) :
    r ≠ .taskPeriodOverSoon ∧ (r = .operationFinished →
      HammingStored (hammingFramSlot call.activeVolume source.slot) (fileBytes card source.path)
        s.fram s'.fram) := by
  have hstart : HammingStart source s.engine := hengine ▸ startHammingCopy_start source e
  obtain ⟨haddr, hsizeAddr, hreserved⟩ := hammingFramSlot_spec call.activeVolume source
  unfold copyImgHammingSdcToFram at h
  dsimp only at h
  rw [if_pos hstart.internal, if_pos rfl] at h
  -- a call that returns before the loop finishes nothing
  by_cases hchange : call.sdCardChangeOngoing = true
  · rw [if_pos hchange] at h
    obtain ⟨rfl, _⟩ := Prod.mk.inj (Option.some.inj h)
    exact ⟨by decide, fun hno => by cases hno⟩
  · rw [if_neg hchange] at h
    rcases hprep : prepareGenericFileInformation .iobc card call.fs
      { s.engine with internalState := .step1 } with ⟨res, e₁⟩
    rw [hprep] at h
    cases res with
    | error r₁ =>
        obtain ⟨rfl, _⟩ := Prod.mk.inj (Option.some.inj h)
        rcases prepareGenericFileInformation_error hprep with rfl | rfl <;>
          exact ⟨by decide, fun hno => by cases hno⟩
    | ok file =>
        obtain ⟨rfl, rfl⟩ := hstart.prepare hprep
        dsimp only at h
        rcases hlen with hbucket | hlarge
        swap
        · rw [if_pos ⟨hstart.step, hlarge⟩] at h
          obtain ⟨rfl, _⟩ := Prod.mk.inj (Option.some.inj h)
          exact ⟨by decide, fun hno => by cases hno⟩
        have hfits : (fileBytes card source.path).length ≤
            hamCodeReservedSize (hammingFramSlot call.activeVolume source.slot) :=
          hreserved ▸ hbucket.trans (by decide)
        rw [if_neg (fun hno => Nat.not_lt.mpr (hreserved ▸ hfits) hno.2), if_pos hstart.step,
          hstart.source] at h
        -- the size is written first, then the code in the one pass that a small file needs
        have hsized := framWriteHamSize_ok call.writeSize s.fram
          (fileBytes card source.path).length hsizeAddr
        generalize framWriteHamSize call.writeSize s.fram
          (hammingFramSlot call.activeVolume source.slot) (fileBytes card source.path).length =
            sized at hsized h
        by_cases hfailed : sized.1 ≠ 0
        · rw [if_pos hfailed] at h
          obtain ⟨rfl, _⟩ := Prod.mk.inj (Option.some.inj h)
          exact ⟨by decide, fun hno => by cases hno⟩
        · rw [if_neg hfailed] at h
          split at h
          · cases h
          · rename_i r₁ s₁ hloop
            obtain ⟨rfl, _⟩ := Prod.mk.inj (Option.some.inj h)
            obtain rfl := (hammingLoop_single haddr hbucket hfits
              ⟨rfl, hstart.idx.symm, rfl, .inl ⟨hstart.idx, rfl⟩⟩ hloop).2 _ _ rfl
            exact ⟨by decide, fun hno => by cases hno⟩
          · rename_i s₁ hloop
            obtain ⟨rfl, rfl⟩ := Prod.mk.inj (Option.some.inj h)
            refine ⟨by decide, fun _ => ?_⟩
            have hfram := (hammingLoop_single haddr hbucket hfits
              ⟨rfl, hstart.idx.symm, rfl, .inl ⟨hstart.idx, rfl⟩⟩ hloop).1 _ rfl
            rw [hfram, hsized (not_not.mp hfailed)]
            exact hammingStored haddr hfits (lt_of_le_of_lt hbucket (by decide))

/-- A file of at most one bucket is copied correctly, and one that is too large is not copied. -/
theorem hammingCopyCorrect_single {source : HammingSource} {card : Card}
    (hlen : (fileBytes card source.path).length ≤ imgBufferSize ∨
      imagesHammingReservedSize < (fileBytes card source.path).length) :
    HammingCopyCorrect source card := by
  intro earlier call s s₁ s' e hengine hearlier h
  cases earlier with
  | nil =>
      obtain rfl : s = s₁ := by simpa [passes] using hearlier
      exact (copyImgHammingSdcToFram_single hlen hengine h).2 rfl
  | cons first rest =>
      -- no call is to be continued, so there is no earlier one
      unfold passes hammingCall at hearlier
      rcases hfirst : copyImgHammingSdcToFram card first s with _ | ⟨r, s₂⟩
      · simp [hfirst] at hearlier
      · have hne := (copyImgHammingSdcToFram_single hlen hengine hfirst).1
        rw [hfirst] at hearlier
        cases r <;> first | exact absurd rfl hne | simp at hearlier

/-! ## Longer files -/

def quietHammingPass : HammingPass := ⟨imgBufferSize, .done, false⟩

/-- One undisturbed call with two passes. -/
def quietHammingCall : HammingCall where
  sdCardChangeOngoing := false
  activeVolume := .sdCard0
  fs := quietFs
  writeSize := .done
  passes := [quietHammingPass, quietHammingPass]

theorem hammingSizeToRead_le (e : ImageCopyingEngine) : hammingSizeToRead e ≤ imgBufferSize := by
  unfold hammingSizeToRead
  split_ifs <;> omega

/-- The next bucket of the file. -/
def hammingChunk (s : HammingLoop) : List UInt8 :=
  (s.1.bytes.drop s.1.pos).take (hammingSizeToRead s.2.engine)

/-- The state behind an undisturbed pass: the buffer, from the running offset on, has been written to
    the start of the region. -/
def hammingWritten (slot : SlotType) (s : HammingLoop) : HammingLoop :=
  (⟨s.1.bytes, s.1.pos + hammingSizeToRead s.2.engine⟩,
    { engine := { s.2.engine with
        imgBuffer := store s.2.engine.imgBuffer 0 (hammingChunk s)
        currentByteIdx := s.2.engine.currentByteIdx + hammingSizeToRead s.2.engine }
      fram := store s.2.fram (determineHamCodeAddress slot)
        (load (store s.2.engine.imgBuffer 0 (hammingChunk s)) s.2.engine.currentByteIdx
          (hammingSizeToRead s.2.engine)) })

theorem hammingPass_quiet {slot : SlotType} {s : HammingLoop}
    (hslot : determineHamCodeAddress slot ≠ 0) (hfits : imgBufferSize ≤ hamCodeReservedSize slot)
    (hpos : s.1.pos + hammingSizeToRead s.2.engine ≤ s.1.bytes.length) :
    hammingPass slot quietHammingPass s = some (.next (hammingWritten slot s)) := by
  have hle := hammingSizeToRead_le s.2.engine
  have hlen : (fRead s.1 (hammingSizeToRead s.2.engine) quietHammingPass.readGot).1.length =
      hammingSizeToRead s.2.engine := fRead_length hle hpos
  have hbytes := fRead_complete hlen.ge
  unfold hammingPass
  dsimp only
  rw [if_neg (not_not.mpr hlen), fRead_file, hlen, hbytes,
    framWriteHamCode_eq _ _ _ _ hslot (hle.trans hfits), if_neg (fun hno => hno rfl),
    if_neg (fun hno => by cases hno.2)]
  rfl

/-- Behind two undisturbed passes the region starts with the memory behind the image buffer. -/
theorem hammingLoop_long {slot : SlotType} {s : HammingLoop} {behind : UInt8}
    (hslot : determineHamCodeAddress slot ≠ 0) (hfits : imgBufferSize ≤ hamCodeReservedSize slot)
    (hsize : s.2.engine.currentFileSize = s.1.bytes.length) (hidx : s.2.engine.currentByteIdx = 0)
    (hpos : s.1.pos = 0) (hlong : imgBufferSize < s.1.bytes.length)
    (hle : s.1.bytes.length ≤ 2 * imgBufferSize)
    (hbuffer : ∀ i, imgBufferSize ≤ i → s.2.engine.imgBuffer i = behind) :
    ∃ s', whileLoop hammingMore (hammingPass slot) [quietHammingPass, quietHammingPass] s =
        some (.next s') ∧ s'.2.fram (determineHamCodeAddress slot) = behind := by
  have hk₁ : hammingSizeToRead s.2.engine = imgBufferSize := by
    unfold hammingSizeToRead
    rw [hsize, hidx, if_pos (by omega)]
  have hidx₁ : (hammingWritten slot s).2.engine.currentByteIdx = imgBufferSize := by
    show s.2.engine.currentByteIdx + hammingSizeToRead s.2.engine = _
    rw [hidx, hk₁, Nat.zero_add]
  have hk₂ : hammingSizeToRead (hammingWritten slot s).2.engine =
      s.1.bytes.length - imgBufferSize := by
    unfold hammingSizeToRead
    rw [hidx₁, show (hammingWritten slot s).2.engine.currentFileSize = s.1.bytes.length from hsize,
      if_neg (by omega)]
  have hpass₁ := hammingPass_quiet (s := s) hslot hfits (by omega)
  have hpass₂ := hammingPass_quiet (s := hammingWritten slot s) hslot hfits (by
    show s.1.pos + hammingSizeToRead s.2.engine + _ ≤ s.1.bytes.length
    omega)
  refine ⟨hammingWritten slot (hammingWritten slot s), ?_, ?_⟩
  · have hmore₁ : hammingMore s = true := decide_eq_true (by omega)
    have hmore₂ : hammingMore (hammingWritten slot s) = true := by
      apply decide_eq_true
      rw [hidx₁]
      exact hlong.trans_eq hsize.symm
    have hend : hammingMore (hammingWritten slot (hammingWritten slot s)) = false := by
      refine decide_eq_false (Nat.not_lt.mpr ?_)
      show s.2.engine.currentFileSize ≤ (hammingWritten slot s).2.engine.currentByteIdx +
        hammingSizeToRead (hammingWritten slot s).2.engine
      omega
    rw [whileLoop_next hmore₁ hpass₁, whileLoop_next hmore₂ hpass₂, whileLoop_exit hend]
  · -- the cell behind the buffer has not been read into
    have hbehind : ∀ t : HammingLoop, (hammingChunk t).length ≤ imgBufferSize := fun t =>
      (List.length_take_le _ _).trans (hammingSizeToRead_le _)
    show store (hammingWritten slot s).2.fram (determineHamCodeAddress slot)
      (load (store (hammingWritten slot s).2.engine.imgBuffer 0 (hammingChunk (hammingWritten slot s)))
        (hammingWritten slot s).2.engine.currentByteIdx
        (hammingSizeToRead (hammingWritten slot s).2.engine)) (determineHamCodeAddress slot + 0) = behind
    rw [store_at (by rw [load_length]; omega), load_getElem, hidx₁, Nat.add_zero,
      store_frame (.inr (by have := hbehind (hammingWritten slot s); omega))]
    show store s.2.engine.imgBuffer 0 (hammingChunk s) imgBufferSize = behind
    rw [store_frame (.inr (by have := hbehind s; omega))]
    exact hbuffer _ le_rfl

/-- An operation started with the memory `behind` behind the image buffer. -/
def longCopyState (source : HammingSource) (behind : UInt8) : HammingState where
  engine := startHammingCopy source { initial with imgBuffer := fun _ => behind }
  fram := fun _ => 0

/-- **A second bucket is misplaced.** An undisturbed copy of a file of two buckets leaves the memory
    behind the image buffer at the start of the region. -/
theorem hammingCopy_misplaces {source : HammingSource} {card : Card} (behind : UInt8)
    (hlong : imgBufferSize < (fileBytes card source.path).length)
    (hle : (fileBytes card source.path).length ≤ imagesHammingReservedSize) :
    ∃ s', copyImgHammingSdcToFram card quietHammingCall (longCopyState source behind) =
        some (.operationFinished, s') ∧
      s'.fram (determineHamCodeAddress (hammingFramSlot .sdCard0 source.slot)) = behind := by
  obtain ⟨haddr, hsizeAddr, hreserved⟩ := hammingFramSlot_spec .sdCard0 source
  have himg : imgBufferSize = 8192 := rfl
  have hmax : imagesHammingReservedSize = 10752 := rfl
  have hstart : HammingStart source (longCopyState source behind).engine :=
    startHammingCopy_start source _
  have hbuffer : ∀ i, imgBufferSize ≤ i → (longCopyState source behind).engine.imgBuffer i = behind := by
    intro i _
    cases source <;> rfl
  have hprep := prepareGenericFileInformation_quiet card hstart.genericFile_eq (by omega)
  rw [cacheFileSize, if_pos hstart.step] at hprep
  generalize longCopyState source behind = s at hstart hbuffer hprep ⊢
  obtain ⟨s', hloop, hfram⟩ := hammingLoop_long (s := (⟨fileBytes card source.path,
      s.engine.currentByteIdx⟩,
      ⟨{ s.engine with internalState := .step1, currentFileSize := fFilelength card source.path },
        store s.fram (determineHamSizeAddress (hammingFramSlot .sdCard0 source.slot))
          (toLE 4 (fFilelength card source.path))⟩))
    haddr (by omega) rfl hstart.idx hstart.idx hlong
    (show (fileBytes card source.path).length ≤ _ by omega) hbuffer
  refine ⟨{ s'.2 with engine := s'.2.engine.reset }, ?_, hfram⟩
  unfold copyImgHammingSdcToFram
  dsimp only
  rw [if_pos hstart.internal, if_pos rfl,
    if_neg (show ¬ quietHammingCall.sdCardChangeOngoing = true from Bool.false_ne_true),
    show quietHammingCall.fs = quietFs from rfl, hprep]
  dsimp only
  have hslot : hammingFramSlot quietHammingCall.activeVolume s.engine.sourceSlot =
      hammingFramSlot .sdCard0 source.slot := congrArg _ hstart.source
  have hsized : framWriteHamSize quietHammingCall.writeSize s.fram
      (hammingFramSlot .sdCard0 source.slot) (fFilelength card source.path) =
        (0, store s.fram (determineHamSizeAddress (hammingFramSlot .sdCard0 source.slot))
          (toLE 4 (fFilelength card source.path))) := if_neg hsizeAddr
  rw [if_neg (fun hno => Nat.not_lt.mpr hle hno.2), if_pos hstart.step, hslot, hsized,
    if_neg (not_not.mpr rfl), show quietHammingCall.passes = [quietHammingPass, quietHammingPass] from
      rfl]
  dsimp only at hloop ⊢
  rw [hloop]

theorem not_hammingCopyCorrect {source : HammingSource} {card : Card}
    (hlong : imgBufferSize < (fileBytes card source.path).length)
    (hle : (fileBytes card source.path).length ≤ imagesHammingReservedSize) :
    ¬ HammingCopyCorrect source card := by
  intro hcorrect
  have hpos : 0 < (fileBytes card source.path).length := by omega
  obtain ⟨s', hrun, hfram⟩ := hammingCopy_misplaces ((fileBytes card source.path)[0] + 1) hlong hle
  have hstored := hcorrect [] quietHammingCall _ _ s' _ rfl rfl hrun
  have hcell := (holds_iff.mp hstored.code 0 hpos).symm.trans hfram
  exact absurd hcell.symm (by simp)

/-- **Copy of a hamming code.** Every finished run has stored the file, its size and nothing else in
    the regions exactly if the file fits in the image buffer, or is too large and rejected. -/
theorem hammingCopyCorrect_iff (source : HammingSource) (card : Card) :
    HammingCopyCorrect source card ↔ (fileBytes card source.path).length ≤ imgBufferSize ∨
      imagesHammingReservedSize < (fileBytes card source.path).length := by
  refine ⟨fun h => ?_, hammingCopyCorrect_single⟩
  by_contra hno
  exact not_hammingCopyCorrect (by omega) (by omega) h

/-- A hamming code of two buckets, the second one of a single byte. -/
def twoBucketCode : SdFile where
  bytes := List.replicate imgBufferSize 0 ++ [1]
  length_lt := by
    rw [List.length_append, List.length_replicate]
    decide

/-- It is not stored at the start of the region of its slot. -/
theorem hammingCopy_fails_on_two_buckets :
    ¬ HammingCopyCorrect .sdcSlot0 (cardWith HammingSource.sdcSlot0.path twoBucketCode) := by
  have hlen : twoBucketCode.bytes.length = imgBufferSize + 1 := by simp [twoBucketCode]
  apply not_hammingCopyCorrect
  · rw [fileBytes_cardWith, hlen]
    exact Nat.lt_succ_self _
  · rw [fileBytes_cardWith, hlen]
    decide

end Engine
end Obsw
