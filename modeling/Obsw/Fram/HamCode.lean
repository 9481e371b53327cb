import Obsw.Fram.Accessors
import Obsw.Fram.NoOs

/-!
# `Fram.HamCode` — reading a hamming code in pieces

`fram_read_ham_code` of the on-board software and the two variants of the bootloader read a part of the
hamming code of a slot to an offset of a buffer. The offset is added to the buffer but not to the
address, and the capacity of the buffer is compared with the size alone (`hamCode_read_iff`). In the
bootloader the clamped size is checked, and the size that was asked for is what the transfer is made of
(`noOs_reads_safe_iff`).
-/

namespace Obsw
namespace HamCode

open Memory Device Fram FramNoOs

/-! ## `FRAMApi.c` -/

/-- What `fram_read_ham_code` hands back: the buffer, and the size and the range that were read. -/
structure HamReading where
  retval : Int
  buffer : Mem UInt8
  read : Option Transfer

/-- The size to read; 0 stands for the stored size of the code. -/
def requestedSize (sizeOutcome : WriteOutcome UInt8) (fram : Mem UInt8) (slotType : SlotType)
    (sizeToRead : Nat) : Except Int Nat :=
  if sizeToRead = 0 then
    let reading := framReadHamSize .done sizeOutcome fram (fun _ => 0) slotType (some fun _ => 0) none
    if reading.retval ≠ 0 then .error reading.retval
    else .ok (varValue 4 (reading.out.1.getD fun _ => 0))
  else .ok sizeToRead

/-- `fram_read_ham_code`. `buffer` is the memory from the caller's buffer pointer on. -/
def framReadHamCode (sizeOutcome outcome : WriteOutcome UInt8) (fram : Mem UInt8) (slotType : SlotType)
    (buffer : Mem UInt8) (maxBuffer currentOffset sizeToRead : Nat) : HamReading :=
  if determineHamCodeAddress slotType = 0 then ⟨-4, buffer, none⟩
  else
    match requestedSize sizeOutcome fram slotType sizeToRead with
    | .error code => ⟨code, buffer, none⟩
    | .ok size =>
      let clamped := clampHamSize slotType currentOffset size
      if maxBuffer < clamped then ⟨-5, buffer, none⟩
      else
        -- the offset is one into the buffer; the region is read from its start
        ⟨outcome.retval,
          outcome.apply (fun _ new => new) buffer currentOffset
            (load fram (determineHamCodeAddress slotType) clamped),
          if outcome.retval = 0 then
            some ⟨⟨determineHamCodeAddress slotType, clamped⟩, maxBuffer⟩ else none⟩

/-! ## `FRAMApiNoOs.c` -/

/-- A transfer into the buffer. -/
structure HamTransfer where
  offset : Nat
  address : Nat
  len : Nat

/-- `fram_no_os_read_ham_code`: the transfer that is started. -/
def framNoOsReadHamCode (d : Driver) (slotType : SlotType) (maxBuffer currentOffset sizeToRead : UInt32) :
    Int × Option HamTransfer :=
  match framNoOsReadHamChecks slotType maxBuffer.toNat currentOffset.toNat sizeToRead.toNat with
  | .error code => (code, none)
  | .ok address =>
    let read := framReadNoOs (.ofNat address) sizeToRead d
    (read.1, if read.1 = 0 then some ⟨currentOffset.toNat, address, dmaCount sizeToRead.toNat⟩ else none)

/-- The transfer of `fram_no_os_blocking_read_ham_code`. -/
def framNoOsBlockingReadHamTransfer (slotType : SlotType) (maxBuffer currentOffset sizeToRead : UInt32) :
    Int × Option HamTransfer :=
  match framNoOsReadHamChecks slotType maxBuffer.toNat currentOffset.toNat sizeToRead.toNat with
  | .error code => (code, none)
  | .ok address => (0, some ⟨currentOffset.toNat, address, polledSize sizeToRead.toNat⟩)

theorem framNoOsBlockingReadHamCode_eq (fram buffer : Mem UInt8) (slotType : SlotType)
    (maxBuffer currentOffset sizeToRead : UInt32) :
    framNoOsBlockingReadHamCode fram slotType buffer maxBuffer.toNat currentOffset.toNat
        sizeToRead.toNat =
      ((framNoOsBlockingReadHamTransfer slotType maxBuffer currentOffset sizeToRead).1,
        match (framNoOsBlockingReadHamTransfer slotType maxBuffer currentOffset sizeToRead).2 with
        | none => buffer
        | some t => store buffer t.offset (load fram t.address t.len)) := by
  unfold framNoOsBlockingReadHamCode framNoOsBlockingReadHamTransfer
  cases framNoOsReadHamChecks slotType maxBuffer.toNat currentOffset.toNat sizeToRead.toNat <;> rfl

/-! ## What is promised -/

/-- `n` bytes of the code of a slot lie in the buffer, at the offset they have in the region. -/
structure ReadsHamCode (fram buffer after : Mem UInt8) (slotType : SlotType) (offset n : Nat) : Prop where
  content : ∀ i < n, after (offset + i) = fram (determineHamCodeAddress slotType + (offset + i))
  frame : ∀ j, j < offset ∨ offset + n ≤ j → after j = buffer j

/-- A successful call reads the code of its slot, within the buffer and within the region. -/
def HamCodeRead (sizeOutcome outcome : WriteOutcome UInt8) (fram : Mem UInt8) (slotType : SlotType)
    (buffer : Mem UInt8) (maxBuffer currentOffset sizeToRead : UInt32) : Prop :=
  ∀ reading, framReadHamCode sizeOutcome outcome fram slotType buffer maxBuffer.toNat
      currentOffset.toNat sizeToRead.toNat = reading → reading.retval = 0 →
    ∃ t, reading.read = some t ∧
      ReadsHamCode fram buffer reading.buffer slotType currentOffset.toNat t.source.size ∧
      currentOffset.toNat + t.source.size ≤ maxBuffer.toNat ∧
      determineHamCodeAddress slotType ≤ t.source.addr ∧
      t.source.next ≤ determineHamCodeAddress slotType + hamCodeReservedSize slotType

/-- The part of the code that is asked for fits behind the offset, and the region has the same bytes
    there as at its start. -/
def OffsetFits (fram : Mem UInt8) (slotType : SlotType) (maxBuffer currentOffset size : Nat) : Prop :=
  currentOffset + clampHamSize slotType currentOffset size ≤ maxBuffer ∧
    ∀ i < clampHamSize slotType currentOffset size,
      fram (determineHamCodeAddress slotType + i) =
        fram (determineHamCodeAddress slotType + (currentOffset + i))

/-- The call is refused or fails, or the offset fits. -/
def HamCodeFits (sizeOutcome outcome : WriteOutcome UInt8) (fram : Mem UInt8) (slotType : SlotType)
    (maxBuffer currentOffset sizeToRead : UInt32) : Prop :=
  determineHamCodeAddress slotType ≠ 0 → outcome = .done →
    ∀ size, requestedSize sizeOutcome fram slotType sizeToRead.toNat = .ok size →
      clampHamSize slotType currentOffset.toNat size ≤ maxBuffer.toNat →
        OffsetFits fram slotType maxBuffer.toNat currentOffset.toNat size

/-! ## One call -/

section

variable {fram buffer : Mem UInt8} {slotType : SlotType} {sizeOutcome outcome : WriteOutcome UInt8}
  {maxBuffer currentOffset sizeToRead : UInt32}

/-- What fits behind the offset of a buffer lies in the region. -/
theorem clampHamSize_inside {offset size : Nat} {capacity : UInt32}
    (hfits : offset + clampHamSize slotType offset size ≤ capacity.toNat) :
    offset + clampHamSize slotType offset size ≤ hamCodeReservedSize slotType := by
  have hcapacity := capacity.toNat_lt
  have hreserved : hamCodeReservedSize slotType < 2 ^ 32 := by cases slotType <;> decide
  unfold clampHamSize at hfits ⊢
  split at hfits <;> rename_i htest
  · rw [if_pos htest]
    omega
  · rw [if_neg htest]
    omega

theorem requestedSize_error {code : Int}
    (h : requestedSize sizeOutcome fram slotType sizeToRead.toNat = .error code) : code ≠ 0 := by
  unfold requestedSize at h
  split at h
  · dsimp only at h
    split at h
    · rename_i hne
      obtain rfl := Except.error.inj h
      exact hne
    · cases h
  · cases h

/-- The bytes a read leaves in the buffer are those of the code exactly if the region repeats itself. -/
theorem readsHamCode_store_iff {offset n : Nat} :
    ReadsHamCode fram buffer (store buffer offset (load fram (determineHamCodeAddress slotType) n))
        slotType offset n ↔
      ∀ i < n, fram (determineHamCodeAddress slotType + i) =
        fram (determineHamCodeAddress slotType + (offset + i)) := by
  have hat : ∀ i < n, store buffer offset (load fram (determineHamCodeAddress slotType) n) (offset + i) =
      fram (determineHamCodeAddress slotType + i) := by
    intro i hi
    rw [store_at (by rwa [load_length]), load_getElem]
  constructor
  · intro h i hi
    rw [← hat i hi, h.content i hi]
  · intro h
    refine ⟨fun i hi => (hat i hi).trans (h i hi), fun j hj => store_frame ?_⟩
    rwa [load_length]

/-- **Reading a piece.** A successful call reads the code of its slot at the offset exactly if the piece
    fits behind the offset, and the region has the same bytes there as at its start. -/
theorem hamCode_read_iff (sizeOutcome outcome : WriteOutcome UInt8) (fram : Mem UInt8)
    (slotType : SlotType) (buffer : Mem UInt8) (maxBuffer currentOffset sizeToRead : UInt32) :
    HamCodeRead sizeOutcome outcome fram slotType buffer maxBuffer currentOffset sizeToRead ↔
      HamCodeFits sizeOutcome outcome fram slotType maxBuffer currentOffset sizeToRead := by
  unfold HamCodeRead HamCodeFits
  simp only [forall_eq']
  unfold framReadHamCode
  by_cases haddress : determineHamCodeAddress slotType = 0
  · rw [if_pos haddress]
    exact iff_of_true (fun h => absurd h (show ¬ (-4 : Int) = 0 by decide)) fun h => absurd haddress h
  rw [if_neg haddress]
  cases hsize : requestedSize sizeOutcome fram slotType sizeToRead.toNat with
  | error code =>
      exact iff_of_true (fun h => absurd h (requestedSize_error hsize)) fun _ _ size h => by cases h
  | ok size =>
      dsimp only
      by_cases hcapacity : maxBuffer.toNat < clampHamSize slotType currentOffset.toNat size
      · rw [if_pos hcapacity]
        refine iff_of_true (fun h => absurd h (show ¬ (-5 : Int) = 0 by decide)) fun _ _ size' h hle => ?_
        obtain rfl := Except.ok.inj h
        exact absurd hcapacity (Nat.not_lt.mpr hle)
      rw [if_neg hcapacity]
      by_cases hdone : outcome = .done
      · subst hdone
        constructor
        · intro h _ _ size' hsame hle
          obtain rfl := Except.ok.inj hsame
          obtain ⟨t, ht, hreads, hfits, -⟩ := h rfl
          obtain rfl : ⟨⟨determineHamCodeAddress slotType,
            clampHamSize slotType currentOffset.toNat size⟩, maxBuffer.toNat⟩ = t := Option.some.inj ht
          exact ⟨hfits, readsHamCode_store_iff.mp hreads⟩
        · intro h _
          obtain ⟨hfits, hrepeats⟩ := h haddress rfl size rfl (Nat.not_lt.mp hcapacity)
          refine ⟨_, rfl, readsHamCode_store_iff.mpr hrepeats, hfits, Nat.le_refl _, ?_⟩
          have hinside := clampHamSize_inside hfits
          exact Nat.add_le_add_left (Nat.le_trans (Nat.le_add_left _ _) hinside) _
      · have hfailed : outcome.retval ≠ 0 := fun h => hdone (WriteOutcome.retval_eq_zero.mp h)
        exact iff_of_true (fun h => absurd h hfailed) fun _ h => absurd h hdone

end

/-- A region whose second byte differs from its first. -/
def unevenRegion : Mem UInt8 := fun i => if i = norFlashHammingAddr + 1 then 1 else 0

/-- A piece that does not start at the start is read from the start. -/
theorem second_byte_reads_first :
    ¬ ∀ (sizeOutcome outcome : WriteOutcome UInt8) (fram : Mem UInt8) (slotType : SlotType)
        (buffer : Mem UInt8) (maxBuffer currentOffset sizeToRead : UInt32),
      HamCodeRead sizeOutcome outcome fram slotType buffer maxBuffer currentOffset sizeToRead := by
  intro h
  obtain ⟨t, ht, hreads, -⟩ := h .done .done unevenRegion .flashSlot (fun _ => 0) 2 1 1 _ rfl rfl
  obtain rfl := Option.some.inj ht
  have hbyte := hreads.content 0 (by decide)
  revert hbyte
  decide

/-! ## The bootloader -/

/-- A transfer stays within what is left of the buffer and within the region of its slot. -/
structure HamTransfer.Safe (t : HamTransfer) (slotType : SlotType) (maxBuffer : Nat) : Prop where
  buffer : t.offset + t.len ≤ maxBuffer
  above : determineHamCodeAddress slotType ≤ t.address
  below : t.address + t.len ≤ determineHamCodeAddress slotType + hamCodeReservedSize slotType

/-- Whatever either variant transfers is safe. -/
def NoOsReadsSafe (d : Driver) (slotType : SlotType) (maxBuffer currentOffset sizeToRead : UInt32) : Prop :=
  (∀ t, (framNoOsReadHamCode d slotType maxBuffer currentOffset sizeToRead).2 = some t →
      t.Safe slotType maxBuffer.toNat) ∧
    ∀ t, (framNoOsBlockingReadHamTransfer slotType maxBuffer currentOffset sizeToRead).2 = some t →
      t.Safe slotType maxBuffer.toNat

/-- The checks pass: the slot has a region, and the clamped size does not exceed the capacity. -/
def ChecksPass (slotType : SlotType) (maxBuffer currentOffset sizeToRead : UInt32) : Prop :=
  determineHamCodeAddress slotType ≠ 0 ∧ sizeToRead ≠ 0 ∧
    clampHamSize slotType currentOffset.toNat sizeToRead.toNat ≤ maxBuffer.toNat

/-- The request is refused; or the size that was asked for fits the buffer behind the offset and the
    region; or it is one at which the loop of the polled variant ends at once, and the FRAM cannot be read
    by DMA. -/
def RequestFits (d : Driver) (slotType : SlotType) (maxBuffer currentOffset sizeToRead : UInt32) : Prop :=
  ChecksPass slotType maxBuffer currentOffset sizeToRead →
    (currentOffset.toNat + sizeToRead.toNat ≤ maxBuffer.toNat ∧
        sizeToRead.toNat ≤ hamCodeReservedSize slotType) ∨
      (2 ^ 32 - 4 ≤ sizeToRead.toNat ∧ currentOffset ≤ maxBuffer ∧
        ¬ (d.framStarted = true ∧ d.bus0AicConfigured = true))

section

variable {d : Driver} {slotType : SlotType} {maxBuffer currentOffset sizeToRead : UInt32}

/-- The checks let a request through with the address of its region. -/
theorem framNoOsReadHamChecks_ok_iff {address : Nat} :
    framNoOsReadHamChecks slotType maxBuffer.toNat currentOffset.toNat sizeToRead.toNat = .ok address ↔
      ChecksPass slotType maxBuffer currentOffset sizeToRead ∧ determineHamCodeAddress slotType = address := by
  have hzero : sizeToRead.toNat = 0 ↔ sizeToRead = 0 :=
    ⟨fun h => UInt32.toNat_inj.mp h, fun h => by rw [h]; rfl⟩
  unfold framNoOsReadHamChecks ChecksPass
  split
  · rename_i haddress
    exact iff_of_false (fun h => by cases h) fun h => h.1.1 haddress
  split
  · rename_i hsize
    exact iff_of_false (fun h => by cases h) fun h => h.1.2.1 (hzero.mp hsize)
  split
  · rename_i hcapacity
    exact iff_of_false (fun h => by cases h) fun h => absurd h.1.2.2 (Nat.not_le.mpr hcapacity)
  · rename_i haddress hsize hcapacity
    constructor
    · intro h
      exact ⟨⟨haddress, fun hs => hsize (hzero.mpr hs), Nat.not_lt.mp hcapacity⟩, Except.ok.inj h⟩
    · intro h
      rw [h.2]

theorem ChecksPass.of_not_error {code : Int} (h : ChecksPass slotType maxBuffer currentOffset sizeToRead) :
    framNoOsReadHamChecks slotType maxBuffer.toNat currentOffset.toNat sizeToRead.toNat ≠ .error code := by
  intro herror
  cases herror.symm.trans (framNoOsReadHamChecks_ok_iff.mpr ⟨h, rfl⟩)

/-- What the polled variant transfers. -/
theorem blockingTransfer_eq_some_iff {t : HamTransfer} :
    (framNoOsBlockingReadHamTransfer slotType maxBuffer currentOffset sizeToRead).2 = some t ↔
      ChecksPass slotType maxBuffer currentOffset sizeToRead ∧
      t = ⟨currentOffset.toNat, determineHamCodeAddress slotType, polledSize sizeToRead.toNat⟩ := by
  unfold framNoOsBlockingReadHamTransfer
  cases hchecks : framNoOsReadHamChecks slotType maxBuffer.toNat currentOffset.toNat sizeToRead.toNat with
  | error code => exact iff_of_false (fun h => by cases h) fun h => h.1.of_not_error hchecks
  | ok address =>
      obtain ⟨hpass, rfl⟩ := framNoOsReadHamChecks_ok_iff.mp hchecks
      exact ⟨fun h => ⟨hpass, (Option.some.inj h).symm⟩, fun h => by rw [h.2]⟩

/-- What the interrupt driven variant transfers. -/
theorem nonBlockingTransfer_eq_some_iff {t : HamTransfer} :
    (framNoOsReadHamCode d slotType maxBuffer currentOffset sizeToRead).2 = some t ↔
      (ChecksPass slotType maxBuffer currentOffset sizeToRead ∧
        (framReadNoOs (.ofNat (determineHamCodeAddress slotType)) sizeToRead d).1 = 0) ∧
      t = ⟨currentOffset.toNat, determineHamCodeAddress slotType, dmaCount sizeToRead.toNat⟩ := by
  unfold framNoOsReadHamCode
  cases hchecks : framNoOsReadHamChecks slotType maxBuffer.toNat currentOffset.toNat sizeToRead.toNat with
  | error code => exact iff_of_false (fun h => by cases h) fun h => h.1.1.of_not_error hchecks
  | ok address =>
      obtain ⟨hpass, rfl⟩ := framNoOsReadHamChecks_ok_iff.mp hchecks
      dsimp only
      by_cases hread : (framReadNoOs (.ofNat (determineHamCodeAddress slotType)) sizeToRead d).1 = 0
      · rw [if_pos hread]
        exact ⟨fun h => ⟨⟨hpass, hread⟩, (Option.some.inj h).symm⟩, fun h => by rw [h.2]⟩
      · rw [if_neg hread]
        exact iff_of_false (fun h => by cases h) fun h => hread h.1.2

theorem framReadNoOs_accepts_iff {address len : UInt32} :
    (framReadNoOs address len d).1 = 0 ↔
      (address + len).toNat ≤ framEndAddr ∧ d.framStarted = true ∧ d.bus0AicConfigured = true := by
  unfold framReadNoOs
  split_ifs with htest hspi
  · refine iff_of_false (show ¬ (-1 : Int) = 0 by decide) fun ⟨hrange, hflag, _⟩ => ?_
    rcases htest with htest | htest
    · exact absurd htest (Nat.not_lt.mpr hrange)
    · exact Bool.noConfusion (htest.symm.trans hflag)
  · refine iff_of_false hspi fun ⟨_, _, haic⟩ => hspi (if_neg ?_)
    simp [haic]
  · have hready : d.bus0AicConfigured = true := by
      cases haic : d.bus0AicConfigured with
      | true => rfl
      | false => simp [at91SpiNonBlockingTransfer, haic] at hspi
    obtain ⟨hrange, hflag⟩ := not_or.mp htest
    exact iff_of_true rfl ⟨Nat.not_lt.mp hrange, Bool.eq_true_of_not_eq_false hflag, hready⟩

/-- The sum of an address and a length at the end of the address space wraps, and the range test passes. -/
theorem range_wraps (hregion : determineHamCodeAddress slotType ≠ 0) (hwraps : 2 ^ 32 - 4 ≤ sizeToRead.toNat) :
    (UInt32.ofNat (determineHamCodeAddress slotType) + sizeToRead).toNat ≤ framEndAddr := by
  have haddress : 4 ≤ determineHamCodeAddress slotType ∧ determineHamCodeAddress slotType ≤ framEndAddr := by
    revert hregion
    cases slotType <;> decide
  have hend : framEndAddr < 2 ^ 32 := by decide
  have hlt := sizeToRead.toNat_lt
  rw [UInt32.toNat_add, UInt32.toNat_ofNat']
  omega

theorem hamCodeReservedSize_short (slotType : SlotType) : hamCodeReservedSize slotType < 2 ^ 16 - 4 := by
  cases slotType <;> decide

/-- **The bootloader's reads.** Both variants stay within the buffer and the region exactly if the
    request is refused, the size that was asked for fits without the clamp, or nothing is transferred. -/
theorem noOs_reads_safe_iff (d : Driver) (slotType : SlotType)
    (maxBuffer currentOffset sizeToRead : UInt32) :
    NoOsReadsSafe d slotType maxBuffer currentOffset sizeToRead ↔
      RequestFits d slotType maxBuffer currentOffset sizeToRead := by
  have hsize := sizeToRead.toNat_lt
  have hshort := hamCodeReservedSize_short slotType
  constructor
  · rintro ⟨hdma, hpolled⟩ hpass
    have hsafe := hpolled _ (blockingTransfer_eq_some_iff.mpr ⟨hpass, rfl⟩)
    have hbuffer : currentOffset.toNat + polledSize sizeToRead.toNat ≤ maxBuffer.toNat := hsafe.buffer
    have hregion : polledSize sizeToRead.toNat ≤ hamCodeReservedSize slotType :=
      Nat.le_of_add_le_add_left hsafe.below
    unfold polledSize at hbuffer hregion
    by_cases hwraps : sizeToRead.toNat < 2 ^ 32 - 4
    · exact .inl ⟨by omega, by omega⟩
    · refine .inr ⟨Nat.not_lt.mp hwraps, UInt32.le_iff_toNat_le.mpr (by omega), fun hready => ?_⟩
      -- the counter of the controller would be set to more than any region has
      have hread := framReadNoOs_accepts_iff.mpr ⟨range_wraps hpass.1 (Nat.not_lt.mp hwraps), hready⟩
      have hbelow := (hdma _ (nonBlockingTransfer_eq_some_iff.mpr ⟨⟨hpass, hread⟩, rfl⟩)).below
      have hcount : dmaCount sizeToRead.toNat ≤ hamCodeReservedSize slotType :=
        Nat.le_of_add_le_add_left hbelow
      unfold dmaCount at hcount
      omega
  · intro h
    constructor
    · intro t ht
      obtain ⟨⟨hpass, hread⟩, rfl⟩ := nonBlockingTransfer_eq_some_iff.mp ht
      rcases h hpass with ⟨hbuffer, hregion⟩ | ⟨-, -, hnot⟩
      · have hcount : dmaCount sizeToRead.toNat = sizeToRead.toNat := dmaCount_eq_iff.mpr (by omega)
        exact ⟨by rwa [hcount], Nat.le_refl _, by rw [hcount]; exact Nat.add_le_add_left hregion _⟩
      · exact absurd (framReadNoOs_accepts_iff.mp hread).2 hnot
    · intro t ht
      obtain ⟨hpass, rfl⟩ := blockingTransfer_eq_some_iff.mp ht
      have hfits : currentOffset.toNat + polledSize sizeToRead.toNat ≤ maxBuffer.toNat ∧
          polledSize sizeToRead.toNat ≤ hamCodeReservedSize slotType := by
        unfold polledSize
        rcases h hpass with ⟨hbuffer, hregion⟩ | ⟨hwraps, hoffset, -⟩
        · omega
        · have hle := UInt32.le_iff_toNat_le.mp hoffset
          omega
      exact ⟨hfits.1, Nat.le_refl _, Nat.add_le_add_left hfits.2 _⟩

end

/-- A stored size of one byte more than the region is clamped for the checks, and transferred. -/
theorem clamp_misses_transfer :
    ¬ ∀ (d : Driver) (slotType : SlotType) (maxBuffer currentOffset sizeToRead : UInt32),
      NoOsReadsSafe d slotType maxBuffer currentOffset sizeToRead := by
  intro h
  have hsafe := (h ⟨true, true, true, true⟩ .flashSlot 0x2A00 0 0x2A01).2 _ rfl
  exact absurd hsafe.buffer (by decide)

end HamCode
end Obsw
