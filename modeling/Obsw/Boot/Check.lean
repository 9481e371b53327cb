import Obsw.Config
import Obsw.Lib.Crc
import Obsw.Lib.LittleEndian

/-!
# `Boot.Check` — the bootloader checks itself

`perform_bootloader_check` of `main_norflash.c` reads the size and the CRC stored at the end of the
space reserved for the bootloader and compares the CRC with the one it computes over that many bytes
(`CRC.c`). On a mismatch it copies the primary image to the SDRAM and jumps there. The table of `CRC.c` is
shown to compute the bitwise CRC-16 (`crc16ccitt_bitwise`).
-/

namespace Obsw
namespace Boot

open Memory LittleEndian

/-! ## `CRC.c` -/

def crc16ccittTable : Array UInt16 := #[
    0x0000, 0x1021, 0x2042, 0x3063, 0x4084, 0x50a5, 0x60c6, 0x70e7,
    0x8108, 0x9129, 0xa14a, 0xb16b, 0xc18c, 0xd1ad, 0xe1ce, 0xf1ef,
    0x1231, 0x0210, 0x3273, 0x2252, 0x52b5, 0x4294, 0x72f7, 0x62d6,
    0x9339, 0x8318, 0xb37b, 0xa35a, 0xd3bd, 0xc39c, 0xf3ff, 0xe3de,
    0x2462, 0x3443, 0x0420, 0x1401, 0x64e6, 0x74c7, 0x44a4, 0x5485,
    0xa56a, 0xb54b, 0x8528, 0x9509, 0xe5ee, 0xf5cf, 0xc5ac, 0xd58d,
    0x3653, 0x2672, 0x1611, 0x0630, 0x76d7, 0x66f6, 0x5695, 0x46b4,
    0xb75b, 0xa77a, 0x9719, 0x8738, 0xf7df, 0xe7fe, 0xd79d, 0xc7bc,
    0x48c4, 0x58e5, 0x6886, 0x78a7, 0x0840, 0x1861, 0x2802, 0x3823,
    0xc9cc, 0xd9ed, 0xe98e, 0xf9af, 0x8948, 0x9969, 0xa90a, 0xb92b,
    0x5af5, 0x4ad4, 0x7ab7, 0x6a96, 0x1a71, 0x0a50, 0x3a33, 0x2a12,
    0xdbfd, 0xcbdc, 0xfbbf, 0xeb9e, 0x9b79, 0x8b58, 0xbb3b, 0xab1a,
    0x6ca6, 0x7c87, 0x4ce4, 0x5cc5, 0x2c22, 0x3c03, 0x0c60, 0x1c41,
    0xedae, 0xfd8f, 0xcdec, 0xddcd, 0xad2a, 0xbd0b, 0x8d68, 0x9d49,
    0x7e97, 0x6eb6, 0x5ed5, 0x4ef4, 0x3e13, 0x2e32, 0x1e51, 0x0e70,
    0xff9f, 0xefbe, 0xdfdd, 0xcffc, 0xbf1b, 0xaf3a, 0x9f59, 0x8f78,
    0x9188, 0x81a9, 0xb1ca, 0xa1eb, 0xd10c, 0xc12d, 0xf14e, 0xe16f,
    0x1080, 0x00a1, 0x30c2, 0x20e3, 0x5004, 0x4025, 0x7046, 0x6067,
    0x83b9, 0x9398, 0xa3fb, 0xb3da, 0xc33d, 0xd31c, 0xe37f, 0xf35e,
    0x02b1, 0x1290, 0x22f3, 0x32d2, 0x4235, 0x5214, 0x6277, 0x7256,
    0xb5ea, 0xa5cb, 0x95a8, 0x8589, 0xf56e, 0xe54f, 0xd52c, 0xc50d,
    0x34e2, 0x24c3, 0x14a0, 0x0481, 0x7466, 0x6447, 0x5424, 0x4405,
    0xa7db, 0xb7fa, 0x8799, 0x97b8, 0xe75f, 0xf77e, 0xc71d, 0xd73c,
    0x26d3, 0x36f2, 0x0691, 0x16b0, 0x6657, 0x7676, 0x4615, 0x5634,
    0xd94c, 0xc96d, 0xf90e, 0xe92f, 0x99c8, 0x89e9, 0xb98a, 0xa9ab,
    0x5844, 0x4865, 0x7806, 0x6827, 0x18c0, 0x08e1, 0x3882, 0x28a3,
    0xcb7d, 0xdb5c, 0xeb3f, 0xfb1e, 0x8bf9, 0x9bd8, 0xabbb, 0xbb9a,
    0x4a75, 0x5a54, 0x6a37, 0x7a16, 0x0af1, 0x1ad0, 0x2ab3, 0x3a92,
    0xfd2e, 0xed0f, 0xdd6c, 0xcd4d, 0xbdaa, 0xad8b, 0x9de8, 0x8dc9,
    0x7c26, 0x6c07, 0x5c64, 0x4c45, 0x3ca2, 0x2c83, 0x1ce0, 0x0cc1,
    0xef1f, 0xff3e, 0xcf5d, 0xdf7c, 0xaf9b, 0xbfba, 0x8fd9, 0x9ff8,
    0x6e17, 0x7e36, 0x4e55, 0x5e74, 0x2e93, 0x3eb2, 0x0ed1, 0x1ef0]

/-- One pass of the loop of `crc16ccitt`. -/
def crc16ccittByte (crc : UInt16) (data : UInt8) : UInt16 :=
  crc16ccittTable.getD (((crc >>> 8) ^^^ data.toUInt16) &&& 0xff).toNat 0 ^^^ (crc <<< 8)

/-- `crc16ccitt`. -/
def crc16ccitt (input : List UInt8) (startingCrc : UInt16) : UInt16 :=
  input.foldl crc16ccittByte startingCrc

/-- `crc16ccitt_default_start_crc`. -/
def crc16ccittDefaultStartCrc (input : List UInt8) : UInt16 := crc16ccitt input 0xffff

/-! ## The table and the bits -/

/-- The polynomial of the CRC-16, without its highest bit. -/
def crc16Polynomial : BitVec 16 := 0x1021#16

/-- The bits of a message, most significant bit of each byte first. -/
def byteBits (data : UInt8) : List Bool := Crc.topBits 8 data.toBitVec

def messageBits (input : List UInt8) : List Bool := input.flatMap byteBits

/-- Every entry of the table is what its index does to the zero register. -/
theorem crc16ccittTable_eq (index : UInt8) :
    (crc16ccittTable.getD index.toNat 0).toBitVec =
      Crc.remainder crc16Polynomial 0#16 (byteBits index) := by
  have htable : crc16ccittTable.toList.map UInt16.toBitVec = (List.range 256).map fun i =>
      Crc.remainder crc16Polynomial 0#16 (Crc.topBits 8 (BitVec.ofNat 8 i)) := by
    decide +kernel
  have hentry := congrArg (fun entries => entries[index.toNat]?) htable
  rw [List.getElem?_map, List.getElem?_map, List.getElem?_range index.toNat_lt, Option.map_some,
    Array.getElem?_toList, show BitVec.ofNat 8 index.toNat = index.toBitVec by simp] at hentry
  obtain ⟨entry, hget, hremainder⟩ := Option.map_eq_some_iff.mp hentry
  rw [Array.getD_eq_getD_getElem?, hget, Option.getD_some, hremainder]
  rfl

/-- The index of a pass: the byte, and the upper byte of the CRC. -/
theorem index_toNat (crc : UInt16) (data : UInt8) :
    (((crc >>> 8) ^^^ data.toUInt16) &&& 0xff).toNat = ((crc >>> 8).toUInt8 ^^^ data).toNat := by
  have hmask : ∀ n : Nat, n &&& 255 = n % 2 ^ 8 := fun n => Nat.and_two_pow_sub_one_eq_mod n 8
  rw [UInt16.toNat_and, UInt16.toNat_xor, UInt8.toNat_xor, UInt16.toNat_toUInt8, UInt8.toNat_toUInt16,
    show (0xff : UInt16).toNat = 255 by rfl, hmask, Nat.xor_mod_two_pow, Nat.mod_eq_of_lt data.toNat_lt]

theorem byteBits_index (crc : UInt16) (data : UInt8) :
    List.zipWith xor (Crc.topBits 8 crc.toBitVec) (byteBits data) =
      byteBits ((crc >>> 8).toUInt8 ^^^ data) := by
  refine Crc.zipWith_topBits fun i hi => ?_
  have hshift : (crc >>> 8).toBitVec = crc.toBitVec >>> 8 := rfl
  rw [UInt8.toBitVec_xor, BitVec.getMsbD_xor, UInt16.toBitVec_toUInt8, BitVec.getMsbD_setWidth, hshift,
    BitVec.getMsbD_ushiftRight]
  simp
  omega

/-- One pass takes the eight bits of its byte. -/
theorem crc16ccittByte_bits (crc : UInt16) (data : UInt8) :
    (crc16ccittByte crc data).toBitVec =
      Crc.remainder crc16Polynomial crc.toBitVec (byteBits data) := by
  rw [Crc.remainder_eq_table, show (byteBits data).length = 8 from Crc.topBits_length _ _,
    byteBits_index, ← crc16ccittTable_eq, ← index_toNat]
  rfl

theorem crc16ccitt_bits (input : List UInt8) (startingCrc : UInt16) :
    (crc16ccitt input startingCrc).toBitVec =
      Crc.remainder crc16Polynomial startingCrc.toBitVec (messageBits input) := by
  induction input generalizing startingCrc with
  | nil => rfl
  | cons data input ih =>
      have hbits : messageBits (data :: input) = byteBits data ++ messageBits input := rfl
      rw [hbits, Crc.remainder_append, ← crc16ccittByte_bits, ← ih]
      rfl

theorem crc16ccitt_append (a b : List UInt8) (startingCrc : UInt16) :
    crc16ccitt (a ++ b) startingCrc = crc16ccitt b (crc16ccitt a startingCrc) :=
  List.foldl_append

/-- The two bytes of a CRC, high byte first. -/
def crcBytes (crc : UInt16) : List UInt8 := [(crc >>> 8).toUInt8, crc.toUInt8]

theorem toBitVec_bytes (crc : UInt16) :
    crc.toBitVec = (crc >>> 8).toUInt8.toBitVec ++ crc.toUInt8.toBitVec := by
  have hshift : (crc >>> 8).toBitVec = crc.toBitVec >>> 8 := rfl
  rw [UInt16.toBitVec_toUInt8, UInt16.toBitVec_toUInt8, hshift]
  ext i hi
  rw [BitVec.getElem_append]
  simp only [BitVec.getElem_setWidth, BitVec.getLsbD_ushiftRight]
  split
  · rfl
  · rename_i hlow
    rw [Nat.add_sub_cancel' (Nat.not_lt.mp hlow)]
    rfl

theorem messageBits_crcBytes (crc : UInt16) :
    messageBits (crcBytes crc) = Crc.topBits 16 crc.toBitVec := by
  rw [toBitVec_bytes, Crc.topBits_append (m := 8) (n := 8)]
  rfl

/-- **The CRC.** With its table `crc16ccitt` computes the bitwise CRC-16. So the CRC of two parts is that
    of the second from the CRC of the first, and data followed by its CRC has the CRC zero. -/
theorem crc16ccitt_bitwise (a b : List UInt8) (startingCrc : UInt16) :
    (crc16ccitt a startingCrc).toBitVec =
        Crc.remainder crc16Polynomial startingCrc.toBitVec (messageBits a) ∧
      crc16ccitt (a ++ b) startingCrc = crc16ccitt b (crc16ccitt a startingCrc) ∧
      crc16ccitt (a ++ crcBytes (crc16ccitt a startingCrc)) startingCrc = 0 := by
  refine ⟨crc16ccitt_bits a startingCrc, crc16ccitt_append a b startingCrc, ?_⟩
  rw [crc16ccitt_append, ← UInt16.toBitVec_inj, crc16ccitt_bits, messageBits_crcBytes]
  exact Crc.remainder_self _

/-! ## `perform_bootloader_check` -/

/-- The bootloader size and its CRC at the end of the reserved space. -/
def norflashBlSize : Field := ⟨norflashBlSizeStart, 4⟩
def norflashBlCrc16 : Field := ⟨norflashBlCrc16Start, 2⟩

/-- How the check ends. -/
inductive BootloaderCheck where
  /-- a warning is printed -/
  | crcFieldBlank
  | crcMatches
  /-- the primary image lies in the SDRAM and is started -/
  | jumpsToImage (sdram : Mem UInt8)

/-- `perform_bootloader_check`. The test for a blank field holds of every value. -/
def performBootloaderCheck (norFlash sdram : Mem UInt8) : BootloaderCheck :=
  let bootloaderSize := norflashBlSize.read norFlash
  let writtenCrc16 := UInt16.ofNat (norflashBlCrc16.read norFlash)
  if writtenCrc16 ≠ 0x00 ∨ writtenCrc16 ≠ 0xff then
    let calculatedCrc := crc16ccittDefaultStartCrc (load norFlash 0 bootloaderSize)
    if writtenCrc16 ≠ calculatedCrc then
      .jumpsToImage (store sdram sdramDestination
        (load norFlash binaryBaseAddress primaryImageReservedSize))
    else .crcMatches
  else .crcFieldBlank

/-- The stored CRC is the one of the stored number of bytes. -/
def CrcFieldMatches (norFlash : Mem UInt8) : Prop :=
  norflashBlCrc16.read norFlash =
    (crc16ccittDefaultStartCrc (load norFlash 0 (norflashBlSize.read norFlash))).toNat

/-- The test for a blank field holds of every value. -/
theorem crcField_tested (c : UInt16) : c ≠ 0x00 ∨ c ≠ 0xff := by
  by_cases h : c = 0
  · exact .inr (by rw [h]; decide)
  · exact .inl h

/-- **The check passes exactly if the stored CRC matches.** -/
theorem performBootloaderCheck_matches_iff (norFlash sdram : Mem UInt8) :
    performBootloaderCheck norFlash sdram = .crcMatches ↔ CrcFieldMatches norFlash := by
  have hlt : norflashBlCrc16.read norFlash < 2 ^ 16 := norflashBlCrc16.read_lt norFlash
  have hread : (UInt16.ofNat (norflashBlCrc16.read norFlash)).toNat = norflashBlCrc16.read norFlash :=
    UInt16.toNat_ofNat_of_lt' hlt
  have hmatches : CrcFieldMatches norFlash ↔ UInt16.ofNat (norflashBlCrc16.read norFlash) =
      crc16ccittDefaultStartCrc (load norFlash 0 (norflashBlSize.read norFlash)) := by
    rw [← UInt16.toNat_inj, hread]
    rfl
  rw [hmatches]
  unfold performBootloaderCheck
  dsimp only
  rw [if_pos (crcField_tested _)]
  split_ifs with h
  · exact ⟨fun hno => (by cases hno), fun hyes => absurd hyes h⟩
  · exact ⟨fun _ => not_not.mp h, fun _ => rfl⟩

theorem performBootloaderCheck_not_blank (norFlash sdram : Mem UInt8) :
    performBootloaderCheck norFlash sdram ≠ .crcFieldBlank := by
  unfold performBootloaderCheck
  dsimp only
  rw [if_pos (crcField_tested _)]
  split_ifs <;> exact fun h => by cases h

/-! ## When the fallback is started -/

/-- The CRC field is blank: all bytes are `0x00`, or all are `0xff`. -/
def CrcFieldBlank (norFlash : Mem UInt8) : Prop :=
  norflashBlCrc16.read norFlash = 0x0000 ∨ norflashBlCrc16.read norFlash = 0xffff

/-- What the check is for: it jumps exactly if the CRC field is not blank and does not match, and the
    bytes it covers are those of the bootloader. -/
def CheckHolds (norFlash sdram : Mem UInt8) : Prop :=
  ((∃ image, performBootloaderCheck norFlash sdram = .jumpsToImage image) ↔
      ¬ CrcFieldBlank norFlash ∧ ¬ CrcFieldMatches norFlash) ∧
    norflashBlSize.read norFlash ≤ bootloaderReservedSize

/-- The check jumps whenever the CRC does not match, also on a blank field. -/
theorem performBootloaderCheck_jumps_iff (norFlash sdram : Mem UInt8) :
    (∃ image, performBootloaderCheck norFlash sdram = .jumpsToImage image) ↔
      ¬ CrcFieldMatches norFlash := by
  rw [← performBootloaderCheck_matches_iff norFlash sdram]
  have hnotBlank := performBootloaderCheck_not_blank norFlash sdram
  cases hcheck : performBootloaderCheck norFlash sdram with
  | crcFieldBlank => exact absurd hcheck hnotBlank
  | crcMatches => exact iff_of_false (fun ⟨_, h⟩ => by cases h) (fun h => h rfl)
  | jumpsToImage image => exact iff_of_true ⟨image, rfl⟩ (fun h => by cases h)

/-- **The check holds exactly if a blank CRC field happens to match.** And if the stored size is one of
    the bootloader: it is not checked. -/
theorem checkHolds_iff (norFlash sdram : Mem UInt8) :
    CheckHolds norFlash sdram ↔
      (CrcFieldBlank norFlash → CrcFieldMatches norFlash) ∧
        norflashBlSize.read norFlash ≤ bootloaderReservedSize := by
  rw [CheckHolds, performBootloaderCheck_jumps_iff]
  refine and_congr_left fun _ => ⟨fun h hblank => ?_, fun h => ⟨fun hdiffers => ?_, fun hboth => hboth.2⟩⟩
  · by_contra hdiffers
    exact (h.mp hdiffers).1 hblank
  · exact ⟨fun hblank => hdiffers (h hblank), hdiffers⟩

/-- On a flash of zeros the field is blank, and the fallback is started. -/
theorem blank_field_jumps : ¬ ∀ norFlash sdram, CheckHolds norFlash sdram := by
  intro h
  have hdiffers : ¬ CrcFieldMatches fun _ => 0 := by
    unfold CrcFieldMatches
    decide
  have hjumps := (performBootloaderCheck_jumps_iff (fun _ => 0) fun _ => 0).mpr hdiffers
  exact ((h _ _).1.mp hjumps).1 (Or.inl (by decide))

end Boot
end Obsw
