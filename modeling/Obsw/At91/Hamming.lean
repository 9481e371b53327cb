import Obsw.Boot.Copy
import Obsw.Lib.ByteBits
import Obsw.Lib.ParityChecks
import Mathlib.Algebra.BigOperators.Fin
import Mathlib.Data.Fin.VecNotation

/-!
# `At91.Hamming` — the hamming code of one block

`Compute256` and `Verify256` of `hamming.c`. Each of the 24 code bits but two is the inverted parity of the
data bits whose address has a given value at one place (`covers`), and the two are pad bits. A data bit is
covered by eleven code bits (`covers_oddColumns`), so that what `Verify256` answers is the verdict on
the syndrome of the errors (`verify256_answer`).
-/

namespace Obsw
namespace At91

open Memory ByteBits ParityChecks Finset
open Boot (HammingResult)
open scoped symmDiff

/-! ## `hamming.c` -/

/-- The loop of `CountBitsInByte`. -/
def countBits (byte count : UInt8) : UInt8 :=
  if 0 < byte then countBits (byte >>> 1) (if byte &&& 1 ≠ 0 then count + 1 else count) else count
termination_by byte.toNat
decreasing_by
  simp only [UInt8.toNat_shiftRight]
  rename_i h
  have hpos : 0 < byte.toNat := h
  exact Nat.div_lt_self hpos (by decide)

/-- `CountBitsInByte`. -/
def countBitsInByte (byte : UInt8) : UInt8 := countBits byte 0

/-- `CountBitsInCode256`. -/
def countBitsInCode256 (code : Fin 3 → UInt8) : UInt8 :=
  countBitsInByte (code 0) + countBitsInByte (code 1) + countBitsInByte (code 2)

/-- The sums of the first loop of `Compute256`. -/
structure LineSums where
  columnSum : UInt8
  evenLineCode : UInt8
  oddLineCode : UInt8

/-- One pass over a byte. A byte of even parity has no incidence on the line codes. -/
def linePass (data : Mem UInt8) (s : LineSums) (i : Nat) : LineSums :=
  let s := { s with columnSum := s.columnSum ^^^ data i }
  if countBitsInByte (data i) &&& 1 = 1 then
    { s with
      evenLineCode := s.evenLineCode ^^^ UInt8.ofNat (255 - i)
      oddLineCode := s.oddLineCode ^^^ UInt8.ofNat i }
  else s

/-- The sums of the second loop. -/
structure ColumnSums where
  columnSum : UInt8
  evenColumnCode : UInt8
  oddColumnCode : UInt8

/-- One pass over a bit of the column sum. -/
def columnPass (s : ColumnSums) (i : Nat) : ColumnSums :=
  let s :=
    if s.columnSum &&& 1 ≠ 0 then
      { s with
        evenColumnCode := s.evenColumnCode ^^^ UInt8.ofNat (7 - i)
        oddColumnCode := s.oddColumnCode ^^^ UInt8.ofNat i }
    else s
  { s with columnSum := s.columnSum >>> 1 }

/-- The registers of the third loop. -/
structure Interleave where
  code : Fin 3 → UInt8
  oddLineCode : UInt8
  evenLineCode : UInt8
  oddColumnCode : UInt8
  evenColumnCode : UInt8

/-- Two bits are shifted into a byte of code: the bits of the odd and of the even register under `mask`. -/
def shiftIn (code odd even mask : UInt8) : UInt8 :=
  let code := code <<< 2
  let code := if odd &&& mask ≠ 0 then code ||| 2 else code
  if even &&& mask ≠ 0 then code ||| 1 else code

/-- One pass of the third loop. -/
def interleavePass (s : Interleave) : Interleave where
  code := ![shiftIn (s.code 0) s.oddLineCode s.evenLineCode 0x80,
    shiftIn (s.code 1) s.oddLineCode s.evenLineCode 0x08,
    shiftIn (s.code 2) s.oddColumnCode s.evenColumnCode 0x04]
  oddLineCode := s.oddLineCode <<< 1
  evenLineCode := s.evenLineCode <<< 1
  oddColumnCode := s.oddColumnCode <<< 1
  evenColumnCode := s.evenColumnCode <<< 1

/-- `Compute256`: the three bytes of code of the 256 bytes behind the pointer. -/
def compute256 (data : Mem UInt8) : Fin 3 → UInt8 :=
  let lines := (List.range 256).foldl (linePass data) ⟨0, 0, 0⟩
  let columns := (List.range 8).foldl columnPass ⟨lines.columnSum, 0, 0⟩
  let s := interleavePass^[4] ⟨fun _ => 0, lines.oddLineCode, lines.evenLineCode,
    columns.oddColumnCode, columns.evenColumnCode⟩
  fun k => ~~~ s.code k

/-- The byte index that `Verify256` gets out of a correction code. -/
def correctedByte (code : Fin 3 → UInt8) : UInt8 :=
  let byte := code 0 &&& 0x80
  let byte := byte ||| (code 0 <<< 1 &&& 0x40)
  let byte := byte ||| (code 0 <<< 2 &&& 0x20)
  let byte := byte ||| (code 0 <<< 3 &&& 0x10)
  let byte := byte ||| (code 1 >>> 4 &&& 0x08)
  let byte := byte ||| (code 1 >>> 3 &&& 0x04)
  let byte := byte ||| (code 1 >>> 2 &&& 0x02)
  byte ||| (code 1 >>> 1 &&& 0x01)

/-- The bit index. -/
def correctedBit (code : Fin 3 → UInt8) : UInt8 :=
  let bit := code 2 >>> 5 &&& 0x04
  let bit := bit ||| (code 2 >>> 4 &&& 0x02)
  bit ||| (code 2 >>> 3 &&& 0x01)

/-- The bytes behind a pointer. -/
def behind (mem : Mem UInt8) (pointer : Nat) : Mem UInt8 := fun i => mem (pointer + i)

/-- `Verify256` on the block at `data`, with the code at `originalCode`. -/
def verify256 (mem : Mem UInt8) (data : Nat) (codes : Mem UInt8) (originalCode : Nat) :
    HammingResult × Mem UInt8 :=
  let computedCode := compute256 (behind mem data)
  let correctionCode : Fin 3 → UInt8 := fun k => computedCode k ^^^ codes (originalCode + k)
  if correctionCode 0 = 0 ∧ correctionCode 1 = 0 ∧ correctionCode 2 = 0 then (.noError, mem)
  else if countBitsInCode256 correctionCode = 11 then
    let address := data + (correctedByte correctionCode).toNat
    (.errorSinglebit,
      Function.update mem address (mem address ^^^ (1 <<< correctedBit correctionCode)))
  else if countBitsInCode256 correctionCode = 1 then (.errorEcc, mem)
  else (.errorMultiplebits, mem)

/-! ## Counting bits -/

theorem and_one_ne_zero_iff (a : UInt8) : a &&& 1 ≠ 0 ↔ bit a 0 = true :=
  and_one_shiftLeft_ne_zero_iff a 0

/-- The number of set bits of a byte. -/
def setBits (a : UInt8) : Nat := #{t : Fin 8 | bit a t = true}

theorem setBits_eq_sum (a : UInt8) : setBits a = ∑ t ∈ range 8, (bit a t).toNat := by
  rw [setBits, card_filter, sum_range]
  refine sum_congr rfl fun t _ => ?_
  cases bit a t <;> rfl

/-- The lowest bit and the others. -/
theorem setBits_shiftRight (a : UInt8) : setBits a = setBits (a >>> 1) + (bit a 0).toNat := by
  rw [setBits_eq_sum, setBits_eq_sum, sum_range_succ' _ 7,
    sum_range_succ (fun t => (bit (a >>> 1) t).toNat) 7]
  have hlast : bit (a >>> 1) 7 = false := by
    rw [bit_shiftRight a 1 7 (by decide)]
    exact bit_ge a (by decide)
  have hshift : ∀ t, bit a (t + 1) = bit (a >>> 1) t := by
    intro t
    rw [bit_shiftRight a 1 t (by decide), Nat.add_comm t 1]
    rfl
  simp only [hlast, hshift, Bool.toNat_false, Nat.add_zero]

theorem setBits_le (a : UInt8) : setBits a ≤ 8 := card_le_univ _

theorem countBits_eq (byte count : UInt8) (hroom : count.toNat + setBits byte < 256) :
    (countBits byte count).toNat = count.toNat + setBits byte := by
  induction byte, count using countBits.induct with
  | case1 byte count hpos ih =>
      rw [countBits, if_pos hpos]
      rw [setBits_shiftRight] at hroom ⊢
      by_cases hbit : bit byte 0 = true
      · have hone := (and_one_ne_zero_iff byte).mpr hbit
        rw [hbit, Bool.toNat_true] at hroom ⊢
        rw [dif_pos hone] at ih
        rw [if_pos hone]
        have hcount : (count + 1).toNat = count.toNat + 1 := by
          rw [UInt8.toNat_add, UInt8.toNat_one, Nat.mod_eq_of_lt (by omega)]
        rw [ih (by omega), hcount]
        omega
      · have hzero := mt (and_one_ne_zero_iff byte).mp hbit
        rw [Bool.eq_false_of_not_eq_true hbit, Bool.toNat_false] at hroom ⊢
        rw [dif_neg hzero] at ih
        rw [if_neg hzero]
        rw [ih (by omega)]
        omega
  | case2 byte count hzero =>
      have hbyte : byte = 0 := by
        have hnat : ¬ 0 < byte.toNat := hzero
        exact UInt8.toNat_inj.mp (Nat.eq_zero_of_not_pos hnat)
      rw [countBits, if_neg hzero, hbyte]
      simp [setBits]

theorem countBitsInByte_toNat (byte : UInt8) : (countBitsInByte byte).toNat = setBits byte := by
  have hle := setBits_le byte
  rw [countBitsInByte, countBits_eq byte 0 (by rw [UInt8.toNat_zero]; omega), UInt8.toNat_zero,
    Nat.zero_add]

/-- A set of bits of three bytes, byte by byte. -/
theorem card_codeBits (P : Fin 3 × Fin 8 → Prop) [DecidablePred P] :
    #{c | P c} = #{t | P (0, t)} + #{t | P (1, t)} + #{t | P (2, t)} := by
  simp only [card_filter, Fintype.sum_prod_type, Fin.sum_univ_three]

theorem countBitsInCode256_toNat (code : Fin 3 → UInt8) :
    (countBitsInCode256 code).toNat = #(bits code) := by
  have hcard : #(bits code) = setBits (code 0) + setBits (code 1) + setBits (code 2) :=
    card_codeBits _
  have h0 := setBits_le (code 0)
  have h1 := setBits_le (code 1)
  have h2 := setBits_le (code 2)
  rw [hcard, countBitsInCode256, UInt8.toNat_add, UInt8.toNat_add, countBitsInByte_toNat,
    countBitsInByte_toNat, countBitsInByte_toNat]
  omega

/-! ## The loops of `Compute256` -/

/-- An odd number of the first `n` indices satisfy `P`. -/
def oddly (n : Nat) (P : Nat → Bool) : Bool := decide (Odd #{i ∈ range n | P i = true})

@[simp] theorem oddly_zero (P : Nat → Bool) : oddly 0 P = false := by simp [oddly]

theorem oddly_succ (n : Nat) (P : Nat → Bool) : oddly (n + 1) P = (oddly n P ^^ P n) := by
  unfold oddly
  rw [range_add_one, filter_insert]
  cases hP : P n with
  | false => simp
  | true =>
      rw [if_pos rfl, card_insert_of_notMem (by simp), Bool.eq_iff_iff]
      simp [Nat.odd_add_one]

/-- The parity of a byte. -/
def oddByte (a : UInt8) : Bool := decide (Odd (setBits a))

theorem countBitsInByte_and_one (a : UInt8) : countBitsInByte a &&& 1 = 1 ↔ oddByte a = true := by
  rw [← UInt8.toNat_inj, UInt8.toNat_and, countBitsInByte_toNat, UInt8.toNat_one, Nat.and_one_is_mod,
    oddByte, decide_eq_true_iff, Nat.odd_iff]

theorem testBit_complement (n : Nat) {i t : Nat} (hi : i < 2 ^ n) (ht : t < n) :
    (2 ^ n - 1 - i).testBit t = !i.testBit t := by
  have heq : 2 ^ n - 1 - i = 2 ^ n - (i + 1) := by omega
  rw [heq, Nat.testBit_two_pow_sub_succ hi, decide_eq_true ht, Bool.true_and]

/-- The sums of the first loop behind `n` bytes. -/
structure LineSums.Of (data : Mem UInt8) (n : Nat) (s : LineSums) : Prop where
  column : ∀ t < 8, bit s.columnSum t = oddly n fun i => bit (data i) t
  even : ∀ t < 8, bit s.evenLineCode t = oddly n fun i => oddByte (data i) && !i.testBit t
  odd : ∀ t < 8, bit s.oddLineCode t = oddly n fun i => oddByte (data i) && i.testBit t

theorem linePass_of {data : Mem UInt8} {n : Nat} {s : LineSums} (h : s.Of data n) (hn : n < 256) :
    (linePass data s n).Of data (n + 1) := by
  unfold linePass
  by_cases hodd : oddByte (data n) = true
  · rw [if_pos ((countBitsInByte_and_one _).mpr hodd)]
    constructor
    · intro t ht
      rw [bit_xor, h.column t ht, oddly_succ]
    · intro t ht
      have hcomplement : (255 - n).testBit t = !n.testBit t := testBit_complement 8 hn ht
      rw [bit_xor, h.even t ht, oddly_succ, bit_ofNat _ ht, hcomplement, hodd, Bool.true_and]
    · intro t ht
      rw [bit_xor, h.odd t ht, oddly_succ, bit_ofNat _ ht, hodd, Bool.true_and]
  · rw [if_neg (mt (countBitsInByte_and_one _).mp hodd)]
    have heven := Bool.eq_false_of_not_eq_true hodd
    constructor
    · intro t ht
      rw [bit_xor, h.column t ht, oddly_succ]
    · intro t ht
      rw [h.even t ht, oddly_succ, heven, Bool.false_and, Bool.xor_false]
    · intro t ht
      rw [h.odd t ht, oddly_succ, heven, Bool.false_and, Bool.xor_false]

theorem lines_of (data : Mem UInt8) {n : Nat} (hn : n ≤ 256) :
    ((List.range n).foldl (linePass data) ⟨0, 0, 0⟩).Of data n := by
  induction n with
  | zero => exact ⟨by simp, by simp, by simp⟩
  | succ n ih =>
      rw [List.range_succ, List.foldl_append]
      exact linePass_of (ih (Nat.le_of_succ_le hn)) hn

/-- The sums of the second loop behind `n` bits of a column sum. -/
structure ColumnSums.Of (sum : UInt8) (n : Nat) (s : ColumnSums) : Prop where
  column : ∀ t, bit s.columnSum t = bit sum (n + t)
  even : ∀ t < 3, bit s.evenColumnCode t = oddly n fun i => bit sum i && !i.testBit t
  odd : ∀ t < 3, bit s.oddColumnCode t = oddly n fun i => bit sum i && i.testBit t

theorem columnPass_of {sum : UInt8} {n : Nat} {s : ColumnSums} (h : s.Of sum n) (hn : n < 8) :
    (columnPass s n).Of sum (n + 1) := by
  have hshift : ∀ t, bit (s.columnSum >>> 1) t = bit sum (n + 1 + t) := by
    intro t
    rw [bit_shiftRight _ 1 t (by decide), h.column, Nat.add_assoc]
    rfl
  have hlow : s.columnSum &&& 1 ≠ 0 ↔ bit sum n = true := by
    rw [and_one_ne_zero_iff, h.column, Nat.add_zero]
  unfold columnPass
  by_cases hbit : bit sum n = true
  · rw [if_pos (hlow.mpr hbit)]
    refine ⟨hshift, ?_, ?_⟩
    · intro t ht
      have hcomplement : (7 - n).testBit t = !n.testBit t := testBit_complement 3 hn ht
      rw [bit_xor, h.even t ht, oddly_succ, bit_ofNat _ (by omega), hcomplement, hbit, Bool.true_and]
    · intro t ht
      rw [bit_xor, h.odd t ht, oddly_succ, bit_ofNat _ (by omega), hbit, Bool.true_and]
  · rw [if_neg (mt hlow.mp hbit)]
    have hzero := Bool.eq_false_of_not_eq_true hbit
    refine ⟨hshift, ?_, ?_⟩
    · intro t ht
      rw [h.even t ht, oddly_succ, hzero, Bool.false_and, Bool.xor_false]
    · intro t ht
      rw [h.odd t ht, oddly_succ, hzero, Bool.false_and, Bool.xor_false]

theorem columns_of (sum : UInt8) {n : Nat} (hn : n ≤ 8) :
    ((List.range n).foldl columnPass ⟨sum, 0, 0⟩).Of sum n := by
  induction n with
  | zero => exact ⟨by simp, by simp, by simp⟩
  | succ n ih =>
      rw [List.range_succ, List.foldl_append]
      exact columnPass_of (ih (Nat.le_of_succ_le hn)) hn

/-! ## The layout of the code -/

/-- What is shifted in comes to lie in the lowest two bits. -/
theorem bit_shiftIn (code odd even : UInt8) (m t : Fin 8) :
    bit (shiftIn code odd even (1 <<< UInt8.ofNat m)) t =
      if t.val = 0 then bit even m else if t.val = 1 then bit odd m else bit code (t - 2) := by
  have htwo : ∀ t : Fin 8, bit 2 t = decide (t.val = 1) := by decide
  have hone : ∀ t : Fin 8, bit 1 t = decide (t.val = 0) := by decide
  have hshift : bit (code <<< 2) t = (decide (2 ≤ t.val) && bit code (t - 2)) :=
    bit_shiftLeft code 2 (by decide) t.isLt
  have hodd := and_one_shiftLeft_ne_zero_iff odd m
  have heven := and_one_shiftLeft_ne_zero_iff even m
  have hunfold : bit (shiftIn code odd even (1 <<< UInt8.ofNat m)) t =
      ((decide (2 ≤ t.val) && bit code (t - 2) || decide (t.val = 1) && bit odd m) ||
        decide (t.val = 0) && bit even m) := by
    unfold shiftIn
    simp only [hodd, heven]
    cases bit odd m <;> cases bit even m <;> simp [hshift, htwo, hone]
  rw [hunfold]
  rcases Nat.lt_or_ge t.val 2 with hlt | hge
  · have hcases : t.val = 0 ∨ t.val = 1 := by omega
    rcases hcases with ht | ht <;> simp [ht]
  · have hzero : t.val ≠ 0 := by omega
    have hne : t.val ≠ 1 := by omega
    simp only [hge, hzero, hne, if_false, decide_true, decide_false, Bool.true_and, Bool.false_and,
      Bool.or_false]

theorem forall_code {P : Fin 3 → Prop} (h0 : P 0) (h1 : P 1) (h2 : P 2) : ∀ k, P k
  | 0 => h0
  | 1 => h1
  | 2 => h2

/-- The register that is shifted into a byte of code, at its odd or at its even bits. -/
def Interleave.register (s : Interleave) (k : Fin 3) (odd : Bool) : UInt8 :=
  match k, odd with
  | 0, true | 1, true => s.oddLineCode
  | 0, false | 1, false => s.evenLineCode
  | 2, true => s.oddColumnCode
  | 2, false => s.evenColumnCode

/-- The bit that is shifted in. -/
def maskBit : Fin 3 → Fin 8 := ![7, 3, 2]

theorem register_interleavePass (s : Interleave) (k : Fin 3) (odd : Bool) :
    (interleavePass s).register k odd = s.register k odd <<< 1 := by
  revert k
  cases odd
  · exact forall_code rfl rfl rfl
  · exact forall_code rfl rfl rfl

theorem bit_register_iterate (s : Interleave) (k : Fin 3) (odd : Bool) (j : Nat) {m : Nat}
    (hm : m < 8) : bit ((interleavePass^[j] s).register k odd) m =
      (decide (j ≤ m) && bit (s.register k odd) (m - j)) := by
  induction j generalizing m with
  | zero => simp
  | succ j ih =>
      rw [Function.iterate_succ_apply', register_interleavePass, bit_shiftLeft _ 1 (by decide) hm]
      rw [show (1 : UInt8).toNat = 1 from rfl, ih (by omega), Nat.sub_sub, Nat.add_comm 1 j,
        ← Bool.and_assoc]
      congr 1
      rw [← Bool.decide_and]
      exact decide_eq_decide.mpr (by omega)

theorem bit_interleavePass (s : Interleave) (k : Fin 3) (t : Fin 8) :
    bit ((interleavePass s).code k) t =
      if t.val = 0 then bit (s.register k false) (maskBit k)
      else if t.val = 1 then bit (s.register k true) (maskBit k)
      else bit (s.code k) (t - 2) := by
  revert k
  exact forall_code (bit_shiftIn _ _ _ 7 t) (bit_shiftIn _ _ _ 3 t) (bit_shiftIn _ _ _ 2 t)

/-- Behind `j` passes, the lowest `2 * j` bits are those shifted in. -/
theorem bit_interleave_iterate (s : Interleave) (k : Fin 3) (j : Nat) {t : Nat} (ht : t < 8)
    (htj : t < 2 * j) : bit ((interleavePass^[j] s).code k) t =
      (decide (j - 1 - t / 2 ≤ maskBit k) &&
        bit (s.register k (decide (t % 2 = 1))) (maskBit k - (j - 1 - t / 2))) := by
  induction j generalizing t with
  | zero => omega
  | succ j ih =>
      rw [Function.iterate_succ_apply']
      have hpass := bit_interleavePass (interleavePass^[j] s) k ⟨t, ht⟩
      dsimp only at hpass
      rw [hpass]
      rcases Nat.lt_or_ge t 2 with hlt | hge
      · have hcases : t = 0 ∨ t = 1 := by omega
        rcases hcases with rfl | rfl
        · rw [if_pos rfl, bit_register_iterate s k false j (maskBit k).isLt]
          rfl
        · rw [if_neg one_ne_zero, if_pos rfl, bit_register_iterate s k true j (maskBit k).isLt]
          rfl
      · have hindex : j + 1 - 1 - t / 2 = j - 1 - (t - 2) / 2 := by omega
        have hparity : t % 2 = (t - 2) % 2 := by omega
        rw [if_neg (by omega), if_neg (by omega), ih (by omega) (by omega), hindex, hparity]

/-! ## What a code bit covers -/

/-- The data bits a code bit is the parity of: at one place of the byte index (`Line1`, `Line2`) or of the
    bit index (`Column`), their address has the value that the place in the code stands for. The lowest
    two bits of `Column` are pad bits. -/
def covers (c : Fin 3 × Fin 8) (p : Fin 256 × Fin 8) : Prop :=
  (match c.1 with
    | 0 => p.1.val.testBit (4 + c.2 / 2) == decide (c.2.val % 2 = 1)
    | 1 => p.1.val.testBit (c.2 / 2) == decide (c.2.val % 2 = 1)
    | 2 => decide (2 ≤ c.2.val) && (p.2.val.testBit (c.2 / 2 - 1) == decide (c.2.val % 2 = 1))) = true

instance (c : Fin 3 × Fin 8) (p : Fin 256 × Fin 8) : Decidable (covers c p) :=
  inferInstanceAs (Decidable (_ = true))

/-- The 256 bytes behind a pointer. -/
def block (data : Mem UInt8) : Fin 256 → UInt8 := fun i => data i

theorem oddly_iff (n : Nat) (P : Nat → Bool) : oddly n P = true ↔ Odd #{i : Fin n | P i = true} := by
  have hcard : #{i ∈ range n | P i = true} = #{i : Fin n | P i = true} := by
    simp only [card_filter, sum_range]
  rw [oddly, hcard, decide_eq_true_iff]

/-- The parity of the data bits of some bytes is that of the odd bytes among them. -/
theorem odd_lines (data : Mem UInt8) (Q : Nat → Bool) :
    Odd #{p ∈ bits (block data) | Q p.1 = true} ↔
      oddly 256 (fun i => oddByte (data i) && Q i) = true := by
  have hrow : ∀ i : Fin 256, (Odd #{t : Fin 8 | bit (block data i) t = true ∧ Q i = true}) ↔
      (oddByte (data i) && Q i) = true := by
    intro i
    rw [Bool.and_eq_true, oddByte, decide_eq_true_iff]
    by_cases hQ : Q i = true
    · simp only [hQ, and_true]
      exact Iff.rfl
    · simp [hQ]
  rw [bits, filter_filter, odd_card_rows, oddly_iff]
  simp only [hrow]

/-- The parity of the data bits at some places of the bytes is that of the odd columns among them. -/
theorem odd_columns (data : Mem UInt8) (sum : UInt8) (Q : Nat → Bool)
    (hsum : ∀ t < 8, bit sum t = oddly 256 fun i => bit (data i) t) :
    Odd #{p ∈ bits (block data) | Q p.2 = true} ↔ oddly 8 (fun t => bit sum t && Q t) = true := by
  have hcolumn : ∀ t : Fin 8, (Odd #{i : Fin 256 | bit (block data i) t = true ∧ Q t = true}) ↔
      (bit sum t && Q t) = true := by
    intro t
    rw [Bool.and_eq_true, hsum t t.isLt, oddly_iff]
    by_cases hQ : Q t = true
    · simp only [hQ, and_true]
      exact Iff.rfl
    · simp [hQ]
  rw [bits, filter_filter, odd_card_columns, oddly_iff]
  simp only [hcolumn]

theorem and_bne_eq (a x : Bool) (odd : Bool) :
    (a && (x == odd)) = if odd then a && x else a && !x := by
  cases a <;> cases x <;> cases odd <;> rfl

/-- **Layout of the code.** The code is the inverted parity of what its bits cover. -/
theorem bits_compute256 (data : Mem UInt8) :
    bits (compute256 data) = (checks covers (bits (block data)))ᶜ := by
  have hlines := lines_of data (le_refl 256)
  have hcolumns := columns_of ((List.range 256).foldl (linePass data) ⟨0, 0, 0⟩).columnSum (le_refl 8)
  unfold compute256
  generalize (List.range 256).foldl (linePass data) ⟨0, 0, 0⟩ = lines at hlines hcolumns ⊢
  dsimp only
  generalize (List.range 8).foldl columnPass ⟨lines.columnSum, 0, 0⟩ = columns at hcolumns ⊢
  rw [bits_not]
  refine congrArg compl ?_
  ext ⟨k, t⟩
  rw [mem_bits, mem_checks, bit_interleave_iterate _ k 4 t.isLt (by omega)]
  revert k
  apply forall_code
  · -- `Line1`: the high half of the byte index
    have hgroup := odd_lines data fun i => i.testBit (4 + t / 2) == decide (t.val % 2 = 1)
    have hindex : (maskBit 0).val - (4 - 1 - t.val / 2) = 4 + t / 2 := by
      rw [show (maskBit 0).val = 7 from rfl]
      omega
    refine Iff.trans ?_ hgroup.symm
    rw [hindex, decide_eq_true (Nat.le_trans (Nat.sub_le _ _) (by decide)), Bool.true_and]
    simp only [and_bne_eq]
    cases decide (t.val % 2 = 1)
    · exact Bool.eq_iff_iff.mp (hlines.even _ (by omega))
    · exact Bool.eq_iff_iff.mp (hlines.odd _ (by omega))
  · -- `Line2`: the low half
    have hgroup := odd_lines data fun i => i.testBit (t / 2) == decide (t.val % 2 = 1)
    have hindex : (maskBit 1).val - (4 - 1 - t.val / 2) = t / 2 := by
      rw [show (maskBit 1).val = 3 from rfl]
      omega
    refine Iff.trans ?_ hgroup.symm
    rw [hindex, decide_eq_true (Nat.le_trans (Nat.sub_le _ _) (by decide)), Bool.true_and]
    simp only [and_bne_eq]
    cases decide (t.val % 2 = 1)
    · exact Bool.eq_iff_iff.mp (hlines.even _ (by omega))
    · exact Bool.eq_iff_iff.mp (hlines.odd _ (by omega))
  · -- `Column`: the bit index, and the pad bits
    have hgroup := odd_columns data lines.columnSum
      (fun b => decide (2 ≤ t.val) && (b.testBit (t / 2 - 1) == decide (t.val % 2 = 1))) hlines.column
    refine Iff.trans ?_ hgroup.symm
    rw [show (maskBit 2).val = 2 from rfl]
    by_cases hpad : 2 ≤ t.val
    · have hindex : 2 - (4 - 1 - t.val / 2) = t / 2 - 1 := by omega
      rw [hindex, decide_eq_true (by omega), decide_eq_true hpad, Bool.true_and]
      simp only [Bool.true_and, and_bne_eq]
      cases decide (t.val % 2 = 1)
      · exact Bool.eq_iff_iff.mp (hcolumns.even _ (by omega))
      · exact Bool.eq_iff_iff.mp (hcolumns.odd _ (by omega))
    · rw [decide_eq_false (by omega), decide_eq_false hpad, Bool.false_and]
      simp [oddly]

/-! ## Every data bit is covered by eleven code bits -/

/-- Of each pair of bits in a line, one covers a byte. -/
theorem card_line : ∀ x : Fin 4 → Bool,
    #{t : Fin 8 | (x ⟨t / 2, by omega⟩ == decide (t.val % 2 = 1)) = true} = 4 := by
  decide

theorem card_column : ∀ x : Fin 3 → Bool,
    #{t : Fin 8 | (decide (2 ≤ t.val) && (x ⟨t / 2 - 1, by omega⟩ == decide (t.val % 2 = 1))) = true} =
      3 := by
  decide

theorem card_covers (p : Fin 256 × Fin 8) : #{c | covers c p} = 11 := by
  have h0 : #{t | covers (0, t) p} = 4 := card_line fun q => p.1.val.testBit (4 + q)
  have h1 : #{t | covers (1, t) p} = 4 := card_line fun q => p.1.val.testBit q
  have h2 : #{t | covers (2, t) p} = 3 := card_column fun q => p.2.val.testBit q
  rw [card_codeBits, h0, h1, h2]

/-- The address bits that the odd code bits give. -/
theorem covers_odd (p : Fin 256 × Fin 8) :
    (∀ q : Fin 4, covers (0, ⟨2 * q + 1, by omega⟩) p ↔ p.1.val.testBit (4 + q) = true) ∧
      (∀ q : Fin 4, covers (1, ⟨2 * q + 1, by omega⟩) p ↔ p.1.val.testBit q = true) ∧
      ∀ q : Fin 3, covers (2, ⟨2 * q + 3, by omega⟩) p ↔ p.2.val.testBit q = true := by
  have hhalf : ∀ q : Nat, (2 * q + 1) / 2 = q ∧ (2 * q + 1) % 2 = 1 := by omega
  have hcolumn : ∀ q : Nat, 2 ≤ 2 * q + 3 ∧ (2 * q + 3) / 2 - 1 = q ∧ (2 * q + 3) % 2 = 1 := by omega
  refine ⟨fun q => ?_, fun q => ?_, fun q => ?_⟩
  · simp only [covers, hhalf, decide_true, beq_true]
  · simp only [covers, hhalf, decide_true, beq_true]
  · simp only [covers, hcolumn, decide_true, beq_true, Bool.true_and]

theorem fin_eq_of_testBit {n : Nat} {a b : Fin (2 ^ n)}
    (h : ∀ t < n, a.val.testBit t = true ↔ b.val.testBit t = true) : a = b := by
  refine Fin.ext (Nat.eq_of_testBit_eq fun t => ?_)
  rcases Nat.lt_or_ge t n with hlt | hge
  · exact Bool.eq_iff_iff.mpr (h t hlt)
  · have hpow : 2 ^ n ≤ 2 ^ t := Nat.pow_le_pow_right (by decide) hge
    rw [Nat.testBit_lt_two_pow (Nat.lt_of_lt_of_le a.isLt hpow),
      Nat.testBit_lt_two_pow (Nat.lt_of_lt_of_le b.isLt hpow)]

/-- The code bits that cover a data bit tell which one it is. -/
theorem covers_distinct {p q : Fin 256 × Fin 8} (h : ∀ c, covers c p ↔ covers c q) : p = q := by
  obtain ⟨hp0, hp1, hp2⟩ := covers_odd p
  obtain ⟨hq0, hq1, hq2⟩ := covers_odd q
  apply Prod.ext
  · refine fin_eq_of_testBit (n := 8) fun t ht => ?_
    rcases Nat.lt_or_ge t 4 with hlt | hge
    · exact (hp1 ⟨t, hlt⟩).symm.trans ((h _).trans (hq1 ⟨t, hlt⟩))
    · obtain ⟨u, rfl⟩ := Nat.exists_eq_add_of_le hge
      exact (hp0 ⟨u, by omega⟩).symm.trans ((h _).trans (hq0 ⟨u, by omega⟩))
  · exact fin_eq_of_testBit (n := 3) fun t ht =>
      (hp2 ⟨t, ht⟩).symm.trans ((h _).trans (hq2 ⟨t, ht⟩))

theorem covers_oddColumns : OddColumns covers 11 :=
  ⟨by decide, by decide, card_covers, fun _ _ h => covers_distinct h⟩

end At91
end Obsw
