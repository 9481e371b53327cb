import Obsw.At91.Hamming
import Obsw.Lib.Loop
import Mathlib.Tactic.FinCases

/-!
# `At91.HammingErrors` — what the hamming code corrects and detects

A block and its code are stored and read back with errors: `dataErrors` are the bits in which the block
differs, `codeErrors` those in which the code does. `Verify256` goes by the size of the syndrome of these
errors (`verify256_answer`): one error is corrected or recognised as one of the code, two are
reported, an even number is never taken for one and an odd number never goes unnoticed
(`verify256_corrects`). `Hamming_Verify256x` stops at the first block it cannot account for
(`hammingVerify256x_run`).
-/

namespace Obsw
namespace At91

open Memory ByteBits ParityChecks Loop Finset
open Boot (HammingResult)
open scoped symmDiff

/-! ## One block -/

/-- The bits in which a block differs from what was stored. -/
def dataErrors (stored : Mem UInt8) (mem : Mem UInt8) (data : Nat) : Finset (Fin 256 × Fin 8) :=
  differing (block stored) (block (behind mem data))

/-- The bits in which a code differs from that of what was stored. -/
def codeErrors (stored : Mem UInt8) (codes : Mem UInt8) (code : Nat) : Finset (Fin 3 × Fin 8) :=
  differing (compute256 stored) fun k => codes (code + k)

/-- What `Verify256` answers to a verdict on the syndrome. -/
def resultOf : Verdict → HammingResult
  | .clean => .noError
  | .position => .errorSinglebit
  | .check => .errorEcc
  | .many => .errorMultiplebits

section Block

variable (stored mem : Mem UInt8) (data : Nat) (codes : Mem UInt8) (originalCode : Nat)

/-- The correction code that `Verify256` computes. -/
def correctionOf : Fin 3 → UInt8 := fun k => compute256 (behind mem data) k ^^^ codes (originalCode + k)

/-- The correction code is the syndrome of the errors, whatever was stored. -/
theorem bits_correctionOf : bits (correctionOf mem data codes originalCode) =
    syndrome covers (dataErrors stored mem data) (codeErrors stored codes originalCode) := by
  have hread : bits (block (behind mem data)) = bits (block stored) ∆ dataErrors stored mem data :=
    bits_eq_symmDiff_differing _ _
  have hcode : bits (fun k : Fin 3 => codes (originalCode + k)) =
      bits (compute256 stored) ∆ codeErrors stored codes originalCode :=
    bits_eq_symmDiff_differing _ _
  have hxor : bits (correctionOf mem data codes originalCode) =
      bits (compute256 (behind mem data)) ∆ bits fun k : Fin 3 => codes (originalCode + k) :=
    bits_xor _ _
  rw [hxor, hcode, bits_compute256, bits_compute256, hread, ← symmDiff_assoc, compl_symmDiff_compl,
    symmDiff_assoc, syndrome_of_read]

theorem code_eq_zero_iff (code : Fin 3 → UInt8) :
    (code 0 = 0 ∧ code 1 = 0 ∧ code 2 = 0) ↔ #(bits code) = 0 := by
  have hzero : bits (fun _ : Fin 3 => (0 : UInt8)) = ∅ := by
    ext p
    simp
  rw [card_eq_zero, ← hzero]
  constructor
  · rintro ⟨h0, h1, h2⟩
    exact congrArg bits (funext (forall_code h0 h1 h2))
  · intro h
    have hfun := bits_injective h
    exact ⟨congrFun hfun 0, congrFun hfun 1, congrFun hfun 2⟩

/-- `Verify256` by the size of its correction code. -/
theorem verify256_eq : verify256 mem data codes originalCode =
    (resultOf (verdict 11 #(bits (correctionOf mem data codes originalCode))),
      if #(bits (correctionOf mem data codes originalCode)) = 11 then
        Function.update mem (data + (correctedByte (correctionOf mem data codes originalCode)).toNat)
          (mem (data + (correctedByte (correctionOf mem data codes originalCode)).toNat) ^^^
            (1 <<< correctedBit (correctionOf mem data codes originalCode)))
      else mem) := by
  have hcount := countBitsInCode256_toNat (correctionOf mem data codes originalCode)
  have heleven : countBitsInCode256 (correctionOf mem data codes originalCode) = 11 ↔
      #(bits (correctionOf mem data codes originalCode)) = 11 := by
    rw [← hcount, ← UInt8.toNat_inj]
    rfl
  have hone : countBitsInCode256 (correctionOf mem data codes originalCode) = 1 ↔
      #(bits (correctionOf mem data codes originalCode)) = 1 := by
    rw [← hcount, ← UInt8.toNat_inj]
    rfl
  have hunfold : verify256 mem data codes originalCode =
      if correctionOf mem data codes originalCode 0 = 0 ∧
          correctionOf mem data codes originalCode 1 = 0 ∧
          correctionOf mem data codes originalCode 2 = 0 then (.noError, mem)
      else if countBitsInCode256 (correctionOf mem data codes originalCode) = 11 then
        (.errorSinglebit,
          Function.update mem (data + (correctedByte (correctionOf mem data codes originalCode)).toNat)
            (mem (data + (correctedByte (correctionOf mem data codes originalCode)).toNat) ^^^
              (1 <<< correctedBit (correctionOf mem data codes originalCode))))
      else if countBitsInCode256 (correctionOf mem data codes originalCode) = 1 then (.errorEcc, mem)
      else (.errorMultiplebits, mem) := rfl
  rw [hunfold]
  simp only [code_eq_zero_iff, heleven, hone, verdict]
  generalize #(bits (correctionOf mem data codes originalCode)) = size
  by_cases hzero : size = 0
  · simp [hzero, resultOf]
  · by_cases h11 : size = 11
    · simp [h11, resultOf]
    · by_cases h1 : size = 1
      · simp [h1, resultOf]
      · simp [hzero, h11, h1, resultOf]

/-! ## The position of a single error -/

/-- Where the bits of the byte index are found in a correction code. -/
theorem bit_correctedByte (code : Fin 3 → UInt8) (t : Fin 8) : bit (correctedByte code) t =
    if t.val < 4 then bit (code 1) (2 * t + 1) else bit (code 0) (2 * (t - 4) + 1) := by
  have hleft : ∀ (k : UInt8) (t : Fin 8), k < 8 →
      bit (code 0 <<< k) t = (decide (k.toNat ≤ t) && bit (code 0) (t - k.toNat)) :=
    fun k t hk => bit_shiftLeft _ k hk t.isLt
  have h1 := hleft 1 t (by decide)
  have h2 := hleft 2 t (by decide)
  have h3 := hleft 3 t (by decide)
  simp only [correctedByte, bit_or, bit_and, h1, h2, h3,
    bit_shiftRight (code 1) 4 t (by decide), bit_shiftRight (code 1) 3 t (by decide),
    bit_shiftRight (code 1) 2 t (by decide), bit_shiftRight (code 1) 1 t (by decide)]
  fin_cases t <;> simp [bit_eq_testBit, Nat.testBit]

theorem bit_correctedBit (code : Fin 3 → UInt8) (t : Fin 8) :
    bit (correctedBit code) t = (decide (t.val < 3) && bit (code 2) (2 * t + 3)) := by
  simp only [correctedBit, bit_or, bit_and, bit_shiftRight (code 2) 5 t (by decide),
    bit_shiftRight (code 2) 4 t (by decide), bit_shiftRight (code 2) 3 t (by decide)]
  fin_cases t <;> simp [bit_eq_testBit, Nat.testBit]

/-- From the code bits that cover a data bit, `Verify256` gets its byte and its place. -/
theorem corrected_of_covers {code : Fin 3 → UInt8} {p : Fin 256 × Fin 8}
    (h : bits code = ({c | covers c p} : Finset (Fin 3 × Fin 8))) :
    correctedByte code = UInt8.ofNat p.1 ∧ correctedBit code = UInt8.ofNat p.2 := by
  have hmem : ∀ c : Fin 3 × Fin 8, bit (code c.1) c.2 = true ↔ covers c p := by
    intro c
    rw [← mem_bits, h, mem_filter_univ]
  obtain ⟨h0, h1, h2⟩ := covers_odd p
  constructor
  · refine eq_of_bit fun t ht => ?_
    rw [bit_ofNat _ ht, bit_correctedByte code ⟨t, ht⟩, Bool.eq_iff_iff]
    by_cases hlow : t < 4
    · rw [if_pos hlow]
      exact (hmem (1, ⟨2 * t + 1, by omega⟩)).trans (h1 ⟨t, hlow⟩)
    · rw [if_neg hlow]
      obtain ⟨u, rfl⟩ := Nat.exists_eq_add_of_le (Nat.not_lt.mp hlow)
      have hsub : 4 + u - 4 = u := Nat.add_sub_cancel_left 4 u
      dsimp only
      rw [hsub]
      exact (hmem (0, ⟨2 * u + 1, by omega⟩)).trans (h0 ⟨u, by omega⟩)
  · refine eq_of_bit fun t ht => ?_
    rw [bit_ofNat _ ht, bit_correctedBit code ⟨t, ht⟩, Bool.eq_iff_iff]
    by_cases hlow : t < 3
    · rw [decide_eq_true hlow, Bool.true_and]
      exact (hmem (2, ⟨2 * t + 3, by omega⟩)).trans (h2 ⟨t, hlow⟩)
    · have hpow : p.2.val < 2 ^ t :=
        Nat.lt_of_lt_of_le p.2.isLt (Nat.pow_le_pow_right Nat.two_pos (Nat.not_lt.mp hlow))
      rw [decide_eq_false hlow, Bool.false_and, Nat.testBit_lt_two_pow hpow]

end Block

/-! ## The block restored -/

/-- The first `n` bytes at a pointer replaced by what is stored. -/
def withBytes (mem : Mem UInt8) (data n : Nat) (stored : Mem UInt8) : Mem UInt8 :=
  store mem data (load stored 0 n)

theorem withBytes_apply (mem : Mem UInt8) (data n : Nat) (stored : Mem UInt8) (address : Nat) :
    withBytes mem data n stored address =
      if data ≤ address ∧ address < data + n then stored (address - data) else mem address := by
  unfold withBytes
  by_cases hin : data ≤ address ∧ address < data + n
  · obtain ⟨i, rfl⟩ := Nat.exists_eq_add_of_le hin.1
    have hi : i < (load stored 0 n).length := by
      rw [load_length]
      omega
    rw [if_pos hin, store_at hi, load_getElem, Nat.zero_add, Nat.add_sub_cancel_left]
  · rw [if_neg hin, store_frame]
    rw [load_length]
    omega

/-- A block that was read without errors is what was stored. -/
theorem withBytes_self {mem stored : Mem UInt8} {data : Nat} (h : dataErrors stored mem data = ∅) :
    withBytes mem data 256 stored = mem := by
  have hblock := differing_eq_empty_iff.mp h
  funext address
  rw [withBytes_apply]
  split_ifs with hin
  · have hat := congrFun hblock ⟨address - data, by omega⟩
    have haddress : data + (address - data) = address := by omega
    simpa only [block, behind, haddress] using hat
  · rfl

/-- Toggling the one bit in which a block differs restores it. -/
theorem withBytes_of_flip {mem stored : Mem UInt8} {data : Nat} {p : Fin 256 × Fin 8}
    (h : dataErrors stored mem data = {p}) :
    Function.update mem (data + p.1) (mem (data + p.1) ^^^ (1 <<< UInt8.ofNat p.2)) =
      withBytes mem data 256 stored := by
  have hflip := eq_flip_of_differing h
  funext address
  rw [withBytes_apply]
  by_cases hin : data ≤ address ∧ address < data + 256
  · rw [if_pos hin]
    have hat := congrFun hflip ⟨address - data, by omega⟩
    have haddress : data + (address - data) = address := by omega
    simp only [block, ByteBits.flip, Function.update_apply, behind, Fin.ext_iff, haddress] at hat
    rw [hat, Function.update_apply]
    refine if_congr ?_ rfl rfl
    omega
  · have hne : address ≠ data + p.1 := by
      have hlt := p.1.isLt
      omega
    rw [if_neg hin, Function.update_of_ne hne]

/-! ## What `Verify256` does about the errors -/

section Answer

variable (stored mem : Mem UInt8) (data : Nat) (codes : Mem UInt8) (originalCode : Nat)

/-- **The answer.** `Verify256` answers the verdict on the syndrome of the errors. -/
theorem verify256_answer : (verify256 mem data codes originalCode).1 =
    resultOf (verdict 11 #(syndrome covers (dataErrors stored mem data)
      (codeErrors stored codes originalCode))) := by
  rw [verify256_eq, bits_correctionOf stored]

theorem verdict_position_iff (size : Nat) : verdict 11 size = .position ↔ size = 11 := by
  unfold verdict
  split_ifs with h0 h11 h1
  · simp [h0]
  · simp [h11]
  · simp [h11]
  · simp [h11]

/-- Only a syndrome that is taken for one error of the data changes the data. -/
theorem verify256_unchanged
    (h : (verify256 mem data codes originalCode).1 ≠ .errorSinglebit) :
    (verify256 mem data codes originalCode).2 = mem := by
  rw [verify256_eq] at h ⊢
  refine if_neg fun h11 => h ?_
  rw [(verdict_position_iff _).mpr h11]
  rfl

/-- One error of the data is corrected. -/
theorem verify256_dataError {p : Fin 256 × Fin 8} (he : dataErrors stored mem data = {p})
    (hf : codeErrors stored codes originalCode = ∅) :
    verify256 mem data codes originalCode = (.errorSinglebit, withBytes mem data 256 stored) := by
  have hbits := bits_correctionOf stored mem data codes originalCode
  rw [he, hf] at hbits
  have hcard : #(bits (correctionOf mem data codes originalCode)) = 11 :=
    hbits ▸ card_syndrome_position covers_oddColumns p
  have hcovers : bits (correctionOf mem data codes originalCode) =
      ({c | covers c p} : Finset (Fin 3 × Fin 8)) := by
    rw [hbits, syndrome, ← bot_eq_empty, symmDiff_bot, checks_singleton]
  obtain ⟨hbyte, hbit⟩ := corrected_of_covers hcovers
  have hindex : (UInt8.ofNat p.1).toNat = p.1 := by
    rw [UInt8.toNat_ofNat', Nat.mod_eq_of_lt p.1.isLt]
  rw [verify256_eq, if_pos hcard, (verdict_position_iff _).mpr hcard, hbyte, hbit, hindex,
    withBytes_of_flip he]
  rfl

/-- What `Verify256` makes of a block and its code, by the number of their errors. -/
structure Corrects : Prop where
  /-- without errors nothing is done -/
  none : #(dataErrors stored mem data) + #(codeErrors stored codes originalCode) = 0 →
    verify256 mem data codes originalCode = (.noError, mem)
  /-- one error of the data is corrected -/
  oneData : #(dataErrors stored mem data) = 1 → codeErrors stored codes originalCode = ∅ →
    verify256 mem data codes originalCode = (.errorSinglebit, withBytes mem data 256 stored)
  /-- one error of the code is told apart -/
  oneCode : dataErrors stored mem data = ∅ → #(codeErrors stored codes originalCode) = 1 →
    verify256 mem data codes originalCode = (.errorEcc, mem)
  /-- two errors are recognised, wherever they are -/
  two : #(dataErrors stored mem data) + #(codeErrors stored codes originalCode) = 2 →
    verify256 mem data codes originalCode = (.errorMultiplebits, mem)
  /-- an even number of errors is never taken for one -/
  even : Even (#(dataErrors stored mem data) + #(codeErrors stored codes originalCode)) →
    verify256 mem data codes originalCode = (.noError, mem) ∨
      verify256 mem data codes originalCode = (.errorMultiplebits, mem)
  /-- an odd number never goes unnoticed -/
  odd : Odd (#(dataErrors stored mem data) + #(codeErrors stored codes originalCode)) →
    (verify256 mem data codes originalCode).1 ≠ .noError
  /-- but errors at the corners of rectangles do -/
  rectangle : ∀ (I : Finset (Fin 256)) (B : Finset (Fin 8)), Even #I → Even #B →
    dataErrors stored mem data = I ×ˢ B → codeErrors stored codes originalCode = ∅ →
      verify256 mem data codes originalCode = (.noError, mem)

theorem resultOf_injective : Function.Injective resultOf := by
  intro a b h
  cases a <;> cases b <;> first | rfl | cases h

/-- The routine answers `result` and leaves the memory alone, if that is the verdict. -/
theorem verify256_of_verdict (verdict' : Verdict) (hne : verdict' ≠ .position)
    (h : verdict 11 #(syndrome covers (dataErrors stored mem data)
      (codeErrors stored codes originalCode)) = verdict') :
    verify256 mem data codes originalCode = (resultOf verdict', mem) := by
  have hanswer := verify256_answer stored mem data codes originalCode
  rw [h] at hanswer
  have hkeep := verify256_unchanged mem data codes originalCode
    (hanswer ▸ fun hpos => hne (resultOf_injective hpos))
  exact Prod.ext hanswer hkeep

theorem verify256_noErrors (he : dataErrors stored mem data = ∅)
    (hf : codeErrors stored codes originalCode = ∅) :
    verify256 mem data codes originalCode = (.noError, mem) := by
  refine verify256_of_verdict stored mem data codes originalCode .clean (by decide) ?_
  rw [he, hf]
  rfl

/-- One error of the code is told apart. -/
theorem verify256_codeError (he : dataErrors stored mem data = ∅)
    (hone : #(codeErrors stored codes originalCode) = 1) :
    verify256 mem data codes originalCode = (.errorEcc, mem) := by
  refine verify256_of_verdict stored mem data codes originalCode .check (by decide) ?_
  rw [he]
  exact verdict_check covers_oddColumns hone

/-- Every code bit covers an even number of the corners. -/
theorem checks_rectangle {I : Finset (Fin 256)} {B : Finset (Fin 8)} (hI : Even #I) (hB : Even #B) :
    checks covers (I ×ˢ B) = ∅ := by
  rw [checks_eq_empty_iff]
  rintro ⟨k, t⟩
  have hline : ∀ P : Fin 256 → Prop, [DecidablePred P] → Even #{p ∈ I ×ˢ B | P p.1} := by
    intro P _
    rw [filter_product_left, card_product]
    exact hB.mul_left _
  have hcolumn : ∀ P : Fin 8 → Prop, [DecidablePred P] → Even #{p ∈ I ×ˢ B | P p.2} := by
    intro P _
    rw [filter_product_right, card_product]
    exact hI.mul_right _
  revert k
  apply forall_code
  · exact hline fun i => (i.val.testBit (4 + t / 2) == decide (t.val % 2 = 1)) = true
  · exact hline fun i => (i.val.testBit (t / 2) == decide (t.val % 2 = 1)) = true
  · exact hcolumn fun b =>
      (decide (2 ≤ t.val) && (b.val.testBit (t / 2 - 1) == decide (t.val % 2 = 1))) = true

/-- **The code of one block.** One error is corrected or told apart, two are reported, an even number is
    never taken for one, an odd number never goes unnoticed, and rectangles of errors do. -/
theorem verify256_corrects : Corrects stored mem data codes originalCode where
  none hnone :=
    verify256_noErrors stored mem data codes originalCode
      (card_eq_zero.mp (Nat.add_eq_zero_iff.mp hnone).1) (card_eq_zero.mp (Nat.add_eq_zero_iff.mp hnone).2)
  oneData hone hf := by
    obtain ⟨p, hp⟩ := card_eq_one.mp hone
    exact verify256_dataError stored mem data codes originalCode hp hf
  oneCode he hone := verify256_codeError stored mem data codes originalCode he hone
  two htwo :=
    verify256_of_verdict stored mem data codes originalCode .many (by decide)
      (verdict_two covers_oddColumns htwo)
  even heven := by
    have hverdict := verdict_even covers_oddColumns heven
    split_ifs at hverdict
    · exact Or.inl (verify256_of_verdict stored mem data codes originalCode .clean (by decide) hverdict)
    · exact Or.inr (verify256_of_verdict stored mem data codes originalCode .many (by decide) hverdict)
  odd hodd hclean := by
    rw [verify256_answer stored] at hclean
    exact verdict_odd covers_oddColumns hodd (resultOf_injective hclean)
  rectangle I B hI hB he hf := by
    refine verify256_of_verdict stored mem data codes originalCode .clean (by decide) ?_
    rw [he, hf, syndrome, checks_rectangle hI hB]
    rfl

end Answer

/-! ## `Hamming_Verify256x` -/

/-- The state of the loop of `Hamming_Verify256x`. -/
structure VerifyLoop where
  mem : Mem UInt8
  data : Nat
  code : Nat
  size : UInt32
  result : HammingResult

/-- One pass: the next block, or the return of what cannot be corrected. -/
def verifyPass (codes : Mem UInt8) (_ : Unit) (s : VerifyLoop) : Option (Flow HammingResult VerifyLoop) :=
  let verified := verify256 s.mem s.data codes s.code
  let next := { s with
    mem := verified.2, data := s.data + 256, code := s.code + 3, size := s.size - 256 }
  match verified.1 with
  | .errorSinglebit => some (.next { next with result := .errorSinglebit })
  | .noError => some (.next next)
  | .errorEcc => some (.ret .errorEcc { s with mem := verified.2 })
  | .errorMultiplebits => some (.ret .errorMultiplebits { s with mem := verified.2 })

/-- The condition of the loop. -/
def verifying (s : VerifyLoop) : Bool := decide (0 < s.size)

/-- `Hamming_Verify256x`, if it ends within so many passes. -/
def hammingVerify256x (passes : Nat) (mem : Mem UInt8) (data : Nat) (size : UInt32) (codes : Mem UInt8)
    (code : Nat) : Option (HammingResult × Mem UInt8) :=
  match whileLoop verifying (verifyPass codes) (List.replicate passes ())
      ⟨mem, data, code, size, .noError⟩ with
  | none => none
  | some (.next s) => some (s.result, s.mem)
  | some (.ret error s) => some (error, s.mem)

section Blocks

variable (stored mem : Mem UInt8) (data : Nat) (codes : Mem UInt8) (code : Nat)

/-- The errors of block `k`. -/
def dataErrorsAt (k : Nat) : Finset (Fin 256 × Fin 8) :=
  dataErrors (behind stored (256 * k)) mem (data + 256 * k)

/-- The errors of its code. -/
def codeErrorsAt (k : Nat) : Finset (Fin 3 × Fin 8) :=
  codeErrors (behind stored (256 * k)) codes (code + 3 * k)

/-- Some of the first `k` blocks had an error in its data. -/
def corrected (k : Nat) : Prop := ∃ j < k, dataErrorsAt stored mem data j ≠ ∅

instance (k : Nat) : Decidable (corrected stored mem data k) :=
  inferInstanceAs (Decidable (∃ j < k, dataErrorsAt stored mem data j ≠ ∅))

/-- The loop in front of block `k` of `n`, if all blocks so far were accounted for. -/
def verifyState (n k : Nat) : VerifyLoop where
  mem := withBytes mem data (256 * k) stored
  data := data + 256 * k
  code := code + 3 * k
  size := UInt32.ofNat (256 * (n - k))
  result := if corrected stored mem data k then .errorSinglebit else .noError

/-- A restored block behind restored blocks. -/
theorem withBytes_succ (k : Nat) : withBytes mem data (256 * (k + 1)) stored =
    withBytes (withBytes mem data (256 * k) stored) (data + 256 * k) 256 (behind stored (256 * k)) := by
  funext address
  rw [withBytes_apply, withBytes_apply, withBytes_apply]
  by_cases hblock : data + 256 * k ≤ address ∧ address < data + 256 * k + 256
  · have hindex : 256 * k + (address - (data + 256 * k)) = address - data := by omega
    rw [if_pos hblock, if_pos (by omega), behind, hindex]
  · rw [if_neg hblock]
    refine if_congr ?_ rfl rfl
    omega

/-- What is restored does not matter behind it. -/
theorem dataErrors_withBytes (k : Nat) :
    dataErrors (behind stored (256 * k)) (withBytes mem data (256 * k) stored) (data + 256 * k) =
      dataErrorsAt stored mem data k := by
  have hblock : block (behind (withBytes mem data (256 * k) stored) (data + 256 * k)) =
      block (behind mem (data + 256 * k)) := by
    funext i
    unfold block behind
    rw [withBytes_apply, if_neg (by omega)]
  unfold dataErrorsAt dataErrors
  rw [hblock]

/-! ### Passes -/

variable {stored mem data codes code} {n k : Nat}

/-- Block `k` and its code have at most one error. -/
def OneError (stored mem : Mem UInt8) (data : Nat) (codes : Mem UInt8) (code k : Nat) : Prop :=
  #(dataErrorsAt stored mem data k) + #(codeErrorsAt stored codes code k) ≤ 1

instance : Decidable (OneError stored mem data codes code k) := inferInstanceAs (Decidable (_ ≤ _))

theorem verifying_verifyState (hsize : 256 * n < 2 ^ 32) :
    verifying (verifyState stored mem data code n k) = decide (k < n) := by
  have hnat : (UInt32.ofNat (256 * (n - k))).toNat = 256 * (n - k) := by
    rw [UInt32.toNat_ofNat', Nat.mod_eq_of_lt (by omega)]
  refine decide_eq_decide.mpr ?_
  show 0 < (UInt32.ofNat (256 * (n - k))).toNat ↔ k < n
  rw [hnat]
  omega

theorem corrected_succ : corrected stored mem data (k + 1) ↔
    corrected stored mem data k ∨ dataErrorsAt stored mem data k ≠ ∅ := by
  constructor
  · rintro ⟨j, hj, hne⟩
    rcases Nat.lt_succ_iff_lt_or_eq.mp hj with hlt | rfl
    · exact Or.inl ⟨j, hlt, hne⟩
    · exact Or.inr hne
  · rintro (⟨j, hj, hne⟩ | hne)
    · exact ⟨j, Nat.lt_succ_of_lt hj, hne⟩
    · exact ⟨k, Nat.lt_succ_self k, hne⟩

theorem verifyState_succ_size (hk : k < n) :
    UInt32.ofNat (256 * (n - k)) - 256 = UInt32.ofNat (256 * (n - (k + 1))) := by
  have hsplit : 256 * (n - k) = 256 * (n - (k + 1)) + 256 := by omega
  rw [hsplit, UInt32.ofNat_add]
  exact UInt32.add_sub_cancel _ _

/-- **Step.** A pass over a block whose code is right restores it. -/
theorem verifyPass_next (hk : k < n)
    (hone : OneError stored mem data codes code k) (hcode : codeErrorsAt stored codes code k = ∅) :
    verifyPass codes () (verifyState stored mem data code n k) =
      some (.next (verifyState stored mem data code n (k + 1))) := by
  have hdata := dataErrors_withBytes stored mem data k
  have hsub := verifyState_succ_size hk
  have hnext : verifyState stored mem data code n (k + 1) =
      { mem := withBytes mem data (256 * (k + 1)) stored
        data := data + 256 * k + 256
        code := code + 3 * k + 3
        size := UInt32.ofNat (256 * (n - k)) - 256
        result := if corrected stored mem data (k + 1) then .errorSinglebit else .noError } := by
    simp only [verifyState, hsub, Nat.mul_succ, Nat.add_assoc]
  have hcases : #(dataErrorsAt stored mem data k) = 0 ∨ #(dataErrorsAt stored mem data k) = 1 := by
    unfold OneError at hone
    omega
  rcases hcases with hnone | hsingle
  · have hempty := card_eq_zero.mp hnone
    have hanswer := verify256_noErrors _ _ _ codes (code + 3 * k) (hdata.trans hempty) hcode
    have hsame : withBytes mem data (256 * (k + 1)) stored = withBytes mem data (256 * k) stored := by
      rw [withBytes_succ, withBytes_self (hdata.trans hempty)]
    have hcorrected : corrected stored mem data (k + 1) ↔ corrected stored mem data k := by
      rw [corrected_succ]
      exact or_iff_left (not_not.mpr hempty)
    rw [hnext, hsame]
    simp only [verifyPass, verifyState, hanswer, hcorrected]
  · obtain ⟨p, hp⟩ := card_eq_one.mp hsingle
    have hanswer := verify256_dataError _ _ _ codes (code + 3 * k) (hdata.trans hp) hcode
    have hcorrected : corrected stored mem data (k + 1) := by
      refine corrected_succ.mpr (Or.inr fun hempty => ?_)
      rw [hempty, card_empty] at hsingle
      cases hsingle
    rw [hnext, withBytes_succ, if_pos hcorrected]
    simp only [verifyPass, verifyState, hanswer]

/-- **Stop.** A pass over a block whose code is wrong returns. -/
theorem verifyPass_ret (hone : OneError stored mem data codes code k)
    (hcode : codeErrorsAt stored codes code k ≠ ∅) :
    verifyPass codes () (verifyState stored mem data code n k) =
      some (.ret .errorEcc (verifyState stored mem data code n k)) := by
  have hpos : 0 < #(codeErrorsAt stored codes code k) := card_pos.mpr (nonempty_iff_ne_empty.mpr hcode)
  unfold OneError at hone
  have hempty : dataErrorsAt stored mem data k = ∅ := card_eq_zero.mp (by omega)
  have hanswer := verify256_codeError _ _ _ codes (code + 3 * k)
    ((dataErrors_withBytes stored mem data k).trans hempty)
    (show #(codeErrorsAt stored codes code k) = 1 by omega)
  simp only [verifyPass, verifyState, hanswer]

/-! ### The whole loop -/

/-- The first of `n` blocks whose code is wrong. -/
def stopAt (stored codes : Mem UInt8) (code n : Nat) : Nat :=
  Nat.find (⟨n, Or.inl rfl⟩ : ∃ k, k = n ∨ codeErrorsAt stored codes code k ≠ ∅)

theorem stopAt_le : stopAt stored codes code n ≤ n := Nat.find_le (Or.inl rfl)

theorem code_right_of_lt (h : k < stopAt stored codes code n) : codeErrorsAt stored codes code k = ∅ :=
  not_not.mp fun hne => Nat.find_min _ h (Or.inr hne)

theorem code_wrong_at_stop (h : stopAt stored codes code n < n) :
    codeErrorsAt stored codes code (stopAt stored codes code n) ≠ ∅ :=
  (Nat.find_spec (⟨n, Or.inl rfl⟩ : ∃ k, k = n ∨ codeErrorsAt stored codes code k ≠ ∅)).resolve_left
    (Nat.ne_of_lt h)

/-- **Run.** As long as the codes are right, the loop goes through the blocks. -/
theorem verifyPasses (hsize : 256 * n < 2 ^ 32) (m : Nat) :
    ∀ k, k + m ≤ n →
      (∀ j, k ≤ j → j < k + m → OneError stored mem data codes code j ∧
        codeErrorsAt stored codes code j = ∅) →
      passes verifying (verifyPass codes) (List.replicate m ()) (verifyState stored mem data code n k) =
        some (verifyState stored mem data code n (k + m)) := by
  induction m with
  | zero => exact fun k _ _ => rfl
  | succ m ih =>
      intro k hk hright
      obtain ⟨hone, hcode⟩ := hright k (le_refl k) (by omega)
      have hverifying : verifying (verifyState stored mem data code n k) = true := by
        rw [verifying_verifyState hsize]
        exact decide_eq_true (by omega)
      rw [List.replicate_succ, passes_cons hverifying (verifyPass_next (by omega) hone hcode),
        ih (k + 1) (by omega) fun j hj hlt => hright j (by omega) (by omega)]
      rw [Nat.add_assoc, Nat.add_comm 1 m]

/-- What `Hamming_Verify256x` reports of `n` blocks with at most one error each. -/
def verifyResult (stored mem : Mem UInt8) (data : Nat) (codes : Mem UInt8) (code n : Nat) :
    HammingResult :=
  if stopAt stored codes code n < n then .errorEcc
  else if corrected stored mem data n then .errorSinglebit
  else .noError

/-- **The loop.** With at most one error in each block and its code, the blocks in front of the first wrong
    code are restored, and the others are left as they were read. -/
theorem hammingVerify256x_run {passes' : Nat} (hsize : 256 * n < 2 ^ 32) (hpasses : n < passes')
    (hone : ∀ k < n, OneError stored mem data codes code k) :
    hammingVerify256x passes' mem data (UInt32.ofNat (256 * n)) codes code =
      some (verifyResult stored mem data codes code n,
        withBytes mem data (256 * stopAt stored codes code n) stored) := by
  have hle : stopAt stored codes code n ≤ n := stopAt_le
  generalize hstop : stopAt stored codes code n = stop at hle
  have hstart : (⟨mem, data, code, UInt32.ofNat (256 * n), .noError⟩ : VerifyLoop) =
      verifyState stored mem data code n 0 := by
    have hnone : ¬ corrected stored mem data 0 := fun ⟨_, hlt, _⟩ => absurd hlt (Nat.not_lt_zero _)
    simp only [verifyState, if_neg hnone, withBytes, load, Nat.mul_zero, List.range_zero, List.map_nil,
      store_nil, Nat.add_zero, Nat.sub_zero]
  have hrun : passes verifying (verifyPass codes) (List.replicate stop ())
      (verifyState stored mem data code n 0) = some (verifyState stored mem data code n (0 + stop)) :=
    verifyPasses hsize stop 0 (by omega)
      fun j _ hj => ⟨hone j (by omega), code_right_of_lt (n := n) (by omega)⟩
  rw [Nat.zero_add] at hrun
  have hschedule : List.replicate passes' () = List.replicate stop () ++
      () :: List.replicate (passes' - stop - 1) () := by
    rw [← List.replicate_succ, ← List.replicate_add]
    congr 1
    omega
  unfold hammingVerify256x verifyResult
  rw [hstart, hschedule, whileLoop_append hrun, hstop]
  by_cases hlt : stop < n
  · have hwrong : codeErrorsAt stored codes code stop ≠ ∅ := hstop ▸ code_wrong_at_stop (hstop ▸ hlt)
    have hverifying : verifying (verifyState stored mem data code n stop) = true := by
      rw [verifying_verifyState hsize]
      exact decide_eq_true hlt
    rw [whileLoop_ret hverifying (verifyPass_ret (hone stop hlt) hwrong), if_pos hlt]
    rfl
  · have hend : stop = n := Nat.le_antisymm hle (Nat.not_lt.mp hlt)
    subst hend
    have hverifying : verifying (verifyState stored mem data code stop stop) = false := by
      rw [verifying_verifyState hsize]
      exact decide_eq_false (Nat.lt_irrefl _)
    rw [whileLoop_exit hverifying, if_neg hlt]
    rfl

/-- What lies behind the first wrong code is what was stored, exactly if it was read so. -/
theorem withBytes_stop_iff {stop : Nat} (hstop : stop ≤ n) :
    withBytes mem data (256 * stop) stored = withBytes mem data (256 * n) stored ↔
      ∀ k, stop ≤ k → k < n → dataErrorsAt stored mem data k = ∅ := by
  constructor
  · intro heq k hk hkn
    refine differing_eq_empty_iff.mpr (funext fun i => ?_)
    have hat := congrFun heq (data + 256 * k + i)
    have hi := i.isLt
    have hindex : data + 256 * k + i - data = 256 * k + i := by omega
    rw [withBytes_apply, withBytes_apply, if_neg (by omega), if_pos (by omega), hindex] at hat
    exact hat.symm
  · intro hread
    funext address
    rw [withBytes_apply, withBytes_apply]
    by_cases hin : data ≤ address ∧ address < data + 256 * n
    · rw [if_pos hin]
      split_ifs with hfront
      · rfl
      · have hk : stop ≤ (address - data) / 256 ∧ (address - data) / 256 < n := by omega
        have hblock := differing_eq_empty_iff.mp (hread _ hk.1 hk.2)
        have hat := congrFun hblock ⟨(address - data) % 256, Nat.mod_lt _ (by decide)⟩
        have hindex : 256 * ((address - data) / 256) + (address - data) % 256 = address - data := by
          omega
        have haddress : data + 256 * ((address - data) / 256) + (address - data) % 256 = address := by
          omega
        simp only [block, behind, hindex, haddress] at hat
        exact hat.symm
    · rw [if_neg hin, if_neg (by omega)]

/-- No block with an error in its data lies behind one with an error in its code. -/
def CodeErrorsLast (stored mem : Mem UInt8) (data : Nat) (codes : Mem UInt8) (code n : Nat) : Prop :=
  ∀ j k, j ≤ k → k < n → codeErrorsAt stored codes code j ≠ ∅ → dataErrorsAt stored mem data k = ∅

theorem codeErrorsLast_iff : CodeErrorsLast stored mem data codes code n ↔
    ∀ k, stopAt stored codes code n ≤ k → k < n → dataErrorsAt stored mem data k = ∅ := by
  constructor
  · intro h k hk hkn
    exact h _ k hk hkn (code_wrong_at_stop (by omega))
  · intro h j k hjk hkn hwrong
    exact h k (Nat.le_trans (Nat.find_le (Or.inr hwrong)) hjk) hkn

/-- **`Hamming_Verify256x`.** With at most one error in each block and its code, the routine ends, reports
    no multibit error, and the data is what was stored exactly if no block with an error in its data lies
    behind one with an error in its code. -/
theorem hammingVerify256x_restores_iff {passes' : Nat} (hsize : 256 * n < 2 ^ 32) (hpasses : n < passes')
    (hone : ∀ k < n, OneError stored mem data codes code k) :
    ∃ result mem', hammingVerify256x passes' mem data (UInt32.ofNat (256 * n)) codes code =
        some (result, mem') ∧ result ≠ .errorMultiplebits ∧
      (mem' = withBytes mem data (256 * n) stored ↔ CodeErrorsLast stored mem data codes code n) := by
  refine ⟨_, _, hammingVerify256x_run hsize hpasses hone, ?_, ?_⟩
  · unfold verifyResult
    split_ifs <;> decide
  · rw [withBytes_stop_iff stopAt_le, codeErrorsLast_iff]

end Blocks

/-! ## Two blocks -/

/-- Memory of ones. -/
def ones : Mem UInt8 := fun _ => 0xff

/-- The same with the lowest bit of a byte flipped. -/
def flippedAt (address : Nat) : Mem UInt8 := Function.update ones address 0xfe

/-- A block of ones has a code of ones. -/
theorem compute256_ones : compute256 ones = fun _ => 0xff := by
  have hbits : ∀ {n : Nat}, bits (fun _ : Fin n => (0xff : UInt8)) = Finset.univ := by
    intro n
    refine Finset.eq_univ_of_forall fun p => ?_
    have hones : ∀ t : Fin 8, bit 0xff t = true := by decide
    exact mem_bits.mpr (hones p.2)
  apply bits_injective
  have heven : Even (Finset.univ : Finset (Fin 256)).card := by
    rw [Finset.card_univ, Fintype.card_fin]
    exact ⟨128, rfl⟩
  have hblock : block ones = fun _ => 0xff := rfl
  rw [bits_compute256, hblock, hbits, hbits, ← Finset.univ_product_univ, checks_rectangle heven (by decide),
    Finset.compl_empty]

section TwoBlocks

variable {mem codes : Mem UInt8} {data code : Nat}

/-- A bit of the second block is wrong, and one of the code of the first. -/
theorem flipped_errors (hmem : ∀ i < 512, mem (data + i) = flippedAt 259 i)
    (hcodes : ∀ j < 6, codes (code + j) = flippedAt 1 j) :
    (dataErrorsAt ones mem data 0 = ∅ ∧ codeErrorsAt ones codes code 0 = {(1, 0)}) ∧
      dataErrorsAt ones mem data 1 = {(3, 0)} ∧ codeErrorsAt ones codes code 1 = ∅ := by
  have hcode : ∀ k < 2, codeErrorsAt ones codes code k =
      differing (fun _ : Fin 3 => (0xff : UInt8)) fun j => flippedAt 1 (3 * k + j) := by
    intro k hk
    have hread : (fun j : Fin 3 => codes (code + 3 * k + j)) = fun j : Fin 3 => flippedAt 1 (3 * k + j) := by
      funext j
      rw [Nat.add_assoc, hcodes _ (by omega)]
    exact congrArg₂ differing compute256_ones hread
  have hblock : ∀ k < 2, dataErrorsAt ones mem data k =
      differing (block ones) fun i : Fin 256 => flippedAt 259 (256 * k + i) := by
    intro k hk
    have hread : block (behind mem (data + 256 * k)) = fun i : Fin 256 => flippedAt 259 (256 * k + i) := by
      funext i
      rw [block, behind, Nat.add_assoc, hmem _ (by omega)]
    exact congrArg (differing (block ones)) hread
  rw [hblock 0 (by decide), hblock 1 (by decide), hcode 0 (by decide), hcode 1 (by decide)]
  refine ⟨⟨?_, by decide⟩, ?_, by decide⟩
  · refine differing_eq_empty_iff.mpr (funext fun i => ?_)
    have hne : 256 * 0 + (i : Nat) ≠ 259 := by omega
    rw [flippedAt, Function.update_of_ne hne]
    rfl
  · have hflip : (fun i : Fin 256 => flippedAt 259 (256 * 1 + i)) = ByteBits.flip (block ones) (3, 0) := by
      funext i
      by_cases hi : i = 3
      · subst hi
        rfl
      · have hne : 256 * 1 + (i : Nat) ≠ 259 := fun h => hi (Fin.ext (by omega))
        rw [flippedAt, Function.update_of_ne hne]
        simp [ByteBits.flip, hi, block, ones]
    rw [hflip]
    exact differing_flip _ _

theorem flipped_oneError (hmem : ∀ i < 512, mem (data + i) = flippedAt 259 i)
    (hcodes : ∀ j < 6, codes (code + j) = flippedAt 1 j) : ∀ k < 2, OneError ones mem data codes code k := by
  obtain ⟨⟨hdata₀, hcode₀⟩, hdata₁, hcode₁⟩ := flipped_errors hmem hcodes
  intro k hk
  have hcases : k = 0 ∨ k = 1 := by omega
  rcases hcases with rfl | rfl
  · rw [OneError, hdata₀, hcode₀]
    decide
  · rw [OneError, hdata₁, hcode₁]
    decide

theorem flipped_not_codeErrorsLast (hmem : ∀ i < 512, mem (data + i) = flippedAt 259 i)
    (hcodes : ∀ j < 6, codes (code + j) = flippedAt 1 j) : ¬ CodeErrorsLast ones mem data codes code 2 := by
  obtain ⟨⟨-, hcode₀⟩, hdata₁, -⟩ := flipped_errors hmem hcodes
  intro h
  have hnone := h 0 1 (by decide) (by decide) (by rw [hcode₀]; decide)
  rw [hdata₁] at hnone
  exact absurd hnone (by decide)

end TwoBlocks

/-- The wrong code of the first block keeps the second one from being corrected. -/
theorem flipped_restores_iff :
    (∃ result mem', hammingVerify256x 3 (flippedAt 259) 0 (UInt32.ofNat (256 * 2)) (flippedAt 1) 0 =
        some (result, mem') ∧ result ≠ .errorMultiplebits ∧
      (mem' = withBytes (flippedAt 259) 0 (256 * 2) ones ↔
        CodeErrorsLast ones (flippedAt 259) 0 (flippedAt 1) 0 2)) ∧
      ¬ CodeErrorsLast ones (flippedAt 259) 0 (flippedAt 1) 0 2 := by
  have hmem : ∀ i < 512, flippedAt 259 (0 + i) = flippedAt 259 i := fun i _ => by rw [Nat.zero_add]
  have hcodes : ∀ j < 6, flippedAt 1 (0 + j) = flippedAt 1 j := fun j _ => by rw [Nat.zero_add]
  exact ⟨hammingVerify256x_restores_iff (by decide) (by decide) (flipped_oneError hmem hcodes),
    flipped_not_codeErrorsLast hmem hcodes⟩

end At91
end Obsw
