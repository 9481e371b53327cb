import Mathlib.Data.Finset.SymmDiff
import Mathlib.Data.Fintype.Prod
import Mathlib.Data.Finset.BooleanAlgebra
import Mathlib.Order.SymmDiff

/-!
# `Lib.ByteBits` — the bits of a run of bytes

A run of `n` bytes is a function from `Fin n`, and `bits` is the set of its set bits, each a byte and a
place in it. Bytewise operations are set operations: exclusive or is the symmetric difference
(`bits_xor`), the complement of every byte is the complement (`bits_not`). Two runs differ in the bits
`differing`; `flip` toggles one of them.
-/

namespace ByteBits

open scoped symmDiff

/-! ## The bits of a byte -/

/-- Bit `t` of a byte. -/
def bit (b : UInt8) (t : Nat) : Bool := b.toBitVec.getLsbD t

theorem bit_eq_testBit (a : UInt8) (t : Nat) : bit a t = a.toNat.testBit t := rfl

@[simp] theorem bit_zero (t : Nat) : bit 0 t = false := by simp [bit]

@[simp] theorem bit_xor (a b : UInt8) (t : Nat) : bit (a ^^^ b) t = (bit a t ^^ bit b t) := by simp [bit]

@[simp] theorem bit_and (a b : UInt8) (t : Nat) : bit (a &&& b) t = (bit a t && bit b t) := by simp [bit]

@[simp] theorem bit_or (a b : UInt8) (t : Nat) : bit (a ||| b) t = (bit a t || bit b t) := by simp [bit]

theorem bit_not (a : UInt8) {t : Nat} (ht : t < 8) : bit (~~~a) t = !bit a t := by simp [bit, ht]

theorem bit_ofNat (n : Nat) {t : Nat} (ht : t < 8) : bit (UInt8.ofNat n) t = n.testBit t := by
  rw [bit_eq_testBit, UInt8.toNat_ofNat', Nat.testBit_mod_two_pow, decide_eq_true ht, Bool.true_and]

theorem bit_ge (a : UInt8) {t : Nat} (ht : 8 ≤ t) : bit a t = false := BitVec.getLsbD_of_ge _ _ ht

theorem bit_shiftRight (a k : UInt8) (t : Nat) (hk : k < 8) : bit (a >>> k) t = bit a (k.toNat + t) := by
  have hlt : k.toNat < 8 := hk
  simp [bit_eq_testBit, Nat.testBit_shiftRight, Nat.mod_eq_of_lt hlt]

theorem bit_shiftLeft (a k : UInt8) {t : Nat} (hk : k < 8) (ht : t < 8) :
    bit (a <<< k) t = (decide (k.toNat ≤ t) && bit a (t - k.toNat)) := by
  have hlt : k.toNat < 8 := hk
  rw [bit_eq_testBit, UInt8.toNat_shiftLeft, Nat.mod_eq_of_lt hlt, Nat.testBit_mod_two_pow,
    decide_eq_true ht, Bool.true_and, Nat.testBit_shiftLeft, bit_eq_testBit]

/-- A byte is known by its eight bits. -/
theorem eq_of_bit {a b : UInt8} (h : ∀ t < 8, bit a t = bit b t) : a = b :=
  UInt8.toBitVec_inj.mp (BitVec.eq_of_getLsbD_eq h)

theorem bit_one_shiftLeft (b t : Fin 8) : bit (1 <<< UInt8.ofNat b) t = decide (t = b) := by
  revert b t
  decide

/-- Masked with a single bit, a byte is zero exactly if the bit is not set. -/
theorem and_one_shiftLeft_ne_zero_iff (a : UInt8) (b : Fin 8) :
    a &&& (1 <<< UInt8.ofNat b) ≠ 0 ↔ bit a b = true := by
  constructor
  · intro hne
    by_contra hbit
    refine hne (eq_of_bit fun t ht => ?_)
    rw [bit_and, bit_one_shiftLeft b ⟨t, ht⟩, bit_zero]
    by_cases heq : (⟨t, ht⟩ : Fin 8) = b
    · subst heq
      rw [Bool.eq_false_of_not_eq_true hbit, Bool.false_and]
    · rw [decide_eq_false heq, Bool.and_false]
  · intro hbit hzero
    have hat := congrArg (bit · b) hzero
    simp [bit_one_shiftLeft, hbit] at hat

/-! ## The bits of a run -/

variable {n : Nat}

/-- The set bits of a run of bytes. -/
def bits (f : Fin n → UInt8) : Finset (Fin n × Fin 8) := {p | bit (f p.1) p.2 = true}

@[simp] theorem mem_bits {f : Fin n → UInt8} {p : Fin n × Fin 8} :
    p ∈ bits f ↔ bit (f p.1) p.2 = true := by simp [bits]

theorem bits_xor (f g : Fin n → UInt8) : bits (fun i => f i ^^^ g i) = bits f ∆ bits g := by
  ext p
  simp only [mem_bits, bit_xor, Finset.mem_symmDiff]
  cases bit (f p.1) p.2 <;> cases bit (g p.1) p.2 <;> decide

theorem bits_not (f : Fin n → UInt8) : bits (fun i => ~~~ f i) = (bits f)ᶜ := by
  ext p
  rw [Finset.mem_compl, mem_bits, mem_bits, bit_not _ p.2.isLt]
  simp

theorem bits_injective : Function.Injective (bits : (Fin n → UInt8) → _) := by
  intro f g h
  funext i
  refine eq_of_bit fun t ht => ?_
  have hat := Finset.ext_iff.mp h (i, ⟨t, ht⟩)
  rw [mem_bits, mem_bits] at hat
  exact Bool.eq_iff_iff.mpr hat

/-- The bits in which two runs differ. -/
def differing (f g : Fin n → UInt8) : Finset (Fin n × Fin 8) := bits f ∆ bits g

theorem bits_eq_symmDiff_differing (f g : Fin n → UInt8) : bits g = bits f ∆ differing f g :=
  (symmDiff_symmDiff_cancel_left _ _).symm

theorem differing_eq_empty_iff {f g : Fin n → UInt8} : differing f g = ∅ ↔ f = g := by
  rw [differing, ← Finset.bot_eq_empty, symmDiff_eq_bot]
  exact bits_injective.eq_iff

/-! ## Flipping a bit -/

/-- Toggle one bit. -/
def flip (f : Fin n → UInt8) (p : Fin n × Fin 8) : Fin n → UInt8 :=
  Function.update f p.1 (f p.1 ^^^ (1 <<< UInt8.ofNat p.2))

theorem bits_flip (f : Fin n → UInt8) (p : Fin n × Fin 8) : bits (flip f p) = bits f ∆ {p} := by
  obtain ⟨i, b⟩ := p
  ext ⟨j, t⟩
  rw [mem_bits, flip, Finset.mem_symmDiff, mem_bits, Finset.mem_singleton, Prod.mk.injEq]
  by_cases hij : j = i
  · subst hij
    rw [Function.update_self, bit_xor, bit_one_shiftLeft]
    by_cases htb : t = b
    · simp [htb]
    · simp [htb]
  · rw [Function.update_of_ne hij]
    simp [hij]

/-- A run differs from its flip in the one bit. -/
theorem differing_flip (f : Fin n → UInt8) (p : Fin n × Fin 8) : differing f (flip f p) = {p} := by
  rw [differing, bits_flip, symmDiff_symmDiff_cancel_left]

/-- Runs that differ in one bit are flips of each other. -/
theorem eq_flip_of_differing {f g : Fin n → UInt8} {p : Fin n × Fin 8} (h : differing f g = {p}) :
    f = flip g p := by
  apply bits_injective
  rw [bits_flip, ← h, differing, symmDiff_comm (bits f), symmDiff_symmDiff_cancel_left]

end ByteBits
