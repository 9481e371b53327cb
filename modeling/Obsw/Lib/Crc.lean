import Mathlib.Data.List.Basic

/-!
# `Lib.Crc` — cyclic redundancy checks, bit by bit

A register of `w` bits takes the bits of a message, most significant first: `shiftIn` shifts it by one and
subtracts the polynomial if the bit that goes out differs from the one that comes in. `remainder` is the
register behind the message.

## Contents
- **Streaming.** `remainder_append`: the register carries all there is to know about the first part.
- **Linearity.** `remainder_xor`: registers and messages can be added bit by bit.
- **Own bits.** `remainder_topBits`: a register that takes its own bits is shifted only, and so
  `remainder_self` is zero: a message followed by its remainder has the remainder zero.
- **Tables.** `remainder_eq_table`: what several bits do to a register is a shift, and what they do to the
  zero register together with the bits that go out.
-/

namespace Crc

variable {w : Nat} {poly : BitVec w}

/-- Take one bit of the message. -/
def shiftIn (poly crc : BitVec w) (bit : Bool) : BitVec w :=
  if (crc.msb ^^ bit) = true then (crc <<< 1) ^^^ poly else crc <<< 1

/-- The register behind a message. -/
def remainder (poly start : BitVec w) (message : List Bool) : BitVec w :=
  message.foldl (shiftIn poly) start

/-- The `k` most significant bits, most significant first. -/
def topBits (k : Nat) (v : BitVec w) : List Bool := (List.range k).map v.getMsbD

@[simp] theorem topBits_length (k : Nat) (v : BitVec w) : (topBits k v).length = k := by
  simp [topBits]

/-! ## Streaming -/

theorem remainder_append (start : BitVec w) (xs ys : List Bool) :
    remainder poly start (xs ++ ys) = remainder poly (remainder poly start xs) ys :=
  List.foldl_append

@[simp] theorem remainder_nil (start : BitVec w) : remainder poly start [] = start := rfl

theorem remainder_cons (start : BitVec w) (x : Bool) (xs : List Bool) :
    remainder poly start (x :: xs) = remainder poly (shiftIn poly start x) xs := rfl

/-! ## Linearity -/

theorem shiftIn_xor (a b : BitVec w) (x y : Bool) :
    shiftIn poly (a ^^^ b) (x ^^ y) = shiftIn poly a x ^^^ shiftIn poly b y := by
  unfold shiftIn
  rw [BitVec.msb_xor, BitVec.shiftLeft_xor_distrib]
  have hcancel : ∀ u v : BitVec w, u ^^^ poly ^^^ (v ^^^ poly) = u ^^^ v := by
    intro u v
    rw [BitVec.xor_comm v poly, BitVec.xor_assoc, ← BitVec.xor_assoc poly poly v, BitVec.xor_self,
      BitVec.zero_xor]
  cases a.msb <;> cases b.msb <;> cases x <;> cases y <;> simp [hcancel] <;> ac_rfl

theorem remainder_xor (poly a b : BitVec w) (xs ys : List Bool) (hlen : xs.length = ys.length) :
    remainder poly (a ^^^ b) (List.zipWith xor xs ys) = remainder poly a xs ^^^ remainder poly b ys := by
  induction xs generalizing a b ys with
  | nil =>
      obtain rfl := List.length_eq_zero_iff.mp hlen.symm
      rfl
  | cons x xs ih =>
      cases ys with
      | nil => cases hlen
      | cons y ys =>
          rw [List.zipWith_cons_cons, remainder_cons, remainder_cons, remainder_cons, shiftIn_xor]
          exact ih _ _ ys (Nat.succ.inj hlen)

/-! ## A register's own bits -/

/-- The bit that comes in is the one that goes out: the register is shifted. -/
theorem remainder_topBits (a : BitVec w) (k : Nat) : remainder poly a (topBits k a) = a <<< k := by
  induction k with
  | zero => simp [topBits]
  | succ k ih =>
      have hbits : topBits (k + 1) a = topBits k a ++ [a.getMsbD k] := by
        rw [topBits, List.range_succ, List.map_append]
        rfl
      rw [hbits, remainder_append, ih, remainder_cons, remainder_nil, shiftIn, BitVec.msb_shiftLeft]
      simp [BitVec.shiftLeft_add]

/-- **Residue.** A register that takes its own bits is zero. -/
theorem remainder_self (a : BitVec w) : remainder poly a (topBits w a) = 0 := by
  rw [remainder_topBits]
  exact BitVec.shiftLeft_eq_zero (Nat.le_refl w)

/-! ## Tables -/

/-- **Table rule.** -/
theorem remainder_eq_table (a : BitVec w) (xs : List Bool) :
    remainder poly a xs =
      remainder poly 0#w (List.zipWith xor (topBits xs.length a) xs) ^^^ (a <<< xs.length) := by
  have hboth := remainder_xor poly a a (topBits xs.length a) xs (topBits_length _ _)
  rw [BitVec.xor_self, remainder_topBits] at hboth
  rw [hboth, BitVec.xor_comm (a <<< xs.length), BitVec.xor_assoc, BitVec.xor_self, BitVec.xor_zero]

/-! ## Bits of bit vectors -/

/-- The bits of two bit vectors, added, are those of a third. -/
theorem zipWith_topBits {m n : Nat} {k : Nat} {a : BitVec w} {b : BitVec m} {c : BitVec n}
    (h : ∀ i < k, (a.getMsbD i ^^ b.getMsbD i) = c.getMsbD i) :
    List.zipWith xor (topBits k a) (topBits k b) = topBits k c := by
  rw [topBits, topBits, topBits, List.zipWith_map, List.zipWith_self]
  exact List.map_congr_left fun i hi => h i (List.mem_range.mp hi)

theorem topBits_append {m n : Nat} (x : BitVec m) (y : BitVec n) :
    topBits (m + n) (x ++ y) = topBits m x ++ topBits n y := by
  rw [topBits, topBits, topBits, List.range_add, List.map_append, List.map_map]
  congr 1
  · refine List.map_congr_left fun i hi => ?_
    have hlt := List.mem_range.mp hi
    rw [BitVec.getMsbD_append]
    simp [Nat.not_le.mpr hlt]
  · refine List.map_congr_left fun i hi => ?_
    rw [Function.comp_apply, BitVec.getMsbD_append]
    simp

end Crc
