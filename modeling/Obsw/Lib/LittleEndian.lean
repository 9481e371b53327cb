import Mathlib.Tactic.Ring
import Obsw.Lib.Memory

/-!
# `Lib.LittleEndian` — little-endian numbers and the fields of a packed record

`toLE k n` are the `k` low bytes of `n`, least significant first, and `ofLE` reads such a list back.
A `Field` is a byte range of a memory holding one little-endian number; reading a field after writing
it gives the number modulo the field's width, and a write leaves every disjoint field alone. The same
holds of a record of fields (`writeAll`).
-/

namespace LittleEndian

open Memory

/-! ## Bytes of a number -/

/-- The `k` low bytes of `n`, least significant byte first. -/
def toLE : Nat → Nat → List UInt8
  | 0,     _ => []
  | k + 1, n => UInt8.ofNat n :: toLE k (n / 256)

/-- The number whose bytes, least significant first, are the list. -/
def ofLE : List UInt8 → Nat
  | []      => 0
  | b :: bs => b.toNat + 256 * ofLE bs

@[simp] theorem toLE_length (k n : Nat) : (toLE k n).length = k := by
  induction k generalizing n with
  | zero => rfl
  | succ k ih => simp [toLE, ih]

theorem ofLE_lt (bs : List UInt8) : ofLE bs < 256 ^ bs.length := by
  induction bs with
  | nil => simp [ofLE]
  | cons b bs ih =>
      have hb : b.toNat < 256 := b.toNat_lt
      simp only [ofLE, List.length_cons, pow_succ]
      omega

/-- **Round trip.** Reading the bytes of `n` back gives `n` modulo the width. -/
theorem ofLE_toLE (k n : Nat) : ofLE (toLE k n) = n % 256 ^ k := by
  induction k generalizing n with
  | zero => simp [toLE, ofLE, Nat.mod_one]
  | succ k ih =>
      have hb : (UInt8.ofNat n).toNat = n % 256 := by simp
      rw [toLE, ofLE, ih, hb, pow_succ, mul_comm (256 ^ k) 256, Nat.mod_mul]

theorem ofLE_append (xs ys : List UInt8) :
    ofLE (xs ++ ys) = ofLE xs + 256 ^ xs.length * ofLE ys := by
  induction xs with
  | nil => simp [ofLE]
  | cons x xs ih =>
      rw [List.cons_append, ofLE, ofLE, ih, List.length_cons, pow_succ]
      ring

/-! ## Fields -/

/-- A byte range holding one little-endian number. -/
structure Field where
  addr : Nat
  size : Nat
  deriving DecidableEq, Repr

namespace Field

/-- The first address behind the field. -/
def next (f : Field) : Nat := f.addr + f.size

/-- The number stored in the field. -/
def read (f : Field) (m : Mem UInt8) : Nat := ofLE (load m f.addr f.size)

/-- Store a number in the field. -/
def write (f : Field) (m : Mem UInt8) (v : Nat) : Mem UInt8 := store m f.addr (toLE f.size v)

/-- The two byte ranges do not meet. -/
def Disjoint (f g : Field) : Prop := f.next ≤ g.addr ∨ g.next ≤ f.addr

instance (f g : Field) : Decidable (f.Disjoint g) := inferInstanceAs (Decidable (_ ∨ _))

theorem Disjoint.symm {f g : Field} (h : f.Disjoint g) : g.Disjoint f := Or.symm h

theorem read_lt (f : Field) (m : Mem UInt8) : f.read m < 256 ^ f.size := by
  have h := ofLE_lt (load m f.addr f.size)
  rwa [load_length] at h

theorem read_write (f : Field) (m : Mem UInt8) (v : Nat) :
    f.read (f.write m v) = v % 256 ^ f.size := by
  have hload : load (f.write m v) f.addr f.size = toLE f.size v := by
    have := load_store_same m f.addr (toLE f.size v)
    rwa [toLE_length] at this
  rw [read, hload, ofLE_toLE]

/-- A write into a disjoint byte range leaves the field alone. -/
theorem read_store_disjoint {f : Field} {m : Mem UInt8} {a : Nat} {bs : List UInt8}
    (h : f.next ≤ a ∨ a + bs.length ≤ f.addr) : f.read (store m a bs) = f.read m := by
  rw [read, read, load_store_disjoint h]

theorem read_write_disjoint {f g : Field} {m : Mem UInt8} (h : f.Disjoint g) (v : Nat) :
    f.read (g.write m v) = f.read m := by
  apply read_store_disjoint
  rw [toLE_length]
  exact h

/-- The field depends only on the cells of its range. -/
theorem read_congr {f : Field} {m m' : Mem UInt8}
    (h : ∀ i < f.size, m' (f.addr + i) = m (f.addr + i)) : f.read m' = f.read m := by
  rw [read, read, load_congr h]

/-! ## Records -/

/-- Store numbers in fields, one after the other. -/
def writeAll (ws : List (Field × Nat)) (m : Mem UInt8) : Mem UInt8 :=
  ws.foldl (fun m w => w.1.write m w.2) m

/-- A field that meets none of the written ones is left alone. -/
theorem read_writeAll_disjoint {f : Field} {ws : List (Field × Nat)}
    (h : ∀ w ∈ ws, f.Disjoint w.1) (m : Mem UInt8) : f.read (writeAll ws m) = f.read m := by
  induction ws generalizing m with
  | nil => rfl
  | cons w ws ih =>
      have htail := ih (fun w hw => h w (List.mem_cons_of_mem _ hw)) (w.1.write m w.2)
      exact htail.trans (read_write_disjoint (h w List.mem_cons_self) w.2)

/-- If the written fields do not meet one another, each of them reads back as written. -/
theorem read_writeAll {f : Field} {v : Nat} {ws : List (Field × Nat)}
    (h : ws.Pairwise fun w w' => w'.1.Disjoint w.1) (hmem : (f, v) ∈ ws) (m : Mem UInt8) :
    f.read (writeAll ws m) = v % 256 ^ f.size := by
  induction ws generalizing m with
  | nil => cases hmem
  | cons w ws ih =>
      obtain ⟨hhead, htail⟩ := List.pairwise_cons.mp h
      rcases List.mem_cons.mp hmem with rfl | hmem
      · have hrest : f.read (writeAll ws (f.write m v)) = f.read (f.write m v) :=
          read_writeAll_disjoint (fun w hw => (hhead w hw).symm) _
        exact hrest.trans (read_write f m v)
      · exact ih htail hmem _

end Field

end LittleEndian
