import Mathlib.Data.List.Basic
import Obsw.Config

/-!
# `Engine.NandFlash` — the NAND flash of the AT91 board

What the copy relies on of the NAND flash driver: `SkipBlockNandFlash_EraseBlock` and
`SkipBlockNandFlash_WritePage` return 0 or an error code (a bad block is one), a page write that returns
0 has stored the page, and no call touches another page or block.
-/

namespace Obsw
namespace Engine

/-- The data area of a page. -/
abbrev Page := List UInt8

/-- The pages of the flash, by block and page in the block. -/
abbrev NandFlash := Nat → Nat → Page

/-- How the driver ends a command: done, or with an error code and what it leaves behind. -/
inductive NandOutcome (α : Type) where
  | done
  | failed (code : Nat) (nonzero : code ≠ 0) (left : α)

/-- The value the driver returns. -/
def NandOutcome.retval {α : Type} : NandOutcome α → Nat
  | done => 0
  | failed code _ _ => code

theorem NandOutcome.retval_eq_zero {α : Type} {o : NandOutcome α} : o.retval = 0 ↔ o = done := by
  cases o with
  | done => simp [retval]
  | failed code nonzero left => simpa [retval] using nonzero

/-- The commands the engine gives the driver. -/
inductive NandCommand where
  | erase (block : Nat)
  | write (block page : Nat)
  deriving DecidableEq, Repr

/-- The flash with another page. -/
def setPage (flash : NandFlash) (block page : Nat) (data : Page) : NandFlash :=
  fun b p => if b = block ∧ p = page then data else flash b p

/-- An erased page. -/
def erasedPage : Page := List.replicate nandPageSize 0xff

/-- `SkipBlockNandFlash_EraseBlock`: the flash behind the call. -/
def skipBlockEraseBlock (o : NandOutcome (Nat → Page)) (flash : NandFlash) (block : Nat) :
    NandFlash :=
  fun b p =>
    if b = block then
      match o with
      | .done => erasedPage
      | .failed _ _ left => left p
    else flash b p

/-- `SkipBlockNandFlash_WritePage`: the flash behind the call. -/
def skipBlockWritePage (o : NandOutcome Page) (flash : NandFlash) (block page : Nat) (data : Page) :
    NandFlash :=
  match o with
  | .done => setPage flash block page data
  | .failed _ _ left => setPage flash block page left

@[simp] theorem setPage_same (flash : NandFlash) (block page : Nat) (data : Page) :
    setPage flash block page data block page = data := if_pos ⟨rfl, rfl⟩

theorem setPage_other {flash : NandFlash} {block page b p : Nat} (data : Page)
    (h : ¬ (b = block ∧ p = page)) : setPage flash block page data b p = flash b p := if_neg h

/-- A page write leaves the other pages alone, however it ends. -/
theorem skipBlockWritePage_other (o : NandOutcome Page) {flash : NandFlash} {block page b p : Nat}
    (data : Page) (h : ¬ (b = block ∧ p = page)) :
    skipBlockWritePage o flash block page data b p = flash b p := by
  cases o with
  | done => exact setPage_other data h
  | failed code nonzero left => exact setPage_other left h

end Engine
end Obsw
