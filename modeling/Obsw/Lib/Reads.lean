import Mathlib.Data.List.Basic

/-!
# `Lib.Reads` — computations that read a buffer

A computation that asks for bytes of a buffer by their index, one after the other, where each index may
depend on the bytes read before. It has a result (`run`) and the indices it reads (`indices`) on every
buffer. That a computation stays inside a size is `Inside`, which the simp set takes apart read by read.
-/

/-- A computation with results in `α` that reads bytes of a buffer. -/
inductive Reads (α : Type) where
  | done (a : α)
  | read (index : Nat) (next : UInt8 → Reads α)

namespace Reads

variable {α β : Type}

/-- The result on a buffer. -/
def run : Reads α → (Nat → UInt8) → α
  | done a, _ => a
  | read index next, buffer => (next (buffer index)).run buffer

/-- The indices that are read, in their order. -/
def indices : Reads α → (Nat → UInt8) → List Nat
  | done _, _ => []
  | read index next, buffer => index :: (next (buffer index)).indices buffer

/-- Another computation on the result. -/
def map (f : α → β) : Reads α → Reads β
  | done a => done (f a)
  | read index next => read index fun byte => (next byte).map f

/-- A computation that goes on with another one. -/
def bind : Reads α → (α → Reads β) → Reads β
  | done a, f => f a
  | read index next, f => read index fun byte => (next byte).bind f

/-- No index at or behind the size is read. -/
def Inside (r : Reads α) (buffer : Nat → UInt8) (size : Nat) : Prop :=
  ∀ index ∈ r.indices buffer, index < size

variable {buffer : Nat → UInt8} {size : Nat}

@[simp] theorem run_done (a : α) : (done a).run buffer = a := rfl

@[simp] theorem run_read (index : Nat) (next : UInt8 → Reads α) :
    (read index next).run buffer = (next (buffer index)).run buffer := rfl

@[simp] theorem inside_done (a : α) : (done a).Inside buffer size := by
  intro index hindex
  cases hindex

@[simp] theorem inside_read {index : Nat} {next : UInt8 → Reads α} :
    (read index next).Inside buffer size ↔
      index < size ∧ (next (buffer index)).Inside buffer size := by
  rw [Inside, indices, List.forall_mem_cons]
  exact Iff.rfl

@[simp] theorem run_map (f : α → β) (r : Reads α) : (r.map f).run buffer = f (r.run buffer) := by
  induction r with
  | done a => rfl
  | read index next ih => exact ih (buffer index)

@[simp] theorem inside_map {f : α → β} {r : Reads α} :
    (r.map f).Inside buffer size ↔ r.Inside buffer size := by
  induction r with
  | done a => simp [map]
  | read index next ih => rw [map, inside_read, inside_read, ih (buffer index)]

@[simp] theorem run_bind (r : Reads α) (f : α → Reads β) :
    (r.bind f).run buffer = (f (r.run buffer)).run buffer := by
  induction r with
  | done a => rfl
  | read index next ih => exact ih (buffer index)

theorem bind_of_map {γ : Type} (f : α → β) (r : Reads α) (g : β → Reads γ) :
    (r.map f).bind g = r.bind fun a => g (f a) := by
  induction r with
  | done a => rfl
  | read index next ih => exact congrArg (read index) (funext ih)

/-- What goes on is inside as well. -/
@[simp] theorem inside_bind {r : Reads α} {f : α → Reads β} :
    (r.bind f).Inside buffer size ↔
      r.Inside buffer size ∧ (f (r.run buffer)).Inside buffer size := by
  induction r with
  | done a => simp [bind]
  | read index next ih => rw [bind, inside_read, inside_read, ih (buffer index), run_read, and_assoc]

/-- The bytes of the buffer up to the size, as the data of a command. -/
def payload : (Nat → UInt8) → Nat → List UInt8
  | _, 0 => []
  | buffer, size + 1 => buffer 0 :: payload (fun index => buffer (index + 1)) size

end Reads
