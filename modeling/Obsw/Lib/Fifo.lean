import Mathlib.Data.List.Basic

/-!
# `Lib.Fifo` — bounded queues

A queue with room for `capacity` elements, the oldest first. The bound is a field, so that a queue that
holds too much cannot be built.

## Contents
- **Writing.** `write` takes a list of elements as a whole or not at all; `insert` is the case of one
  element, and fails exactly on a full queue.
- **Reading.** `read` copies the oldest elements and leaves them in the queue, `delete` drops them, and
  `retrieve` takes the oldest one. They fail on a queue that holds too little.
-/

/-- A bounded queue. -/
structure Fifo (α : Type) where
  capacity : Nat
  elements : List α
  bounded : elements.length ≤ capacity

namespace Fifo

variable {α : Type}

def empty (capacity : Nat) : Fifo α := ⟨capacity, [], Nat.zero_le _⟩

def available (q : Fifo α) : Nat := q.elements.length

/-- How many more elements the queue takes. -/
def room (q : Fifo α) : Nat := q.capacity - q.elements.length

def full (q : Fifo α) : Bool := q.elements.length == q.capacity

/-- Append all of `xs`, if there is room for them. -/
def write (q : Fifo α) (xs : List α) : Option (Fifo α) :=
  if h : xs.length ≤ q.room then
    some ⟨q.capacity, q.elements ++ xs, by
      have := q.bounded
      rw [room] at h
      rw [List.length_append]
      omega⟩
  else none

def insert (q : Fifo α) (x : α) : Option (Fifo α) := q.write [x]

/-- The oldest `n` elements, which stay in the queue. -/
def read (q : Fifo α) (n : Nat) : Option (List α) :=
  if n ≤ q.available then some (q.elements.take n) else none

/-- Drop the oldest `n` elements. -/
def delete (q : Fifo α) (n : Nat) : Option (Fifo α) :=
  if n ≤ q.available then
    some ⟨q.capacity, q.elements.drop n,
      Nat.le_trans (List.drop_sublist n q.elements).length_le q.bounded⟩
  else none

/-- The oldest element, and the queue without it. -/
def retrieve (q : Fifo α) : Option (α × Fifo α) :=
  match h : q.elements with
  | [] => none
  | x :: xs =>
    some (x, ⟨q.capacity, xs, by
      have := q.bounded
      rw [h, List.length_cons] at this
      omega⟩)

/-! ## Writing -/

theorem write_of_le {q : Fifo α} {xs : List α} (h : xs.length ≤ q.room) :
    ∃ q', q.write xs = some q' ∧ q'.elements = q.elements ++ xs ∧ q'.capacity = q.capacity :=
  ⟨_, dif_pos h, rfl, rfl⟩

theorem write_of_lt {q : Fifo α} {xs : List α} (h : q.room < xs.length) : q.write xs = none :=
  dif_neg (Nat.not_le.mpr h)

/-- A write that fails leaves the queue as it was. -/
theorem elements_write_getD (q : Fifo α) (xs : List α) :
    ((q.write xs).getD q).elements = q.elements ++ if xs.length ≤ q.room then xs else [] := by
  by_cases h : xs.length ≤ q.room
  · obtain ⟨q', hwrite, helements, -⟩ := write_of_le h
    rw [hwrite, Option.getD_some, helements, if_pos h]
  · rw [write_of_lt (Nat.lt_of_not_le h), Option.getD_none, if_neg h, List.append_nil]

theorem room_of_append {q q' : Fifo α} {xs : List α} (helements : q'.elements = q.elements ++ xs)
    (hcapacity : q'.capacity = q.capacity) : q'.room = q.room - xs.length := by
  unfold room
  rw [helements, hcapacity, List.length_append, Nat.sub_add_eq]

theorem full_iff_room {q : Fifo α} : q.full = true ↔ q.room = 0 := by
  have := q.bounded
  simp only [full, room, beq_iff_eq]
  omega

/-- A queue that has room takes the element, behind the others. -/
theorem insert_of_room {q : Fifo α} (x : α) (h : 0 < q.room) :
    ∃ q', q.insert x = some q' ∧ q'.elements = q.elements ++ [x] ∧ q'.capacity = q.capacity :=
  write_of_le h

theorem insert_of_full {q : Fifo α} (x : α) (h : q.room = 0) : q.insert x = none :=
  write_of_lt (by rw [h]; exact Nat.one_pos)

theorem isSome_insert {q : Fifo α} (x : α) : (q.insert x).isSome = true ↔ 0 < q.room := by
  by_cases h : 0 < q.room
  · obtain ⟨q', hinsert, -⟩ := insert_of_room x h
    rw [hinsert]
    exact iff_of_true rfl h
  · rw [insert_of_full x (Nat.eq_zero_of_not_pos h)]
    exact iff_of_false Bool.false_ne_true h

/-! ## Reading -/

theorem read_available (q : Fifo α) : q.read q.available = some q.elements := by
  rw [read, if_pos (Nat.le_refl _), available, List.take_length]

theorem delete_of_le {q : Fifo α} {n : Nat} (h : n ≤ q.available) :
    ∃ q', q.delete n = some q' ∧ q'.elements = q.elements.drop n ∧ q'.capacity = q.capacity :=
  ⟨_, if_pos h, rfl, rfl⟩

theorem retrieve_of_nil {q : Fifo α} (h : q.elements = []) : q.retrieve = none := by
  unfold retrieve
  split
  · rfl
  · rename_i heq
    rw [h] at heq
    cases heq

theorem retrieve_of_cons {q : Fifo α} {x : α} {xs : List α} (h : q.elements = x :: xs) :
    ∃ q', q.retrieve = some (x, q') ∧ q'.elements = xs := by
  unfold retrieve
  split
  · rename_i heq
    rw [h] at heq
    cases heq
  · rename_i heq
    rw [h] at heq
    cases heq
    exact ⟨_, rfl, rfl⟩

end Fifo
