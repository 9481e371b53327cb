import Mathlib.Data.Nat.ModEq
import Mathlib.Logic.Function.Basic

/-!
# `Lib.RingBuffer` — a list in a ring of slots

A ring of slots holds a list behind the slot that was read last: `entries` are the slots that follow on it, as many
as are in use. An entry is put behind the last one, in front of the first one, or taken from there.
-/

namespace RingBuffer

variable {β : Type*}

/-- The slot `n` places behind the one that follows on `read`. -/
def slot (length read n : Nat) : Nat := (read + 1 + n) % length

/-- The slot in front of one. -/
def prev (length read : Nat) : Nat := (read + (length - 1)) % length

/-- The entries behind the slot that was read last. -/
def entries (length : Nat) (slots : Nat → β) (read count : Nat) : List β :=
  (List.range count).map fun n => slots (slot length read n)

variable {length read count n m : Nat} {slots slots' : Nat → β} {x : β}

theorem entries_congr (h : ∀ n < count, slots' (slot length read n) = slots (slot length read n)) :
    entries length slots' read count = entries length slots read count :=
  List.map_congr_left fun n hn => h n (List.mem_range.mp hn)

theorem slot_lt (hlength : 0 < length) : slot length read n < length := Nat.mod_lt _ hlength

theorem slot_injective (hn : n < length) (hm : m < length) (h : slot length read n = slot length read m) : n = m :=
  Nat.ModEq.eq_of_lt_of_lt (Nat.ModEq.add_left_cancel' (read + 1) h) hn hm

/-- The slots behind `read` come round to it last. -/
theorem slot_ne_read (hread : read < length) (hn : n + 1 < length) : slot length read n ≠ read := by
  intro h
  have hmod : read + (1 + n) ≡ read + 0 [MOD length] := by
    show (read + (1 + n)) % length = read % length
    rw [Nat.mod_eq_of_lt hread, ← Nat.add_assoc]
    exact h
  have heq := Nat.ModEq.eq_of_lt_of_lt (Nat.ModEq.add_left_cancel' read hmod) (by omega) (by omega)
  omega

theorem slot_succ : slot length read (n + 1) = slot length (slot length read 0) n := by
  simp only [slot, Nat.add_zero, Nat.add_assoc, Nat.mod_add_mod]
  rw [Nat.add_comm n 1]

theorem slot_next : slot length read (n + 1) = (slot length read n + 1) % length := by
  simp only [slot, Nat.mod_add_mod, Nat.add_assoc]

theorem slot_prev (hread : read < length) : slot length (prev length read) 0 = read := by
  simp only [slot, prev, Nat.add_zero, Nat.mod_add_mod]
  rw [show read + (length - 1) + 1 = read + length by omega, Nat.add_mod_right, Nat.mod_eq_of_lt hread]

theorem slot_prev_succ (hread : read < length) : slot length (prev length read) (n + 1) = slot length read n := by
  rw [slot_succ, slot_prev hread]

/-- The first entry is in the slot that follows on `read`, and the others are behind that slot. -/
theorem entries_succ : entries length slots read (count + 1) =
    slots (slot length read 0) :: entries length slots (slot length read 0) count := by
  simp only [entries, List.range_succ_eq_map, List.map_cons, List.map_map]
  exact congrArg _ (List.map_congr_left fun n _ => congrArg slots slot_succ)

/-- An entry behind the last one. -/
theorem entries_push (hcount : count < length) :
    entries length (Function.update slots (slot length read count) x) read (count + 1) =
      entries length slots read count ++ [x] := by
  have hkept : entries length (Function.update slots (slot length read count) x) read count =
      entries length slots read count := entries_congr fun n hn =>
    Function.update_of_ne (fun heq => hn.ne (slot_injective (hn.trans hcount) hcount heq)) _ _
  rw [← hkept]
  simp only [entries, List.range_succ, List.map_append, List.map_cons, List.map_nil, Function.update_self]

/-- An entry in front of the first one, in the slot that was read last. -/
theorem entries_pushFront (hread : read < length) (hcount : count < length) :
    entries length (Function.update slots read x) (prev length read) (count + 1) =
      x :: entries length slots read count := by
  rw [entries_succ, slot_prev hread, Function.update_self]
  refine congrArg _ (entries_congr fun n hn => Function.update_of_ne ?_ _ _)
  exact slot_ne_read hread (by omega)

end RingBuffer
