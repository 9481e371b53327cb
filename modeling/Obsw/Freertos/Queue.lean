import Obsw.Lib.Memory
import Obsw.Lib.RingBuffer

/-!
# `Freertos.Queue` — the queues of the kernel

`queue.c`: items of a fixed size are copied into a ring of bytes, behind the last one or, on request, in front of the
first one, and copied from there. Modelled is what a call does in its critical section; a task that finds the queue
full or empty leaves it as it is, and may wait and try again. A queue that was created holds a list (`queue_fifo`).
Addresses are numbers: the storage was allocated, so no pointer into it wraps, and a pointer that is moved back in front
of it does not either if the storage lies at no lower an address than an item is long. The members of `Queue_t` lie
outside the memory of the model, so no item is stored over them. Lengths and sizes are not bounded: what
`xQueueGenericCreate` does when the storage would come near `2 ^ 32` bytes is left out, and the functions below start
from storage that is there.
-/

namespace Obsw
namespace Freertos

open Memory RingBuffer

/-- `xCopyPosition`: `queueSEND_TO_BACK`, `queueSEND_TO_FRONT` or `queueOVERWRITE`. -/
inductive CopyPosition where
  | sendToBack
  | sendToFront
  | overwrite
  deriving DecidableEq, Repr

/-- `Queue_t`, without the lists of the tasks that wait and the counts of a locked queue. -/
structure Queue where
  pcHead : Nat
  pcWriteTo : Nat
  pcTail : Nat
  pcReadFrom : Nat
  uxMessagesWaiting : Nat
  uxLength : Nat
  uxItemSize : Nat
  deriving DecidableEq, Repr

namespace Queue

variable (q : Queue)

/-- `xQueueGenericReset`. -/
def xQueueGenericReset : Queue :=
  { q with
    pcTail := q.pcHead + q.uxLength * q.uxItemSize
    uxMessagesWaiting := 0
    pcWriteTo := q.pcHead
    pcReadFrom := q.pcHead + (q.uxLength - 1) * q.uxItemSize }

/-- `prvInitialiseNewQueue`: the queue at `pxNewQueue`, with its storage. -/
def prvInitialiseNewQueue (uxQueueLength uxItemSize pucQueueStorage pxNewQueue : Nat) : Queue :=
  { pcHead := if uxItemSize = 0 then pxNewQueue else pucQueueStorage
    pcWriteTo := 0
    pcTail := 0
    pcReadFrom := 0
    uxMessagesWaiting := 0
    uxLength := uxQueueLength
    uxItemSize := uxItemSize : Queue }.xQueueGenericReset

/-- `prvCopyDataToQueue`, on a queue that is no mutex. -/
def prvCopyDataToQueue (m : Mem UInt8) (item : List UInt8) (xPosition : CopyPosition) : Mem UInt8 × Queue :=
  if q.uxItemSize = 0 then (m, { q with uxMessagesWaiting := q.uxMessagesWaiting + 1 })
  else if xPosition = .sendToBack then
    let pcWriteTo := q.pcWriteTo + q.uxItemSize
    (store m q.pcWriteTo item,
      { q with
        pcWriteTo := if q.pcTail ≤ pcWriteTo then q.pcHead else pcWriteTo
        uxMessagesWaiting := q.uxMessagesWaiting + 1 })
  else
    let pcReadFrom := q.pcReadFrom - q.uxItemSize
    -- an item is overwritten, not added
    let uxMessagesWaiting :=
      if xPosition = .overwrite ∧ 0 < q.uxMessagesWaiting then q.uxMessagesWaiting - 1 else q.uxMessagesWaiting
    (store m q.pcReadFrom item,
      { q with
        pcReadFrom := if pcReadFrom < q.pcHead then q.pcTail - q.uxItemSize else pcReadFrom
        uxMessagesWaiting := uxMessagesWaiting + 1 })

/-- `prvCopyDataFromQueue`: the item, and the queue behind it. -/
def prvCopyDataFromQueue (m : Mem UInt8) : List UInt8 × Queue :=
  if q.uxItemSize = 0 then ([], q)
  else
    let pcReadFrom := q.pcReadFrom + q.uxItemSize
    let pcReadFrom := if q.pcTail ≤ pcReadFrom then q.pcHead else pcReadFrom
    (load m pcReadFrom q.uxItemSize, { q with pcReadFrom := pcReadFrom })

/-- The critical section of `xQueueGenericSend` and `xQueueGenericSendFromISR`; none if the queue is full. -/
def xQueueGenericSend (m : Mem UInt8) (item : List UInt8) (xCopyPosition : CopyPosition) :
    Option (Mem UInt8 × Queue) :=
  if q.uxMessagesWaiting < q.uxLength ∨ xCopyPosition = .overwrite then
    some (q.prvCopyDataToQueue m item xCopyPosition)
  else none

/-- The critical section of `xQueueReceive` and `xQueueReceiveFromISR`; none if the queue is empty. -/
def xQueueReceive (m : Mem UInt8) : Option (List UInt8 × Queue) :=
  if 0 < q.uxMessagesWaiting then
    let copied := q.prvCopyDataFromQueue m
    some (copied.1, { copied.2 with uxMessagesWaiting := q.uxMessagesWaiting - 1 })
  else none

/-- The critical section of `xQueuePeek` and `xQueuePeekFromISR`; none if the queue is empty. -/
def xQueuePeek (m : Mem UInt8) : Option (List UInt8 × Queue) :=
  if 0 < q.uxMessagesWaiting then
    let copied := q.prvCopyDataFromQueue m
    some (copied.1, { copied.2 with pcReadFrom := q.pcReadFrom })
  else none

/-- What lies in a slot of the storage. -/
def stored (m : Mem UInt8) (n : Nat) : List UInt8 := load m (q.pcHead + n * q.uxItemSize) q.uxItemSize

/-- The queue holds the items, behind the slot that was read last. -/
structure Holds (m : Mem UInt8) (read : Nat) (items : List (List UInt8)) : Prop where
  read_lt : read < q.uxLength
  bounded : items.length ≤ q.uxLength
  uxItemSize : q.uxItemSize ≤ q.pcHead
  pcTail : q.pcTail = q.pcHead + q.uxLength * q.uxItemSize
  pcReadFrom : q.pcReadFrom = q.pcHead + read * q.uxItemSize
  pcWriteTo : q.pcWriteTo = q.pcHead + slot q.uxLength read items.length * q.uxItemSize
  uxMessagesWaiting : q.uxMessagesWaiting = items.length
  entries : entries q.uxLength (q.stored m) read items.length = items

section Pointers

variable (head : Nat) {length size n : Nat}

/-- A pointer into the storage moves on to the next slot. -/
theorem pointer_next (hsize : 0 < size) (hn : n < length) :
    (if head + length * size ≤ head + n * size + size then head else head + n * size + size) =
      head + (n + 1) % length * size := by
  have hsucc : n * size + size = (n + 1) * size := (Nat.succ_mul n size).symm
  rw [Nat.add_assoc, hsucc]
  rcases Nat.lt_or_eq_of_le (Nat.succ_le_of_lt hn) with hlt | heq
  · have hmul : (n + 1) * size < length * size := Nat.mul_lt_mul_of_pos_right hlt hsize
    rw [if_neg (by omega), Nat.mod_eq_of_lt hlt]
  · rw [← Nat.succ_eq_add_one, heq, if_pos (Nat.le_refl _), Nat.mod_self, Nat.zero_mul, Nat.add_zero]

/-- A pointer into the storage moves back to the slot in front. -/
theorem pointer_prev (hsize : 0 < size) (hhead : size ≤ head) (hn : n < length) :
    (if head + n * size - size < head then head + length * size - size else head + n * size - size) =
      head + prev length n * size := by
  rw [prev]
  cases n with
  | zero =>
      have hmul : length * size = (length - 1) * size + size := by
        rw [← Nat.succ_mul, Nat.succ_eq_add_one, Nat.sub_add_cancel hn]
      rw [Nat.zero_add, Nat.mod_eq_of_lt (by omega), if_pos (by omega)]
      omega
  | succ n =>
      have hmul : (n + 1) * size = n * size + size := Nat.succ_mul n size
      have hmod : (n + 1 + (length - 1)) % length = n := by
        rw [show n + 1 + (length - 1) = n + length by omega, Nat.add_mod_right, Nat.mod_eq_of_lt (by omega)]
      rw [hmod, if_neg (by omega)]
      omega

end Pointers

variable {q} {m : Mem UInt8} {read n : Nat} {items rest : List (List UInt8)} {item : List UInt8}

/-- Writing a slot changes that one. -/
theorem stored_store (hitem : item.length = q.uxItemSize) :
    q.stored (store m (q.pcHead + n * q.uxItemSize) item) = Function.update (q.stored m) n item := by
  funext i
  by_cases hi : i = n
  · subst hi
    rw [Function.update_self, stored, ← hitem]
    exact load_store_same _ _ _
  · rw [Function.update_of_ne hi]
    refine load_store_disjoint ?_
    rcases Nat.lt_or_gt_of_ne hi with hlt | hlt
    · have hmul := Nat.mul_le_mul_right q.uxItemSize (Nat.succ_le_of_lt hlt)
      rw [Nat.succ_mul] at hmul
      omega
    · have hmul := Nat.mul_le_mul_right q.uxItemSize (Nat.succ_le_of_lt hlt)
      rw [Nat.succ_mul] at hmul
      omega

/-- An item is copied behind the last one. -/
theorem copyDataToQueue_back (h : q.Holds m read items) (hitem : item.length = q.uxItemSize) :
    q.prvCopyDataToQueue m item .sendToBack =
      (store m (q.pcHead + slot q.uxLength read items.length * q.uxItemSize) item,
        { q with
          pcWriteTo := q.pcHead + slot q.uxLength read (items.length + 1) * q.uxItemSize
          uxMessagesWaiting := items.length + 1 }) := by
  have hlength : 0 < q.uxLength := Nat.zero_lt_of_lt h.read_lt
  by_cases hsize : q.uxItemSize = 0
  · obtain rfl := List.eq_nil_of_length_eq_zero (hitem.trans hsize)
    have hpointer : q.pcHead + slot q.uxLength read (items.length + 1) * q.uxItemSize = q.pcWriteTo := by
      rw [h.pcWriteTo, hsize, Nat.mul_zero, Nat.mul_zero]
    rw [prvCopyDataToQueue, if_pos hsize, hpointer, store_nil, h.uxMessagesWaiting]
  · have hslot : slot q.uxLength read items.length < q.uxLength := slot_lt hlength
    have hpointer := pointer_next q.pcHead (Nat.pos_of_ne_zero hsize) hslot
    rw [prvCopyDataToQueue, if_neg hsize, if_pos rfl]
    dsimp only
    rw [h.pcWriteTo, h.pcTail, hpointer, slot_next, h.uxMessagesWaiting]

/-- An item is copied in front of the first one, or over it. -/
theorem copyDataToQueue_front {xPosition : CopyPosition} (h : q.Holds m read items)
    (hitem : item.length = q.uxItemSize) (hback : xPosition ≠ .sendToBack)
    (hsize : xPosition = .overwrite → q.uxItemSize ≠ 0) :
    q.prvCopyDataToQueue m item xPosition =
      (store m (q.pcHead + read * q.uxItemSize) item,
        { q with
          pcReadFrom := q.pcHead + prev q.uxLength read * q.uxItemSize
          uxMessagesWaiting := (if xPosition = .overwrite then items.length - 1 else items.length) + 1 }) := by
  by_cases hzero : q.uxItemSize = 0
  · obtain rfl := List.eq_nil_of_length_eq_zero (hitem.trans hzero)
    have hpointer : q.pcHead + prev q.uxLength read * q.uxItemSize = q.pcReadFrom := by
      rw [h.pcReadFrom, hzero, Nat.mul_zero, Nat.mul_zero]
    rw [prvCopyDataToQueue, if_pos hzero, hpointer, store_nil, h.uxMessagesWaiting,
      if_neg fun hover => hsize hover hzero]
  · have hpointer := pointer_prev q.pcHead (Nat.pos_of_ne_zero hzero) h.uxItemSize h.read_lt
    have hcount : (if xPosition = .overwrite ∧ 0 < items.length then items.length - 1 else items.length) =
        if xPosition = .overwrite then items.length - 1 else items.length := by
      by_cases hover : xPosition = .overwrite
      · rw [if_pos hover, ite_eq_left_iff]
        intro hempty
        have hzero : ¬ 0 < items.length := fun hpos => hempty ⟨hover, hpos⟩
        omega
      · rw [if_neg hover, if_neg fun hboth => hover hboth.1]
    rw [prvCopyDataToQueue, if_neg hzero, if_neg hback]
    dsimp only
    rw [h.pcReadFrom, h.pcTail, hpointer, h.uxMessagesWaiting, hcount]

/-- The item that follows on the one that was read last is copied. -/
theorem copyDataFromQueue_eq (h : q.Holds m read items) : q.prvCopyDataFromQueue m =
    (q.stored m (slot q.uxLength read 0),
      { q with pcReadFrom := q.pcHead + slot q.uxLength read 0 * q.uxItemSize }) := by
  by_cases hsize : q.uxItemSize = 0
  · have hpointer : q.pcHead + slot q.uxLength read 0 * q.uxItemSize = q.pcReadFrom := by
      rw [h.pcReadFrom, hsize, Nat.mul_zero, Nat.mul_zero]
    have hload : load m q.pcReadFrom q.uxItemSize = [] :=
      List.eq_nil_of_length_eq_zero ((load_length _ _ _).trans hsize)
    rw [prvCopyDataFromQueue, if_pos hsize, stored, hpointer, hload]
  · have hpointer := pointer_next q.pcHead (Nat.pos_of_ne_zero hsize) h.read_lt
    rw [prvCopyDataFromQueue, if_neg hsize]
    dsimp only
    rw [h.pcReadFrom, h.pcTail, hpointer]
    rfl

theorem Holds.push (h : q.Holds m read items) (hitem : item.length = q.uxItemSize)
    (hroom : items.length < q.uxLength) :
    ({ q with
        pcWriteTo := q.pcHead + slot q.uxLength read (items.length + 1) * q.uxItemSize
        uxMessagesWaiting := items.length + 1 } : Queue).Holds
      (store m (q.pcHead + slot q.uxLength read items.length * q.uxItemSize) item) read (items ++ [item]) := by
  have hcount : (items ++ [item]).length = items.length + 1 := List.length_append
  refine ⟨h.read_lt, ?_, h.uxItemSize, h.pcTail, h.pcReadFrom, ?_, hcount.symm, ?_⟩
  · rw [hcount]
    exact hroom
  · rw [hcount]
  · rw [hcount]
    show RingBuffer.entries q.uxLength (q.stored _) read (items.length + 1) = _
    rw [stored_store hitem, entries_push hroom, h.entries]

/-- An item in front of some that stay, when the place to write to stays the same. -/
theorem Holds.pushFront (h : q.Holds m read items) (hitem : item.length = q.uxItemSize)
    (hrest : RingBuffer.entries q.uxLength (q.stored m) read rest.length = rest)
    (hroom : rest.length < q.uxLength)
    (hslot : slot q.uxLength read rest.length = slot q.uxLength read items.length) :
    ({ q with
        pcReadFrom := q.pcHead + prev q.uxLength read * q.uxItemSize
        uxMessagesWaiting := rest.length + 1 } : Queue).Holds
      (store m (q.pcHead + read * q.uxItemSize) item) (prev q.uxLength read) (item :: rest) := by
  refine ⟨Nat.mod_lt _ (Nat.zero_lt_of_lt h.read_lt), hroom, h.uxItemSize, h.pcTail, rfl, ?_, rfl, ?_⟩
  · show q.pcWriteTo = q.pcHead + slot q.uxLength (prev q.uxLength read) (rest.length + 1) * q.uxItemSize
    rw [slot_prev_succ h.read_lt, hslot, h.pcWriteTo]
  · show RingBuffer.entries q.uxLength (q.stored _) (prev q.uxLength read) (rest.length + 1) = _
    rw [stored_store hitem, entries_pushFront h.read_lt hroom, hrest]

/-- The first item goes, and the slot that it was in is the one that was read last. -/
theorem Holds.pop (h : q.Holds m read (item :: rest)) : q.stored m (slot q.uxLength read 0) = item ∧
    ({ q with
        pcReadFrom := q.pcHead + slot q.uxLength read 0 * q.uxItemSize
        uxMessagesWaiting := rest.length } : Queue).Holds m (slot q.uxLength read 0) rest := by
  have hentries := h.entries
  rw [List.length_cons, entries_succ, List.cons.injEq] at hentries
  refine ⟨hentries.1, slot_lt (Nat.zero_lt_of_lt h.read_lt), Nat.le_of_succ_le h.bounded, h.uxItemSize, h.pcTail,
    rfl, ?_, rfl, hentries.2⟩
  rw [← slot_succ]
  exact h.pcWriteTo

theorem holds_reset (hlength : 0 < q.uxLength) (hsize : q.uxItemSize ≤ q.pcHead) :
    q.xQueueGenericReset.Holds m (q.uxLength - 1) [] := by
  refine ⟨Nat.sub_lt hlength Nat.one_pos, Nat.zero_le _, hsize, rfl, rfl, ?_, rfl, rfl⟩
  show q.pcHead = q.pcHead + slot q.uxLength (q.uxLength - 1) 0 * q.uxItemSize
  rw [slot, Nat.add_zero, Nat.sub_add_cancel hlength, Nat.mod_self, Nat.zero_mul, Nat.add_zero]

/-- What is written to a slot is written to the storage. -/
theorem store_slot_frame {a : Nat} (hn : n < q.uxLength) (hitem : item.length = q.uxItemSize)
    (ha : a < q.pcHead ∨ q.pcHead + q.uxLength * q.uxItemSize ≤ a) :
    store m (q.pcHead + n * q.uxItemSize) item a = m a := by
  refine store_frame ?_
  have hmul := Nat.mul_le_mul_right q.uxItemSize (Nat.succ_le_of_lt hn)
  rw [Nat.succ_mul] at hmul
  omega

end Queue

/-- The calls, and the bytes that others write meanwhile. -/
inductive QueueCall where
  | send (item : List UInt8) (xCopyPosition : CopyPosition)
  | receive
  | peek
  | reset
  | elsewhere (address : Nat) (byte : UInt8)
  deriving DecidableEq

/-- What the calls return, and the item that they copy. -/
inductive QueueReturn where
  | pdPASS
  | received (item : List UInt8)
  | errQUEUE_FULL
  | errQUEUE_EMPTY
  deriving DecidableEq, Repr

namespace Queue

/-- A call. -/
def call (q : Queue) (m : Mem UInt8) : QueueCall → QueueReturn × Mem UInt8 × Queue
  | .send item xCopyPosition =>
    match q.xQueueGenericSend m item xCopyPosition with
    | some next => (.pdPASS, next)
    | none => (.errQUEUE_FULL, m, q)
  | .receive =>
    match q.xQueueReceive m with
    | some (item, q') => (.received item, m, q')
    | none => (.errQUEUE_EMPTY, m, q)
  | .peek =>
    match q.xQueuePeek m with
    | some (item, q') => (.received item, m, q')
    | none => (.errQUEUE_EMPTY, m, q)
  | .reset => (.pdPASS, m, q.xQueueGenericReset)
  | .elsewhere address byte => (.pdPASS, Function.update m address byte, q)

def run (q : Queue) (m : Mem UInt8) : List QueueCall → List QueueReturn × Mem UInt8 × Queue
  | [] => ([], m, q)
  | c :: calls =>
    let next := q.call m c
    let rest := run next.2.2 next.2.1 calls
    (next.1 :: rest.1, rest.2)

/-- What the callers keep to: an item has the size of an item, only a queue of one item is overwritten, as the kernel
    asserts, and not a semaphore, and others do not write to the storage. -/
def May (q : Queue) : QueueCall → Prop
  | .send item xCopyPosition =>
    item.length = q.uxItemSize ∧ (xCopyPosition = .overwrite → q.uxLength = 1 ∧ q.uxItemSize ≠ 0)
  | .elsewhere address _ => address < q.pcHead ∨ q.pcHead + q.uxLength * q.uxItemSize ≤ address
  | _ => True

/-- What a queue is for: the calls on the list of its items. -/
def listCall (uxLength : Nat) (items : List (List UInt8)) : QueueCall → QueueReturn × List (List UInt8)
  | .send item .sendToBack =>
    if items.length < uxLength then (.pdPASS, items ++ [item]) else (.errQUEUE_FULL, items)
  | .send item .sendToFront =>
    if items.length < uxLength then (.pdPASS, item :: items) else (.errQUEUE_FULL, items)
  | .send item .overwrite => (.pdPASS, [item])
  | .receive =>
    match items with
    | [] => (.errQUEUE_EMPTY, [])
    | item :: rest => (.received item, rest)
  | .peek =>
    match items with
    | [] => (.errQUEUE_EMPTY, [])
    | item :: _ => (.received item, items)
  | .reset => (.pdPASS, [])
  | .elsewhere _ _ => (.pdPASS, items)

def listRun (uxLength : Nat) (items : List (List UInt8)) : List QueueCall → List QueueReturn × List (List UInt8)
  | [] => ([], items)
  | c :: calls =>
    let next := listCall uxLength items c
    let rest := listRun uxLength next.2 calls
    (next.1 :: rest.1, rest.2)

/-- A call on the queue is the call on the list: it returns the same, and what it leaves holds what that leaves. It
    writes to the storage only. -/
structure Refines (q : Queue) (m : Mem UInt8) (items : List (List UInt8)) (c : QueueCall)
    (next : QueueReturn × Mem UInt8 × Queue) : Prop where
  returned : next.1 = (listCall q.uxLength items c).1
  storage : next.2.2.pcHead = q.pcHead ∧ next.2.2.uxLength = q.uxLength ∧ next.2.2.uxItemSize = q.uxItemSize
  holds : ∃ read, next.2.2.Holds next.2.1 read (listCall q.uxLength items c).2
  frame : ∀ a, a < q.pcHead ∨ q.pcHead + q.uxLength * q.uxItemSize ≤ a → (∀ b, c ≠ .elsewhere a b) →
    next.2.1 a = m a

variable {q : Queue} {m : Mem UInt8} {read : Nat} {items : List (List UInt8)} {item : List UInt8}

/-- A call that is refused, on the queue and on the list, leaves the queue as it is. -/
theorem Holds.refused {c : QueueCall} {xReturn : QueueReturn} (h : q.Holds m read items)
    (hlist : listCall q.uxLength items c = (xReturn, items)) : Refines q m items c (xReturn, m, q) := by
  refine ⟨?_, ⟨rfl, rfl, rfl⟩, ⟨read, ?_⟩, fun _ _ _ => rfl⟩
  · rw [hlist]
  · rw [hlist]
    exact h

theorem send_refines {xCopyPosition : CopyPosition} (h : q.Holds m read items)
    (hmay : q.May (.send item xCopyPosition)) :
    Refines q m items (.send item xCopyPosition) (q.call m (.send item xCopyPosition)) := by
  obtain ⟨hitem, hover⟩ := hmay
  have hlength : 0 < q.uxLength := Nat.zero_lt_of_lt h.read_lt
  have hcall : q.uxMessagesWaiting < q.uxLength ∨ xCopyPosition = .overwrite →
      q.call m (.send item xCopyPosition) = (.pdPASS, q.prvCopyDataToQueue m item xCopyPosition) := by
    intro hroom
    rw [call, xQueueGenericSend, if_pos hroom]
  have hfull : ¬ (q.uxMessagesWaiting < q.uxLength ∨ xCopyPosition = .overwrite) →
      q.call m (.send item xCopyPosition) = (.errQUEUE_FULL, m, q) := by
    intro hroom
    rw [call, xQueueGenericSend, if_neg hroom]
  rw [h.uxMessagesWaiting] at hcall hfull
  cases xCopyPosition with
  | sendToBack =>
      by_cases hroom : items.length < q.uxLength
      · rw [hcall (Or.inl hroom), copyDataToQueue_back h hitem]
        refine ⟨?_, ⟨rfl, rfl, rfl⟩, ⟨read, ?_⟩, fun a ha _ => store_slot_frame (slot_lt hlength) hitem ha⟩
        · rw [listCall, if_pos hroom]
        · rw [listCall, if_pos hroom]
          exact h.push hitem hroom
      · rw [hfull (by rintro (hlt | heq); exacts [hroom hlt, by cases heq])]
        exact h.refused (if_neg hroom)
  | sendToFront =>
      by_cases hroom : items.length < q.uxLength
      · rw [hcall (Or.inl hroom), copyDataToQueue_front h hitem (by decide) (fun heq => by cases heq)]
        refine ⟨?_, ⟨rfl, rfl, rfl⟩, ⟨prev q.uxLength read, ?_⟩, fun a ha _ => store_slot_frame h.read_lt hitem ha⟩
        · rw [listCall, if_pos hroom]
        · rw [listCall, if_pos hroom]
          exact h.pushFront hitem h.entries hroom rfl
      · rw [hfull (by rintro (hlt | heq); exacts [hroom hlt, by cases heq])]
        exact h.refused (if_neg hroom)
  | overwrite =>
      obtain ⟨hone, hsize⟩ := hover rfl
      have hcount : items.length - 1 = ([] : List (List UInt8)).length := by
        have hbounded := h.bounded
        rw [hone] at hbounded
        exact Nat.sub_eq_zero_of_le hbounded
      have hslot : slot q.uxLength read ([] : List (List UInt8)).length = slot q.uxLength read items.length := by
        rw [slot, slot, hone, Nat.mod_one, Nat.mod_one]
      rw [hcall (Or.inr rfl), copyDataToQueue_front h hitem (by decide) (fun _ => hsize), if_pos rfl, hcount]
      exact ⟨rfl, ⟨rfl, rfl, rfl⟩, ⟨_, h.pushFront hitem rfl hlength hslot⟩,
        fun a ha _ => store_slot_frame h.read_lt hitem ha⟩

theorem receive_refines (h : q.Holds m read items) : Refines q m items .receive (q.call m .receive) := by
  cases items with
  | nil =>
      have hempty : ¬ 0 < q.uxMessagesWaiting := by
        rw [h.uxMessagesWaiting]
        exact Nat.lt_irrefl 0
      rw [call, xQueueReceive, if_neg hempty]
      exact h.refused rfl
  | cons item rest =>
      have hsome : 0 < q.uxMessagesWaiting := by
        rw [h.uxMessagesWaiting]
        exact Nat.succ_pos _
      have hcount : q.uxMessagesWaiting - 1 = rest.length := by
        rw [h.uxMessagesWaiting]
        rfl
      obtain ⟨hitem, hrest⟩ := h.pop
      rw [call, xQueueReceive, if_pos hsome, copyDataFromQueue_eq h, hcount]
      exact ⟨congrArg QueueReturn.received hitem, ⟨rfl, rfl, rfl⟩, ⟨_, hrest⟩, fun _ _ _ => rfl⟩

theorem peek_refines (h : q.Holds m read items) : Refines q m items .peek (q.call m .peek) := by
  cases items with
  | nil =>
      have hempty : ¬ 0 < q.uxMessagesWaiting := by
        rw [h.uxMessagesWaiting]
        exact Nat.lt_irrefl 0
      rw [call, xQueuePeek, if_neg hempty]
      exact h.refused rfl
  | cons item rest =>
      have hsome : 0 < q.uxMessagesWaiting := by
        rw [h.uxMessagesWaiting]
        exact Nat.succ_pos _
      rw [call, xQueuePeek, if_pos hsome, copyDataFromQueue_eq h]
      exact ⟨congrArg QueueReturn.received h.pop.1, ⟨rfl, rfl, rfl⟩, ⟨read, h⟩, fun _ _ _ => rfl⟩

/-- **A call on a queue is the call on its list.** -/
theorem call_refines {c : QueueCall} (h : q.Holds m read items) (hmay : q.May c) :
    Refines q m items c (q.call m c) := by
  cases c with
  | send item xCopyPosition => exact send_refines h hmay
  | receive => exact receive_refines h
  | peek => exact peek_refines h
  | reset =>
      have hreset := holds_reset (m := m) (Nat.zero_lt_of_lt h.read_lt) h.uxItemSize
      exact ⟨rfl, ⟨rfl, rfl, rfl⟩, ⟨_, hreset⟩, fun _ _ _ => rfl⟩
  | elsewhere address byte =>
      have hstored : ∀ n < q.uxLength, q.stored (Function.update m address byte) n = q.stored m n := by
        intro n hn
        refine load_congr fun i hi => Function.update_of_ne ?_ _ _
        have hmul := Nat.mul_le_mul_right q.uxItemSize (Nat.succ_le_of_lt hn)
        rw [Nat.succ_mul] at hmul
        rcases hmay with ha | ha <;> omega
      have hentries := (entries_congr fun n _ => hstored _ (slot_lt (Nat.zero_lt_of_lt h.read_lt))).trans h.entries
      refine ⟨rfl, ⟨rfl, rfl, rfl⟩, ⟨read, h.read_lt, h.bounded, h.uxItemSize, h.pcTail, h.pcReadFrom, h.pcWriteTo,
        h.uxMessagesWaiting, hentries⟩, fun a _ hne => Function.update_of_ne ?_ _ _⟩
      rintro rfl
      exact hne byte rfl

theorem May.of_storage {q' : Queue} {c : QueueCall} (hmay : q.May c)
    (h : q'.pcHead = q.pcHead ∧ q'.uxLength = q.uxLength ∧ q'.uxItemSize = q.uxItemSize) : q'.May c := by
  obtain ⟨hhead, hlength, hsize⟩ := h
  cases c with
  | send item xCopyPosition =>
      rw [May, hlength, hsize]
      exact hmay
  | elsewhere address byte =>
      rw [May, hhead, hlength, hsize]
      exact hmay
  | _ => trivial

/-- A run on a queue is the run on its list. -/
theorem run_refines {calls : List QueueCall} (h : q.Holds m read items) (hmay : ∀ c ∈ calls, q.May c) :
    (q.run m calls).1 = (listRun q.uxLength items calls).1 ∧
      (∃ read', (q.run m calls).2.2.Holds (q.run m calls).2.1 read' (listRun q.uxLength items calls).2) ∧
      (q.run m calls).2.2.uxLength = q.uxLength ∧
      ∀ a, a < q.pcHead ∨ q.pcHead + q.uxLength * q.uxItemSize ≤ a → (∀ b, .elsewhere a b ∉ calls) →
        (q.run m calls).2.1 a = m a := by
  induction calls generalizing q m read items with
  | nil => exact ⟨rfl, ⟨read, h⟩, rfl, fun _ _ _ => rfl⟩
  | cons c calls ih =>
      obtain ⟨hreturned, hstorage, ⟨read', hholds⟩, hframe⟩ := call_refines h (hmay c List.mem_cons_self)
      obtain ⟨hrest, hholds', hlength, hframe'⟩ :=
        ih hholds fun c' hc' => (hmay c' (List.mem_cons_of_mem c hc')).of_storage hstorage
      obtain ⟨hhead, huxLength, hsize⟩ := hstorage
      rw [huxLength] at hrest hholds' hlength
      rw [hhead, huxLength, hsize] at hframe'
      refine ⟨congrArg₂ List.cons hreturned hrest, hholds', hlength, fun a ha hcalls => ?_⟩
      have hlater := hframe' a ha fun b hb => hcalls b (List.mem_cons_of_mem c hb)
      exact hlater.trans (hframe a ha fun b heq => hcalls b (heq ▸ List.mem_cons_self))

/-- **A queue is a list.** In every run of calls on a queue that was created, whatever others write elsewhere, the
    calls return what they return on a list of at most `uxQueueLength` items, in order: an item that is sent is
    received once, behind those that were sent before it or in front of them. Nothing but the storage is written. -/
theorem queue_fifo {uxQueueLength uxItemSize pucQueueStorage pxNewQueue : Nat} (m : Mem UInt8)
    {calls : List QueueCall} (hlength : 0 < uxQueueLength) (hsize : uxItemSize ≤ pucQueueStorage)
    (hmay : ∀ c ∈ calls, (prvInitialiseNewQueue uxQueueLength uxItemSize pucQueueStorage pxNewQueue).May c) :
    let q := prvInitialiseNewQueue uxQueueLength uxItemSize pucQueueStorage pxNewQueue
    (q.run m calls).1 = (listRun uxQueueLength [] calls).1 ∧
      (q.run m calls).2.2.uxMessagesWaiting = (listRun uxQueueLength [] calls).2.length ∧
      (listRun uxQueueLength [] calls).2.length ≤ uxQueueLength ∧
      ∀ a, a < q.pcHead ∨ q.pcHead + uxQueueLength * uxItemSize ≤ a → (∀ b, .elsewhere a b ∉ calls) →
        (q.run m calls).2.1 a = m a := by
  intro q
  have hhead : q.uxItemSize ≤ q.pcHead := by
    show uxItemSize ≤ if uxItemSize = 0 then pxNewQueue else pucQueueStorage
    split_ifs with hzero
    · exact hzero ▸ Nat.zero_le _
    · exact hsize
  have hcreated : q.Holds m (uxQueueLength - 1) [] := holds_reset (q := q) hlength hhead
  obtain ⟨hreturned, ⟨read', hholds⟩, hlength', hframe⟩ := run_refines hcreated hmay
  refine ⟨hreturned, hholds.uxMessagesWaiting, ?_, hframe⟩
  have hbounded := hholds.bounded
  rw [hlength'] at hbounded
  exact hbounded

/-- Two slots of one byte, written past the end and in front. -/
theorem queue_fifo_wraps :
    ((prvInitialiseNewQueue 2 1 100 20).run (fun _ => 0)
      [.send [1] .sendToBack, .send [2] .sendToBack, .receive, .send [3] .sendToBack, .send [4] .sendToBack, .receive,
        .send [5] .sendToFront, .receive, .receive, .receive]).1 =
      [.pdPASS, .pdPASS, .received [1], .pdPASS, .errQUEUE_FULL, .received [2], .pdPASS, .received [5],
        .received [3], .errQUEUE_EMPTY] := by
  have hlength : 0 < 2 := by decide
  have hsize : 1 ≤ 100 := by decide
  have hmay : ∀ c ∈ [QueueCall.send [1] .sendToBack, .send [2] .sendToBack, .receive, .send [3] .sendToBack,
      .send [4] .sendToBack, .receive, .send [5] .sendToFront, .receive, .receive, .receive],
      (prvInitialiseNewQueue 2 1 100 20).May c := by
    intro c hc
    simp only [List.mem_cons, List.not_mem_nil, or_false] at hc
    rcases hc with rfl | rfl | rfl | rfl | rfl | rfl | rfl | rfl | rfl | rfl <;>
      first | exact ⟨rfl, fun heq => by cases heq⟩ | trivial
  exact (queue_fifo _ hlength hsize hmay).1

end Queue
end Freertos
end Obsw
