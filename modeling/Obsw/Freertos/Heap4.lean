import Obsw.Lib.Intervals
import Mathlib.Data.Nat.Bits
import Mathlib.Logic.Function.Basic

/-!
# `Freertos.Heap4` — the heap of the kernel

`pvPortMalloc` and `vPortFree` of `heap_4.c` on the block headers they link. A header lies in front of each
block; the headers of free blocks form a list in the order of their addresses, from `xStart` to `pxEnd`,
and the top bit of the size marks a block of the application. Loops along the list are given as many
passes as the heap has bytes.

`prvInsertBlockIntoFreeList` merges a block with its neighbours: it adds an interval to the separated
intervals that are free (`prvInsertBlockIntoFreeList_spec`).
-/

namespace Obsw
namespace Freertos

open Intervals

/-! ## `heap_4.c` -/

/-- `BlockLink_t`. -/
structure BlockLink where
  pxNextFreeBlock : Nat
  xBlockSize : Nat
  deriving DecidableEq, Repr

/-- Where the linker puts the heap and `xStart`, and `configTOTAL_HEAP_SIZE`. -/
structure HeapConfig where
  ucHeap : Nat
  totalHeapSize : Nat
  xStart : Nat

/-- The static variables of `heap_4.c`, and the header at each address. -/
structure Heap where
  link : Nat → BlockLink
  pxEnd : Nat
  xFreeBytesRemaining : Nat
  xMinimumEverFreeBytesRemaining : Nat

/-- `portBYTE_ALIGNMENT` -/
def portByteAlignment : Nat := 8

/-- `xHeapStructSize`: two words, aligned. -/
def xHeapStructSize : Nat := 8

/-- `heapMINIMUM_BLOCK_SIZE` -/
def heapMinimumBlockSize : Nat := 2 * xHeapStructSize

/-- `xBlockAllocatedBit`, the top bit of a `size_t`. -/
def xBlockAllocatedBit : Nat := 2 ^ 31

/-- Clear the bits of `portBYTE_ALIGNMENT_MASK`. -/
def alignDown (address : Nat) : Nat := address - address % portByteAlignment

def Heap.setNext (h : Heap) (block next : Nat) : Heap :=
  { h with link := Function.update h.link block { h.link block with pxNextFreeBlock := next } }

def Heap.setSize (h : Heap) (block size : Nat) : Heap :=
  { h with link := Function.update h.link block { h.link block with xBlockSize := size } }

/-- The address of the first block: `ucHeap`, aligned. -/
def pucAlignedHeap (config : HeapConfig) : Nat :=
  if config.ucHeap % portByteAlignment ≠ 0 then alignDown (config.ucHeap + (portByteAlignment - 1))
  else config.ucHeap

/-- The address of the end marker. -/
def endAddress (config : HeapConfig) : Nat :=
  alignDown (pucAlignedHeap config + (config.totalHeapSize - (pucAlignedHeap config - config.ucHeap)) -
    xHeapStructSize)

/-- `prvHeapInit`. -/
def prvHeapInit (config : HeapConfig) (h : Heap) : Heap :=
  let first := pucAlignedHeap config
  let pxEnd := endAddress config
  let size := pxEnd - first
  let link := Function.update h.link config.xStart ⟨first, 0⟩
  let link := Function.update link pxEnd ⟨0, 0⟩
  { link := Function.update link first ⟨pxEnd, size⟩
    pxEnd := pxEnd
    xFreeBytesRemaining := size
    xMinimumEverFreeBytesRemaining := size }

/-- The loop of `prvInsertBlockIntoFreeList`. -/
def findPosition (link : Nat → BlockLink) (pxBlockToInsert : Nat) : Nat → Nat → Option Nat
  | 0,          _ => none
  | passes + 1, pxIterator =>
    if (link pxIterator).pxNextFreeBlock < pxBlockToInsert then
      findPosition link pxBlockToInsert passes (link pxIterator).pxNextFreeBlock
    else some pxIterator

/-- `prvInsertBlockIntoFreeList`: the block behind. -/
def mergeBehind (h : Heap) (pxIterator pxBlockToInsert : Nat) : Heap :=
  if pxBlockToInsert + (h.link pxBlockToInsert).xBlockSize = (h.link pxIterator).pxNextFreeBlock then
    if (h.link pxIterator).pxNextFreeBlock ≠ h.pxEnd then
      let behind := (h.link pxIterator).pxNextFreeBlock
      let h := h.setSize pxBlockToInsert
        ((h.link pxBlockToInsert).xBlockSize + (h.link behind).xBlockSize)
      h.setNext pxBlockToInsert (h.link behind).pxNextFreeBlock
    else h.setNext pxBlockToInsert h.pxEnd
  else h.setNext pxBlockToInsert (h.link pxIterator).pxNextFreeBlock

/-- `prvInsertBlockIntoFreeList` behind its loop: the block in front, the block behind, and the link from the
    iterator, which a block merged with it does not need. -/
def insertBehind (h : Heap) (pxIterator pxBlockToInsert : Nat) : Heap :=
  if pxIterator + (h.link pxIterator).xBlockSize = pxBlockToInsert then
    let h := h.setSize pxIterator ((h.link pxIterator).xBlockSize + (h.link pxBlockToInsert).xBlockSize)
    mergeBehind h pxIterator pxIterator
  else
    let h := mergeBehind h pxIterator pxBlockToInsert
    if pxIterator ≠ pxBlockToInsert then h.setNext pxIterator pxBlockToInsert else h

/-- `prvInsertBlockIntoFreeList`. -/
def prvInsertBlockIntoFreeList (config : HeapConfig) (h : Heap) (pxBlockToInsert : Nat) : Option Heap :=
  (findPosition h.link pxBlockToInsert (config.totalHeapSize + 1) config.xStart).map
    (insertBehind h · pxBlockToInsert)

/-- The loop of `pvPortMalloc`: the first block of adequate size, and the one in front of it. -/
def findFit (link : Nat → BlockLink) (xWantedSize : Nat) : Nat → Nat → Nat → Option (Nat × Nat)
  | 0,          _,               _ => none
  | passes + 1, pxPreviousBlock, pxBlock =>
    if (link pxBlock).xBlockSize < xWantedSize ∧ (link pxBlock).pxNextFreeBlock ≠ 0 then
      findFit link xWantedSize passes pxBlock (link pxBlock).pxNextFreeBlock
    else some (pxPreviousBlock, pxBlock)

/-- The size of the block for a request: with its header, aligned; 0 for an empty request. -/
def adjustedSize (xWantedSize : Nat) : Nat :=
  if 0 < xWantedSize then
    let size := xWantedSize + xHeapStructSize
    if size % portByteAlignment ≠ 0 then size + (portByteAlignment - size % portByteAlignment) else size
  else xWantedSize

/-- The tail of `pvPortMalloc`: the free bytes are counted and the block marked. -/
def markBlock (h : Heap) (pxBlock : Nat) : Heap :=
  let free := h.xFreeBytesRemaining - (h.link pxBlock).xBlockSize
  let h := { h with
    xFreeBytesRemaining := free
    xMinimumEverFreeBytesRemaining :=
      if free < h.xMinimumEverFreeBytesRemaining then free else h.xMinimumEverFreeBytesRemaining }
  (h.setSize pxBlock ((h.link pxBlock).xBlockSize ||| xBlockAllocatedBit)).setNext pxBlock 0

/-- A block that was found is taken out of the list, split if it is large, and marked. -/
def takeBlock (config : HeapConfig) (h : Heap) (pxPreviousBlock pxBlock xWantedSize : Nat) :
    Option Heap :=
  let h := h.setNext pxPreviousBlock (h.link pxBlock).pxNextFreeBlock
  let size := (h.link pxBlock).xBlockSize
  let split :=
    if heapMinimumBlockSize < size - xWantedSize then
      let pxNewBlockLink := pxBlock + xWantedSize
      prvInsertBlockIntoFreeList config
        ((h.setSize pxNewBlockLink (size - xWantedSize)).setSize pxBlock xWantedSize) pxNewBlockLink
    else some h
  split.map (markBlock · pxBlock)

/-- `pvPortMalloc`: the pointer, or 0, and the heap behind the call. -/
def pvPortMalloc (config : HeapConfig) (h : Heap) (xWantedSize : Nat) : Option (Nat × Heap) :=
  let h := if h.pxEnd = 0 then prvHeapInit config h else h
  if xWantedSize &&& xBlockAllocatedBit = 0 then
    let wanted := adjustedSize xWantedSize
    if 0 < wanted ∧ wanted ≤ h.xFreeBytesRemaining then
      match findFit h.link wanted (config.totalHeapSize + 1) config.xStart
          (h.link config.xStart).pxNextFreeBlock with
      | none => none
      | some (pxPreviousBlock, pxBlock) =>
        if pxBlock ≠ h.pxEnd then
          let pvReturn := (h.link pxPreviousBlock).pxNextFreeBlock + xHeapStructSize
          (takeBlock config h pxPreviousBlock pxBlock wanted).map (pvReturn, ·)
        else some (0, h)
    else some (0, h)
  else some (0, h)

/-- `vPortFree`. -/
def vPortFree (config : HeapConfig) (h : Heap) (pv : Nat) : Option Heap :=
  if pv ≠ 0 then
    let pxLink := pv - xHeapStructSize
    if (h.link pxLink).xBlockSize &&& xBlockAllocatedBit ≠ 0 then
      if (h.link pxLink).pxNextFreeBlock = 0 then
        let h := h.setSize pxLink ((h.link pxLink).xBlockSize &&& (2 ^ 32 - 1 - xBlockAllocatedBit))
        let h := { h with
          xFreeBytesRemaining := h.xFreeBytesRemaining + (h.link pxLink).xBlockSize }
        prvInsertBlockIntoFreeList config h pxLink
      else some h
    else some h
  else some h

/-! ## Small lemmas -/

section Links

variable (h : Heap) (block value other : Nat)

@[simp] theorem setNext_pxEnd : (h.setNext block value).pxEnd = h.pxEnd := rfl
@[simp] theorem setSize_pxEnd : (h.setSize block value).pxEnd = h.pxEnd := rfl
@[simp] theorem setNext_free : (h.setNext block value).xFreeBytesRemaining = h.xFreeBytesRemaining := rfl
@[simp] theorem setSize_free : (h.setSize block value).xFreeBytesRemaining = h.xFreeBytesRemaining := rfl
@[simp] theorem setNext_minimum :
    (h.setNext block value).xMinimumEverFreeBytesRemaining = h.xMinimumEverFreeBytesRemaining := rfl
@[simp] theorem setSize_minimum :
    (h.setSize block value).xMinimumEverFreeBytesRemaining = h.xMinimumEverFreeBytesRemaining := rfl

theorem setNext_link : (h.setNext block value).link other =
    if other = block then ⟨value, (h.link block).xBlockSize⟩ else h.link other := by
  simp [Heap.setNext, Function.update_apply]

theorem setSize_link : (h.setSize block value).link other =
    if other = block then ⟨(h.link block).pxNextFreeBlock, value⟩ else h.link other := by
  simp [Heap.setSize, Function.update_apply]

end Links

/-! ## Chains of headers -/

/-- The headers from `first` on link these blocks, up to `last`. -/
def Chain (link : Nat → BlockLink) : Nat → List Interval → Nat → Prop
  | first, [],     last => first = last
  | first, b :: l, last =>
    first = b.start ∧ (link first).xBlockSize = b.size ∧ Chain link (link first).pxNextFreeBlock l last

/-- The address of the last header, if the list follows on one at `first`. -/
def lastStart : Nat → List Interval → Nat
  | first, [] => first
  | _,     b :: l => lastStart b.start l

@[simp] theorem lastStart_concat (first : Nat) (l : List Interval) (b : Interval) :
    lastStart first (l ++ [b]) = b.start := by
  induction l generalizing first with
  | nil => rfl
  | cons c l ih => exact ih c.start

variable {link link' : Nat → BlockLink} {first last : Nat} {l l' front behind : List Interval}

theorem chain_congr (h : Chain link first l last) (hsame : ∀ b ∈ l, link' b.start = link b.start) :
    Chain link' first l last := by
  induction l generalizing first with
  | nil => exact h
  | cons b l ih =>
      obtain ⟨hfirst, hsize, hrest⟩ := h
      have hb : link' first = link first := hfirst ▸ hsame b List.mem_cons_self
      refine ⟨hfirst, hb ▸ hsize, ?_⟩
      rw [hb]
      exact ih hrest fun c hc => hsame c (List.mem_cons_of_mem _ hc)

theorem chain_append : Chain link first (front ++ behind) last ↔
    ∃ middle, Chain link first front middle ∧ Chain link middle behind last := by
  induction front generalizing first with
  | nil => exact ⟨fun h => ⟨first, rfl, h⟩, fun ⟨_, heq, h⟩ => heq ▸ h⟩
  | cons b front ih =>
      simp only [List.cons_append, Chain, ih]
      constructor
      · rintro ⟨hfirst, hsize, middle, hfront, hbehind⟩
        exact ⟨middle, ⟨hfirst, hsize, hfront⟩, hbehind⟩
      · rintro ⟨middle, ⟨hfirst, hsize, hfront⟩, hbehind⟩
        exact ⟨hfirst, hsize, middle, hfront, hbehind⟩

/-- What comes behind a chain is what its last header links to. -/
theorem chain_last {iterator middle : Nat} (h : Chain link (link iterator).pxNextFreeBlock front middle) :
    (link (lastStart iterator front)).pxNextFreeBlock = middle := by
  induction front generalizing iterator with
  | nil => exact h
  | cons b front ih =>
      obtain ⟨hfirst, _, hrest⟩ := h
      rw [hfirst] at hrest
      exact ih hrest

/-- **The loop of the insertion.** It stops at the last block in front. -/
theorem findPosition_eq {iterator block passes : Nat}
    (h : Chain link (link iterator).pxNextFreeBlock (front ++ behind) last)
    (hfront : ∀ b ∈ front, b.start < block) (hbehind : ∀ b ∈ behind, block ≤ b.start)
    (hlast : block ≤ last) (hpasses : front.length < passes) :
    findPosition link block passes iterator = some (lastStart iterator front) := by
  induction front generalizing iterator passes with
  | nil =>
      obtain ⟨passes, rfl⟩ := Nat.exists_eq_add_of_lt hpasses
      rw [findPosition, if_neg, lastStart]
      cases behind with
      | nil =>
          have hnext : (link iterator).pxNextFreeBlock = last := h
          omega
      | cons q behind =>
          have hnext := h.1
          have hq := hbehind q List.mem_cons_self
          omega
  | cons b front ih =>
      obtain ⟨passes, rfl⟩ := Nat.exists_eq_add_of_lt hpasses
      obtain ⟨hfirst, _, hrest⟩ := h
      have hb := hfront b List.mem_cons_self
      rw [findPosition, if_pos (by omega), hfirst, lastStart]
      rw [hfirst] at hrest
      refine ih hrest (fun c hc => hfront c (List.mem_cons_of_mem _ hc)) ?_
      rw [List.length_cons]
      omega

/-! ## Insertion -/

/-- The heap is in a state in which a block can be inserted between these free blocks: it lies between them, and
    its header has its size. -/
structure Insertable (config : HeapConfig) (h : Heap) (low : Nat) (front : List Interval) (b : Interval)
    (behind : List Interval) : Prop where
  chain : Chain h.link (h.link config.xStart).pxNextFreeBlock (front ++ behind) h.pxEnd
  startSize : (h.link config.xStart).xBlockSize = 0
  size : (h.link b.start).xBlockSize = b.size
  pos : 0 < b.size
  separated : Separated low (front ++ behind)
  low_le : low ≤ b.start
  frontStop : ∀ c ∈ front, c.stop ≤ b.start
  behindStart : ∀ c ∈ behind, b.stop ≤ c.start
  stop_le : b.stop ≤ h.pxEnd
  behindStop : ∀ c ∈ behind, c.stop ≤ h.pxEnd
  xStart : config.xStart < low ∨ h.pxEnd < config.xStart

/-- The block has become free. -/
structure Inserted (config : HeapConfig) (h h' : Heap) (low : Nat) (l : List Interval) (b : Interval)
    (l' : List Interval) : Prop where
  chain : Chain h'.link (h'.link config.xStart).pxNextFreeBlock l' h'.pxEnd
  startSize : (h'.link config.xStart).xBlockSize = 0
  separated : Separated low l'
  covers : ∀ a, Covers l' a ↔ b.Contains a ∨ Covers l a
  total : total l' = b.size + total l
  aligned : ∀ m, m ∣ b.start ∧ m ∣ b.size → Aligned m l → Aligned m l'
  pxEnd : h'.pxEnd = h.pxEnd
  free : h'.xFreeBytesRemaining = h.xFreeBytesRemaining
  minimum : h'.xMinimumEverFreeBytesRemaining = h.xMinimumEverFreeBytesRemaining
  frame : ∀ y, y ≠ config.xStart → y ≠ b.start → (∀ c ∈ l, y ≠ c.start) → h'.link y = h.link y

/-- Behind the second half, the block heads the chain of what follows, merged. -/
theorem mergeBehind_spec (h : Heap) (iterator : Nat) (c : Interval) (behind : List Interval)
    (hchain : Chain h.link (h.link iterator).pxNextFreeBlock behind h.pxEnd)
    (hsize : (h.link c.start).xBlockSize = c.size) (hpos : 0 < c.size)
    (hseparated : Separated c.stop behind) (hstop : ∀ d ∈ behind, d.stop ≤ h.pxEnd) :
    Chain (mergeBehind h iterator c.start).link c.start (join c behind) h.pxEnd ∧
      (mergeBehind h iterator c.start).pxEnd = h.pxEnd ∧
      (mergeBehind h iterator c.start).xFreeBytesRemaining = h.xFreeBytesRemaining ∧
      (mergeBehind h iterator c.start).xMinimumEverFreeBytesRemaining =
        h.xMinimumEverFreeBytesRemaining ∧
      ∀ y, y ≠ c.start → (mergeBehind h iterator c.start).link y = h.link y := by
  have hstarts : ∀ {l : List Interval}, Separated c.stop l → ∀ d ∈ l, d.start ≠ c.start := by
    intro l hl d hd heq
    have hbound := (start_mem_bounds hl hd).1
    unfold Interval.stop at hbound
    omega
  cases behind with
  | nil =>
      -- behind the block is `pxEnd`, with which none is merged
      have hnext : (h.link iterator).pxNextFreeBlock = h.pxEnd := hchain
      have heq : mergeBehind h iterator c.start = h.setNext c.start h.pxEnd := by
        unfold mergeBehind
        rw [hnext, if_neg (not_not.mpr rfl), ite_self]
      rw [heq]
      refine ⟨⟨rfl, ?_, ?_⟩, rfl, rfl, rfl, fun y hy => ?_⟩
      · rw [setNext_link, if_pos rfl]
        exact hsize
      · rw [setNext_link, if_pos rfl]
        rfl
      · rw [setNext_link, if_neg hy]
  | cons q behind =>
      obtain ⟨hq, hqsize, hrest⟩ := hchain
      have hqpos := hseparated.2.1
      have hqstop := hstop q List.mem_cons_self
      have hne : q.start ≠ h.pxEnd := by
        unfold Interval.stop at hqstop
        omega
      have hqc := hstarts hseparated q List.mem_cons_self
      rw [hq] at hqsize hrest
      by_cases htouch : c.stop = q.start
      · -- the two blocks become one
        have heq : mergeBehind h iterator c.start =
            (h.setSize c.start (c.size + q.size)).setNext c.start (h.link q.start).pxNextFreeBlock := by
          unfold mergeBehind
          rw [hq, hsize, if_pos (show c.start + c.size = q.start from htouch), if_pos hne]
          dsimp only
          rw [hqsize, setSize_link, if_neg hqc]
        rw [heq, join, if_pos htouch]
        have hrest' : Chain h.link (h.link q.start).pxNextFreeBlock behind h.pxEnd := hrest
        refine ⟨⟨rfl, ?_, ?_⟩, rfl, rfl, rfl, fun y hy => ?_⟩
        · rw [setNext_link, if_pos rfl, setSize_link, if_pos rfl]
        · rw [setNext_link, if_pos rfl]
          refine chain_congr hrest' fun d hd => ?_
          have hd' := hstarts hseparated d (List.mem_cons_of_mem _ hd)
          rw [setNext_link, if_neg hd', setSize_link, if_neg hd']
        · rw [setNext_link, if_neg hy, setSize_link, if_neg hy]
      · -- a gap stays between them
        have heq : mergeBehind h iterator c.start = h.setNext c.start q.start := by
          unfold mergeBehind
          rw [hq, hsize, if_neg (show ¬ c.start + c.size = q.start from htouch)]
        rw [heq, join, if_neg htouch]
        refine ⟨⟨rfl, ?_, ?_⟩, rfl, rfl, rfl, fun y hy => ?_⟩
        · rw [setNext_link, if_pos rfl]
          exact hsize
        · rw [setNext_link, if_pos rfl]
          have hchain : Chain h.link q.start (q :: behind) h.pxEnd := ⟨rfl, hqsize, hrest⟩
          exact chain_congr hchain fun d hd => by
            rw [setNext_link, if_neg (hstarts hseparated d hd)]
        · rw [setNext_link, if_neg hy]

section Insert

variable {config : HeapConfig} {h : Heap} {low : Nat} {b : Interval}

/-- What is free, or becomes free, lies in the heap, and `xStart` does not. -/
theorem Insertable.xStart_ne (hi : Insertable config h low front b behind) {y : Nat} (hlow : low ≤ y)
    (hlast : y ≤ h.pxEnd) : y ≠ config.xStart := by
  rcases hi.xStart with hlt | hgt <;> omega

theorem Insertable.start_lt (hi : Insertable config h low front b behind) : b.start < h.pxEnd := by
  have hstop := hi.stop_le
  have hpos := hi.pos
  unfold Interval.stop at hstop
  omega

theorem Insertable.behind_separated (hi : Insertable config h low front b behind) :
    Separated b.stop behind :=
  separated_of_starts (separated_append.mp hi.separated).2 hi.behindStart

theorem Insertable.behind_lt (hi : Insertable config h low front b behind) {c : Interval}
    (hc : c ∈ behind) : b.start < c.start ∧ c.start < h.pxEnd := by
  have hstart := hi.behindStart c hc
  have hstop := hi.behindStop c hc
  have hpos := (start_mem_bounds hi.behind_separated hc).2
  have hbpos := hi.pos
  unfold Interval.stop at hstart hstop
  omega

/-- In front of all free blocks, the block is linked from `xStart`. -/
theorem insertBehind_first (hi : Insertable config h low [] b behind) :
    Inserted config h (insertBehind h config.xStart b.start) low behind b (join b behind) := by
  have hb := hi.xStart_ne hi.low_le (Nat.le_of_lt hi.start_lt)
  have hbehind : ∀ c ∈ behind, c.start ≠ config.xStart := fun c hc =>
    hi.xStart_ne (Nat.le_trans hi.low_le (Nat.le_of_lt (hi.behind_lt hc).1))
      (Nat.le_of_lt (hi.behind_lt hc).2)
  obtain ⟨hchain, hend, hfree, hminimum, hframe⟩ := mergeBehind_spec h config.xStart b behind hi.chain
    hi.size hi.pos hi.behind_separated hi.behindStop
  have heq : insertBehind h config.xStart b.start =
      (mergeBehind h config.xStart b.start).setNext config.xStart b.start := by
    unfold insertBehind
    rw [hi.startSize, Nat.add_zero, if_neg hb.symm]
    exact if_pos hb.symm
  rw [heq]
  refine ⟨?_, ?_, separated_join hi.low_le hi.pos hi.behind_separated, fun a => covers_join, total_join,
    fun m hm haligned => aligned_join hm haligned, hend, hfree, hminimum, ?_⟩
  · rw [setNext_link, if_pos rfl, setNext_pxEnd, hend]
    refine chain_congr hchain fun d hd => ?_
    rw [setNext_link, if_neg]
    rcases start_of_mem_join hd with hstart | hd
    · exact hstart ▸ hb
    · exact hbehind d hd
  · rw [setNext_link, if_pos rfl]
    exact (congrArg BlockLink.xBlockSize (hframe _ hb.symm)).trans hi.startSize
  · intro y hyStart hyb _
    rw [setNext_link, if_neg hyStart]
    exact hframe y hyb

/-- Behind a free block, the block is merged with it or linked from it. -/
theorem insertBehind_behind {p : Interval} (hi : Insertable config h low (front ++ [p]) b behind) :
    ∃ l', Inserted config h (insertBehind h p.start b.start) low (front ++ p :: behind) b l' := by
  have hseparated : Separated low (front ++ p :: behind) := by simpa using hi.separated
  obtain ⟨hfrontGap, hbehindGap⟩ := gaps_around hseparated
  obtain ⟨hfrontSep, hpLow, hppos, hbehindSep⟩ := separated_append.mp hseparated
  have hlowp := (start_mem_bounds hseparated (List.mem_append_right _ List.mem_cons_self)).1
  have hpstop : p.stop ≤ b.start := hi.frontStop p (List.mem_append_right _ (List.mem_singleton.mpr rfl))
  have hpb : p.start < b.start := by
    unfold Interval.stop at hpstop
    omega
  have hpStart := hi.xStart_ne hlowp (Nat.le_of_lt (Nat.lt_trans hpb hi.start_lt))
  have hchain : Chain h.link (h.link config.xStart).pxNextFreeBlock (front ++ p :: behind) h.pxEnd := by
    simpa using hi.chain
  obtain ⟨middle, hfront, hmiddle, hpsize, hbehind⟩ := chain_append.mp hchain
  subst hmiddle
  have hfrontStarts : ∀ c ∈ front, c.start ≠ p.start := by
    intro c hc heq
    have hgap := hfrontGap c hc
    unfold Interval.stop at hgap
    omega
  have hbehindStarts : ∀ c ∈ behind, c.start ≠ p.start := fun c hc heq => by
    have hlt := (hi.behind_lt hc).1
    omega
  by_cases htouch : p.stop = b.start
  · -- the block grows the one in front
    have hcsize : 0 < p.size + b.size := Nat.add_pos_left hppos _
    have heq : insertBehind h p.start b.start =
        mergeBehind (h.setSize p.start (p.size + b.size)) p.start p.start := by
      unfold insertBehind
      rw [hpsize, hi.size, if_pos (show p.start + p.size = b.start from htouch)]
    have hnext : ((h.setSize p.start (p.size + b.size)).link p.start).pxNextFreeBlock =
        (h.link p.start).pxNextFreeBlock := by rw [setSize_link, if_pos rfl]
    have hstop : (⟨p.start, p.size + b.size⟩ : Interval).stop = b.stop := by
      show p.start + (p.size + b.size) = b.start + b.size
      unfold Interval.stop at htouch
      omega
    obtain ⟨hmerged, hend, hfree, hminimum, hframe⟩ :=
      mergeBehind_spec (h.setSize p.start (p.size + b.size)) p.start ⟨p.start, p.size + b.size⟩ behind
        (by
          rw [hnext]
          exact chain_congr hbehind fun d hd => by rw [setSize_link, if_neg (hbehindStarts d hd)])
        (by rw [setSize_link, if_pos rfl]) hcsize (hstop ▸ hi.behind_separated) hi.behindStop
    rw [heq]
    have hlink : ∀ y, y ≠ p.start →
        (mergeBehind (h.setSize p.start (p.size + b.size)) p.start p.start).link y = h.link y := by
      intro y hy
      rw [hframe y hy, setSize_link, if_neg hy]
    refine ⟨front ++ join ⟨p.start, p.size + b.size⟩ behind, ?_, ?_, ?_, ?_, ?_, ?_, hend, hfree, hminimum, ?_⟩
    · rw [hlink _ hpStart.symm, hend]
      exact chain_append.mpr ⟨p.start, chain_congr hfront fun c hc => hlink _ (hfrontStarts c hc), hmerged⟩
    · rw [hlink _ hpStart.symm]
      exact hi.startSize
    · exact separated_append.mpr ⟨hfrontSep, separated_join hpLow hcsize (hstop ▸ hi.behind_separated)⟩
    · intro a
      have hjoin : (⟨p.start, p.size + b.size⟩ : Interval).Contains a ↔ p.Contains a ∨ b.Contains a := by
        obtain ⟨y, t⟩ := p
        obtain ⟨x, s⟩ := b
        obtain rfl : y + t = x := htouch
        exact contains_join
      rw [covers_append, covers_join, hjoin, covers_append, covers_cons]
      tauto
    · rw [total_append, total_join, total_append, total_cons]
      show total front + (p.size + b.size + total behind) = b.size + (total front + (p.size + total behind))
      omega
    · intro m hm haligned
      obtain ⟨hf, hp⟩ := aligned_append.mp haligned
      obtain ⟨hpm, hbm⟩ := aligned_cons.mp hp
      exact aligned_append.mpr ⟨hf, aligned_join ⟨hpm.1, Nat.dvd_add hpm.2 hm.2⟩ hbm⟩
    · intro y _ _ hy
      exact hlink y (hy p (List.mem_append_right _ List.mem_cons_self))
  · -- the block is linked behind it
    have hgap : p.stop + 1 ≤ b.start := by omega
    have hpne : p.start ≠ b.start := Nat.ne_of_lt hpb
    have hbStart := hi.xStart_ne hi.low_le (Nat.le_of_lt hi.start_lt)
    have heq : insertBehind h p.start b.start =
        (mergeBehind h p.start b.start).setNext p.start b.start := by
      unfold insertBehind
      rw [hpsize, if_neg (show ¬ p.start + p.size = b.start from htouch)]
      exact if_pos hpne
    obtain ⟨hmerged, hend, hfree, hminimum, hframe⟩ :=
      mergeBehind_spec h p.start b behind hbehind hi.size hi.pos hi.behind_separated hi.behindStop
    rw [heq]
    have hlink : ∀ y, y ≠ p.start → y ≠ b.start →
        ((mergeBehind h p.start b.start).setNext p.start b.start).link y = h.link y := by
      intro y hp hb
      rw [setNext_link, if_neg hp, hframe y hb]
    have hplink : ((mergeBehind h p.start b.start).setNext p.start b.start).link p.start =
        ⟨b.start, p.size⟩ := by rw [setNext_link, if_pos rfl, hframe _ hpne, hpsize]
    have hfrontBlocks : ∀ c ∈ front, c.start ≠ b.start := by
      intro c hc hcb
      have hcgap := hfrontGap c hc
      unfold Interval.stop at hcgap
      omega
    refine ⟨front ++ p :: join b behind, ?_, ?_, ?_, ?_, ?_, ?_, hend, hfree, hminimum, ?_⟩
    · rw [hlink _ hpStart.symm hbStart.symm, setNext_pxEnd, hend]
      refine chain_append.mpr ⟨p.start, chain_congr hfront fun c hc =>
        hlink _ (hfrontStarts c hc) (hfrontBlocks c hc), rfl, congrArg BlockLink.xBlockSize hplink, ?_⟩
      rw [hplink]
      refine chain_congr hmerged fun d hd => ?_
      rw [setNext_link, if_neg]
      rcases start_of_mem_join hd with hstart | hd
      · exact hstart ▸ hpne.symm
      · exact hbehindStarts d hd
    · rw [hlink _ hpStart.symm hbStart.symm]
      exact hi.startSize
    · exact separated_append.mpr ⟨hfrontSep, hpLow, hppos, separated_join hgap hi.pos hi.behind_separated⟩
    · intro a
      rw [covers_append, covers_cons, covers_join, covers_append, covers_cons]
      tauto
    · rw [total_append, total_cons, total_join, total_append, total_cons]
      omega
    · intro m hm haligned
      obtain ⟨hf, hp⟩ := aligned_append.mp haligned
      obtain ⟨hpm, hbm⟩ := aligned_cons.mp hp
      exact aligned_append.mpr ⟨hf, aligned_cons.mpr ⟨hpm, aligned_join hm hbm⟩⟩
    · intro y _ hyb hy
      exact hlink y (hy p (List.mem_append_right _ List.mem_cons_self)) hyb

/-- The list is not longer than the heap. -/
theorem length_le_of_separated (hseparated : Separated low l) {high : Nat} (hlow : low ≤ high)
    (hstop : ∀ c ∈ l, c.stop ≤ high) : low + l.length ≤ high := by
  induction l generalizing low with
  | nil => exact hlow
  | cons c l ih =>
      obtain ⟨hc, hpos, hrest⟩ := hseparated
      have hcstop := hstop c List.mem_cons_self
      have hrest' : Separated (low + 1) l := separated_mono hrest (by unfold Interval.stop; omega)
      have hle := ih hrest' (by unfold Interval.stop at hcstop; omega)
        fun d hd => hstop d (List.mem_cons_of_mem _ hd)
      rw [List.length_cons]
      omega

/-- **Insertion.** A block that lies between free blocks becomes free, merged with its neighbours. -/
theorem prvInsertBlockIntoFreeList_spec (hi : Insertable config h low front b behind)
    (hpasses : front.length ≤ config.totalHeapSize) :
    ∃ h' l', prvInsertBlockIntoFreeList config h b.start = some h' ∧
      Inserted config h h' low (front ++ behind) b l' := by
  have hfrontLt : ∀ c ∈ front, c.start < b.start := by
    intro c hc
    have hstop := hi.frontStop c hc
    have hpos := (start_mem_bounds hi.separated (List.mem_append_left _ hc)).2
    unfold Interval.stop at hstop
    omega
  have hfind := findPosition_eq hi.chain hfrontLt (fun c hc => Nat.le_of_lt (hi.behind_lt hc).1)
    (Nat.le_of_lt hi.start_lt) (Nat.lt_succ_of_le hpasses)
  unfold prvInsertBlockIntoFreeList
  rw [hfind]
  rcases List.eq_nil_or_concat front with rfl | ⟨front', p, rfl⟩
  · exact ⟨_, _, rfl, insertBehind_first hi⟩
  · rw [List.concat_eq_append] at hi ⊢
    obtain ⟨l', hl'⟩ := insertBehind_behind hi
    rw [lastStart_concat]
    refine ⟨_, l', rfl, ?_⟩
    simpa using hl'

end Insert

end Freertos
end Obsw
