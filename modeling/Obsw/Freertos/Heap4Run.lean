import Obsw.Freertos.Heap4
import Mathlib.Order.Bounds.Basic
import Mathlib.Order.Lattice.Nat

/-!
# `Freertos.Heap4Run` — what the heap promises its users

Over any order of calls of `pvPortMalloc` and `vPortFree` in which the application frees what it holds, the
heap is parted into free blocks, linked in order, and blocks of the application, marked in their headers
(`Shape`). Each call keeps that (`pvPortMalloc_spec`, `vPortFree_spec`). So the memory handed out does not
overlap (`heap_safe`), a request fails exactly if there is no room for it (`heap_complete`), and the counters
of free bytes are right (`heap_accounts`).
-/

namespace Obsw
namespace Freertos

open Intervals

/-! ## The memory of the heap -/

/-- The heap is an array in 32-bit memory, large enough for a block, and `xStart` is not in it. -/
structure HeapConfig.Ok (config : HeapConfig) : Prop where
  ucHeap : 0 < config.ucHeap
  large : 32 ≤ config.totalHeapSize
  small : config.totalHeapSize < 2 ^ 31
  fits : config.ucHeap + config.totalHeapSize ≤ 2 ^ 32
  xStart : config.xStart + xHeapStructSize ≤ config.ucHeap ∨
    config.ucHeap + config.totalHeapSize ≤ config.xStart

section Memory

variable {config : HeapConfig}

theorem pucAlignedHeap_bounds (config : HeapConfig) :
    config.ucHeap ≤ pucAlignedHeap config ∧ pucAlignedHeap config ≤ config.ucHeap + 7 ∧
      8 ∣ pucAlignedHeap config := by
  unfold pucAlignedHeap alignDown portByteAlignment
  split_ifs with h
  · omega
  · exact ⟨Nat.le_refl _, Nat.le_add_right _ 7, Nat.dvd_of_mod_eq_zero (not_not.mp h)⟩

theorem endAddress_bounds (hok : config.Ok) :
    pucAlignedHeap config + 16 ≤ endAddress config ∧
      endAddress config + 8 ≤ config.ucHeap + config.totalHeapSize ∧ 8 ∣ endAddress config := by
  obtain ⟨hlow, hhigh, hdvd⟩ := pucAlignedHeap_bounds config
  have hlarge := hok.large
  unfold endAddress alignDown portByteAlignment xHeapStructSize
  omega

theorem xStart_outside (hok : config.Ok) :
    config.xStart < pucAlignedHeap config ∨ endAddress config < config.xStart := by
  have hlow := (pucAlignedHeap_bounds config).1
  have hend := (endAddress_bounds hok).2.1
  rcases hok.xStart with hbelow | habove
  · unfold xHeapStructSize at hbelow
    omega
  · omega

end Memory

/-! ## Marks in the headers -/

theorem mark_eq {size : Nat} (h : size < 2 ^ 31) : size ||| xBlockAllocatedBit = 2 ^ 31 + size := by
  rw [Nat.or_comm]
  exact (Nat.two_pow_add_eq_or_of_lt h 1).symm

theorem marked_ne_zero (size : Nat) :
    (size ||| xBlockAllocatedBit) &&& xBlockAllocatedBit ≠ 0 := by
  intro heq
  have hbit := congrArg (Nat.testBit · 31) heq
  simp only [xBlockAllocatedBit, Nat.testBit_and, Nat.testBit_or, Nat.testBit_two_pow_self, Bool.or_true,
    Bool.and_true, Nat.zero_testBit] at hbit
  cases hbit

theorem unmarked_eq_zero {size : Nat} (h : size < 2 ^ 31) : size &&& xBlockAllocatedBit = 0 := by
  refine Nat.eq_of_testBit_eq fun i => ?_
  rw [xBlockAllocatedBit, Nat.testBit_and, Nat.testBit_two_pow, Nat.zero_testBit]
  by_cases hi : 31 = i
  · rw [← hi, Nat.testBit_lt_two_pow h, Bool.false_and]
  · simp [hi]

theorem unmark_eq {size : Nat} (h : size < 2 ^ 31) :
    (size ||| xBlockAllocatedBit) &&& (2 ^ 32 - 1 - xBlockAllocatedBit) = size := by
  have hmask : 2 ^ 32 - 1 - xBlockAllocatedBit = 2 ^ 31 - 1 := by decide
  rw [hmask, Nat.and_two_pow_sub_one_eq_mod, mark_eq h, Nat.add_mod_left, Nat.mod_eq_of_lt h]

/-! ## The shape of the heap -/

/-- The list of free blocks, linked from `xStart` to `pxEnd`. -/
structure FreeList (config : HeapConfig) (h : Heap) (free : List Interval) : Prop where
  pxEnd : h.pxEnd = endAddress config
  chain : Chain h.link (h.link config.xStart).pxNextFreeBlock free h.pxEnd
  startSize : (h.link config.xStart).xBlockSize = 0
  endLink : h.link h.pxEnd = ⟨0, 0⟩

/-- The memory of the heap, parted into free blocks and blocks that are not in the list. -/
def Parts (config : HeapConfig) : List Interval → List Interval → Prop :=
  Parted 8 (pucAlignedHeap config) (endAddress config)

/-- The heap between two calls: the blocks of the application are marked. -/
structure Shape (config : HeapConfig) (h : Heap) (free taken : List Interval) : Prop where
  linked : FreeList config h free
  parts : Parts config free taken
  header : ∀ b ∈ taken, h.link b.start = ⟨0, b.size ||| xBlockAllocatedBit⟩
  bytes : h.xFreeBytesRemaining = total free

/-- A header at the address is none that lies in the region, nor `xStart`. -/
def Outside (config : HeapConfig) (region : Nat → Prop) (y : Nat) : Prop :=
  y ≠ config.xStart ∧ ∃ a, y ≤ a ∧ a < y + xHeapStructSize ∧ ¬ region a

/-- A call writes no header but those in the region, and `xStart`. -/
def WritesIn (config : HeapConfig) (region : Nat → Prop) (h h' : Heap) : Prop :=
  ∀ y, Outside config region y → h'.link y = h.link y

theorem Outside.ne {config : HeapConfig} {region : Nat → Prop} {x y : Nat} (hout : Outside config region y)
    (hx : ∀ a, x ≤ a → a < x + xHeapStructSize → region a) : y ≠ x := by
  rintro rfl
  obtain ⟨_, a, hle, hlt, ha⟩ := hout
  exact ha (hx a hle hlt)

section Blocks

variable {config : HeapConfig} {h : Heap} {free taken front behind : List Interval} {b : Interval}

/-- A block holds its header. -/
theorem header_contains (hparts : Parts config free taken) (hb : b ∈ free ∨ b ∈ taken) {a : Nat}
    (hle : b.start ≤ a) (hlt : a < b.start + xHeapStructSize) : b.Contains a := by
  obtain ⟨hpos, hdvd⟩ : 0 < b.size ∧ 8 ∣ b.size := by
    rcases hb with hb | hb
    · exact ⟨(start_mem_bounds hparts.separated hb).2, (hparts.aligned b hb).2⟩
    · exact ⟨hparts.takenPos b hb, (hparts.takenAligned b hb).2⟩
  have hsize := Nat.le_of_dvd hpos hdvd
  exact ⟨hle, Nat.lt_of_lt_of_le hlt (Nat.add_le_add_left hsize _)⟩

theorem start_ne_xStart (hok : config.Ok) (hparts : Parts config free taken) (hb : b ∈ free ∨ b ∈ taken) :
    b.start ≠ config.xStart := by
  have hbounds := hparts.start_lt hb
  rcases xStart_outside hok with hbelow | habove <;> omega

/-- A block is in the heap, so its size leaves the top bit alone. -/
theorem size_lt (hok : config.Ok) (hparts : Parts config free taken) (hb : b ∈ taken) : b.size < 2 ^ 31 := by
  have hstop := (hparts.taken_bounds hb).2
  have hstart := (hparts.taken_bounds hb).1
  have hlow := (pucAlignedHeap_bounds config).1
  have hend := (endAddress_bounds hok).2.1
  have hsmall := hok.small
  unfold Interval.stop at hstop
  omega

/-- A block that is not in the list can be inserted. -/
theorem insertable_of_parts (hok : config.Ok) (hlinked : FreeList config h free)
    (hparts : Parts config free (b :: taken)) (hsize : (h.link b.start).xBlockSize = b.size) :
    ∃ front behind, free = front ++ behind ∧
      Insertable config h (pucAlignedHeap config) front b behind ∧ front.length ≤ config.totalHeapSize := by
  have hpos := hparts.takenPos b List.mem_cons_self
  obtain ⟨hlow, hstop⟩ := hparts.taken_bounds List.mem_cons_self
  obtain ⟨front, behind, rfl, hfront, hbehind⟩ := exists_position hparts.separated hpos
    fun a hb hfree => hparts.apart a hfree (covers_cons.mpr (Or.inl hb))
  have hstops : ∀ c ∈ front ++ behind, c.stop ≤ endAddress config := fun c hc => (hparts.free_bounds hc).2
  have hlength := length_le_of_separated hparts.separated
    (Nat.le_trans (Nat.le_add_right _ 16) (endAddress_bounds hok).1) hstops
  refine ⟨front, behind, rfl, ⟨hlinked.chain, hlinked.startSize, hsize, hpos, hparts.separated, hlow, hfront,
    hbehind, ?_, ?_, ?_⟩, ?_⟩
  · exact hlinked.pxEnd ▸ hstop
  · exact fun c hc => hlinked.pxEnd ▸ hstops c (List.mem_append_right _ hc)
  · exact hlinked.pxEnd ▸ xStart_outside hok
  · have hend := (endAddress_bounds hok).2.1
    have hbase := (pucAlignedHeap_bounds config).1
    rw [List.length_append] at hlength
    omega

/-- **Giving back.** A block that is not in the list becomes free. -/
theorem insert_parts (hok : config.Ok) (hlinked : FreeList config h free)
    (hparts : Parts config free (b :: taken)) (hsize : (h.link b.start).xBlockSize = b.size) :
    ∃ h' free', prvInsertBlockIntoFreeList config h b.start = some h' ∧ FreeList config h' free' ∧
      Parts config free' taken ∧ total free' = b.size + total free ∧
      h'.xFreeBytesRemaining = h.xFreeBytesRemaining ∧
      h'.xMinimumEverFreeBytesRemaining = h.xMinimumEverFreeBytesRemaining ∧
      ∀ y, y ≠ config.xStart → y ≠ b.start → (∀ c ∈ free, y ≠ c.start) → h'.link y = h.link y := by
  obtain ⟨front, behind, rfl, hi, hpasses⟩ := insertable_of_parts hok hlinked hparts hsize
  obtain ⟨h', free', heq, hin⟩ := prvInsertBlockIntoFreeList_spec hi hpasses
  refine ⟨h', free', heq, ⟨hin.pxEnd.trans hlinked.pxEnd, hin.chain, hin.startSize, ?_⟩, ?_, hin.total, hin.free,
    hin.minimum, hin.frame⟩
  · have hend := hlinked.pxEnd
    have hne : ∀ c, c ∈ front ++ behind ∨ c ∈ b :: taken → h.pxEnd ≠ c.start := by
      intro c hc
      have hlt := (hparts.start_lt hc).2
      omega
    rw [hin.pxEnd, hin.frame h.pxEnd]
    · exact hlinked.endLink
    · rcases xStart_outside hok with hbelow | habove
      · have hbase := (endAddress_bounds hok).1
        omega
      · omega
    · exact hne b (Or.inr List.mem_cons_self)
    · exact fun c hc => hne c (Or.inl hc)
  · exact hparts.give hin.separated
      (hin.aligned 8 (hparts.takenAligned b List.mem_cons_self) hparts.aligned) hin.covers hin.total

theorem outside_of_taken (hok : config.Ok) (hparts : Parts config free taken) (hb : b ∈ taken) :
    Outside config (Covers free) b.start := by
  refine ⟨start_ne_xStart hok hparts (Or.inr hb), b.start, Nat.le_refl _, Nat.lt_add_of_pos_right (by decide),
    fun hfree => hparts.apart _ hfree ⟨b, hb, Nat.le_refl _, ?_⟩⟩
  exact Nat.lt_add_of_pos_right (hparts.takenPos b hb)

theorem outside_end (hok : config.Ok) (region : Nat → Prop) (hregion : ∀ a, region a → a < endAddress config) :
    Outside config region (endAddress config) := by
  refine ⟨?_, endAddress config, Nat.le_refl _, Nat.lt_add_of_pos_right (by decide), fun ha => ?_⟩
  · have hbase := (endAddress_bounds hok).1
    rcases xStart_outside hok with hbelow | habove <;> omega
  · exact Nat.lt_irrefl _ (hregion _ ha)

end Blocks

/-! ## The search of `pvPortMalloc` -/

section Search

variable {link : Nat → BlockLink} {low first last wanted previous passes : Nat} {l front behind : List Interval}
  {b : Interval}

/-- Only the last header has no next one. -/
theorem chain_first_pos (h : Chain link first l last) (hseparated : Separated low l) (hlow : 0 < low)
    (hlast : 0 < last) : 0 < first := by
  cases l with
  | nil => exact h ▸ hlast
  | cons c l => exact h.1 ▸ Nat.lt_of_lt_of_le hlow hseparated.1

/-- **First fit.** The search ends at the first block that is large enough. -/
theorem findFit_eq (h : Chain link (link previous).pxNextFreeBlock (front ++ b :: behind) last)
    (hseparated : Separated low (front ++ b :: behind)) (hlow : 0 < low) (hlast : 0 < last)
    (hfront : ∀ c ∈ front, c.size < wanted) (hb : wanted ≤ b.size) (hpasses : front.length < passes) :
    findFit link wanted passes previous (link previous).pxNextFreeBlock =
      some (lastStart previous front, b.start) := by
  induction front generalizing previous passes low with
  | nil =>
      obtain ⟨passes, rfl⟩ := Nat.exists_eq_add_of_lt hpasses
      obtain ⟨hfirst, hsize, _⟩ := h
      rw [findFit, if_neg (by omega), hfirst, lastStart]
  | cons c front ih =>
      obtain ⟨passes, rfl⟩ := Nat.exists_eq_add_of_lt hpasses
      obtain ⟨hfirst, hsize, hrest⟩ := h
      have hc := hfront c List.mem_cons_self
      have hnext := chain_first_pos hrest hseparated.2.2 (Nat.succ_pos _) hlast
      rw [findFit, if_pos ⟨by omega, by omega⟩, hfirst, lastStart]
      rw [hfirst] at hrest
      refine ih hrest hseparated.2.2 (Nat.succ_pos _) (fun d hd => hfront d (List.mem_cons_of_mem _ hd)) ?_
      rw [List.length_cons]
      omega

/-- If no block is large enough, the search ends at the end marker. -/
theorem findFit_end (h : Chain link (link previous).pxNextFreeBlock l last)
    (hseparated : Separated low l) (hlast : 0 < last) (hend : (link last).pxNextFreeBlock = 0)
    (hl : ∀ c ∈ l, c.size < wanted) (hpasses : l.length < passes) :
    findFit link wanted passes previous (link previous).pxNextFreeBlock =
      some (lastStart previous l, last) := by
  induction l generalizing previous passes low with
  | nil =>
      obtain ⟨passes, rfl⟩ := Nat.exists_eq_add_of_lt hpasses
      have hfirst : (link previous).pxNextFreeBlock = last := h
      rw [findFit, hfirst, if_neg (fun hloop => hloop.2 hend), lastStart]
  | cons c l ih =>
      obtain ⟨passes, rfl⟩ := Nat.exists_eq_add_of_lt hpasses
      obtain ⟨hfirst, hsize, hrest⟩ := h
      have hc := hl c List.mem_cons_self
      have hnext := chain_first_pos hrest hseparated.2.2 (Nat.succ_pos _) hlast
      rw [findFit, if_pos ⟨by omega, by omega⟩, hfirst, lastStart]
      rw [hfirst] at hrest
      refine ih hrest hseparated.2.2 (fun d hd => hl d (List.mem_cons_of_mem _ hd)) ?_
      rw [List.length_cons]
      omega

end Search

/-! ## Taking a block -/

theorem lastStart_mem (first : Nat) (l : List Interval) :
    lastStart first l = first ∨ ∃ c ∈ l, lastStart first l = c.start := by
  induction l generalizing first with
  | nil => exact Or.inl rfl
  | cons c l ih =>
      right
      rcases ih c.start with heq | ⟨d, hd, heq⟩
      · exact ⟨c, List.mem_cons_self, heq⟩
      · exact ⟨d, List.mem_cons_of_mem _ hd, heq⟩

/-- The header in front is linked with the block behind. -/
theorem chain_unlink {h : Heap} {low iterator last : Nat} {front behind : List Interval} {b : Interval}
    (hchain : Chain h.link (h.link iterator).pxNextFreeBlock (front ++ b :: behind) last)
    (hseparated : Separated low (front ++ b :: behind))
    (hiterator : ∀ c ∈ front ++ b :: behind, c.start ≠ iterator) :
    let h' := h.setNext (lastStart iterator front) (h.link b.start).pxNextFreeBlock
    Chain h'.link (h'.link iterator).pxNextFreeBlock (front ++ behind) last := by
  intro h'
  induction front generalizing iterator low with
  | nil =>
      obtain ⟨hfirst, _, hrest⟩ := hchain
      rw [hfirst] at hrest
      have hlink : h'.link iterator = ⟨(h.link b.start).pxNextFreeBlock, (h.link iterator).xBlockSize⟩ := by
        rw [setNext_link]
        exact if_pos rfl
      rw [hlink]
      refine chain_congr hrest fun c hc => ?_
      rw [setNext_link]
      exact if_neg (hiterator c (List.mem_cons_of_mem _ hc))
  | cons c front ih =>
      obtain ⟨hfirst, hsize, hrest⟩ := hchain
      have hc : ∀ d ∈ front ++ b :: behind, d.start ≠ c.start := by
        intro d hd heq
        have hbound := (start_mem_bounds hseparated.2.2 hd).1
        unfold Interval.stop at hbound
        omega
      have hlast : lastStart c.start front ≠ iterator := by
        rcases lastStart_mem c.start front with heq | ⟨d, hd, heq⟩
        · rw [heq]
          exact hiterator c List.mem_cons_self
        · rw [heq]
          exact hiterator d (List.mem_cons_of_mem _ (List.mem_append_left _ hd))
      have hlink : h'.link iterator = h.link iterator := by
        rw [setNext_link]
        exact if_neg hlast.symm
      have hsizes : ∀ y, (h'.link y).xBlockSize = (h.link y).xBlockSize := by
        intro y
        rw [setNext_link]
        split_ifs with hy
        · rw [hy]
        · rfl
      rw [hlink]
      refine ⟨hfirst, (hsizes _).trans hsize, ?_⟩
      rw [hfirst] at hrest ⊢
      exact ih hrest hseparated.2.2 hc

theorem Shape.perm {config : HeapConfig} {h : Heap} {free taken taken' : List Interval}
    (hshape : Shape config h free taken) (hperm : taken.Perm taken') : Shape config h free taken' :=
  ⟨hshape.linked, Parted.perm hshape.parts hperm, fun b hb => hshape.header b (hperm.mem_iff.mpr hb),
    hshape.bytes⟩

section Take

variable {config : HeapConfig} {h : Heap} {free taken front behind : List Interval} {b : Interval}

theorem markBlock_link (h : Heap) (block y : Nat) : (markBlock h block).link y =
    if y = block then ⟨0, (h.link block).xBlockSize ||| xBlockAllocatedBit⟩ else h.link y := by
  simp only [markBlock, setNext_link, setSize_link]
  split_ifs <;> rfl

/-- Headers of blocks that are not in the list do not matter to it. -/
theorem FreeList.congr {h' : Heap} (hlinked : FreeList config h free) (hend : h'.pxEnd = h.pxEnd)
    (hstart : h'.link config.xStart = h.link config.xStart) (hlast : h'.link h.pxEnd = h.link h.pxEnd)
    (hfree : ∀ c ∈ free, h'.link c.start = h.link c.start) : FreeList config h' free := by
  refine ⟨hend.trans hlinked.pxEnd, ?_, ?_, ?_⟩
  · rw [hstart, hend]
    exact chain_congr hlinked.chain hfree
  · rw [hstart]
    exact hlinked.startSize
  · rw [hend, hlast]
    exact hlinked.endLink

theorem FreeList.end_ne (hlinked : FreeList config h free) (hparts : Parts config free taken) (hb : b ∈ taken) :
    h.pxEnd ≠ b.start := by
  have hlt := (hparts.start_lt (Or.inr hb)).2
  have heq := hlinked.pxEnd
  omega

theorem taken_start_ne {c : Interval} (hparts : Parts config free (b :: taken)) (hc : c ∈ taken) :
    c.start ≠ b.start := by
  intro heq
  have hbpos := hparts.takenPos b List.mem_cons_self
  have hcpos := hparts.takenPos c (List.mem_cons_of_mem _ hc)
  refine (List.pairwise_cons.mp hparts.disjoint).1 c hc b.start ⟨Nat.le_refl _, ?_⟩ ⟨Nat.le_of_eq heq, ?_⟩
  · exact Nat.lt_add_of_pos_right hbpos
  · exact heq ▸ Nat.lt_add_of_pos_right hcpos

/-- Marking a block that is not in the list. -/
theorem markBlock_shape (hok : config.Ok) (hlinked : FreeList config h free)
    (hparts : Parts config free (b :: taken)) (hsize : (h.link b.start).xBlockSize = b.size)
    (hheader : ∀ c ∈ taken, h.link c.start = ⟨0, c.size ||| xBlockAllocatedBit⟩)
    (hbytes : h.xFreeBytesRemaining = b.size + total free) :
    Shape config (markBlock h b.start) free (b :: taken) := by
  have hstart := start_ne_xStart hok hparts (Or.inr List.mem_cons_self)
  have hother : ∀ y, y ≠ b.start → (markBlock h b.start).link y = h.link y := fun y hy => by
    rw [markBlock_link, if_neg hy]
  refine ⟨hlinked.congr rfl (hother _ hstart.symm) (hother _ (hlinked.end_ne hparts List.mem_cons_self))
    fun c hc => hother _ (hparts.start_ne List.mem_cons_self hc).symm, hparts, ?_, ?_⟩
  · intro c hc
    rcases List.mem_cons.mp hc with rfl | hc
    · rw [markBlock_link, if_pos rfl, hsize]
    · rw [hother _ (taken_start_ne hparts hc)]
      exact hheader c hc
  · show h.xFreeBytesRemaining - (h.link b.start).xBlockSize = total free
    omega

/-- A block is taken out of the list. -/
theorem unlink_linked (hok : config.Ok) (hlinked : FreeList config h (front ++ b :: behind))
    (hparts : Parts config (front ++ b :: behind) taken) :
    let h' := h.setNext (lastStart config.xStart front) (h.link b.start).pxNextFreeBlock
    FreeList config h' (front ++ behind) ∧ (∀ y, (h'.link y).xBlockSize = (h.link y).xBlockSize) ∧
      WritesIn config (Covers (front ++ b :: behind)) h h' := by
  intro h'
  have hstarts : ∀ c ∈ front ++ b :: behind, c.start ≠ config.xStart := fun c hc =>
    start_ne_xStart hok hparts (Or.inl hc)
  have hwrites : WritesIn config (Covers (front ++ b :: behind)) h h' := by
    intro y hout
    rw [setNext_link, if_neg]
    rcases lastStart_mem config.xStart front with heq | ⟨c, hc, heq⟩
    · rw [heq]
      exact hout.1
    · rw [heq]
      have hmem : c ∈ front ++ b :: behind := List.mem_append_left _ hc
      exact hout.ne fun a hle hlt => ⟨c, hmem, header_contains hparts (Or.inl hmem) hle hlt⟩
  have hsizes : ∀ y, (h'.link y).xBlockSize = (h.link y).xBlockSize := by
    intro y
    rw [setNext_link]
    split_ifs with hy
    · rw [hy]
    · rfl
  refine ⟨⟨hlinked.pxEnd, ?_, ?_, ?_⟩, hsizes, hwrites⟩
  · exact chain_unlink hlinked.chain hparts.separated hstarts
  · rw [hsizes]
    exact hlinked.startSize
  · have hout := outside_end hok (Covers (front ++ b :: behind)) fun a ha =>
      ((hparts.covers a).mp (Or.inl ha)).2
    show h'.link h.pxEnd = _
    rw [hlinked.pxEnd, hwrites _ hout, ← hlinked.pxEnd]
    exact hlinked.endLink

/-- A block that is out of the list is split, and the rest goes back into it. -/
theorem split_parts (hok : config.Ok) (hlinked : FreeList config h free) {x wanted rest : Nat}
    (hparts : Parts config free (⟨x, wanted + rest⟩ :: taken)) (hpos : 0 < wanted) (hrest : 0 < rest)
    (hdvd : 8 ∣ wanted) :
    ∃ h' free', prvInsertBlockIntoFreeList config ((h.setSize (x + wanted) rest).setSize x wanted)
        (x + wanted) = some h' ∧ FreeList config h' free' ∧ Parts config free' (⟨x, wanted⟩ :: taken) ∧
      total free' = rest + total free ∧ h'.xFreeBytesRemaining = h.xFreeBytesRemaining ∧
      h'.xMinimumEverFreeBytesRemaining = h.xMinimumEverFreeBytesRemaining ∧
      (h'.link x).xBlockSize = wanted ∧
      ∀ y, y ≠ config.xStart → y ≠ x → y ≠ x + wanted → (∀ c ∈ free, y ≠ c.start) →
        h'.link y = h.link y := by
  have hparts₂ := (hparts.split hpos hrest hdvd).perm (List.Perm.swap _ _ _)
  set h₂ := (h.setSize (x + wanted) rest).setSize x wanted with hh₂
  have hne : x ≠ x + wanted := by omega
  have hother : ∀ y, y ≠ x → y ≠ x + wanted → h₂.link y = h.link y := fun y hx hnew => by
    rw [hh₂, setSize_link, if_neg hx, setSize_link, if_neg hnew]
  have hx : (⟨x, wanted⟩ : Interval) ∈ (⟨x + wanted, rest⟩ : Interval) :: ⟨x, wanted⟩ :: taken :=
    List.mem_cons_of_mem _ List.mem_cons_self
  have hnew : (⟨x + wanted, rest⟩ : Interval) ∈ (⟨x + wanted, rest⟩ : Interval) :: ⟨x, wanted⟩ :: taken :=
    List.mem_cons_self
  have hlinked₂ : FreeList config h₂ free := by
    refine hlinked.congr rfl (hother _ ?_ ?_) (hother _ ?_ ?_) fun c hc => hother _ ?_ ?_
    · exact (start_ne_xStart hok hparts₂ (Or.inr hx)).symm
    · exact (start_ne_xStart hok hparts₂ (Or.inr hnew)).symm
    · exact hlinked.end_ne hparts₂ hx
    · exact hlinked.end_ne hparts₂ hnew
    · exact (hparts₂.start_ne hx hc).symm
    · exact (hparts₂.start_ne hnew hc).symm
  have hsize₂ : (h₂.link (x + wanted)).xBlockSize = rest := by
    rw [hh₂, setSize_link, if_neg hne.symm, setSize_link, if_pos rfl]
  obtain ⟨h₃, free', hinsert, hlinked₃, hparts₃, htotal, hfree, hminimum, hframe⟩ :=
    insert_parts hok hlinked₂ hparts₂ hsize₂
  refine ⟨h₃, free', hinsert, hlinked₃, hparts₃, htotal, hfree, hminimum, ?_, ?_⟩
  · rw [hframe x (start_ne_xStart hok hparts₂ (Or.inr hx)) hne fun c hc => hparts₂.start_ne hx hc, hh₂,
      setSize_link, if_pos rfl]
  · intro y hstart hyx hynew hyfree
    rw [hframe y hstart hynew hyfree]
    exact hother y hyx hynew

/-- **Taking.** A block that is large enough is taken, or its first part. -/
theorem takeBlock_spec (hok : config.Ok) (hshape : Shape config h (front ++ b :: behind) taken)
    {wanted : Nat} (hpos : 0 < wanted) (hdvd : 8 ∣ wanted) (hle : wanted ≤ b.size) :
    ∃ h' free' size, takeBlock config h (lastStart config.xStart front) b.start wanted = some h' ∧
      wanted ≤ size ∧ size ≤ wanted + 16 ∧ Shape config h' free' (⟨b.start, size⟩ :: taken) ∧
      WritesIn config (Covers (front ++ b :: behind)) h h' ∧
      h'.xMinimumEverFreeBytesRemaining =
        min h.xMinimumEverFreeBytesRemaining h'.xFreeBytesRemaining := by
  obtain ⟨hlinked, hsizes, hwrites⟩ := unlink_linked hok hshape.linked hshape.parts
  set h₁ := h.setNext (lastStart config.xStart front) (h.link b.start).pxNextFreeBlock with hh₁
  have hparts := hshape.parts.take
  have hmem : b ∈ front ++ b :: behind := List.mem_append_right _ List.mem_cons_self
  have hbsize : (h.link b.start).xBlockSize = b.size := by
    obtain ⟨middle, _, hmiddle, hsize, _⟩ := chain_append.mp hshape.linked.chain
    exact hmiddle ▸ hsize
  have hheader₁ : ∀ c ∈ taken, h₁.link c.start = ⟨0, c.size ||| xBlockAllocatedBit⟩ := fun c hc =>
    (hwrites _ (outside_of_taken hok hshape.parts hc)).trans (hshape.header c hc)
  have hbytes₁ : h₁.xFreeBytesRemaining = b.size + total (front ++ behind) := by
    have hbytes := hshape.bytes
    simp only [total_append, total_cons] at hbytes ⊢
    rw [hh₁, setNext_free]
    omega
  have hmin : ∀ g : Heap, g.xMinimumEverFreeBytesRemaining = h.xMinimumEverFreeBytesRemaining →
      (markBlock g b.start).xMinimumEverFreeBytesRemaining =
        min h.xMinimumEverFreeBytesRemaining (markBlock g b.start).xFreeBytesRemaining := by
    intro g hg
    show (if _ < g.xMinimumEverFreeBytesRemaining then _ else g.xMinimumEverFreeBytesRemaining) =
      min _ (g.xFreeBytesRemaining - (g.link b.start).xBlockSize)
    rw [hg]
    split_ifs <;> omega
  have hbOut : ∀ y, Outside config (Covers (front ++ b :: behind)) y → y ≠ b.start := fun y hout =>
    hout.ne fun a hle hlt => ⟨b, hmem, header_contains hshape.parts (Or.inl hmem) hle hlt⟩
  by_cases hsplit : heapMinimumBlockSize < b.size - wanted
  · -- the rest is large enough for a block of its own
    obtain ⟨x, size⟩ := b
    obtain ⟨rest, rfl⟩ := Nat.exists_eq_add_of_le hle
    rw [Nat.add_sub_cancel_left] at hsplit
    have hrest : 0 < rest := Nat.zero_lt_of_lt hsplit
    obtain ⟨h₃, free', hinsert, hlinked₃, hparts₃, htotal, hfree, hminimum, hsize₃, hframe⟩ :=
      split_parts hok hlinked hparts hpos hrest hdvd
    have hwrites₃ : WritesIn config (Covers (front ++ ⟨x, wanted + rest⟩ :: behind)) h h₃ := by
      intro y hout
      rw [hframe y hout.1 (hbOut y hout) ?_ ?_]
      · exact hwrites y hout
      · -- the header of the rest lies in the block
        refine hout.ne fun a hle hlt => ⟨_, hmem, contains_join.mpr (Or.inr ?_)⟩
        exact header_contains (hparts.split hpos hrest hdvd)
          (Or.inr (List.mem_cons_of_mem _ List.mem_cons_self)) hle hlt
      · intro c hc
        have hmem' : c ∈ front ++ ⟨x, wanted + rest⟩ :: behind := by
          simp only [List.mem_append, List.mem_cons] at hc ⊢
          exact hc.imp_right Or.inr
        exact hout.ne fun a hle hlt => ⟨c, hmem', header_contains hshape.parts (Or.inl hmem') hle hlt⟩
    have heq : takeBlock config h (lastStart config.xStart front) x wanted = some (markBlock h₃ x) := by
      unfold takeBlock
      rw [← hh₁]
      dsimp only
      rw [hsizes, hbsize, Nat.add_sub_cancel_left, if_pos hsplit, hinsert, Option.map_some]
    refine ⟨markBlock h₃ x, free', wanted, heq, Nat.le_refl _, Nat.le_add_right _ _, ?_, ?_,
      hmin h₃ hminimum⟩
    · refine markBlock_shape hok hlinked₃ hparts₃ hsize₃ (fun c hc => ?_) ?_
      · rw [hwrites₃ _ (outside_of_taken hok hshape.parts hc)]
        exact hshape.header c hc
      · show h₃.xFreeBytesRemaining = wanted + total free'
        have hbytes : h₁.xFreeBytesRemaining = wanted + rest + total (front ++ behind) := hbytes₁
        rw [hfree, hbytes, htotal, Nat.add_assoc]
    · intro y hout
      rw [markBlock_link, if_neg (hbOut y hout)]
      exact hwrites₃ y hout
  · -- the whole block is given
    have heq : takeBlock config h (lastStart config.xStart front) b.start wanted =
        some (markBlock h₁ b.start) := by
      unfold takeBlock
      rw [← hh₁]
      dsimp only
      rw [hsizes, hbsize, if_neg hsplit, Option.map_some]
    refine ⟨markBlock h₁ b.start, front ++ behind, b.size, heq, hle, ?_, ?_, ?_, hmin h₁ rfl⟩
    · unfold heapMinimumBlockSize xHeapStructSize at hsplit
      omega
    · exact markBlock_shape hok hlinked hparts ((hsizes _).trans hbsize) hheader₁ hbytes₁
    · intro y hout
      rw [markBlock_link, if_neg (hbOut y hout)]
      exact hwrites y hout

end Take

/-! ## One call -/

section Calls

variable {config : HeapConfig} {h : Heap} {free taken : List Interval} {b : Interval}

theorem adjustedSize_spec {w : Nat} (hw : 0 < w) :
    w + xHeapStructSize ≤ adjustedSize w ∧ 8 ∣ adjustedSize w := by
  unfold adjustedSize portByteAlignment xHeapStructSize
  rw [if_pos hw]
  dsimp only
  split_ifs <;> omega

theorem le_total {l : List Interval} (hb : b ∈ l) : b.size ≤ total l := by
  obtain ⟨front, behind, rfl⟩ := List.append_of_mem hb
  rw [total_append, total_cons]
  omega

theorem total_free_lt (hok : config.Ok) (hparts : Parts config free taken) : total free < 2 ^ 31 := by
  have htotal := hparts.total
  have hlow := (pucAlignedHeap_bounds config).1
  have hend := (endAddress_bounds hok).2.1
  have hsmall := hok.small
  omega

/-- The first block that is large enough splits the list. -/
theorem exists_first_fit {wanted : Nat} {l : List Interval} (h : ∃ b ∈ l, wanted ≤ b.size) :
    ∃ front b behind, l = front ++ b :: behind ∧ (∀ c ∈ front, c.size < wanted) ∧ wanted ≤ b.size := by
  induction l with
  | nil =>
      obtain ⟨b, hb, _⟩ := h
      cases hb
  | cons c l ih =>
      by_cases hc : wanted ≤ c.size
      · exact ⟨[], c, l, rfl, fun d hd => (by cases hd), hc⟩
      · obtain ⟨b, hb, hsize⟩ := h
        have hb' : b ∈ l := (List.mem_cons.mp hb).resolve_left fun heq => hc (heq ▸ hsize)
        obtain ⟨front, d, behind, rfl, hfront, hd⟩ := ih ⟨b, hb', hsize⟩
        refine ⟨c :: front, d, behind, rfl, fun e he => ?_, hd⟩
        rcases List.mem_cons.mp he with rfl | he
        · exact Nat.lt_of_not_le hc
        · exact hfront e he

theorem prvHeapInit_shape (hok : config.Ok) (h : Heap) :
    Shape config (prvHeapInit config h)
      [⟨pucAlignedHeap config, endAddress config - pucAlignedHeap config⟩] [] := by
  obtain ⟨hlarge, _, hend⟩ := endAddress_bounds hok
  have hbase := (pucAlignedHeap_bounds config).2.2
  have hstart := xStart_outside hok
  have hlink : ∀ y, (prvHeapInit config h).link y =
      if y = pucAlignedHeap config then
        ⟨endAddress config, endAddress config - pucAlignedHeap config⟩
      else if y = endAddress config then ⟨0, 0⟩
      else if y = config.xStart then ⟨pucAlignedHeap config, 0⟩
      else h.link y := fun y => by simp only [prvHeapInit, Function.update_apply]
  have hxStart : (prvHeapInit config h).link config.xStart = ⟨pucAlignedHeap config, 0⟩ := by
    rw [hlink, if_neg (by omega), if_neg (by omega), if_pos rfl]
  refine ⟨⟨rfl, ?_, ?_, ?_⟩, parted_whole (by omega) hbase hend, fun b hb => (by cases hb), ?_⟩
  · rw [hxStart]
    refine ⟨rfl, ?_, ?_⟩
    · rw [hlink, if_pos rfl]
    · rw [hlink, if_pos rfl]
      rfl
  · rw [hxStart]
  · show (prvHeapInit config h).link (endAddress config) = _
    rw [hlink, if_neg (by omega), if_pos rfl]
  · simp [prvHeapInit]

/-- **`pvPortMalloc`.** The request is refused for want of a block, and nothing changes, or a block is
    taken. -/
theorem pvPortMalloc_spec (hok : config.Ok) (hshape : Shape config h free taken) (w : Nat) :
    ((w = 0 ∨ ∀ b ∈ free, b.size < adjustedSize w) ∧ pvPortMalloc config h w = some (0, h)) ∨
    ((0 < w ∧ ∃ b ∈ free, adjustedSize w ≤ b.size) ∧
      ∃ b h' free', pvPortMalloc config h w = some (b.start + xHeapStructSize, h') ∧
        adjustedSize w ≤ b.size ∧ b.size ≤ adjustedSize w + 16 ∧
        Shape config h' free' (b :: taken) ∧ WritesIn config (Covers free) h h' ∧
        h'.xMinimumEverFreeBytesRemaining =
          min h.xMinimumEverFreeBytesRemaining h'.xFreeBytesRemaining) := by
  have hend := hshape.linked.pxEnd
  have hbounds := endAddress_bounds hok
  have hbase := pucAlignedHeap_bounds config
  have hucHeap := hok.ucHeap
  have hsmall := total_free_lt hok hshape.parts
  have hinit : (if h.pxEnd = 0 then prvHeapInit config h else h) = h := if_neg (by omega)
  have hlength : free.length ≤ config.totalHeapSize := by
    have hle := length_le_of_separated hshape.parts.separated (by omega)
      fun c hc => (hshape.parts.free_bounds hc).2
    omega
  by_cases hroom : 0 < w ∧ ∃ b ∈ free, adjustedSize w ≤ b.size
  · refine Or.inr ⟨hroom, ?_⟩
    obtain ⟨hw, hroom⟩ := hroom
    obtain ⟨hadjusted, hdvd⟩ := adjustedSize_spec hw
    obtain ⟨front, b, behind, rfl, hfront, hb⟩ := exists_first_fit hroom
    have hmem : b ∈ front ++ b :: behind := List.mem_append_right _ List.mem_cons_self
    have hle : adjustedSize w ≤ h.xFreeBytesRemaining := hshape.bytes ▸ Nat.le_trans hb (le_total hmem)
    have hbit : w &&& xBlockAllocatedBit = 0 := by
      have hbytes := hshape.bytes
      have hlt : w < 2 ^ 31 := by omega
      exact unmarked_eq_zero hlt
    -- the search ends at the first block that is large enough
    have hfind := findFit_eq hshape.linked.chain hshape.parts.separated (by omega) (by omega) hfront hb
      (Nat.lt_succ_of_le (by
        rw [List.length_append] at hlength
        omega : front.length ≤ config.totalHeapSize))
    obtain ⟨h', free', size, htake, hsize, hslack, hshape', hwrites, hminimum⟩ :=
      takeBlock_spec hok hshape (by unfold xHeapStructSize at hadjusted; omega) hdvd hb
    have hprevious : (h.link (lastStart config.xStart front)).pxNextFreeBlock = b.start := by
      obtain ⟨middle, hchain, hmiddle, _⟩ := chain_append.mp hshape.linked.chain
      exact (chain_last hchain).trans hmiddle
    refine ⟨⟨b.start, size⟩, h', free', ?_, hsize, hslack, hshape', hwrites, hminimum⟩
    have hne : b.start ≠ h.pxEnd := by
      have hlt := (hshape.parts.start_lt (Or.inl hmem)).2
      omega
    unfold pvPortMalloc
    rw [hinit]
    dsimp only
    rw [if_pos hbit, if_pos ⟨by unfold xHeapStructSize at hadjusted; omega, hle⟩, hfind]
    dsimp only
    rw [if_pos hne, htake, hprevious, Option.map_some]
  · refine Or.inl ?_
    have hnone : w = 0 ∨ ∀ b ∈ free, b.size < adjustedSize w := by
      rcases Nat.eq_zero_or_pos w with hw | hw
      · exact Or.inl hw
      · exact Or.inr fun b hb => Nat.lt_of_not_le fun hle => hroom ⟨hw, b, hb, hle⟩
    refine ⟨hnone, ?_⟩
    unfold pvPortMalloc
    rw [hinit]
    dsimp only
    split_ifs with hbit hwanted
    · have hsizes : ∀ b ∈ free, b.size < adjustedSize w := by
        rcases hnone with rfl | hsizes
        · exact absurd hwanted.1 (by decide)
        · exact hsizes
      -- no block is large enough, so the search ends at `pxEnd`
      have hfind := findFit_end hshape.linked.chain hshape.parts.separated (by omega)
        (congrArg BlockLink.pxNextFreeBlock hshape.linked.endLink) hsizes (Nat.lt_succ_of_le hlength)
      rw [hfind]
      dsimp only
      rw [if_neg (not_not.mpr rfl)]
    · rfl
    · rfl

/-- **`vPortFree`.** A block of the application becomes free again. -/
theorem vPortFree_spec (hok : config.Ok) (hshape : Shape config h free (b :: taken)) :
    ∃ h' free', vPortFree config h (b.start + xHeapStructSize) = some h' ∧ Shape config h' free' taken ∧
      WritesIn config (fun a => Covers free a ∨ b.Contains a) h h' ∧
      h'.xMinimumEverFreeBytesRemaining = h.xMinimumEverFreeBytesRemaining ∧
      h.xFreeBytesRemaining ≤ h'.xFreeBytesRemaining := by
  have hmem : b ∈ b :: taken := List.mem_cons_self
  have hheader := hshape.header b hmem
  have hsize := size_lt hok hshape.parts hmem
  have hstart := start_ne_xStart hok hshape.parts (Or.inr hmem)
  set h₁ : Heap := { h.setSize b.start b.size with
    xFreeBytesRemaining := h.xFreeBytesRemaining + b.size } with hh₁
  have hother : ∀ y, y ≠ b.start → h₁.link y = h.link y := fun y hy => by
    show (h.setSize b.start b.size).link y = _
    rw [setSize_link, if_neg hy]
  have hsize₁ : (h₁.link b.start).xBlockSize = b.size := by
    show ((h.setSize b.start b.size).link b.start).xBlockSize = _
    rw [setSize_link, if_pos rfl]
  have hlinked₁ : FreeList config h₁ free := hshape.linked.congr rfl (hother _ hstart.symm)
    (hother _ (hshape.linked.end_ne hshape.parts hmem))
    fun c hc => hother _ (hshape.parts.start_ne hmem hc).symm
  obtain ⟨h', free', hinsert, hlinked', hparts', htotal, hfree, hminimum, hframe⟩ :=
    insert_parts hok hlinked₁ hshape.parts hsize₁
  have hwrites : WritesIn config (fun a => Covers free a ∨ b.Contains a) h h' := by
    intro y hout
    have hyb : y ≠ b.start := hout.ne fun a hle hlt =>
      Or.inr (header_contains hshape.parts (Or.inr hmem) hle hlt)
    rw [hframe y hout.1 hyb, hother y hyb]
    exact fun c hc => hout.ne fun a hle hlt =>
      Or.inl ⟨c, hc, header_contains hshape.parts (Or.inl hc) hle hlt⟩
  refine ⟨h', free', ?_, ⟨hlinked', hparts', fun c hc => ?_, ?_⟩, hwrites, hminimum, ?_⟩
  · have hpv : b.start + xHeapStructSize ≠ 0 := Nat.succ_ne_zero (b.start + 7)
    unfold vPortFree
    rw [if_pos hpv, Nat.add_sub_cancel]
    dsimp only
    rw [hheader, if_pos (marked_ne_zero b.size), if_pos rfl, unmark_eq hsize, setSize_link, if_pos rfl]
    exact hinsert
  · have hmem' := List.mem_cons_of_mem b hc
    have hne := taken_start_ne hshape.parts hc
    rw [hframe c.start (start_ne_xStart hok hshape.parts (Or.inr hmem')) hne
      fun d hd => hshape.parts.start_ne hmem' hd, hother _ hne]
    exact hshape.header c hmem'
  · rw [hfree, htotal]
    show h.xFreeBytesRemaining + b.size = _
    rw [hshape.bytes, Nat.add_comm]
  · rw [hfree]
    exact Nat.le_add_right _ _

end Calls

/-! ## Any order of calls -/

/-- A pointer that the application holds, the size it asked for, and the size of the block in its header. -/
structure Held where
  pv : Nat
  xWantedSize : Nat
  xBlockSize : Nat
  deriving DecidableEq, Repr

def Held.block (p : Held) : Interval := ⟨p.pv - xHeapStructSize, p.xBlockSize⟩

/-- The heap, and what the application holds of it. -/
structure Client where
  heap : Heap
  held : List Held

inductive HeapCall where
  | malloc (xWantedSize : Nat)
  | free (pv : Nat)
  deriving DecidableEq, Repr

/-- The size in the header of a pointer, without the mark. -/
def sizeBehind (h : Heap) (pv : Nat) : Nat :=
  (h.link (pv - xHeapStructSize)).xBlockSize &&& (2 ^ 32 - 1 - xBlockAllocatedBit)

/-- One call. -/
def Client.call (config : HeapConfig) (s : Client) : HeapCall → Option Client
  | .malloc w => (pvPortMalloc config s.heap w).map fun (pv, h) =>
      ⟨h, if pv = 0 then s.held else ⟨pv, w, sizeBehind h pv⟩ :: s.held⟩
  | .free pv => (vPortFree config s.heap pv).map fun h => ⟨h, s.held.eraseP (·.pv == pv)⟩

/-- The application frees what it holds, or nothing. -/
def Client.May (s : Client) : HeapCall → Prop
  | .malloc _ => True
  | .free pv => pv = 0 ∨ ∃ p ∈ s.held, p.pv = pv

/-- The states since the heap was first used, the latest first. Before, `pxEnd` is `NULL`. -/
inductive Run (config : HeapConfig) : List Client → Prop
  | start (h : Heap) : h.pxEnd = 0 → Run config [⟨h, []⟩]
  | call (s s' : Client) (history : List Client) (c : HeapCall) : Run config (s :: history) → s.May c →
      s.call config c = some s' → Run config (s' :: s :: history)

/-- The heap once it is in use: `pvPortMalloc` initialises it first. -/
def begun (config : HeapConfig) (h : Heap) : Heap := if h.pxEnd = 0 then prvHeapInit config h else h

/-- What the counters of free bytes were over a run. -/
def freeCounts (config : HeapConfig) (history : List Client) : Set Nat :=
  {n | ∃ t ∈ history, n = (begun config t.heap).xFreeBytesRemaining}

/-- The invariant of a run. -/
structure Kept (config : HeapConfig) (s : Client) (free : List Interval) : Prop where
  shape : Shape config (begun config s.heap) free (s.held.map Held.block)
  unused : s.heap.pxEnd = 0 → s.held = []
  pointer : ∀ p ∈ s.held, p.pv = p.block.start + xHeapStructSize
  wanted : ∀ p ∈ s.held, 0 < p.xWantedSize ∧ adjustedSize p.xWantedSize ≤ p.xBlockSize ∧
    p.xBlockSize ≤ adjustedSize p.xWantedSize + 16
  minimum : (begun config s.heap).xMinimumEverFreeBytesRemaining ≤ (begun config s.heap).xFreeBytesRemaining

/-- The memory of what is held behind a call, and was held before, is left alone. -/
def LeavesHeld (s s' : Client) : Prop :=
  ∀ p ∈ s.held, p ∈ s'.held → ∀ y, p.block.start < y + xHeapStructSize → y < p.block.stop →
    s'.heap.link y = s.heap.link y

section Run

variable {config : HeapConfig} {s s' : Client} {free : List Interval} {history : List Client}

theorem begun_pxEnd (hok : config.Ok) (h : Heap) : (begun config h).pxEnd ≠ 0 := by
  have hend := endAddress_bounds hok
  unfold begun
  split_ifs with hzero
  · show endAddress config ≠ 0
    omega
  · exact hzero

theorem begun_of_ne {h : Heap} (h0 : h.pxEnd ≠ 0) : begun config h = h := if_neg h0

theorem pvPortMalloc_begun (hok : config.Ok) (h : Heap) (w : Nat) :
    pvPortMalloc config (begun config h) w = pvPortMalloc config h w := by
  unfold pvPortMalloc
  rw [if_neg (begun_pxEnd hok h)]
  rfl

theorem Kept.begun_eq (hkept : Kept config s free) {p : Held} (hp : p ∈ s.held) :
    begun config s.heap = s.heap := by
  refine begun_of_ne fun hzero => ?_
  rw [hkept.unused hzero] at hp
  cases hp

/-- A header that overlaps a block of the application is none of the headers a call writes. -/
theorem outside_of_overlap (hok : config.Ok) {taken : List Interval} {b : Interval} {region : Nat → Prop}
    {y : Nat} (hparts : Parts config free taken) (hb : b ∈ taken) (hregion : ∀ a, region a → ¬ b.Contains a)
    (hle : b.start < y + xHeapStructSize) (hlt : y < b.stop) : Outside config region y := by
  have hpos := hparts.takenPos b hb
  obtain ⟨hlow, hstop⟩ := hparts.taken_bounds hb
  have hbase := (pucAlignedHeap_bounds config).1
  have hend := (endAddress_bounds hok).2.1
  refine ⟨?_, max y b.start, Nat.le_max_left _ _, ?_, fun ha => hregion _ ha ⟨Nat.le_max_right _ _, ?_⟩⟩
  · rcases hok.xStart with hbelow | habove <;> omega
  · unfold xHeapStructSize at hle ⊢
    omega
  · unfold Interval.stop at hlt ⊢
    omega

theorem kept_start (hok : config.Ok) {h : Heap} (h0 : h.pxEnd = 0) :
    Kept config ⟨h, []⟩ [⟨pucAlignedHeap config, endAddress config - pucAlignedHeap config⟩] := by
  have hbegun : begun config h = prvHeapInit config h := if_pos h0
  refine ⟨?_, fun _ => rfl, fun p hp => (by cases hp), fun p hp => (by cases hp), ?_⟩
  · show Shape config (begun config h) _ []
    rw [hbegun]
    exact prvHeapInit_shape hok h
  · show (begun config h).xMinimumEverFreeBytesRemaining ≤ (begun config h).xFreeBytesRemaining
    rw [hbegun]
    exact Nat.le_refl _

/-- What a call does to a client whose heap is kept. -/
structure Stepped (config : HeapConfig) (s s' : Client) (free' : List Interval) : Prop where
  kept : Kept config s' free'
  minimum : (begun config s'.heap).xMinimumEverFreeBytesRemaining =
    min (begun config s'.heap).xFreeBytesRemaining (begun config s.heap).xMinimumEverFreeBytesRemaining
  leaves : LeavesHeld s s'

theorem kept_malloc (hok : config.Ok) (hkept : Kept config s free) (w : Nat) :
    ∃ s' free', s.call config (.malloc w) = some s' ∧ Stepped config s s' free' := by
  have hcall : s.call config (.malloc w) = (pvPortMalloc config (begun config s.heap) w).map fun (pv, h) =>
      ⟨h, if pv = 0 then s.held else ⟨pv, w, sizeBehind h pv⟩ :: s.held⟩ := by
    rw [pvPortMalloc_begun hok]
    rfl
  rcases pvPortMalloc_spec hok hkept.shape w with ⟨_, hrefused⟩ | ⟨⟨hw, _⟩, b, h', free', htaken, hsize,
    hslack, hshape, hwrites, hminimum⟩
  · -- `NULL`: the heap is only set up
    have hsame : min (begun config s.heap).xFreeBytesRemaining
        (begun config s.heap).xMinimumEverFreeBytesRemaining =
          (begun config s.heap).xMinimumEverFreeBytesRemaining := Nat.min_eq_right hkept.minimum
    have hbegun : begun config (begun config s.heap) = begun config s.heap :=
      begun_of_ne (begun_pxEnd hok s.heap)
    refine ⟨⟨begun config s.heap, s.held⟩, free, ?_, ⟨?_, ?_, hkept.pointer, hkept.wanted, ?_⟩, ?_, ?_⟩
    · rw [hcall, hrefused]
      rfl
    · show Shape config (begun config (begun config s.heap)) free _
      rw [hbegun]
      exact hkept.shape
    · exact fun h0 => absurd h0 (begun_pxEnd hok s.heap)
    · show (begun config (begun config s.heap)).xMinimumEverFreeBytesRemaining ≤ _
      rw [hbegun]
      exact hkept.minimum
    · show (begun config (begun config s.heap)).xMinimumEverFreeBytesRemaining = _
      rw [hbegun]
      exact hsame.symm
    · intro p hp _ y _ _
      exact congrArg (Heap.link · y) (hkept.begun_eq hp)
  · -- a block, which the application holds from now on
    have hpxEnd : h'.pxEnd ≠ 0 := by
      have hend := endAddress_bounds hok
      have heq := hshape.linked.pxEnd
      omega
    have hbegun : begun config h' = h' := begun_of_ne hpxEnd
    have hpv : b.start + xHeapStructSize ≠ 0 := Nat.succ_ne_zero (b.start + 7)
    have hmem : b ∈ b :: s.held.map Held.block := List.mem_cons_self
    have hbehind : sizeBehind h' (b.start + xHeapStructSize) = b.size := by
      rw [sizeBehind, Nat.add_sub_cancel, hshape.header b hmem, unmark_eq (size_lt hok hshape.parts hmem)]
    have hblock : (⟨b.start + xHeapStructSize, w, b.size⟩ : Held).block = b := by
      rw [Held.block, Nat.add_sub_cancel]
    refine ⟨⟨h', ⟨b.start + xHeapStructSize, w, b.size⟩ :: s.held⟩, free', ?_, ⟨?_, ?_, ?_, ?_, ?_⟩, ?_, ?_⟩
    · rw [hcall, htaken, Option.map_some]
      dsimp only
      rw [if_neg hpv, hbehind]
    · show Shape config (begun config h') free' (_ :: s.held.map Held.block)
      rw [hbegun, hblock]
      exact hshape
    · exact fun h0 => absurd h0 hpxEnd
    · intro p hp
      rcases List.mem_cons.mp hp with rfl | hp
      · rw [hblock]
      · exact hkept.pointer p hp
    · intro p hp
      rcases List.mem_cons.mp hp with rfl | hp
      · exact ⟨hw, hsize, hslack⟩
      · exact hkept.wanted p hp
    · show (begun config h').xMinimumEverFreeBytesRemaining ≤ (begun config h').xFreeBytesRemaining
      rw [hbegun, hminimum]
      exact Nat.min_le_right _ _
    · show (begun config h').xMinimumEverFreeBytesRemaining = min (begun config h').xFreeBytesRemaining _
      rw [hbegun, hminimum, Nat.min_comm]
    · intro p hp _ y hle hlt
      have hpmem := List.mem_map_of_mem (f := Held.block) hp
      have hout : Outside config (Covers free) y := outside_of_overlap hok hkept.shape.parts hpmem
        (fun a hfree hpa => hkept.shape.parts.apart a hfree ⟨_, hpmem, hpa⟩) hle hlt
      have hlink := hwrites y hout
      rw [hkept.begun_eq hp] at hlink
      exact hlink

theorem kept_free (hok : config.Ok) (hkept : Kept config s free) {pv : Nat} (hmay : s.May (.free pv)) :
    ∃ s' free', s.call config (.free pv) = some s' ∧ Stepped config s s' free' := by
  have hcall : s.call config (.free pv) =
      (vPortFree config s.heap pv).map fun h => ⟨h, s.held.eraseP (·.pv == pv)⟩ := rfl
  rcases hmay with rfl | ⟨q, hq, rfl⟩
  · -- `NULL` is no pointer of the application
    have herase : s.held.eraseP (·.pv == 0) = s.held := by
      refine List.eraseP_of_forall_not fun p hp => ?_
      rw [hkept.pointer p hp]
      simp [xHeapStructSize]
    refine ⟨s, free, ?_, hkept, (Nat.min_eq_right hkept.minimum).symm, fun p _ _ y _ _ => rfl⟩
    rw [hcall, herase]
    rfl
  · -- the block of the first pointer that equals `pv` comes back
    obtain ⟨p, front, behind, _, hp, hheld, herase⟩ :=
      List.exists_of_eraseP hq (p := (·.pv == q.pv)) (by simp)
    have hpv : q.pv = p.pv := (beq_iff_eq.mp hp).symm
    have hmem : p ∈ s.held := hheld ▸ List.mem_append_right _ List.mem_cons_self
    have hbegun := hkept.begun_eq hmem
    have hshape := hkept.shape
    rw [hbegun] at hshape
    have hperm : (s.held.map Held.block).Perm (p.block :: (front ++ behind).map Held.block) := by
      rw [hheld, ← List.map_cons]
      exact List.Perm.map _ List.perm_middle
    obtain ⟨h', free', hfreed, hshape', hwrites, hminimum, hmore⟩ := vPortFree_spec hok (hshape.perm hperm)
    have hpxEnd : h'.pxEnd ≠ 0 := by
      have hend := endAddress_bounds hok
      have heq := hshape'.linked.pxEnd
      omega
    have hbegun' : begun config h' = h' := begun_of_ne hpxEnd
    have hrest : ∀ {r : Held}, r ∈ front ++ behind → r ∈ s.held := fun {r} hr => by
      rw [hheld]
      simp only [List.mem_append, List.mem_cons] at hr ⊢
      exact hr.imp_right Or.inr
    have hle : h'.xMinimumEverFreeBytesRemaining ≤ h'.xFreeBytesRemaining := by
      have hkeptMin := hkept.minimum
      rw [hbegun] at hkeptMin
      omega
    refine ⟨⟨h', front ++ behind⟩, free', ?_, ⟨?_, ?_, ?_, ?_, ?_⟩, ?_, ?_⟩
    · rw [hcall, herase, hpv, hkept.pointer p hmem, hfreed]
      rfl
    · show Shape config (begun config h') free' _
      rw [hbegun']
      exact hshape'
    · exact fun h0 => absurd h0 hpxEnd
    · exact fun r hr => hkept.pointer r (hrest hr)
    · exact fun r hr => hkept.wanted r (hrest hr)
    · show (begun config h').xMinimumEverFreeBytesRemaining ≤ (begun config h').xFreeBytesRemaining
      rw [hbegun']
      exact hle
    · show (begun config h').xMinimumEverFreeBytesRemaining = min (begun config h').xFreeBytesRemaining _
      rw [hbegun', hbegun, ← hminimum, Nat.min_eq_right hle]
    · intro r _ hr y hlow hlt
      have hrmem : r.block ∈ p.block :: (front ++ behind).map Held.block :=
        List.mem_cons_of_mem _ (List.mem_map_of_mem hr)
      have hparts := hshape.parts.perm hperm
      refine hwrites y (outside_of_overlap hok hparts hrmem (fun a ha hra => ?_) hlow hlt)
      rcases ha with hfree | hpa
      · exact hparts.apart a hfree ⟨_, hrmem, hra⟩
      · exact (List.pairwise_cons.mp hparts.disjoint).1 _ (List.mem_map_of_mem hr) a hpa hra

/-- **Step.** A call that the application may make ends, keeps the invariant, counts the least number of free
    bytes and leaves what is held alone. -/
theorem kept_call (hok : config.Ok) (hkept : Kept config s free) {c : HeapCall} (hmay : s.May c) :
    ∃ s' free', s.call config c = some s' ∧ Stepped config s s' free' := by
  cases c with
  | malloc w => exact kept_malloc hok hkept w
  | free pv => exact kept_free hok hkept hmay

/-- **Run.** The invariant holds in every state, and the least number of free bytes is counted. -/
theorem kept_run (hok : config.Ok) (hrun : Run config (s :: history)) :
    (∃ free, Kept config s free) ∧ IsLeast (freeCounts config (s :: history))
      (begun config s.heap).xMinimumEverFreeBytesRemaining := by
  generalize hall : s :: history = all at hrun
  induction hrun generalizing s history with
  | start h h0 =>
      obtain ⟨rfl, rfl⟩ := List.cons.inj hall
      have hbegun : begun config h = prvHeapInit config h := if_pos h0
      refine ⟨⟨_, kept_start hok h0⟩, ⟨⟨h, []⟩, List.mem_singleton.mpr rfl, ?_⟩, ?_⟩
      · show (begun config h).xMinimumEverFreeBytesRemaining = (begun config h).xFreeBytesRemaining
        rw [hbegun]
        rfl
      · rintro n ⟨t, ht, rfl⟩
        rw [List.mem_singleton.mp ht]
        show (begun config h).xMinimumEverFreeBytesRemaining ≤ (begun config h).xFreeBytesRemaining
        rw [hbegun]
        exact Nat.le_refl _
  | call t t' past c hrun hmay hcall ih =>
      obtain ⟨rfl, rfl⟩ := List.cons.inj hall
      obtain ⟨⟨free, hkept⟩, hleast⟩ := ih rfl
      obtain ⟨t', free', hcall', hstepped⟩ := kept_call hok hkept hmay
      obtain rfl := Option.some.inj (hcall.symm.trans hcall')
      refine ⟨⟨free', hstepped.kept⟩, ?_⟩
      have hcounts : freeCounts config (s :: t :: past) =
          insert (begun config s.heap).xFreeBytesRemaining (freeCounts config (t :: past)) := by
        ext n
        simp only [freeCounts, Set.mem_ofPred_eq, List.mem_cons, Set.mem_insert_iff, exists_eq_or_imp]
      rw [hcounts, hstepped.minimum]
      exact hleast.insert _

end Run

/-! ## The results -/

/-- A heap of 64 bytes, in front of any use. -/
def smallHeap : HeapConfig := ⟨8, 64, 0⟩

def unusedClient : Client := ⟨⟨fun _ => ⟨0, 0⟩, 0, 0, 0⟩, []⟩

/-- Behind a first request. -/
def oneBlock : Client := (unusedClient.call smallHeap (.malloc 4)).get (by decide)

/-- Behind a second one. -/
def twoBlocks : Client := (oneBlock.call smallHeap (.malloc 8)).get (by decide)

theorem smallHeap_ok : smallHeap.Ok := ⟨by decide, by decide, by decide, by decide, Or.inl (by decide)⟩

theorem twoBlocks_run : Run smallHeap [twoBlocks, oneBlock, unusedClient] :=
  .call oneBlock twoBlocks [unusedClient] (.malloc 8)
    (.call unusedClient oneBlock [] (.malloc 4) (.start _ rfl) trivial (Option.some_get _).symm)
    trivial (Option.some_get _).symm

section Results

variable {config : HeapConfig} {s : Client} {history : List Client}

/-- **Safety.** In any order of calls, the pointers that the application holds are aligned and point into the
    heap; what it may use of one does not overlap what it may use of another, or the header in front of it. A
    further call ends, and writes no header into what stays with the application. -/
theorem heap_safe (hok : config.Ok) (hrun : Run config (s :: history)) :
    (∀ p ∈ s.held, portByteAlignment ∣ p.pv ∧ config.ucHeap + xHeapStructSize ≤ p.pv ∧
      p.pv + p.xWantedSize + xHeapStructSize ≤ config.ucHeap + config.totalHeapSize) ∧
    s.held.Pairwise (fun p q => p.pv + p.xWantedSize + xHeapStructSize ≤ q.pv ∨
      q.pv + q.xWantedSize + xHeapStructSize ≤ p.pv) ∧
    ∀ c, s.May c → ∃ s', s.call config c = some s' ∧ ∀ p ∈ s.held, p ∈ s'.held →
      ∀ y, p.pv < y + 2 * xHeapStructSize → y < p.pv + p.xWantedSize → s'.heap.link y = s.heap.link y := by
  obtain ⟨⟨free, hkept⟩, _⟩ := kept_run hok hrun
  have hparts := hkept.shape.parts
  have hfits : ∀ p ∈ s.held, p.pv + p.xWantedSize ≤ p.block.stop := by
    intro p hp
    obtain ⟨hpos, hsize, _⟩ := hkept.wanted p hp
    have hadjusted := (adjustedSize_spec hpos).1
    have hblock : p.block.size = p.xBlockSize := rfl
    rw [hkept.pointer p hp, Interval.stop, hblock]
    omega
  refine ⟨fun p hp => ?_, ?_, fun c hmay => ?_⟩
  · have hmem := List.mem_map_of_mem (f := Held.block) hp
    obtain ⟨hlow, hstop⟩ := hparts.taken_bounds hmem
    have hdvd := (hparts.takenAligned _ hmem).1
    have hfit := hfits p hp
    have hpv := hkept.pointer p hp
    have hbase := (pucAlignedHeap_bounds config).1
    have hend := (endAddress_bounds hok).2.1
    unfold portByteAlignment
    unfold xHeapStructSize at hpv ⊢
    exact ⟨by omega, by omega, by omega⟩
  · have hdisjoint := List.pairwise_map.mp hparts.disjoint
    refine (List.Pairwise.imp_of_mem ?_ hdisjoint)
    intro p q hp hq hpq
    have hpfit := hfits p hp
    have hqfit := hfits q hq
    have hppv := hkept.pointer p hp
    have hqpv := hkept.pointer q hq
    have hppos := hparts.takenPos _ (List.mem_map_of_mem (f := Held.block) hp)
    have hqpos := hparts.takenPos _ (List.mem_map_of_mem (f := Held.block) hq)
    rcases apart_stop hpq hppos hqpos with hle | hle <;> omega
  · obtain ⟨s', free', hcall, hstepped⟩ := kept_call hok hkept hmay
    refine ⟨s', hcall, fun p hp hp' y hlow hlt => hstepped.leaves p hp hp' y ?_ ?_⟩
    · have hpv := hkept.pointer p hp
      omega
    · exact Nat.lt_of_lt_of_le hlt (hfits p hp)

theorem twoBlocks_safe : twoBlocks.held.map Held.pv = [32, 16] ∧
    twoBlocks.held.Pairwise (fun p q => p.pv + p.xWantedSize + xHeapStructSize ≤ q.pv ∨
      q.pv + q.xWantedSize + xHeapStructSize ≤ p.pv) :=
  ⟨by decide, (heap_safe smallHeap_ok twoBlocks_run).2.1⟩

/-- **Completeness.** In any order of calls, a request is refused exactly if it is empty, or nowhere in the heap
    there is room, between the blocks of the application, for the request and its header. -/
theorem heap_complete (hok : config.Ok) (hrun : Run config (s :: history)) (w : Nat) :
    ∃ pv h, pvPortMalloc config s.heap w = some (pv, h) ∧
      (pv = 0 ↔ w = 0 ∨ ¬ ∃ a, pucAlignedHeap config ≤ a ∧ a + adjustedSize w ≤ endAddress config ∧
        ∀ p ∈ s.held, a + adjustedSize w ≤ p.block.start ∨ p.block.stop ≤ a) := by
  obtain ⟨⟨free, hkept⟩, _⟩ := kept_run hok hrun
  rw [← pvPortMalloc_begun hok]
  rcases Nat.eq_zero_or_pos w with rfl | hw
  · rcases pvPortMalloc_spec hok hkept.shape 0 with ⟨_, hrefused⟩ | ⟨⟨hw, _⟩, _⟩
    · exact ⟨0, _, hrefused, by simp⟩
    · exact absurd hw (Nat.lt_irrefl 0)
  · have hpos : 0 < adjustedSize w := Nat.lt_of_lt_of_le (Nat.add_pos_left hw _) (adjustedSize_spec hw).1
    have hroom := hkept.shape.parts.exists_free_iff hpos
    simp only [List.forall_mem_map] at hroom
    rcases pvPortMalloc_spec hok hkept.shape w with ⟨hnone, hrefused⟩ | ⟨⟨_, hsome⟩, b, h', _, htaken, _⟩
    · refine ⟨0, _, hrefused, ⟨fun _ => Or.inr ?_, fun _ => rfl⟩⟩
      rw [← hroom]
      rintro ⟨b, hb, hle⟩
      exact absurd (hnone.resolve_left (Nat.ne_of_gt hw) b hb) (Nat.not_lt_of_le hle)
    · refine ⟨_, h', htaken, ⟨fun h0 => absurd h0 (Nat.succ_ne_zero _), fun hnone => ?_⟩⟩
      exact absurd (hroom.mp hsome) (hnone.resolve_left (Nat.ne_of_gt hw))

theorem twoBlocks_complete : ∃ pv h, pvPortMalloc smallHeap twoBlocks.heap 20 = some (pv, h) ∧
    (pv = 0 ↔ 20 = 0 ∨ ¬ ∃ a, pucAlignedHeap smallHeap ≤ a ∧
      a + adjustedSize 20 ≤ endAddress smallHeap ∧
      ∀ p ∈ twoBlocks.held, a + adjustedSize 20 ≤ p.block.start ∨ p.block.stop ≤ a) :=
  heap_complete smallHeap_ok twoBlocks_run 20

/-- **Accounts.** In any order of calls, once the heap is in use, the free bytes and the blocks of the application
    make up the heap, each block is at most 16 bytes larger than the request needs, and the minimum ever is the
    least count of the run. When the application has freed everything, the heap is one free block again. -/
theorem heap_accounts (hok : config.Ok) (hrun : Run config (s :: history)) (hused : s.heap.pxEnd ≠ 0) :
    s.heap.xFreeBytesRemaining + total (s.held.map Held.block) =
        endAddress config - pucAlignedHeap config ∧
      (∀ p ∈ s.held, adjustedSize p.xWantedSize ≤ p.block.size ∧
        p.block.size ≤ adjustedSize p.xWantedSize + 16) ∧
      IsLeast {n | ∃ t ∈ s :: history, t.heap.pxEnd ≠ 0 ∧ n = t.heap.xFreeBytesRemaining}
        s.heap.xMinimumEverFreeBytesRemaining ∧
      (s.held = [] → (s.heap.link config.xStart).pxNextFreeBlock = pucAlignedHeap config ∧
        s.heap.link (pucAlignedHeap config) =
          ⟨endAddress config, endAddress config - pucAlignedHeap config⟩) := by
  obtain ⟨⟨free, hkept⟩, hleast⟩ := kept_run hok hrun
  have hbegun : begun config s.heap = s.heap := begun_of_ne hused
  have hshape := hkept.shape
  rw [hbegun] at hshape hleast
  have htotal : s.heap.xFreeBytesRemaining + total (s.held.map Held.block) =
      endAddress config - pucAlignedHeap config := by
    rw [hshape.bytes]
    exact hshape.parts.total
  refine ⟨htotal, fun p hp => (hkept.wanted p hp).2, ⟨?_, ?_⟩, fun hheld => ?_⟩
  · obtain ⟨t, ht, heq⟩ := hleast.1
    by_cases ht0 : t.heap.pxEnd = 0
    · -- nothing was ever taken
      have hwhole : (begun config t.heap).xFreeBytesRemaining =
          endAddress config - pucAlignedHeap config := congrArg Heap.xFreeBytesRemaining (if_pos ht0)
      have hminimum := hkept.minimum
      rw [hbegun] at hminimum
      exact ⟨s, List.mem_cons_self, hused, by omega⟩
    · rw [begun_of_ne ht0] at heq
      exact ⟨t, ht, ht0, heq⟩
  · rintro n ⟨t, ht, ht0, rfl⟩
    exact hleast.2 ⟨t, ht, by rw [begun_of_ne ht0]⟩
  · rw [hheld] at hshape
    have hbounds := endAddress_bounds hok
    obtain rfl := hshape.parts.eq_whole (by omega)
    obtain ⟨hfirst, hsize, hnext⟩ := hshape.linked.chain
    have hnext : (s.heap.link (s.heap.link config.xStart).pxNextFreeBlock).pxNextFreeBlock = s.heap.pxEnd :=
      hnext
    refine ⟨hfirst, ?_⟩
    rw [hfirst] at hsize hnext
    rw [hshape.linked.pxEnd] at hnext
    exact congrArg₂ BlockLink.mk hnext hsize

theorem twoBlocks_accounts : twoBlocks.heap.xFreeBytesRemaining = 24 ∧
    twoBlocks.heap.xFreeBytesRemaining + total (twoBlocks.held.map Held.block) =
      endAddress smallHeap - pucAlignedHeap smallHeap :=
  ⟨by decide, (heap_accounts smallHeap_ok twoBlocks_run (by decide)).1⟩

end Results

end Freertos
end Obsw
