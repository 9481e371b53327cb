import Obsw.Lib.Agreement
import Obsw.Lib.OrderedMap

/-!
# `TmStore` — the container wrappers of the telemetry store

`EtlIMultiMapWrapper` and `EtlIMapWrapper` put return codes around a bounded multimap and a bounded map
of the ETL. The references are a bag and a table with the same capacity.

## Contents
- **Multimap wrapper.** `erase` walks over the range of the key and says that it is done whether it met
  the value or not.
- **Map wrapper.** `emplace` refuses a full map before it looks for the key.
- **Agreement.** `calls_agree_iff`: the calls that agree with the references are those that stay clear of
  these two cases.
-/

namespace Obsw
namespace TmStore

open OrderedMap Agreement Loop

inductive ReturnValue where
  | returnOk
  | returnFailed
deriving DecidableEq, Repr

/-- A call that is refused in one case only, where it leaves the state, changes nothing if it is refused. -/
theorem eq_of_refused {σ : Type} {s : σ} {r : ReturnValue × σ} (refused : Prop)
    (hrefused : refused → r = (.returnFailed, s)) (hdone : ¬ refused → r.1 = .returnOk)
    (h : r.1 = .returnFailed) : r.2 = s := by
  by_cases hcase : refused
  · rw [hrefused hcase]
  · rw [hdone hcase] at h
    cases h

variable {K V : Type} [LinearOrder K] [DecidableEq V]

/-! ## The wrapper of the multimap -/

namespace EtlIMultiMapWrapper

/-- What `get` returns. Iterators are positions. -/
structure MultiMapGetReturn where
  returnValue : ReturnValue
  rangeEnd : Nat
  rangeBegin : Nat

def emplace (key : K) (value : V) (m : Multimap K V) : ReturnValue × Multimap K V :=
  if h : m.full = true then (.returnFailed, m) else (.returnOk, m.insert h key value)

def get (key : K) (m : Multimap K V) : MultiMapGetReturn :=
  if m.count key = 0 then ⟨.returnFailed, 0, 0⟩
  else ⟨.returnOk, m.upperBound key, m.lowerBound key⟩

/-- The loop of `erase`, which stops behind the first pair with the value. -/
def eraseLoop (value : V) : Nat → Nat → Multimap K V → Multimap K V
  | 0, _, m => m
  | steps + 1, it, m =>
    if m.pairs[it]?.map Prod.snd = some value then m.eraseAt it
    else eraseLoop value steps (it + 1) m

def erase (key : K) (value : V) (m : Multimap K V) : ReturnValue × Multimap K V :=
  if m.count key = 0 then (.returnFailed, m)
  else (.returnOk, eraseLoop value (m.upperBound key - m.lowerBound key) (m.lowerBound key) m)

inductive Call (K V : Type) where
  | emplace (key : K) (value : V)
  | get (key : K)
  | erase (key : K) (value : V)
  | clear

/-- What a call returns, with the values of a range in no order. -/
inductive Answer (V : Type) where
  | code (returnValue : ReturnValue)
  | range (returnValue : ReturnValue) (values : Multiset V)
  | done
deriving DecidableEq

/-- The return code of a call that has one. -/
def Answer.returnValue : Answer V → Option ReturnValue
  | .code returnValue => some returnValue
  | .range returnValue _ => some returnValue
  | .done => none

def perform : Call K V → Multimap K V → Answer V × Multimap K V
  | .emplace key value, m => (.code (emplace key value m).1, (emplace key value m).2)
  | .get key, m =>
    let found := get key m
    (.range found.returnValue (((m.range found.rangeBegin found.rangeEnd).map Prod.snd : List V) :
      Multiset V), m)
  | .erase key value, m => (.code (erase key value m).1, (erase key value m).2)
  | .clear, m => (.done, m.clear)

/-! ### The reference -/

/-- A bag of pairs with a capacity. -/
structure Bag (K V : Type) where
  capacity : Nat
  content : Multiset (K × V)

/-- What the wrapper is for. -/
def Bag.perform : Call K V → Bag K V → Answer V × Bag K V
  | .emplace key value, b =>
    if b.content.card < b.capacity then
      (.code .returnOk, { b with content := (key, value) ::ₘ b.content })
    else (.code .returnFailed, b)
  | .get key, b =>
    let found := b.content.filter (·.1 = key)
    (.range (if found = 0 then .returnFailed else .returnOk) (found.map Prod.snd), b)
  | .erase key value, b =>
    if (key, value) ∈ b.content then
      (.code .returnOk, { b with content := b.content.erase (key, value) })
    else (.code .returnFailed, b)
  | .clear, b => (.done, { b with content := 0 })

/-- The bag that a multimap stands for. -/
def bagOf (m : Multimap K V) : Bag K V := ⟨m.capacity, m.bag⟩

/-- An erased pair is there if its key is. -/
def ErasesPresent : Call K V → Multimap K V → Prop
  | .erase key value, m => m.count key ≠ 0 → (key, value) ∈ m.pairs
  | _, _ => True

theorem eraseLoop_capacity (value : V) (steps it : Nat) (m : Multimap K V) :
    (eraseLoop value steps it m).capacity = m.capacity := by
  induction steps generalizing it with
  | zero => rfl
  | succ steps ih =>
      unfold eraseLoop
      split
      · rfl
      · exact ih (it + 1)

/-- The loop removes the first pair with the value. -/
theorem eraseLoop_pairs (value : V) (range before after : List (K × V)) {m : Multimap K V}
    (h : m.pairs = before ++ (range ++ after)) :
    (eraseLoop value range.length before.length m).pairs =
      before ++ (range.eraseP (·.2 = value) ++ after) := by
  induction range generalizing before with
  | nil => exact h
  | cons p ps ih =>
      have hhere : m.pairs[before.length]? = some p := by
        rw [h, List.getElem?_append_right le_rfl, Nat.sub_self]
        rfl
      rw [List.length_cons, eraseLoop, hhere, Option.map_some]
      by_cases hvalue : p.2 = value
      · rw [if_pos (congrArg some hvalue), List.eraseP_cons_of_pos (by simpa using hvalue)]
        show m.pairs.eraseIdx before.length = _
        rw [h, List.eraseIdx_append_of_length_le le_rfl, Nat.sub_self]
        rfl
      · rw [if_neg fun heq => hvalue (Option.some.inj heq),
          List.eraseP_cons_of_neg (by simpa using hvalue)]
        have hrest := ih (before ++ [p]) (by rw [h, List.append_assoc]; rfl)
        rwa [List.length_append, List.length_singleton, List.append_assoc] at hrest

/-- `erase` leaves the reference's content, for a key that is there. -/
theorem bag_eraseLoop (key : K) (value : V) (m : Multimap K V) :
    (eraseLoop value (m.upperBound key - m.lowerBound key) (m.lowerBound key) m).bag =
      m.bag.erase (key, value) := by
  obtain ⟨hsplit, hlength, hcount⟩ := m.pairs_split key
  have hloop := eraseLoop_pairs value _ _ _ hsplit
  rw [List.length_take_of_le hlength, show (m.pairs.filter (·.1 = key)).length =
    m.upperBound key - m.lowerBound key by omega] at hloop
  rw [← m.bag_eq_of_range key value, ← hloop]
  rfl

/-- A call does what the reference does, except that a pair is erased that is not there. -/
theorem agrees_iff (call : Call K V) (m : Multimap K V) :
    Agrees perform Bag.perform bagOf call m ↔ ErasesPresent call m := by
  unfold Agrees
  cases call with
  | emplace key value =>
    refine iff_of_true ?_ trivial
    simp only [perform, Bag.perform, emplace]
    by_cases h : m.full = true
    · have hroom : ¬ (bagOf m).content.card < (bagOf m).capacity := by
        show ¬ m.pairs.length < m.capacity
        rw [beq_iff_eq.mp h]
        exact lt_irrefl _
      rw [dif_pos h, if_neg hroom]
      exact ⟨rfl, rfl⟩
    · have hroom : (bagOf m).content.card < (bagOf m).capacity := Multimap.length_lt_of_not_full h
      rw [dif_neg h, if_pos hroom]
      exact ⟨rfl, congrArg (Bag.mk m.capacity) (Multimap.bag_insert h key value)⟩
  | get key =>
    refine iff_of_true ⟨?_, rfl⟩ trivial
    simp only [perform, Bag.perform, get]
    by_cases h : m.count key = 0
    · have hnone : (bagOf m).content.filter (·.1 = key) = 0 := (m.count_eq_zero_iff key).mp h
      rw [if_pos h, if_pos hnone, hnone]
      rfl
    · have hsome : ¬ (bagOf m).content.filter (·.1 = key) = 0 := mt (m.count_eq_zero_iff key).mpr h
      rw [if_neg h, if_neg hsome, Multimap.range_bounds]
      rfl
  | erase key value =>
    simp only [perform, Bag.perform, erase, ErasesPresent]
    by_cases hcount : m.count key = 0
    · -- neither has the pair
      have hnot : (key, value) ∉ (bagOf m).content := Multimap.notMem_of_count hcount
      rw [if_pos hcount, if_neg hnot]
      exact iff_of_true ⟨rfl, rfl⟩ fun h => absurd hcount h
    · rw [if_neg hcount]
      by_cases hmem : (key, value) ∈ (bagOf m).content
      · rw [if_pos hmem]
        refine iff_of_true ⟨rfl, ?_⟩ fun _ => hmem
        simp only [bagOf, eraseLoop_capacity, bag_eraseLoop]
      · rw [if_neg hmem]
        exact iff_of_false (fun h => nomatch h.1) fun h => hmem (h hcount)
  | clear => exact iff_of_true ⟨rfl, rfl⟩ trivial

/-- A call that returns a failure changes nothing. -/
theorem perform_failed {call : Call K V} {m : Multimap K V}
    (h : (perform call m).1.returnValue = some .returnFailed) : (perform call m).2 = m := by
  cases call with
  | emplace key value =>
    refine eq_of_refused (m.full = true) ?_ ?_ (Option.some.inj h)
    · intro hfull
      exact dif_pos hfull
    · intro hroom
      rw [emplace, dif_neg hroom]
  | get key => rfl
  | erase key value =>
    refine eq_of_refused (m.count key = 0) ?_ ?_ (Option.some.inj h)
    · intro hcount
      exact if_pos hcount
    · intro hcount
      rw [erase, if_neg hcount]
  | clear => cases h

end EtlIMultiMapWrapper

/-! ## The wrapper of the map -/

namespace EtlIMapWrapper

def emplace (key : K) (value : V) (m : Map K V) : ReturnValue × Map K V :=
  if h : m.full = true then (.returnFailed, m) else (.returnOk, m.set h key value)

def erase (key : K) (m : Map K V) : ReturnValue × Map K V :=
  if m.count key = 0 then (.returnFailed, m) else (.returnOk, m.erase key)

/-- The loop of `eraseByValue` over the pairs that are left, with the number of erased ones. -/
def eraseByValueLoop (value : V) : Nat → Nat → Map K V → Nat × Map K V
  | 0, _, m => (0, m)
  | left + 1, iter, m =>
    if m.pairs[iter]?.map Prod.snd = some value then
      let rest := eraseByValueLoop value left iter (m.eraseAt iter)
      (rest.1 + 1, rest.2)
    else eraseByValueLoop value left (iter + 1) m

def eraseByValue (value : V) (m : Map K V) : Nat × Map K V :=
  eraseByValueLoop value m.pairs.length 0 m

/-- The value behind the pointer, if there is one. -/
def get (key : K) (m : Map K V) : ReturnValue × Option V :=
  if m.count key = 0 then (.returnFailed, none) else (.returnOk, m.get? key)

inductive Call (K V : Type) where
  | emplace (key : K) (value : V)
  | erase (key : K)
  | eraseByValue (value : V)
  | get (key : K)
  | clear

inductive Answer (V : Type) where
  | code (returnValue : ReturnValue)
  | value (returnValue : ReturnValue) (value : Option V)
  | number (numDeletedElements : Nat)
  | done
deriving DecidableEq

/-- The return code of a call that has one. -/
def Answer.returnValue : Answer V → Option ReturnValue
  | .code returnValue => some returnValue
  | .value returnValue _ => some returnValue
  | .number _ => none
  | .done => none

def perform : Call K V → Map K V → Answer V × Map K V
  | .emplace key value, m => (.code (emplace key value m).1, (emplace key value m).2)
  | .erase key, m => (.code (erase key m).1, (erase key m).2)
  | .eraseByValue value, m => (.number (eraseByValue value m).1, (eraseByValue value m).2)
  | .get key, m => (.value (get key m).1 (get key m).2, m)
  | .clear, m => (.done, m.clear)

/-! ### The reference -/

/-- A table with room for a number of keys. -/
structure Sheet (K V : Type) where
  capacity : Nat
  table : Table K V

/-- What the wrapper is for. -/
def Sheet.perform : Call K V → Sheet K V → Answer V × Sheet K V
  | .emplace key value, s =>
    if key ∈ s.table.keys ∨ s.table.keys.card < s.capacity then
      (.code .returnOk, { s with table := s.table.set key value })
    else (.code .returnFailed, s)
  | .erase key, s =>
    if key ∈ s.table.keys then (.code .returnOk, { s with table := s.table.erase key })
    else (.code .returnFailed, s)
  | .eraseByValue value, s =>
    (.number (s.table.keysOf value).card, { s with table := s.table.discard value })
  | .get key, s =>
    (.value (if key ∈ s.table.keys then .returnOk else .returnFailed) (s.table.lookup key), s)
  | .clear, s => (.done, { s with table := Table.empty })

/-- The sheet that a map stands for. -/
def sheetOf (m : Map K V) : Sheet K V := ⟨m.capacity, m.table⟩

/-- A key that is written to a full map is a new one. -/
def WritesNew : Call K V → Map K V → Prop
  | .emplace key _, m => m.full = true → m.count key = 0
  | _, _ => True

/-- The loop erases the pairs with the value, and counts them. -/
theorem eraseByValueLoop_spec (value : V) (rest kept : List (K × V)) {m : Map K V}
    (h : m.pairs = kept ++ rest) :
    (eraseByValueLoop value rest.length kept.length m).1 = rest.countP (·.2 = value) ∧
    (eraseByValueLoop value rest.length kept.length m).2.pairs =
      kept ++ rest.filter (·.2 ≠ value) ∧
    (eraseByValueLoop value rest.length kept.length m).2.capacity = m.capacity := by
  induction rest generalizing kept m with
  | nil => exact ⟨rfl, h, rfl⟩
  | cons p ps ih =>
      have hhere : m.pairs[kept.length]? = some p := by
        rw [h, List.getElem?_append_right le_rfl, Nat.sub_self]
        rfl
      rw [List.length_cons, eraseByValueLoop, hhere, Option.map_some]
      by_cases hvalue : p.2 = value
      · have herased : (m.eraseAt kept.length).pairs = kept ++ ps := by
          show m.pairs.eraseIdx kept.length = _
          rw [h, List.eraseIdx_append_of_length_le le_rfl, Nat.sub_self]
          rfl
        obtain ⟨hcount, hpairs, hcapacity⟩ := ih kept herased
        rw [if_pos (congrArg some hvalue), List.countP_cons_of_pos (by simpa using hvalue),
          List.filter_cons_of_neg (by simpa using hvalue)]
        exact ⟨congrArg (· + 1) hcount, hpairs, hcapacity⟩
      · have hrest := ih (kept ++ [p]) (by rw [h, List.append_assoc]; rfl)
        rw [List.length_append, List.length_singleton, List.append_assoc] at hrest
        rw [if_neg fun heq => hvalue (Option.some.inj heq),
          List.countP_cons_of_neg (by simpa using hvalue),
          List.filter_cons_of_pos (by simpa using hvalue)]
        exact hrest

theorem eraseByValue_eq (value : V) (m : Map K V) :
    eraseByValue value m = (m.pairs.countP (·.2 = value), m.keep (·.2 ≠ value)) := by
  obtain ⟨hcount, hpairs, hcapacity⟩ := eraseByValueLoop_spec value m.pairs [] (m := m) rfl
  exact Prod.ext hcount (Map.eq_of_pairs hcapacity hpairs)

omit [DecidableEq V] in
theorem mem_keys_iff (m : Map K V) (key : K) : key ∈ (sheetOf m).table.keys ↔ ¬ m.count key = 0 := by
  rw [Table.mem_keys, m.count_eq_zero_iff, Option.isSome_iff_ne_none]
  rfl

/-- A call does what the reference does, except that a full map refuses a key that it has. -/
theorem agrees_iff (call : Call K V) (m : Map K V) :
    Agrees perform Sheet.perform sheetOf call m ↔ WritesNew call m := by
  unfold Agrees
  cases call with
  | emplace key value =>
    simp only [perform, Sheet.perform, emplace, WritesNew]
    have hcard : (sheetOf m).table.keys.card = m.pairs.length := m.card_keys
    by_cases hfull : m.full = true
    · have hroom : ¬ (sheetOf m).table.keys.card < (sheetOf m).capacity := by
        rw [hcard, beq_iff_eq.mp hfull]
        exact lt_irrefl _
      rw [dif_pos hfull]
      by_cases hnew : m.count key = 0
      · rw [if_neg (not_or.mpr ⟨fun h => (mem_keys_iff m key).mp h hnew, hroom⟩)]
        exact iff_of_true ⟨rfl, rfl⟩ fun _ => hnew
      · rw [if_pos (.inl ((mem_keys_iff m key).mpr hnew))]
        exact iff_of_false (fun h => nomatch h.1) fun h => hnew (h hfull)
    · have hroom : (sheetOf m).table.keys.card < (sheetOf m).capacity := by
        rw [hcard]
        exact Map.length_lt_of_not_full hfull
      rw [dif_neg hfull, if_pos (.inr hroom)]
      exact iff_of_true ⟨rfl, congrArg (Sheet.mk m.capacity) (Map.table_set hfull key value)⟩
        fun h => absurd h hfull
  | erase key =>
    refine iff_of_true ?_ trivial
    simp only [perform, Sheet.perform, erase]
    by_cases hcount : m.count key = 0
    · rw [if_pos hcount, if_neg fun h => (mem_keys_iff m key).mp h hcount]
      exact ⟨rfl, rfl⟩
    · rw [if_neg hcount, if_pos ((mem_keys_iff m key).mpr hcount)]
      exact ⟨rfl, congrArg (Sheet.mk m.capacity) (m.table_erase key)⟩
  | eraseByValue value =>
    refine iff_of_true ?_ trivial
    simp only [perform, Sheet.perform, eraseByValue_eq]
    exact ⟨congrArg Answer.number (m.card_keysOf value).symm,
      congrArg (Sheet.mk m.capacity) (m.table_discard value)⟩
  | get key =>
    refine iff_of_true ⟨?_, rfl⟩ trivial
    simp only [perform, Sheet.perform, get]
    by_cases hcount : m.count key = 0
    · rw [if_pos hcount, if_neg fun h => (mem_keys_iff m key).mp h hcount]
      exact congrArg (Answer.value _) ((m.count_eq_zero_iff key).mp hcount).symm
    · rw [if_neg hcount, if_pos ((mem_keys_iff m key).mpr hcount)]
      rfl
  | clear => exact iff_of_true ⟨rfl, rfl⟩ trivial

/-- A call that returns a failure changes nothing. -/
theorem perform_failed {call : Call K V} {m : Map K V}
    (h : (perform call m).1.returnValue = some .returnFailed) : (perform call m).2 = m := by
  cases call with
  | emplace key value =>
    refine eq_of_refused (m.full = true) ?_ ?_ (Option.some.inj h)
    · intro hfull
      exact dif_pos hfull
    · intro hroom
      rw [emplace, dif_neg hroom]
  | erase key =>
    refine eq_of_refused (m.count key = 0) ?_ ?_ (Option.some.inj h)
    · intro hcount
      exact if_pos hcount
    · intro hcount
      rw [erase, if_neg hcount]
  | eraseByValue value => cases h
  | get key => rfl
  | clear => cases h

end EtlIMapWrapper

/-! ## Agreement with the references -/

/-- **The wrappers and their references.** A run of calls on the multimap does what the bag does exactly
    if only pairs are erased that are there or whose key is not, and a run of calls on the map what the
    table does exactly if a full map is given new keys only. Calls that return a failure change nothing.
    -/
theorem calls_agree_iff (K V : Type) [LinearOrder K] [DecidableEq V] :
    (∀ (calls : List (EtlIMultiMapWrapper.Call K V)) (m : Multimap K V),
      (AgreeAlong EtlIMultiMapWrapper.perform EtlIMultiMapWrapper.Bag.perform
          EtlIMultiMapWrapper.bagOf calls m (EtlIMultiMapWrapper.bagOf m) ↔
        AlongRun EtlIMultiMapWrapper.ErasesPresent
          (fun call m => (EtlIMultiMapWrapper.perform call m).2) calls m)) ∧
    (∀ (calls : List (EtlIMapWrapper.Call K V)) (m : Map K V),
      (AgreeAlong EtlIMapWrapper.perform EtlIMapWrapper.Sheet.perform
          EtlIMapWrapper.sheetOf calls m (EtlIMapWrapper.sheetOf m) ↔
        AlongRun EtlIMapWrapper.WritesNew (fun call m => (EtlIMapWrapper.perform call m).2) calls m)) ∧
    (∀ (call : EtlIMultiMapWrapper.Call K V) (m : Multimap K V),
      (EtlIMultiMapWrapper.perform call m).1.returnValue = some .returnFailed →
        (EtlIMultiMapWrapper.perform call m).2 = m) ∧
    (∀ (call : EtlIMapWrapper.Call K V) (m : Map K V),
      (EtlIMapWrapper.perform call m).1.returnValue = some .returnFailed →
        (EtlIMapWrapper.perform call m).2 = m) := by
  refine ⟨fun calls m => ?_, fun calls m => ?_, fun _ _ => EtlIMultiMapWrapper.perform_failed,
    fun _ _ => EtlIMapWrapper.perform_failed⟩
  · exact agreeAlong_iff (I := fun _ => True) (fun _ _ _ => trivial) calls m
      (fun call _ m _ => EtlIMultiMapWrapper.agrees_iff call m) trivial
  · exact agreeAlong_iff (I := fun _ => True) (fun _ _ _ => trivial) calls m
      (fun call _ m _ => EtlIMapWrapper.agrees_iff call m) trivial

/-- **Done without a pair, and refused without a need.** The pair `(0, 6)` is erased that was never there,
    and the value of the only key is to be replaced in a map of one. -/
theorem absent_pair_erased :
    (EtlIMultiMapWrapper.erase 0 6
        (EtlIMultiMapWrapper.emplace 0 5 (⟨3, [], .nil, Nat.zero_le 3⟩ : Multimap Int Int)).2).1 =
      .returnOk ∧
    (EtlIMapWrapper.emplace 0 6
        (EtlIMapWrapper.emplace 0 5 (⟨1, [], .nil, Nat.zero_le 1⟩ : Map Int Int)).2).1 = .returnFailed ∧
    (¬ ∀ (calls : List (EtlIMultiMapWrapper.Call Int Int)) (m : Multimap Int Int),
      AgreeAlong EtlIMultiMapWrapper.perform EtlIMultiMapWrapper.Bag.perform
        EtlIMultiMapWrapper.bagOf calls m (EtlIMultiMapWrapper.bagOf m)) ∧
    ¬ ∀ (calls : List (EtlIMapWrapper.Call Int Int)) (m : Map Int Int),
      AgreeAlong EtlIMapWrapper.perform EtlIMapWrapper.Sheet.perform
        EtlIMapWrapper.sheetOf calls m (EtlIMapWrapper.sheetOf m) := by
  refine ⟨by decide, by decide, fun h => ?_, fun h => ?_⟩
  · have hrun := h [.emplace 0 5, .erase 0 6] ⟨3, [], .nil, Nat.zero_le 3⟩
    exact absurd hrun.2.1.1 (by decide)
  · have hrun := h [.emplace 0 5, .emplace 0 6] ⟨1, [], .nil, Nat.zero_le 1⟩
    exact absurd hrun.2.1.1 (by decide)

end TmStore
end Obsw
