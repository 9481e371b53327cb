import Obsw.Lib.LinkedRing
import Obsw.Lib.Rounds
import Mathlib.Algebra.Group.Nat.Defs
import Mathlib.Logic.Function.Basic

/-!
# `Freertos.List` — the lists of the kernel

`list.c`: rings of items, linked in both directions, with an end marker and an index. An item knows the list
it is in. Lists are named by the addresses of their end markers; the owner of an item is the item itself.

Over any run of the operations, on any number of lists, the memory holds lists that are served in turn
(`Represents`): each operation on the links is the operation on such a list (`represents_call`).
-/

namespace Obsw
namespace Freertos

open LinkedRing

/-! ## `list.c` -/

/-- `portMAX_DELAY` -/
def portMAX_DELAY : Nat := 2 ^ 32 - 1

/-- `ListItem_t`. -/
structure ListItem (α : Type) where
  xItemValue : Nat
  pxNext : α
  pxPrevious : α
  pxContainer : Option α
  deriving DecidableEq, Repr

/-- The items at their addresses, and the other fields of the `List_t` with an end marker. -/
structure Lists (α : Type) where
  item : α → ListItem α
  pxIndex : α → α
  uxNumberOfItems : α → Nat

section Source

variable {α : Type} [DecidableEq α]

namespace Lists

def setNext (m : Lists α) (x next : α) : Lists α :=
  { m with item := Function.update m.item x { m.item x with pxNext := next } }

def setPrevious (m : Lists α) (x previous : α) : Lists α :=
  { m with item := Function.update m.item x { m.item x with pxPrevious := previous } }

def setContainer (m : Lists α) (x : α) (container : Option α) : Lists α :=
  { m with item := Function.update m.item x { m.item x with pxContainer := container } }

/-- `listSET_LIST_ITEM_VALUE` -/
def setValue (m : Lists α) (x : α) (value : Nat) : Lists α :=
  { m with item := Function.update m.item x { m.item x with xItemValue := value } }

def setIndex (m : Lists α) (pxList index : α) : Lists α :=
  { m with pxIndex := Function.update m.pxIndex pxList index }

def setNumber (m : Lists α) (pxList : α) (number : Nat) : Lists α :=
  { m with uxNumberOfItems := Function.update m.uxNumberOfItems pxList number }

end Lists

/-- `vListInitialise`. -/
def vListInitialise (m : Lists α) (pxList : α) : Lists α :=
  { item := Function.update m.item pxList ⟨portMAX_DELAY, pxList, pxList, none⟩
    pxIndex := Function.update m.pxIndex pxList pxList
    uxNumberOfItems := Function.update m.uxNumberOfItems pxList 0 }

/-- `vListInsertEnd`. -/
def vListInsertEnd (m : Lists α) (pxList pxNewListItem : α) : Lists α :=
  let pxIndex := m.pxIndex pxList
  let m := m.setNext pxNewListItem pxIndex
  let m := m.setPrevious pxNewListItem (m.item pxIndex).pxPrevious
  let m := m.setNext (m.item pxIndex).pxPrevious pxNewListItem
  let m := m.setPrevious pxIndex pxNewListItem
  let m := m.setContainer pxNewListItem (some pxList)
  m.setNumber pxList (m.uxNumberOfItems pxList + 1)

/-- The loop of `vListInsert`, given as many passes as needed. -/
def findIterator (m : Lists α) (xValueOfInsertion : Nat) : Nat → α → Option α
  | 0,          _ => none
  | passes + 1, pxIterator =>
    if (m.item (m.item pxIterator).pxNext).xItemValue ≤ xValueOfInsertion then
      findIterator m xValueOfInsertion passes (m.item pxIterator).pxNext
    else some pxIterator

/-- `vListInsert`. -/
def vListInsert (m : Lists α) (pxList pxNewListItem : α) : Option (Lists α) :=
  let xValueOfInsertion := (m.item pxNewListItem).xItemValue
  let pxIterator :=
    if xValueOfInsertion = portMAX_DELAY then some (m.item pxList).pxPrevious
    else findIterator m xValueOfInsertion (m.uxNumberOfItems pxList + 1) pxList
  pxIterator.map fun pxIterator =>
    let m := m.setNext pxNewListItem (m.item pxIterator).pxNext
    let m := m.setPrevious (m.item pxNewListItem).pxNext pxNewListItem
    let m := m.setPrevious pxNewListItem pxIterator
    let m := m.setNext pxIterator pxNewListItem
    let m := m.setContainer pxNewListItem (some pxList)
    m.setNumber pxList (m.uxNumberOfItems pxList + 1)

/-- `uxListRemove`: the index does not stay at the item. -/
def stepBack (m : Lists α) (pxList pxItemToRemove : α) : Lists α :=
  if m.pxIndex pxList = pxItemToRemove then m.setIndex pxList (m.item pxItemToRemove).pxPrevious else m

/-- `uxListRemove`: the number of items that stay, and the lists; none for an item that is in no list. -/
def uxListRemove (m : Lists α) (pxItemToRemove : α) : Option (Nat × Lists α) :=
  (m.item pxItemToRemove).pxContainer.map fun pxList =>
    let m := m.setPrevious (m.item pxItemToRemove).pxNext (m.item pxItemToRemove).pxPrevious
    let m := m.setNext (m.item pxItemToRemove).pxPrevious (m.item pxItemToRemove).pxNext
    let m := stepBack m pxList pxItemToRemove
    let m := m.setContainer pxItemToRemove none
    let m := m.setNumber pxList (m.uxNumberOfItems pxList - 1)
    (m.uxNumberOfItems pxList, m)

/-- `listGET_OWNER_OF_NEXT_ENTRY`. -/
def listGetOwnerOfNextEntry (m : Lists α) (pxList : α) : α × Lists α :=
  let m := m.setIndex pxList (m.item (m.pxIndex pxList)).pxNext
  let m := if m.pxIndex pxList = pxList then m.setIndex pxList (m.item (m.pxIndex pxList)).pxNext else m
  (m.pxIndex pxList, m)

/-! ## Lists that are served in turn -/

/-- The lists without links, and the values of the items. -/
structure Contents (α : Type) where
  rounds : α → Rounds α
  value : α → Nat

/-- The memory holds these lists. -/
structure Represents (isList : α → Prop) (m : Lists α) (c : Contents α) : Prop where
  ring : ∀ e, isList e → Ring (fun y => (m.item y).pxNext) (fun y => (m.item y).pxPrevious) e (c.rounds e).items
  nodup : ∀ e, isList e → (c.rounds e).items.Nodup
  container : ∀ x e, ¬ isList x → ((m.item x).pxContainer = some e ↔ isList e ∧ x ∈ (c.rounds e).items)
  entries : ∀ e, isList e → ∀ x ∈ (c.rounds e).items, ¬ isList x
  index : ∀ e, isList e → m.pxIndex e = (c.rounds e).index.getD e
  number : ∀ e, isList e → m.uxNumberOfItems e = (c.rounds e).items.length
  marker : ∀ e, isList e → (m.item e).xItemValue = portMAX_DELAY
  values : ∀ x, ¬ isList x → (m.item x).xItemValue = c.value x
  bounded : ∀ x, c.value x ≤ portMAX_DELAY

/-- The calls of `list.c`. -/
inductive ListCall (α : Type) where
  | insertEnd (pxList pxNewListItem : α)
  | insert (pxList pxNewListItem : α)
  | remove (pxList pxItemToRemove : α)
  | getNext (pxList : α)
  | setValue (pxItem : α) (xValue : Nat)
  deriving DecidableEq, Repr

/-- What a call returns. -/
inductive ListResult (α : Type) where
  | nothing
  | number (n : Nat)
  | item (x : Option α)
  deriving DecidableEq, Repr

/-- What a caller keeps to: an item that is inserted is in no list, one that is removed is in the list, and the
    next entry is taken of a list with entries. -/
def Contents.May (isList : α → Prop) (c : Contents α) : ListCall α → Prop
  | .insertEnd e x | .insert e x =>
      isList e ∧ ¬ isList x ∧ ∀ e', isList e' → x ∉ (c.rounds e').items
  | .remove e x => isList e ∧ x ∈ (c.rounds e).items
  | .getNext e => isList e ∧ (c.rounds e).items ≠ []
  | .setValue x v => ¬ isList x ∧ v ≤ portMAX_DELAY

/-- A call on the lists without links, with what it returns. -/
def Contents.call (c : Contents α) : ListCall α → ListResult α × Contents α
  | .insertEnd e x => (.nothing, { c with rounds := Function.update c.rounds e ((c.rounds e).insertEnd x) })
  | .insert e x => (.nothing, { c with rounds := Function.update c.rounds e ((c.rounds e).insert c.value x) })
  | .remove e x =>
      let rounds := Function.update c.rounds e ((c.rounds e).remove x)
      (.number (rounds e).items.length, { c with rounds := rounds })
  | .getNext e =>
      (.item (c.rounds e).order.head?, { c with rounds := Function.update c.rounds e (c.rounds e).next })
  | .setValue x v => (.nothing, { c with value := Function.update c.value x v })

/-- The call on the links. -/
def Lists.call (m : Lists α) : ListCall α → Option (ListResult α × Lists α)
  | .insertEnd e x => some (.nothing, vListInsertEnd m e x)
  | .insert e x => (vListInsert m e x).map (.nothing, ·)
  | .remove _ x => (uxListRemove m x).map fun (n, m) => (.number n, m)
  | .getNext e =>
      let (x, m) := listGetOwnerOfNextEntry m e
      some (.item (some x), m)
  | .setValue x v => some (.nothing, m.setValue x v)

/-! ## What the calls write -/

section Writes

variable (m : Lists α) (x next y : α) (value number : Nat) (container : Option α)

/-- An item whose fields are written, read at one field. -/
theorem update_field {β : Type} (field : ListItem α → β) (item : α → ListItem α) (written : ListItem α) :
    field (Function.update item x written y) = if y = x then field written else field (item y) := by
  rw [Function.update_apply, apply_ite field]

theorem update_same {β : Type} (field : ListItem α → β) (item : α → ListItem α) (written : ListItem α)
    (hsame : field written = field (item x)) : field (Function.update item x written y) = field (item y) := by
  rw [update_field x y field]
  split_ifs with hy
  · rw [hsame, hy]
  · rfl

@[simp] theorem setNext_next : ((m.setNext x next).item y).pxNext =
    if y = x then next else (m.item y).pxNext := update_field x y (·.pxNext) m.item _
@[simp] theorem setNext_previous : ((m.setNext x next).item y).pxPrevious = (m.item y).pxPrevious :=
  update_same x y (·.pxPrevious) m.item _ rfl
@[simp] theorem setNext_container : ((m.setNext x next).item y).pxContainer = (m.item y).pxContainer :=
  update_same x y (·.pxContainer) m.item _ rfl
@[simp] theorem setNext_value : ((m.setNext x next).item y).xItemValue = (m.item y).xItemValue :=
  update_same x y (·.xItemValue) m.item _ rfl

@[simp] theorem setPrevious_next : ((m.setPrevious x next).item y).pxNext = (m.item y).pxNext :=
  update_same x y (·.pxNext) m.item _ rfl
@[simp] theorem setPrevious_previous : ((m.setPrevious x next).item y).pxPrevious =
    if y = x then next else (m.item y).pxPrevious := update_field x y (·.pxPrevious) m.item _
@[simp] theorem setPrevious_container : ((m.setPrevious x next).item y).pxContainer = (m.item y).pxContainer :=
  update_same x y (·.pxContainer) m.item _ rfl
@[simp] theorem setPrevious_value : ((m.setPrevious x next).item y).xItemValue = (m.item y).xItemValue :=
  update_same x y (·.xItemValue) m.item _ rfl

@[simp] theorem setContainer_next : ((m.setContainer x container).item y).pxNext = (m.item y).pxNext :=
  update_same x y (·.pxNext) m.item _ rfl
@[simp] theorem setContainer_previous : ((m.setContainer x container).item y).pxPrevious = (m.item y).pxPrevious :=
  update_same x y (·.pxPrevious) m.item _ rfl
@[simp] theorem setContainer_container : ((m.setContainer x container).item y).pxContainer =
    if y = x then container else (m.item y).pxContainer := update_field x y (·.pxContainer) m.item _
@[simp] theorem setContainer_value : ((m.setContainer x container).item y).xItemValue = (m.item y).xItemValue :=
  update_same x y (·.xItemValue) m.item _ rfl

@[simp] theorem setValue_next : ((m.setValue x value).item y).pxNext = (m.item y).pxNext :=
  update_same x y (·.pxNext) m.item _ rfl
@[simp] theorem setValue_previous : ((m.setValue x value).item y).pxPrevious = (m.item y).pxPrevious :=
  update_same x y (·.pxPrevious) m.item _ rfl
@[simp] theorem setValue_container : ((m.setValue x value).item y).pxContainer = (m.item y).pxContainer :=
  update_same x y (·.pxContainer) m.item _ rfl
@[simp] theorem setValue_value : ((m.setValue x value).item y).xItemValue =
    if y = x then value else (m.item y).xItemValue := update_field x y (·.xItemValue) m.item _

@[simp] theorem setIndex_item : (m.setIndex x next).item = m.item := rfl
@[simp] theorem setNumber_item : (m.setNumber x number).item = m.item := rfl
@[simp] theorem setNext_pxIndex : (m.setNext x next).pxIndex = m.pxIndex := rfl
@[simp] theorem setPrevious_pxIndex : (m.setPrevious x next).pxIndex = m.pxIndex := rfl
@[simp] theorem setContainer_pxIndex : (m.setContainer x container).pxIndex = m.pxIndex := rfl
@[simp] theorem setNumber_pxIndex : (m.setNumber x number).pxIndex = m.pxIndex := rfl
@[simp] theorem setNext_number : (m.setNext x next).uxNumberOfItems = m.uxNumberOfItems := rfl
@[simp] theorem setPrevious_number : (m.setPrevious x next).uxNumberOfItems = m.uxNumberOfItems := rfl
@[simp] theorem setContainer_number :
    (m.setContainer x container).uxNumberOfItems = m.uxNumberOfItems := rfl
@[simp] theorem setIndex_number : (m.setIndex x next).uxNumberOfItems = m.uxNumberOfItems := rfl

@[simp] theorem setIndex_pxIndex : (m.setIndex x next).pxIndex y =
    if y = x then next else m.pxIndex y := Function.update_apply _ _ _ _

@[simp] theorem setNumber_number : (m.setNumber x number).uxNumberOfItems y =
    if y = x then number else m.uxNumberOfItems y := Function.update_apply _ _ _ _

@[simp] theorem stepBack_item : (stepBack m x y).item = m.item := by
  unfold stepBack
  split_ifs <;> rfl

@[simp] theorem stepBack_number : (stepBack m x y).uxNumberOfItems = m.uxNumberOfItems := by
  unfold stepBack
  split_ifs <;> rfl

theorem stepBack_pxIndex (e : α) : (stepBack m e x).pxIndex y =
    if y = e then (if m.pxIndex e = x then (m.item x).pxPrevious else m.pxIndex e) else m.pxIndex y := by
  unfold stepBack
  by_cases hx : m.pxIndex e = x
  · rw [if_pos hx, if_pos hx, setIndex_pxIndex]
  · rw [if_neg hx, if_neg hx]
    split_ifs with hy
    · rw [hy]
    · rfl

end Writes

/-- An item has been put into a list, between two others. -/
structure Put (m m' : Lists α) (e a x b : α) : Prop where
  next : ∀ y, (m'.item y).pxNext = if y = x then b else if y = a then x else (m.item y).pxNext
  previous : ∀ y, (m'.item y).pxPrevious = if y = x then a else if y = b then x else (m.item y).pxPrevious
  container : ∀ y, (m'.item y).pxContainer = if y = x then some e else (m.item y).pxContainer
  value : ∀ y, (m'.item y).xItemValue = (m.item y).xItemValue
  index : m'.pxIndex = m.pxIndex
  number : ∀ y, m'.uxNumberOfItems y = if y = e then m.uxNumberOfItems e + 1 else m.uxNumberOfItems y

theorem vListInsertEnd_put (m : Lists α) (e x : α) (hindex : m.pxIndex e ≠ x)
    (hprevious : (m.item (m.pxIndex e)).pxPrevious ≠ x) :
    Put m (vListInsertEnd m e x) e (m.item (m.pxIndex e)).pxPrevious x (m.pxIndex e) := by
  unfold vListInsertEnd
  constructor
  · intro y
    simp only [setNumber_item, setContainer_next, setPrevious_next, setNext_next, setPrevious_previous,
      setNext_previous, if_neg hindex]
    split_ifs with hy hx
    · exact absurd (hy.symm.trans hx) hprevious
    all_goals rfl
  · intro y
    simp only [setNumber_item, setContainer_previous, setPrevious_previous, setNext_previous]
    split_ifs with hy hx
    · exact absurd (hy.symm.trans hx) hindex
    all_goals rfl
  · intro y
    simp
  · intro y
    simp
  · rfl
  · intro y
    simp

/-- The links that `vListInsert` writes behind its loop. -/
theorem insertBehind_put (m : Lists α) (e x a : α) (ha : a ≠ x) :
    let m₁ := m.setNext x (m.item a).pxNext
    let m₂ := m₁.setPrevious (m₁.item x).pxNext x
    let m₃ := ((m₂.setPrevious x a).setNext a x).setContainer x (some e)
    Put m (m₃.setNumber e (m₃.uxNumberOfItems e + 1)) e a x (m.item a).pxNext := by
  constructor
  · intro y
    simp only [setNumber_item, setContainer_next, setPrevious_next, setNext_next]
    split_ifs with hy hx
    · exact absurd (hy.symm.trans hx) ha
    all_goals rfl
  · intro y
    simp only [setNumber_item, setContainer_previous, setPrevious_previous, setNext_previous, setNext_next,
      if_true]
  · intro y
    simp
  · intro y
    simp
  · rfl
  · intro y
    simp

/-- An item has been taken out from between two others. -/
structure Taken (m m' : Lists α) (e a x b : α) : Prop where
  next : ∀ y, y ≠ x → (m'.item y).pxNext = if y = a then b else (m.item y).pxNext
  previous : ∀ y, y ≠ x → (m'.item y).pxPrevious = if y = b then a else (m.item y).pxPrevious
  container : ∀ y, (m'.item y).pxContainer = if y = x then none else (m.item y).pxContainer
  value : ∀ y, (m'.item y).xItemValue = (m.item y).xItemValue
  index : ∀ y, m'.pxIndex y = if y = e then (if m.pxIndex e = x then a else m.pxIndex e) else m.pxIndex y
  number : ∀ y, m'.uxNumberOfItems y = if y = e then m.uxNumberOfItems e - 1 else m.uxNumberOfItems y

theorem uxListRemove_taken {m : Lists α} {e a x b : α} (hcontainer : (m.item x).pxContainer = some e)
    (ha : (m.item x).pxPrevious = a) (hb : (m.item x).pxNext = b) (hbx : b ≠ x) :
    ∃ m', uxListRemove m x = some (m.uxNumberOfItems e - 1, m') ∧ Taken m m' e a x b := by
  have hprevious : ((m.setPrevious b a).item x).pxPrevious = a := by
    rw [setPrevious_previous, if_neg hbx.symm, ha]
  have hnext : ((m.setPrevious b a).item x).pxNext = b := by rw [setPrevious_next, hb]
  unfold uxListRemove
  rw [hcontainer, Option.map_some]
  dsimp only
  rw [ha, hb, hprevious, hnext]
  refine ⟨_, Prod.ext ?_ rfl |> congrArg some, ?_⟩
  · simp
  · constructor
    · intro y _
      simp
    · intro y _
      simp
    · intro y
      simp
    · intro y
      simp
    · intro y
      rw [setNumber_pxIndex, setContainer_pxIndex, stepBack_pxIndex, setNext_previous, hprevious]
      rfl
    · intro y
      simp

/-! ## The calls refine the lists without links -/

section Refine

variable {isList : α → Prop} {m m' : Lists α} {c : Contents α} {e a x b : α} {front behind : List α}

omit [DecidableEq α] in
/-- No node is in two rings. -/
theorem Represents.apart (h : Represents isList m c) {e' : α} (he : isList e) (he' : isList e') (hne : e' ≠ e)
    {y : α} (hy : y ∈ e :: (c.rounds e).items) : y ∉ e' :: (c.rounds e').items := by
  intro hy'
  rcases List.mem_cons.mp hy with rfl | hy <;> rcases List.mem_cons.mp hy' with heq | hy'
  · exact hne heq.symm
  · exact h.entries e' he' y hy' he
  · exact h.entries e he y hy (heq ▸ he')
  · have hcontainer := (h.container y e (h.entries e he y hy)).mpr ⟨he, hy⟩
    have hcontainer' := (h.container y e' (h.entries e he y hy)).mpr ⟨he', hy'⟩
    exact hne (Option.some.inj (hcontainer'.symm.trans hcontainer))

omit [DecidableEq α] in
/-- The last one in front of a place, and the first one behind it, are in the ring. -/
theorem mem_of_last {f : List α} (hfront : e :: front = f ++ [a]) : a ∈ e :: (front ++ behind) := by
  have ha : a ∈ e :: front := hfront ▸ List.mem_append_right _ (List.mem_singleton.mpr rfl)
  exact List.mem_append_left behind ha

omit [DecidableEq α] in
theorem mem_of_first {g : List α} (hbehind : behind ++ [e] = b :: g) : b ∈ e :: (front ++ behind) := by
  have hb : b ∈ behind ++ [e] := hbehind ▸ List.mem_cons_self
  simp only [List.mem_append, List.mem_cons, List.not_mem_nil, or_false] at hb ⊢
  tauto

/-- **An item is put in.** -/
theorem represents_put (h : Represents isList m c) (he : isList e) (hx : ¬ isList x)
    (hfree : ∀ e', isList e' → x ∉ (c.rounds e').items) {r : Rounds α} {f g : List α}
    (hitems : (c.rounds e).items = front ++ behind) (hfront : e :: front = f ++ [a])
    (hbehind : behind ++ [e] = b :: g) (hput : Put m m' e a x b) (hr : r.items = front ++ x :: behind)
    (hindex : r.index = (c.rounds e).index) :
    Represents isList m' { c with rounds := Function.update c.rounds e r } := by
  have hself : (Function.update c.rounds e r) e = r := Function.update_self e r c.rounds
  have hother : ∀ e', e' ≠ e → (Function.update c.rounds e r) e' = c.rounds e' := fun e' hne =>
    Function.update_of_ne hne r c.rounds
  have hperm : r.items.Perm (x :: (c.rounds e).items) := by
    rw [hr, hitems]
    exact List.perm_middle
  have hmem : ∀ y, y ∈ r.items ↔ y = x ∨ y ∈ (c.rounds e).items := fun y => by
    rw [hperm.mem_iff, List.mem_cons]
  have hnodup := h.nodup e he
  have hxring : ∀ e', isList e' → x ∉ e' :: (c.rounds e').items := by
    intro e' he' hmem'
    rcases List.mem_cons.mp hmem' with rfl | hmem'
    · exact hx he'
    · exact hfree e' he' hmem'
  have ha : a ∈ e :: (c.rounds e).items := hitems ▸ mem_of_last hfront
  have hb : b ∈ e :: (c.rounds e).items := hitems ▸ mem_of_first hbehind
  have hax : a ≠ x := fun heq => hxring e he (heq ▸ ha)
  have hbx : b ≠ x := fun heq => hxring e he (heq ▸ hb)
  constructor
  · -- `x` enters the ring of `e` between `a` and `b`; no other ring holds one of the three
    intro e' he'
    by_cases hne : e' = e
    · subst hne
      show Ring _ _ e' ((Function.update c.rounds e' r) e').items
      rw [hself, hr]
      have hring := h.ring e' he'
      rw [hitems] at hring
      have hnodup' : (e' :: (front ++ behind)).Nodup :=
        List.nodup_cons.mpr ⟨fun hin => h.entries e' he e' (hitems ▸ hin) he, hitems ▸ hnodup⟩
      have hne' : ∀ y ∈ e' :: (front ++ behind), y ≠ x := by
        rintro y hy rfl
        exact hxring e' he (hitems ▸ hy)
      refine ring_insert hring hnodup' hfront hbehind ⟨?_, ?_⟩ ⟨?_, ?_⟩ (fun y hy hya => ?_) fun y hy hyb => ?_
      · exact (hput.next a).trans ((if_neg hax).trans (if_pos rfl))
      · exact (hput.previous x).trans (if_pos rfl)
      · exact (hput.next x).trans (if_pos rfl)
      · exact (hput.previous b).trans ((if_neg hbx).trans (if_pos rfl))
      · exact (hput.next y).trans ((if_neg (hne' y hy)).trans (if_neg hya))
      · exact (hput.previous y).trans ((if_neg (hne' y hy)).trans (if_neg hyb))
    · show Ring _ _ e' ((Function.update c.rounds e r) e').items
      rw [hother e' hne]
      have hyx : ∀ y ∈ e' :: (c.rounds e').items, y ≠ x := by
        rintro y hy rfl
        exact hxring e' he' hy
      refine ring_congr (h.ring e' he') (fun y hy => ?_) fun y hy => ?_
      · refine (hput.next y).trans ((if_neg (hyx y hy)).trans (if_neg ?_))
        rintro rfl
        exact h.apart he he' hne ha hy
      · refine (hput.previous y).trans ((if_neg (hyx y hy)).trans (if_neg ?_))
        rintro rfl
        exact h.apart he he' hne hb hy
  · intro e' he'
    by_cases hne : e' = e
    · subst hne
      show ((Function.update c.rounds e' r) e').items.Nodup
      rw [hself]
      exact hperm.nodup_iff.mpr (List.nodup_cons.mpr ⟨hfree e' he, hnodup⟩)
    · show ((Function.update c.rounds e r) e').items.Nodup
      rw [hother e' hne]
      exact h.nodup e' he'
  · -- only the container of `x` changes, and `x` was in none of the lists
    intro y e' hy
    show _ ↔ isList e' ∧ y ∈ ((Function.update c.rounds e r) e').items
    rw [hput.container]
    by_cases hyx : y = x
    · subst hyx
      rw [if_pos rfl]
      constructor
      · intro heq
        obtain rfl := Option.some.inj heq
        rw [hself]
        exact ⟨he, (hmem y).mpr (Or.inl rfl)⟩
      · rintro ⟨he', hin⟩
        by_cases hne : e' = e
        · rw [hne]
        · rw [hother e' hne] at hin
          exact absurd hin (hfree e' he')
    · rw [if_neg hyx, h.container y e' hy]
      by_cases hne : e' = e
      · subst hne
        rw [hself, hmem, or_iff_right hyx]
      · rw [hother e' hne]
  · intro e' he' y hy
    by_cases hne : e' = e
    · subst hne
      have hy' : y ∈ r.items := by
        rw [← hself]
        exact hy
      rcases (hmem y).mp hy' with rfl | hy'
      · exact hx
      · exact h.entries e' he y hy'
    · refine h.entries e' he' y ?_
      rw [← hother e' hne]
      exact hy
  · intro e' he'
    show _ = ((Function.update c.rounds e r) e').index.getD e'
    rw [hput.index, h.index e' he']
    by_cases hne : e' = e
    · subst hne
      rw [hself, hindex]
    · rw [hother e' hne]
  · intro e' he'
    show _ = ((Function.update c.rounds e r) e').items.length
    rw [hput.number]
    by_cases hne : e' = e
    · subst hne
      rw [if_pos rfl, hself, hperm.length_eq, h.number e' he, List.length_cons]
    · rw [if_neg hne, hother e' hne, h.number e' he']
  · intro e' he'
    rw [hput.value]
    exact h.marker e' he'
  · intro y hy
    rw [hput.value]
    exact h.values y hy
  · exact h.bounded

/-- **An item is taken out.** -/
theorem represents_taken (h : Represents isList m c) (he : isList e) {r : Rounds α} {f g : List α}
    (hitems : (c.rounds e).items = front ++ x :: behind) (hfront : e :: front = f ++ [a])
    (hbehind : behind ++ [e] = b :: g) (htaken : Taken m m' e a x b) (hr : r.items = front ++ behind)
    (hindex : r.index.getD e =
      if (c.rounds e).index.getD e = x then a else (c.rounds e).index.getD e) :
    Represents isList m' { c with rounds := Function.update c.rounds e r } := by
  have hself : (Function.update c.rounds e r) e = r := Function.update_self e r c.rounds
  have hother : ∀ e', e' ≠ e → (Function.update c.rounds e r) e' = c.rounds e' := fun e' hne =>
    Function.update_of_ne hne r c.rounds
  have hperm : (c.rounds e).items.Perm (x :: r.items) := by
    rw [hr, hitems]
    exact List.perm_middle
  have hnodup := h.nodup e he
  have hnodupx := List.nodup_cons.mp (hperm.nodup_iff.mp hnodup)
  have hmem : ∀ y, y ∈ r.items ↔ y ≠ x ∧ y ∈ (c.rounds e).items := by
    intro y
    rw [hperm.mem_iff, List.mem_cons]
    constructor
    · intro hy
      exact ⟨fun heq => hnodupx.1 (heq ▸ hy), Or.inr hy⟩
    · rintro ⟨hne, hy⟩
      exact hy.resolve_left hne
  have hx : x ∈ (c.rounds e).items := hitems ▸ List.mem_append_right _ List.mem_cons_self
  have hxlist := h.entries e he x hx
  have ha : a ∈ e :: (front ++ behind) := mem_of_last hfront
  have hb : b ∈ e :: (front ++ behind) := mem_of_first hbehind
  have hsub : ∀ y ∈ e :: (front ++ behind), y ∈ e :: (c.rounds e).items ∧ y ≠ x := by
    intro y hy
    rw [← hr] at hy
    rcases List.mem_cons.mp hy with rfl | hy
    · exact ⟨List.mem_cons_self, fun heq => hxlist (heq ▸ he)⟩
    · exact ⟨List.mem_cons_of_mem _ ((hmem y).mp hy).2, ((hmem y).mp hy).1⟩
  constructor
  · -- the ring of `e` closes behind `x`; the rings are apart, so every other one keeps its links
    intro e' he'
    by_cases hne : e' = e
    · subst hne
      show Ring _ _ e' ((Function.update c.rounds e' r) e').items
      rw [hself, hr]
      have hring := h.ring e' he'
      rw [hitems] at hring
      have hnodup' : (e' :: (front ++ x :: behind)).Nodup :=
        List.nodup_cons.mpr ⟨fun hin => h.entries e' he e' (hitems ▸ hin) he, hitems ▸ hnodup⟩
      refine ring_remove hring hnodup' hfront hbehind ⟨?_, ?_⟩ (fun y hy hya => ?_) fun y hy hyb => ?_
      · exact (htaken.next a (hsub a ha).2).trans (if_pos rfl)
      · exact (htaken.previous b (hsub b hb).2).trans (if_pos rfl)
      · exact (htaken.next y (hsub y hy).2).trans (if_neg hya)
      · exact (htaken.previous y (hsub y hy).2).trans (if_neg hyb)
    · show Ring _ _ e' ((Function.update c.rounds e r) e').items
      rw [hother e' hne]
      have hout : ∀ z ∈ e :: (c.rounds e).items, ∀ y ∈ e' :: (c.rounds e').items, y ≠ z := by
        rintro z hz y hy rfl
        exact h.apart he he' hne hz hy
      have hxne := hout x (List.mem_cons_of_mem _ hx)
      refine ring_congr (h.ring e' he') (fun y hy => ?_) fun y hy => ?_
      · exact (htaken.next y (hxne y hy)).trans (if_neg (hout a (hsub a ha).1 y hy))
      · exact (htaken.previous y (hxne y hy)).trans (if_neg (hout b (hsub b hb).1 y hy))
  · intro e' he'
    by_cases hne : e' = e
    · subst hne
      show ((Function.update c.rounds e' r) e').items.Nodup
      rw [hself]
      exact hnodupx.2
    · show ((Function.update c.rounds e r) e').items.Nodup
      rw [hother e' hne]
      exact h.nodup e' he'
  · -- `x` was in the list of `e` only, so it is in none now
    intro y e' hy
    show _ ↔ isList e' ∧ y ∈ ((Function.update c.rounds e r) e').items
    rw [htaken.container]
    by_cases hyx : y = x
    · subst hyx
      rw [if_pos rfl]
      refine ⟨fun heq => (by cases heq), ?_⟩
      rintro ⟨he', hin⟩
      by_cases hne : e' = e
      · subst hne
        rw [hself] at hin
        exact absurd rfl ((hmem y).mp hin).1
      · rw [hother e' hne] at hin
        exact absurd (List.mem_cons_of_mem _ hin) (h.apart he he' hne (List.mem_cons_of_mem _ hx))
    · rw [if_neg hyx, h.container y e' hy]
      by_cases hne : e' = e
      · subst hne
        rw [hself, hmem, and_iff_right hyx]
      · rw [hother e' hne]
  · intro e' he' y hy
    by_cases hne : e' = e
    · subst hne
      have hy' : y ∈ r.items := by
        rw [← hself]
        exact hy
      exact h.entries e' he y ((hmem y).mp hy').2
    · refine h.entries e' he' y ?_
      rw [← hother e' hne]
      exact hy
  · intro e' he'
    show _ = ((Function.update c.rounds e r) e').index.getD e'
    rw [htaken.index]
    by_cases hne : e' = e
    · subst hne
      rw [if_pos rfl, hself, hindex, h.index e' he]
    · rw [if_neg hne, hother e' hne, h.index e' he']
  · intro e' he'
    show _ = ((Function.update c.rounds e r) e').items.length
    rw [htaken.number]
    by_cases hne : e' = e
    · subst hne
      rw [if_pos rfl, hself, h.number e' he, hperm.length_eq, List.length_cons, Nat.add_sub_cancel]
    · rw [if_neg hne, hother e' hne, h.number e' he']
  · intro e' he'
    rw [htaken.value]
    exact h.marker e' he'
  · intro y hy
    rw [htaken.value]
    exact h.values y hy
  · exact h.bounded

/-! ### One call -/

theorem insertEnd_step (h : Represents isList m c) (he : isList e) (hx : ¬ isList x)
    (hfree : ∀ e', isList e' → x ∉ (c.rounds e').items) :
    Represents isList (vListInsertEnd m e x) (c.call (.insertEnd e x)).2 := by
  obtain ⟨front, behind, hitems, hr, hindex, hfirst⟩ := (c.rounds e).items_insertEnd x
  obtain ⟨f, hfront⟩ := exists_last e front
  obtain ⟨g, hbehind⟩ := exists_first e behind
  have hb : m.pxIndex e = behind.head?.getD e := by rw [h.index e he, ← hfirst]
  have hring := h.ring e he
  rw [hitems] at hring
  have hlink := hring.link hfront hbehind
  have hxnot : ∀ y ∈ e :: (front ++ behind), y ≠ x := by
    rintro y hy rfl
    rcases List.mem_cons.mp hy with rfl | hy
    · exact hx he
    · exact hfree e he (hitems ▸ hy)
  have ha : (m.item (m.pxIndex e)).pxPrevious = front.getLast?.getD e := by
    rw [hb]
    exact hlink.2
  have hput := vListInsertEnd_put m e x (hb ▸ hxnot _ (mem_of_first hbehind))
    (ha ▸ hxnot _ (mem_of_last hfront))
  rw [ha, hb] at hput
  exact represents_put h he hx hfree hitems hfront hbehind hput hr hindex

theorem remove_step (h : Represents isList m c) (he : isList e) (hx : x ∈ (c.rounds e).items) :
    ∃ m', uxListRemove m x = some (((c.rounds e).remove x).items.length, m') ∧
      Represents isList m' (c.call (.remove e x)).2 := by
  obtain ⟨front, behind, hitems, hr, hindex⟩ := (c.rounds e).items_remove_split hx (h.nodup e he)
  obtain ⟨f, hfront⟩ := exists_last e front
  obtain ⟨g, hbehind⟩ := exists_first e behind
  have hring := h.ring e he
  rw [hitems] at hring
  have hxlist := h.entries e he x hx
  have hprevious := (hring.link hfront (List.cons_append : x :: behind ++ [e] = _)).2
  have hnext : (m.item x).pxNext = behind.head?.getD e := by
    have hring' := hring
    rw [List.append_cons] at hring'
    exact (hring'.link (List.cons_append.symm : _ = e :: front ++ [x]) hbehind).1
  have hbx : behind.head?.getD e ≠ x := by
    have hnodup := h.nodup e he
    rw [hitems] at hnodup
    have hxbehind := (List.nodup_cons.mp (List.nodup_append.mp hnodup).2.1).1
    cases behind with
    | nil => exact fun heq => hxlist (heq ▸ he)
    | cons b behind => exact fun heq => hxbehind (heq ▸ List.mem_cons_self)
  obtain ⟨m', hremove, htaken⟩ := uxListRemove_taken ((h.container x e hxlist).mpr ⟨he, hx⟩) hprevious
    hnext hbx
  refine ⟨m', ?_, represents_taken h he hitems hfront hbehind htaken hr (hindex e ?_)⟩
  · rw [hremove, h.number e he, hr, hitems]
    simp
  · exact fun heq => hxlist (heq ▸ he)

omit [DecidableEq α] in
/-- **The loop of the insertion.** It stops in front of the first larger value. -/
theorem findIterator_eq {v passes : Nat} {iterator d : α} {take rest : List α}
    (h : Linked (fun y => (m.item y).pxNext) (fun y => (m.item y).pxPrevious) (iterator :: take ++ d :: rest))
    (htake : ∀ y ∈ take, (m.item y).xItemValue ≤ v) (hd : v < (m.item d).xItemValue)
    (hpasses : take.length < passes) :
    findIterator m v passes iterator = some (take.getLast?.getD iterator) := by
  induction take generalizing iterator passes with
  | nil =>
      obtain ⟨passes, rfl⟩ := Nat.exists_eq_add_of_lt hpasses
      have hnext : (m.item iterator).pxNext = d := (linked_cons_cons.mp h).1.1
      rw [findIterator, hnext, if_neg (Nat.not_le_of_lt hd)]
      rfl
  | cons y take ih =>
      obtain ⟨passes, rfl⟩ := Nat.exists_eq_add_of_lt hpasses
      obtain ⟨hlink, hrest⟩ := linked_cons_cons.mp h
      have hnext : (m.item iterator).pxNext = y := hlink.1
      rw [findIterator, hnext, if_pos (htake y List.mem_cons_self)]
      rw [ih hrest (fun z hz => htake z (List.mem_cons_of_mem _ hz)) (by rw [List.length_cons]; omega)]
      rw [List.getLast?_cons, Option.getD_some]

theorem insert_step (h : Represents isList m c) (he : isList e) (hx : ¬ isList x)
    (hfree : ∀ e', isList e' → x ∉ (c.rounds e').items) :
    ∃ m', vListInsert m e x = some m' ∧ Represents isList m' (c.call (.insert e x)).2 := by
  set front := (c.rounds e).items.takeWhile (c.value · ≤ c.value x) with hfrontEq
  set behind := (c.rounds e).items.dropWhile (c.value · ≤ c.value x) with hbehindEq
  have hitems : (c.rounds e).items = front ++ behind := List.takeWhile_append_dropWhile.symm
  obtain ⟨f, hfront⟩ := exists_last e front
  obtain ⟨g, hbehind⟩ := exists_first e behind
  have hring := h.ring e he
  rw [hitems] at hring
  have hvalue : ∀ y ∈ (c.rounds e).items, (m.item y).xItemValue = c.value y := fun y hy =>
    h.values y (h.entries e he y hy)
  have hfrontLe : ∀ y ∈ front, (m.item y).xItemValue ≤ c.value x := by
    intro y hy
    rw [hvalue y (hitems ▸ List.mem_append_left _ hy)]
    simpa using List.mem_takeWhile_imp hy
  -- the search stops at the last item whose value is not larger
  have hiterator : (if (m.item x).xItemValue = portMAX_DELAY then some (m.item e).pxPrevious
      else findIterator m (m.item x).xItemValue (m.uxNumberOfItems e + 1) e) =
        some (front.getLast?.getD e) := by
    rw [h.values x hx]
    split_ifs with hmax
    · -- no value is larger
      have hnil : behind = [] := by
        rw [hbehindEq, List.dropWhile_eq_nil_iff]
        intro y _
        have hy := h.bounded y
        rw [← hmax] at hy
        simpa using hy
      rw [hnil] at hring
      have hlink := hring.link hfront (List.nil_append [e])
      rw [show (m.item e).pxPrevious = _ from hlink.2]
    · have hlt : c.value x < portMAX_DELAY := Nat.lt_of_le_of_ne (h.bounded x) hmax
      have hlinked : Linked (fun y => (m.item y).pxNext) (fun y => (m.item y).pxPrevious)
          (e :: front ++ behind.head?.getD e :: g) := by
        rw [← hbehind]
        have hrow := hring
        rw [LinkedRing.Ring, ← List.cons_append, List.append_assoc] at hrow
        exact hrow
      -- behind it comes an item with a larger value, or the marker of the list
      refine findIterator_eq hlinked hfrontLe ?_ ?_
      · cases hb : behind with
        | nil =>
            show c.value x < (m.item e).xItemValue
            rw [h.marker e he]
            exact hlt
        | cons y l =>
            have hy : y ∈ (c.rounds e).items :=
              hitems ▸ List.mem_append_right _ (hb ▸ List.mem_cons_self)
            show c.value x < (m.item y).xItemValue
            rw [hvalue y hy]
            have hhead : y ∈ ((c.rounds e).items.dropWhile (c.value · ≤ c.value x)).head? := by
              rw [← hbehindEq, hb]
              rfl
            have hnot := List.head?_dropWhile_not (c.value · ≤ c.value x) (c.rounds e).items
            rw [Option.mem_def.mp hhead] at hnot
            simpa using hnot
      · rw [h.number e he, hitems, List.length_append]
        omega
  have hxnot : ∀ y ∈ e :: (front ++ behind), y ≠ x := by
    rintro y hy rfl
    rcases List.mem_cons.mp hy with rfl | hy
    · exact hx he
    · exact hfree e he (hitems ▸ hy)
  have hput := insertBehind_put m e x (front.getLast?.getD e) (hxnot _ (mem_of_last hfront))
  have hb : (m.item (front.getLast?.getD e)).pxNext = behind.head?.getD e := (hring.link hfront hbehind).1
  refine ⟨_, ?_, represents_put h he hx hfree hitems hfront (hb ▸ hbehind) hput ?_ ?_⟩
  · unfold vListInsert
    dsimp only
    rw [hiterator, Option.map_some]
  · rw [Rounds.items_insert]
  · exact Rounds.index_insert _ _ _

/-- Only the index has moved. -/
theorem represents_index (h : Represents isList m c) {r : Rounds α}
    (hitems : r.items = (c.rounds e).items) (hitem : m'.item = m.item)
    (hnumber : m'.uxNumberOfItems = m.uxNumberOfItems)
    (hindex : ∀ y, m'.pxIndex y = if y = e then r.index.getD e else m.pxIndex y) :
    Represents isList m' { c with rounds := Function.update c.rounds e r } := by
  have hsame : ∀ e', ((Function.update c.rounds e r) e').items = (c.rounds e').items := by
    intro e'
    rw [Function.update_apply]
    split_ifs with hne
    · rw [hitems, hne]
    · rfl
  constructor
  · intro e' he'
    rw [hsame, hitem]
    exact h.ring e' he'
  · intro e' he'
    rw [hsame]
    exact h.nodup e' he'
  · intro y e' hy
    rw [hsame, hitem]
    exact h.container y e' hy
  · intro e' he'
    rw [hsame]
    exact h.entries e' he'
  · intro e' he'
    show _ = ((Function.update c.rounds e r) e').index.getD e'
    rw [hindex, Function.update_apply]
    split_ifs with hne
    · rw [hne]
    · exact h.index e' he'
  · intro e' he'
    rw [hsame, hnumber]
    exact h.number e' he'
  · intro e' he'
    rw [hitem]
    exact h.marker e' he'
  · intro y hy
    rw [hitem]
    exact h.values y hy
  · exact h.bounded

theorem getNext_step (h : Represents isList m c) (he : isList e) (hne : (c.rounds e).items ≠ []) :
    (c.rounds e).order.head? = some (listGetOwnerOfNextEntry m e).1 ∧
      Represents isList (listGetOwnerOfNextEntry m e).2 (c.call (.getNext e)).2 := by
  have hring := h.ring e he
  have hindex := h.index e he
  have hentries : ∀ y ∈ (c.rounds e).items, y ≠ e := fun y hy heq => h.entries e he y hy (heq ▸ he)
  have hnext := (c.rounds e).index_next
  obtain ⟨f, hfront⟩ := exists_last e (c.rounds e).served
  obtain ⟨g, hbehind⟩ := exists_first e (c.rounds e).ahead
  have hlink : (m.item (m.pxIndex e)).pxNext = (c.rounds e).ahead.head?.getD e := by
    rw [hindex]
    exact (hring.link hfront hbehind).1
  rcases hahead : (c.rounds e).ahead with _ | ⟨y, ahead⟩
  · -- the end marker is passed over
    obtain ⟨g', hfirst⟩ := exists_first e (c.rounds e).items
    have hfirstLink : (m.item e).pxNext = (c.rounds e).items.head?.getD e :=
      (hring.first hfirst).1
    have horder : (c.rounds e).order = (c.rounds e).items := by
      simp [Rounds.order, Rounds.items, hahead]
    obtain ⟨y, hy⟩ := Option.isSome_iff_exists.mp (List.isSome_head?.mpr hne)
    rw [hahead] at hlink
    have hlink' : (m.item (m.pxIndex e)).pxNext = e := hlink
    have heq : listGetOwnerOfNextEntry m e = (y, (m.setIndex e e).setIndex e y) := by
      unfold listGetOwnerOfNextEntry
      dsimp only
      rw [hlink', setIndex_pxIndex, if_pos rfl, if_pos rfl, setIndex_item, hfirstLink, hy, Option.getD_some,
        setIndex_pxIndex, if_pos rfl]
    rw [heq]
    refine ⟨by rw [horder, hy], represents_index h (Rounds.items_next _) rfl rfl fun z => ?_⟩
    rw [hnext, horder, hy, Option.getD_some, setIndex_pxIndex, setIndex_pxIndex]
    split_ifs <;> rfl
  · have hyne : y ≠ e := hentries y (by simp [Rounds.items, hahead])
    have horder : (c.rounds e).order.head? = some y := by simp [Rounds.order, hahead]
    rw [hahead] at hlink
    have hlink' : (m.item (m.pxIndex e)).pxNext = y := hlink
    have heq : listGetOwnerOfNextEntry m e = (y, m.setIndex e y) := by
      unfold listGetOwnerOfNextEntry
      dsimp only
      rw [hlink', setIndex_pxIndex, if_pos rfl, if_neg hyne, setIndex_pxIndex, if_pos rfl]
    rw [heq]
    refine ⟨horder, represents_index h (Rounds.items_next _) rfl rfl fun z => ?_⟩
    rw [hnext, horder, Option.getD_some, setIndex_pxIndex]

theorem setValue_step (h : Represents isList m c) (hx : ¬ isList x) {v : Nat} (hv : v ≤ portMAX_DELAY) :
    Represents isList (m.setValue x v) (c.call (.setValue x v)).2 := by
  have hne : ∀ e', isList e' → e' ≠ x := fun e' he' heq => hx (heq ▸ he')
  constructor
  · intro e' he'
    refine ring_congr (h.ring e' he') (fun y _ => ?_) fun y _ => ?_
    · exact setValue_next m x y v
    · exact setValue_previous m x y v
  · exact h.nodup
  · intro y e' hy
    rw [setValue_container]
    exact h.container y e' hy
  · exact h.entries
  · exact h.index
  · exact h.number
  · intro e' he'
    rw [setValue_value, if_neg (hne e' he')]
    exact h.marker e' he'
  · intro y hy
    show _ = Function.update c.value x v y
    rw [setValue_value, Function.update_apply]
    split_ifs
    · rfl
    · exact h.values y hy
  · intro y
    show Function.update c.value x v y ≤ portMAX_DELAY
    rw [Function.update_apply]
    split_ifs
    · exact hv
    · exact h.bounded y

/-- **Step.** A call on the links does, and returns, what it does on the lists without links. -/
theorem represents_call (h : Represents isList m c) {call : ListCall α} (hmay : c.May isList call) :
    ∃ m', m.call call = some ((c.call call).1, m') ∧ Represents isList m' (c.call call).2 := by
  cases call with
  | insertEnd e x =>
      obtain ⟨he, hx, hfree⟩ := hmay
      exact ⟨_, rfl, insertEnd_step h he hx hfree⟩
  | insert e x =>
      obtain ⟨he, hx, hfree⟩ := hmay
      obtain ⟨m', heq, hrep⟩ := insert_step h he hx hfree
      exact ⟨m', by rw [Lists.call, heq]; rfl, hrep⟩
  | remove e x =>
      obtain ⟨he, hx⟩ := hmay
      obtain ⟨m', heq, hrep⟩ := remove_step h he hx
      refine ⟨m', ?_, hrep⟩
      rw [Lists.call, heq, Contents.call, Function.update_self]
      rfl
  | getNext e =>
      obtain ⟨he, hne⟩ := hmay
      obtain ⟨hhead, hrep⟩ := getNext_step h he hne
      refine ⟨_, ?_, hrep⟩
      show some (ListResult.item (some (listGetOwnerOfNextEntry m e).1), _) =
        some (ListResult.item (c.rounds e).order.head?, _)
      rw [hhead]
      rfl
  | setValue x v => exact ⟨_, rfl, setValue_step h hmay.1 hmay.2⟩

end Refine

/-! ## Any order of calls -/

/-- The calls one after another on the links, with what they return. -/
def Lists.run : Lists α → List (ListCall α) → Option (List (ListResult α) × Lists α)
  | m, [] => some ([], m)
  | m, call :: calls =>
    match m.call call with
    | none => none
    | some (returned, m) => (Lists.run m calls).map fun (rest, m) => (returned :: rest, m)

/-- The calls one after another on the lists without links. -/
def Contents.run : Contents α → List (ListCall α) → List (ListResult α) × Contents α
  | c, [] => ([], c)
  | c, call :: calls =>
    let (rest, c') := Contents.run (c.call call).2 calls
    ((c.call call).1 :: rest, c')

/-- Each caller keeps to the rules. -/
def Contents.MayRun (isList : α → Prop) : Contents α → List (ListCall α) → Prop
  | _, [] => True
  | c, call :: calls => c.May isList call ∧ Contents.MayRun isList (c.call call).2 calls

theorem represents_run {isList : α → Prop} {m : Lists α} {c : Contents α} (h : Represents isList m c)
    {calls : List (ListCall α)} (hmay : c.MayRun isList calls) :
    ∃ m', m.run calls = some ((c.run calls).1, m') ∧ Represents isList m' (c.run calls).2 := by
  induction calls generalizing m c with
  | nil => exact ⟨m, rfl, h⟩
  | cons call calls ih =>
      obtain ⟨hcall, hrest⟩ := hmay
      obtain ⟨m₁, heq, hrep⟩ := represents_call h hcall
      obtain ⟨m', hrun, hrep'⟩ := ih hrep hrest
      refine ⟨m', ?_, hrep'⟩
      rw [Lists.run, heq]
      dsimp only
      rw [hrun]
      rfl

/-- Lists behind `vListInitialise` are empty. -/
theorem represents_initialise {m : Lists α} {lists : List α} (hfree : ∀ x, (m.item x).pxContainer = none)
    (hvalue : ∀ x, (m.item x).xItemValue ≤ portMAX_DELAY) :
    Represents (· ∈ lists) (lists.foldl vListInitialise m)
      ⟨fun _ => Rounds.empty, fun x => (m.item x).xItemValue⟩ := by
  -- over the lists one after another: a later call leaves the items of an earlier one as they are
  have hfold : ∀ (l : List α) (m : Lists α), (∀ x, (m.item x).pxContainer = none) →
      (∀ x ∉ l, (l.foldl vListInitialise m).item x = m.item x ∧
        (l.foldl vListInitialise m).pxIndex x = m.pxIndex x ∧
        (l.foldl vListInitialise m).uxNumberOfItems x = m.uxNumberOfItems x) ∧
      ∀ e ∈ l, (l.foldl vListInitialise m).item e = ⟨portMAX_DELAY, e, e, none⟩ ∧
        (l.foldl vListInitialise m).pxIndex e = e ∧ (l.foldl vListInitialise m).uxNumberOfItems e = 0 := by
    intro l
    induction l with
    | nil => exact fun m _ => ⟨fun x _ => ⟨rfl, rfl, rfl⟩, fun e he => (by cases he)⟩
    | cons z l ih =>
        intro m hm
        have hz : ∀ y, (vListInitialise m z).item y =
            if y = z then ⟨portMAX_DELAY, z, z, none⟩ else m.item y := fun y => Function.update_apply _ _ _ _
        have hz' : ∀ y, (vListInitialise m z).pxIndex y = if y = z then z else m.pxIndex y := fun y =>
          Function.update_apply _ _ _ _
        have hz'' : ∀ y, (vListInitialise m z).uxNumberOfItems y =
            if y = z then 0 else m.uxNumberOfItems y := fun y => Function.update_apply _ _ _ _
        obtain ⟨hout, hin⟩ := ih (vListInitialise m z) fun x => by
          rw [hz]
          split_ifs
          · rfl
          · exact hm x
        constructor
        · intro x hx
          have hxz : x ≠ z := fun heq => hx (heq ▸ List.mem_cons_self)
          have hxl : x ∉ l := fun hmem => hx (List.mem_cons_of_mem _ hmem)
          rw [List.foldl_cons, (hout x hxl).1, (hout x hxl).2.1, (hout x hxl).2.2, hz, hz', hz'', if_neg hxz,
            if_neg hxz, if_neg hxz]
          exact ⟨rfl, rfl, rfl⟩
        · intro e he
          rw [List.foldl_cons]
          by_cases hel : e ∈ l
          · exact hin e hel
          · obtain rfl := (List.mem_cons.mp he).resolve_right hel
            rw [(hout e hel).1, (hout e hel).2.1, (hout e hel).2.2, hz, hz', hz'', if_pos rfl, if_pos rfl,
              if_pos rfl]
            exact ⟨rfl, rfl, rfl⟩
  obtain ⟨hout, hin⟩ := hfold lists m hfree
  constructor
  · intro e he
    refine linked_cons_cons.mpr ⟨⟨?_, ?_⟩, linked_singleton⟩
    · exact congrArg ListItem.pxNext (hin e he).1
    · exact congrArg ListItem.pxPrevious (hin e he).1
  · exact fun e he => List.nodup_nil
  · intro x e hx
    rw [(hout x hx).1, hfree x]
    exact ⟨fun heq => (by cases heq), fun ⟨_, hmem⟩ => (by cases hmem)⟩
  · exact fun e he x hx => (by cases hx)
  · exact fun e he => (hin e he).2.1
  · exact fun e he => (hin e he).2.2
  · exact fun e he => congrArg ListItem.xItemValue (hin e he).1
  · exact fun x hx => congrArg ListItem.xItemValue (hout x hx).1
  · exact hvalue

/-- **Refinement.** Any calls of `list.c`, on any lists that share items, end, return what they return on lists
    without links, and leave these lists in memory. -/
theorem list_refines {m : Lists α} {lists : List α} (hfree : ∀ x, (m.item x).pxContainer = none)
    (hvalue : ∀ x, (m.item x).xItemValue ≤ portMAX_DELAY) {calls : List (ListCall α)}
    (hmay : Contents.MayRun (· ∈ lists) ⟨fun _ => Rounds.empty, fun x => (m.item x).xItemValue⟩ calls) :
    let c := Contents.run ⟨fun _ => Rounds.empty, fun x => (m.item x).xItemValue⟩ calls
    ∃ m', (lists.foldl vListInitialise m).run calls = some (c.1, m') ∧ Represents (· ∈ lists) m' c.2 :=
  represents_run (represents_initialise hfree hvalue) hmay

end Source

/-- Two items with values change places in a list that is sorted, and are served. -/
theorem twoItems_refine :
    ∃ m', ([100].foldl vListInitialise ⟨fun _ => ⟨0, 0, 0, none⟩, fun _ => 0, fun _ => 0⟩ : Lists Nat).run
        [.setValue 1 7, .setValue 2 5, .insert 100 1, .insert 100 2, .getNext 100, .getNext 100,
          .remove 100 2] =
      some ([.nothing, .nothing, .nothing, .nothing, .item (some 2), .item (some 1), .number 1], m') := by
  have hmay : Contents.MayRun (· ∈ [100]) ⟨fun _ => Rounds.empty, fun _ => 0⟩ [.setValue 1 7, .setValue 2 5,
      .insert 100 1, .insert 100 2, .getNext 100, .getNext 100, .remove 100 2] := by
    simp [Contents.MayRun, Contents.May, Contents.call, Rounds.items, Rounds.empty, Rounds.insert, Rounds.next,
      Function.update_apply, portMAX_DELAY]
  obtain ⟨m', hrun, _⟩ := list_refines (m := ⟨fun _ => ⟨0, 0, 0, none⟩, fun _ => 0, fun _ => 0⟩)
    (fun _ => rfl) (fun _ => Nat.zero_le _) hmay
  exact ⟨m', hrun⟩

end Freertos
end Obsw
