import Obsw.Lib.LittleEndian

/-!
# `Utility.CommunicationMessage` — a message packed by hand

`CommunicationMessage` keeps its fields at fixed places of the 16 data bytes of a message. Two of them come
back otherwise than they were given: a raw request or reply leaves the buffer position of an earlier
message when its own is 0, and `getMessageType` fills one byte of its result only.
`setterRight_iff` says for which setters, messages and contents of that result all is right.
-/

namespace Obsw
namespace CommunicationMessage

open Memory LittleEndian

/-- `messageType`. -/
inductive MessageType where
  | none
  | sendDataFromPointer
  | sendDataFromIpcStore
  | sendDataRaw
  | replyDataFromPointer
  | replyDataIpcStore
  | replyDataRaw
  | faulty
  deriving DecidableEq, Repr

def MessageType.value : MessageType → UInt8
  | .none => 0
  | .sendDataFromPointer => 1
  | .sendDataFromIpcStore => 2
  | .sendDataRaw => 3
  | .replyDataFromPointer => 4
  | .replyDataIpcStore => 5
  | .replyDataRaw => 6
  | .faulty => 7

/-- The bytes at `getData()`. -/
abbrev Message := Mem UInt8

/-! ## Layout -/

def addressField : Field := ⟨0, 4⟩
def messageTypeField : Field := ⟨4, 1⟩
def messageIdField : Field := ⟨4 + 1, 1⟩
def bufferPositionField : Field := ⟨4 + 2, 2⟩
def storeIdField : Field := ⟨2 * 4, 4⟩
def dataLenField : Field := ⟨2 * 4, 4⟩
def dataField : Field := ⟨3 * 4, 4⟩
def byteField (position : UInt8) : Field := ⟨3 * 4 + position.toNat * 1, 1⟩
def uint16Field (position : UInt8) : Field := ⟨3 * 4 + position.toNat * 2, 2⟩

/-! ## Setters and getters of single fields -/

def setMessageType (status : MessageType) (m : Message) : Message :=
  messageTypeField.write m status.value.toNat

/-- `getMessageType`. Only the lowest byte of the result is read from the message; `rest` is what the
    bytes above it hold, 0 if the enumeration has no more than one byte. -/
def getMessageType (rest : Nat) (m : Message) : Nat := messageTypeField.read m + 256 * rest

def setMessageId (messageId : UInt8) (m : Message) : Message :=
  messageIdField.write m messageId.toNat

def getMessageId (m : Message) : Nat := messageIdField.read m

def setAddress (address : UInt32) (m : Message) : Message := addressField.write m address.toNat

def getAddress (m : Message) : Nat := addressField.read m

def setBufferPosition (bufferPosition : UInt16) (m : Message) : Message :=
  bufferPositionField.write m bufferPosition.toNat

def getBufferPosition (m : Message) : Nat := bufferPositionField.read m

/-- `setDataPointer`, for a pointer of 32 bits. -/
def setDataPointer (data : UInt32) (m : Message) : Message := dataField.write m data.toNat

def setStoreId (storeId : UInt32) (m : Message) : Message := storeIdField.write m storeId.toNat

def getStoreId (m : Message) : Nat := storeIdField.read m

def setDataLen (length : UInt32) (m : Message) : Message := dataLenField.write m length.toNat

def getDataLen (m : Message) : Nat := dataLenField.read m

def setUint32Data (data : UInt32) (m : Message) : Message := dataField.write m data.toNat

def getUint32Data (m : Message) : Nat := dataField.read m

/-- `setDataByte`. A position above 3 is an error and changes nothing. -/
def setDataByte (byte position : UInt8) (m : Message) : Message :=
  if position ≤ 3 then (byteField position).write m byte.toNat else m

def getDataByte (position : UInt8) (m : Message) : Nat :=
  if position ≤ 3 then (byteField position).read m else 0

/-- `setDataUint16`. A position above 1 is an error and changes nothing. -/
def setDataUint16 (data : UInt16) (position : UInt8) (m : Message) : Message :=
  if position = 0 ∨ position = 1 then (uint16Field position).write m data.toNat else m

def getDataUint16 (position : UInt8) (m : Message) : Nat :=
  if position = 0 ∨ position = 1 then (uint16Field position).read m else 0

/-! ## Setters of whole requests and replies -/

def setSendRequestFromPointer (address dataLen data : UInt32) (m : Message) : Message :=
  setDataPointer data (setDataLen dataLen (setAddress address
    (setMessageType .sendDataFromPointer m)))

def setSendRequestFromIpcStore (address storeId : UInt32) (m : Message) : Message :=
  setStoreId storeId (setAddress address (setMessageType .sendDataFromIpcStore m))

/-- `setSendRequestRaw`. The position 0 is not set. -/
def setSendRequestRaw (address length : UInt32) (sendBufferPosition : UInt16) (m : Message) : Message :=
  let m := setDataLen length (setAddress address (setMessageType .sendDataRaw m))
  if sendBufferPosition ≠ 0 then setBufferPosition sendBufferPosition m else m

def setDataReplyFromIpcStore (address storeId : UInt32) (m : Message) : Message :=
  setStoreId storeId (setAddress address (setMessageType .replyDataIpcStore m))

def setDataReplyFromPointer (address dataLen data : UInt32) (m : Message) : Message :=
  setDataPointer data (setDataLen dataLen (setAddress address
    (setMessageType .replyDataFromPointer m)))

/-- `setDataReplyRaw`. The position 0 is not set. -/
def setDataReplyRaw (address length : UInt32) (receiveBufferPosition : UInt16) (m : Message) : Message :=
  let m := setDataLen length (setAddress address (setMessageType .replyDataRaw m))
  if receiveBufferPosition ≠ 0 then setBufferPosition receiveBufferPosition m else m

/-! ## What is right -/

/-- What a getter returns. -/
inductive Part where
  | address
  | messageType
  | messageId
  | bufferPosition
  | storeId
  | dataLen
  | uint32Data
  | dataByte (position : UInt8)
  | dataUint16 (position : UInt8)
  deriving DecidableEq, Repr

/-- The getter of a part. -/
def Part.get (rest : Nat) (m : Message) : Part → Nat
  | .address => getAddress m
  | .messageType => getMessageType rest m
  | .messageId => getMessageId m
  | .bufferPosition => getBufferPosition m
  | .storeId => getStoreId m
  | .dataLen => getDataLen m
  | .uint32Data => getUint32Data m
  | .dataByte position => getDataByte position m
  | .dataUint16 position => getDataUint16 position m

/-- The positions that the setters and getters of data accept. -/
def Part.Valid : Part → Prop
  | .dataByte position => position ≤ 3
  | .dataUint16 position => position = 0 ∨ position = 1
  | _ => True

instance : DecidablePred Part.Valid
  | .dataByte position => inferInstanceAs (Decidable (position ≤ 3))
  | .dataUint16 position => inferInstanceAs (Decidable (position = 0 ∨ position = 1))
  | .address | .messageType | .messageId | .bufferPosition | .storeId | .dataLen | .uint32Data =>
    .isTrue trivial

/-- A call of a setter. -/
inductive Setter where
  | messageType (status : MessageType)
  | messageId (messageId : UInt8)
  | address (address : UInt32)
  | bufferPosition (bufferPosition : UInt16)
  | dataPointer (data : UInt32)
  | storeId (storeId : UInt32)
  | dataLen (length : UInt32)
  | uint32Data (data : UInt32)
  | dataByte (byte position : UInt8)
  | dataUint16 (data : UInt16) (position : UInt8)
  | sendRequestFromPointer (address dataLen data : UInt32)
  | sendRequestFromIpcStore (address storeId : UInt32)
  | sendRequestRaw (address length : UInt32) (sendBufferPosition : UInt16)
  | dataReplyFromIpcStore (address storeId : UInt32)
  | dataReplyFromPointer (address dataLen data : UInt32)
  | dataReplyRaw (address length : UInt32) (receiveBufferPosition : UInt16)
  deriving DecidableEq, Repr

def Setter.apply (m : Message) : Setter → Message
  | .messageType status => setMessageType status m
  | .messageId id => setMessageId id m
  | .address a => setAddress a m
  | .bufferPosition pos => setBufferPosition pos m
  | .dataPointer data => setDataPointer data m
  | .storeId id => setStoreId id m
  | .dataLen len => setDataLen len m
  | .uint32Data data => setUint32Data data m
  | .dataByte byte pos => setDataByte byte pos m
  | .dataUint16 data pos => setDataUint16 data pos m
  | .sendRequestFromPointer a len data => setSendRequestFromPointer a len data m
  | .sendRequestFromIpcStore a id => setSendRequestFromIpcStore a id m
  | .sendRequestRaw a len pos => setSendRequestRaw a len pos m
  | .dataReplyFromIpcStore a id => setDataReplyFromIpcStore a id m
  | .dataReplyFromPointer a len data => setDataReplyFromPointer a len data m
  | .dataReplyRaw a len pos => setDataReplyRaw a len pos m

/-- What is given to a request or reply: its type, address and data length or store id. -/
def givenHead (status : MessageType) (a : UInt32) (third : Part) (v : UInt32) : List (Part × Nat) :=
  [(.messageType, status.value.toNat), (.address, a.toNat), (third, v.toNat)]

/-- What a setter is given for which parts; for a position that is not accepted, nothing. The pointer has no
    getter of its own and is read as the 32-bit data. -/
def Setter.given : Setter → List (Part × Nat)
  | .messageType status => [(.messageType, status.value.toNat)]
  | .messageId id => [(.messageId, id.toNat)]
  | .address a => [(.address, a.toNat)]
  | .bufferPosition pos => [(.bufferPosition, pos.toNat)]
  | .dataPointer data => [(.uint32Data, data.toNat)]
  | .storeId id => [(.storeId, id.toNat)]
  | .dataLen len => [(.dataLen, len.toNat)]
  | .uint32Data data => [(.uint32Data, data.toNat)]
  | .dataByte byte pos => if pos ≤ 3 then [(.dataByte pos, byte.toNat)] else []
  | .dataUint16 data pos => if pos = 0 ∨ pos = 1 then [(.dataUint16 pos, data.toNat)] else []
  | .sendRequestFromPointer a len data =>
    givenHead .sendDataFromPointer a .dataLen len ++ [(.uint32Data, data.toNat)]
  | .sendRequestFromIpcStore a id => givenHead .sendDataFromIpcStore a .storeId id
  | .sendRequestRaw a len pos => givenHead .sendDataRaw a .dataLen len ++ [(.bufferPosition, pos.toNat)]
  | .dataReplyFromIpcStore a id => givenHead .replyDataIpcStore a .storeId id
  | .dataReplyFromPointer a len data =>
    givenHead .replyDataFromPointer a .dataLen len ++ [(.uint32Data, data.toNat)]
  | .dataReplyRaw a len pos => givenHead .replyDataRaw a .dataLen len ++ [(.bufferPosition, pos.toNat)]

/-- The bytes of a part. -/
def Part.field : Part → Field
  | .address => addressField
  | .messageType => messageTypeField
  | .messageId => messageIdField
  | .bufferPosition => bufferPositionField
  | .storeId => storeIdField
  | .dataLen => dataLenField
  | .uint32Data => dataField
  | .dataByte position => byteField position
  | .dataUint16 position => uint16Field position

/-- The documented groups of parts: data length and store id share their bytes, and so do the parts of the
    four data bytes. -/
inductive Group where
  | address
  | messageType
  | messageId
  | bufferPosition
  | lengthOrStore
  | data
  deriving DecidableEq, Repr

def Part.group : Part → Group
  | .address => .address
  | .messageType => .messageType
  | .messageId => .messageId
  | .bufferPosition => .bufferPosition
  | .storeId | .dataLen => .lengthOrStore
  | .uint32Data | .dataByte _ | .dataUint16 _ => .data

/-- Two parts of one documented group have a byte in common. -/
def Part.Shares (g h : Part) : Prop := g.group = h.group ∧ ¬ g.field.Disjoint h.field

/-- After a setter, the getters return what it was given, and all other parts that share no byte with one it
    was given are unchanged. -/
structure SetterRight (rest : Nat) (s : Setter) (m : Message) : Prop where
  given : ∀ w ∈ s.given, w.1.get rest (s.apply m) = w.2
  unchanged : ∀ g : Part, (∀ w ∈ s.given, ¬ g.Shares w.1) → g.get rest (s.apply m) = g.get rest m

/-- The buffer position of a raw request or reply. -/
def Setter.rawPosition : Setter → Option UInt16
  | .sendRequestRaw _ _ pos => some pos
  | .dataReplyRaw _ _ pos => some pos
  | _ => none

/-- A setter that sets the type needs zeros in the part of the result that `getMessageType` does not fill,
    and a raw one with position 0 a message whose buffer position is 0 already. -/
def SetterGood (rest : Nat) (s : Setter) (m : Message) : Prop :=
  (Part.messageType ∈ s.given.map Prod.fst → rest = 0) ∧
    (s.rawPosition = some 0 → getBufferPosition m = 0)

/-! ## The layout has no overlaps but the documented ones -/

/-- The bytes of a group. -/
def Group.range : Group → Field
  | .address => ⟨0, 4⟩
  | .messageType => ⟨4, 1⟩
  | .messageId => ⟨5, 1⟩
  | .bufferPosition => ⟨6, 2⟩
  | .lengthOrStore => ⟨8, 4⟩
  | .data => ⟨12, 4⟩

theorem Group.range_disjoint {G H : Group} (h : G ≠ H) : G.range.Disjoint H.range := by
  cases G <;> cases H <;> first | exact absurd rfl h | decide

/-- A part lies in the bytes of its group. -/
theorem Part.field_in_range {g : Part} (h : g.Valid) :
    g.group.range.addr ≤ g.field.addr ∧ g.field.next ≤ g.group.range.next := by
  cases g with
  | dataByte pos =>
      have hpos : pos.toNat ≤ 3 := UInt8.le_iff_toNat_le.mp h
      simp only [Part.group, Part.field, byteField, Group.range, Field.next]
      omega
  | dataUint16 pos =>
      have hpos : pos.toNat = 0 ∨ pos.toNat = 1 := by
        rcases h with rfl | rfl
        · exact Or.inl rfl
        · exact Or.inr rfl
      simp only [Part.group, Part.field, uint16Field, Group.range, Field.next]
      omega
  | address | messageType | messageId | bufferPosition | storeId | dataLen | uint32Data => decide

theorem Part.disjoint_of_group_ne {g h : Part} (hg : g.Valid) (hh : h.Valid)
    (hne : g.group ≠ h.group) : g.field.Disjoint h.field := by
  have hrange := Group.range_disjoint hne
  obtain ⟨hg₁, hg₂⟩ := Part.field_in_range hg
  obtain ⟨hh₁, hh₂⟩ := Part.field_in_range hh
  rcases hrange with hlow | hhigh
  · exact Or.inl (by omega)
  · exact Or.inr (by omega)

/-- What a getter returns for a position that is accepted. -/
theorem Part.get_of_valid {g : Part} (h : g.Valid) (rest : Nat) (m : Message) :
    g.get rest m = g.field.read m + if g = .messageType then 256 * rest else 0 := by
  cases g with
  | dataByte pos => exact if_pos h
  | dataUint16 pos => exact if_pos h
  | address | messageType | messageId | bufferPosition | storeId | dataLen | uint32Data => rfl

/-- For one that is not, it returns 0. -/
theorem Part.get_of_not_valid {g : Part} (h : ¬ g.Valid) (rest : Nat) (m : Message) :
    g.get rest m = 0 := by
  cases g with
  | dataByte pos => exact if_neg h
  | dataUint16 pos => exact if_neg h
  | address | messageType | messageId | bufferPosition | storeId | dataLen | uint32Data =>
      exact absurd trivial h

/-! ## What a setter writes -/

/-- What is written: all that is given, without the buffer position 0 of a raw request or reply. -/
def Setter.written (s : Setter) : List (Part × Nat) :=
  if s.rawPosition = some 0 then s.given.filter (·.1 ≠ .bufferPosition) else s.given

namespace Setter

variable {s : Setter} {m : Message}

theorem given_of_written {w : Part × Nat} (h : w ∈ s.written) : w ∈ s.given := by
  unfold written at h
  by_cases hraw : s.rawPosition = some 0
  · rw [if_pos hraw] at h
    exact List.mem_of_mem_filter h
  · rw [if_neg hraw] at h
    exact h

theorem written_of_given {w : Part × Nat} (h : w ∈ s.given)
    (hposition : s.rawPosition = some 0 → w.1 ≠ .bufferPosition) : w ∈ s.written := by
  unfold written
  by_cases hraw : s.rawPosition = some 0
  · rw [if_pos hraw]
    exact List.mem_filter.mpr ⟨h, decide_eq_true (hposition hraw)⟩
  · rw [if_neg hraw]
    exact h

/-- A setter writes its parts one after the other. -/
theorem apply_eq (s : Setter) (m : Message) :
    s.apply m = Field.writeAll (s.written.map fun w => (w.1.field, w.2)) m := by
  -- the cases are split where the code looks at a position
  cases s with
  | dataByte byte pos =>
      by_cases h : pos ≤ 3
      · simp [apply, written, given, rawPosition, setDataByte, h, Field.writeAll, Part.field]
      · simp [apply, written, given, rawPosition, setDataByte, h, Field.writeAll]
  | dataUint16 data pos =>
      by_cases h : pos = 0 ∨ pos = 1
      · simp [apply, written, given, rawPosition, setDataUint16, h, Field.writeAll, Part.field]
      · simp [apply, written, given, rawPosition, setDataUint16, h, Field.writeAll]
  | sendRequestRaw a len pos =>
      by_cases h : pos = 0
      · subst h
        rfl
      · simp [apply, written, given, givenHead, rawPosition, setSendRequestRaw, h, Field.writeAll,
          Part.field, setBufferPosition, setDataLen, setAddress, setMessageType]
  | dataReplyRaw a len pos =>
      by_cases h : pos = 0
      · subst h
        rfl
      · simp [apply, written, given, givenHead, rawPosition, setDataReplyRaw, h, Field.writeAll,
          Part.field, setBufferPosition, setDataLen, setAddress, setMessageType]
  | _ => rfl

theorem given_dataByte (byte pos : UInt8) :
    (pos ≤ 3 ∧ (dataByte byte pos).given = [(.dataByte pos, byte.toNat)]) ∨
      (dataByte byte pos).given = [] := by
  by_cases h : pos ≤ 3
  · exact Or.inl ⟨h, if_pos h⟩
  · exact Or.inr (if_neg h)

theorem given_dataUint16 (data : UInt16) (pos : UInt8) :
    ((pos = 0 ∨ pos = 1) ∧ (dataUint16 data pos).given = [(.dataUint16 pos, data.toNat)]) ∨
      (dataUint16 data pos).given = [] := by
  by_cases h : pos = 0 ∨ pos = 1
  · exact Or.inl ⟨h, if_pos h⟩
  · exact Or.inr (if_neg h)

/-- A part with a value that fits: its getter reads it, and the value is not longer than its bytes. -/
def Fits (w : Part × Nat) : Prop := w.1.Valid ∧ w.2 < 256 ^ w.1.field.size

theorem fits_of_uint32 (g : Part) (h : g.Valid) (hsize : g.field.size = 4) (v : UInt32) :
    Fits (g, v.toNat) := by
  refine ⟨h, ?_⟩
  rw [hsize]
  exact v.toNat_lt

theorem fits_messageType (status : MessageType) : Fits (.messageType, status.value.toNat) :=
  ⟨trivial, status.value.toNat_lt⟩

theorem fits_bufferPosition (pos : UInt16) : Fits (.bufferPosition, pos.toNat) :=
  ⟨trivial, pos.toNat_lt⟩

theorem givenHead_fits {status : MessageType} {a v : UInt32} (third : Part) (h : third.Valid)
    (hsize : third.field.size = 4) : ∀ w ∈ givenHead status a third v, Fits w := by
  intro w hw
  simp only [givenHead, List.mem_cons, List.not_mem_nil, or_false] at hw
  rcases hw with rfl | rfl | rfl
  · exact fits_messageType status
  · exact fits_of_uint32 .address trivial rfl a
  · exact fits_of_uint32 third h hsize v

/-- What is given fits. -/
theorem given_fits (s : Setter) : ∀ w ∈ s.given, Fits w := by
  have hsingle : ∀ {w : Part × Nat}, Fits w → ∀ w' ∈ [w], Fits w' := by
    intro w hfits w' hw'
    rw [List.mem_singleton.mp hw']
    exact hfits
  have happend : ∀ {ws : List (Part × Nat)} {w : Part × Nat}, (∀ w ∈ ws, Fits w) → Fits w →
      ∀ w' ∈ ws ++ [w], Fits w' := by
    intro ws w hws hfits w' hw'
    rcases List.mem_append.mp hw' with hw' | hw'
    · exact hws w' hw'
    · exact hsingle hfits w' hw'
  cases s with
  | messageType status => exact hsingle (fits_messageType status)
  | messageId id => exact hsingle ⟨trivial, id.toNat_lt⟩
  | address a => exact hsingle (fits_of_uint32 .address trivial rfl a)
  | bufferPosition pos => exact hsingle (fits_bufferPosition pos)
  | dataPointer data => exact hsingle (fits_of_uint32 .uint32Data trivial rfl data)
  | storeId id => exact hsingle (fits_of_uint32 .storeId trivial rfl id)
  | dataLen len => exact hsingle (fits_of_uint32 .dataLen trivial rfl len)
  | uint32Data data => exact hsingle (fits_of_uint32 .uint32Data trivial rfl data)
  | dataByte byte pos =>
      rcases given_dataByte byte pos with ⟨hpos, h⟩ | h
      · rw [h]
        exact hsingle ⟨hpos, byte.toNat_lt⟩
      · rw [h]
        exact fun _ hw => nomatch hw
  | dataUint16 data pos =>
      rcases given_dataUint16 data pos with ⟨hpos, h⟩ | h
      · rw [h]
        exact hsingle ⟨hpos, data.toNat_lt⟩
      · rw [h]
        exact fun _ hw => nomatch hw
  | sendRequestFromPointer a len data =>
      exact happend (givenHead_fits .dataLen trivial rfl)
        (fits_of_uint32 .uint32Data trivial rfl data)
  | sendRequestFromIpcStore a id => exact givenHead_fits .storeId trivial rfl
  | sendRequestRaw a len pos =>
      exact happend (givenHead_fits .dataLen trivial rfl) (fits_bufferPosition pos)
  | dataReplyFromIpcStore a id => exact givenHead_fits .storeId trivial rfl
  | dataReplyFromPointer a len data =>
      exact happend (givenHead_fits .dataLen trivial rfl)
        (fits_of_uint32 .uint32Data trivial rfl data)
  | dataReplyRaw a len pos =>
      exact happend (givenHead_fits .dataLen trivial rfl) (fits_bufferPosition pos)

/-- The parts that are given have no byte in common. -/
theorem given_pairwise (s : Setter) :
    s.given.Pairwise fun w w' => w'.1.field.Disjoint w.1.field := by
  have hgroups : s.given.Pairwise fun w w' => w'.1.group ≠ w.1.group := by
    cases s with
    | dataByte byte pos =>
        rcases given_dataByte byte pos with ⟨-, h⟩ | h
        · rw [h]
          exact List.pairwise_singleton _ _
        · rw [h]
          exact List.Pairwise.nil
    | dataUint16 data pos =>
        rcases given_dataUint16 data pos with ⟨-, h⟩ | h
        · rw [h]
          exact List.pairwise_singleton _ _
        · rw [h]
          exact List.Pairwise.nil
    | _ => simp [given, givenHead, Part.group]
  apply hgroups.imp_of_mem
  intro w w' hw hw' hne
  exact Part.disjoint_of_group_ne (given_fits s w' hw').1 (given_fits s w hw).1 hne

theorem written_sublist (s : Setter) : s.written.Sublist s.given := by
  unfold written
  by_cases hraw : s.rawPosition = some 0
  · rw [if_pos hraw]
    exact List.filter_sublist
  · rw [if_neg hraw]

/-- A part that is written reads back as it was given. -/
theorem read_of_written {w : Part × Nat} (h : w ∈ s.written) :
    w.1.field.read (s.apply m) = w.2 := by
  have hpairwise := (given_pairwise s).sublist (written_sublist s)
  have hfields : (s.written.map fun w => (w.1.field, w.2)).Pairwise fun w w' => w'.1.Disjoint w.1 :=
    List.pairwise_map.mpr hpairwise
  have hmem : (w.1.field, w.2) ∈ s.written.map fun w => (w.1.field, w.2) :=
    List.mem_map.mpr ⟨w, h, rfl⟩
  rw [apply_eq, Field.read_writeAll hfields hmem]
  exact Nat.mod_eq_of_lt (given_fits s w (given_of_written h)).2

/-- A field that meets nothing of what is written is left alone. -/
theorem read_of_disjoint {f : Field} (h : ∀ w ∈ s.written, f.Disjoint w.1.field) :
    f.read (s.apply m) = f.read m := by
  rw [apply_eq]
  refine Field.read_writeAll_disjoint ?_ m
  intro w hw
  obtain ⟨v, hv, rfl⟩ := List.mem_map.mp hw
  exact h v hv

end Setter

/-! ## Which setters are right -/

section Right

variable {rest : Nat} {s : Setter} {m : Message}

/-- The buffer position is the only part of its group. -/
theorem group_ne_bufferPosition {g : Part} (h : g ≠ .bufferPosition) : g.group ≠ .bufferPosition := by
  cases g with
  | bufferPosition => exact absurd rfl h
  | _ => exact fun hgroup => nomatch hgroup

/-- The buffer position that is given is the one of the call. -/
theorem given_position {w : Part × Nat} {pos : UInt16} (hraw : s.rawPosition = some pos)
    (hw : w ∈ s.given) (h : w.1 = .bufferPosition) : w.2 = pos.toNat := by
  cases s with
  | sendRequestRaw a len p | dataReplyRaw a len p =>
      cases hraw
      simp only [Setter.given, givenHead, List.cons_append, List.nil_append, List.mem_cons,
        List.not_mem_nil, or_false] at hw
      rcases hw with rfl | rfl | rfl | rfl
      · cases h
      · cases h
      · cases h
      · rfl
  | _ => cases hraw

theorem position_given {pos : UInt16} (hraw : s.rawPosition = some pos) :
    (Part.bufferPosition, pos.toNat) ∈ s.given := by
  cases s with
  | sendRequestRaw a len p | dataReplyRaw a len p =>
      cases hraw
      exact List.mem_append_right _ (List.mem_singleton.mpr rfl)
  | _ => cases hraw

/-- A raw setter with the position 0 leaves the buffer position alone. -/
theorem bufferPosition_of_raw_zero (hraw : s.rawPosition = some 0) :
    getBufferPosition (s.apply m) = getBufferPosition m := by
  apply Setter.read_of_disjoint
  intro w hw
  refine Part.disjoint_of_group_ne (g := .bufferPosition) trivial
    (Setter.given_fits s w (Setter.given_of_written hw)).1 ?_
  refine (group_ne_bufferPosition ?_).symm
  unfold Setter.written at hw
  rw [if_pos hraw] at hw
  exact of_decide_eq_true (List.mem_filter.mp hw).2

/-- Every setter leaves alone what it is not given. -/
theorem get_unchanged {g : Part} (h : ∀ w ∈ s.given, ¬ g.Shares w.1) :
    g.get rest (s.apply m) = g.get rest m := by
  by_cases hvalid : g.Valid
  · rw [Part.get_of_valid hvalid, Part.get_of_valid hvalid, Setter.read_of_disjoint]
    intro w hw
    have hgiven := Setter.given_of_written hw
    by_cases hgroup : g.group = w.1.group
    · by_contra hmeet
      exact h w hgiven ⟨hgroup, hmeet⟩
    · exact Part.disjoint_of_group_ne hvalid (Setter.given_fits s w hgiven).1 hgroup
  · rw [Part.get_of_not_valid hvalid, Part.get_of_not_valid hvalid]

/-- What is written comes back, but for the part of the message type that is not read. -/
theorem get_of_written {w : Part × Nat} (hw : w ∈ s.written) :
    w.1.get rest (s.apply m) = w.2 + if w.1 = .messageType then 256 * rest else 0 := by
  rw [Part.get_of_valid (Setter.given_fits s w (Setter.given_of_written hw)).1,
    Setter.read_of_written hw]

/-- **The message.** A setter is right exactly if the part of the result that `getMessageType` does not
    fill is zero, in case it sets the type, and the buffer position is 0 before it, in case it is a raw
    request or reply with the position 0. -/
theorem setterRight_iff (rest : Nat) (s : Setter) (m : Message) :
    SetterRight rest s m ↔ SetterGood rest s m := by
  constructor
  · intro hright
    constructor
    · -- the getter of the type adds what it does not read
      intro htype
      obtain ⟨w, hw, hfst⟩ := List.mem_map.mp htype
      have hwritten : w ∈ s.written :=
        Setter.written_of_given hw (fun _ => by rw [hfst]; exact fun h => nomatch h)
      have hget := hright.given w hw
      rw [get_of_written hwritten, if_pos hfst] at hget
      omega
    · intro hraw
      have hget := hright.given _ (position_given hraw)
      rw [← bufferPosition_of_raw_zero hraw]
      exact hget
  · rintro ⟨htype, hposition⟩
    refine ⟨?_, fun g hg => get_unchanged hg⟩
    intro w hw
    by_cases hskipped : s.rawPosition = some 0 ∧ w.1 = .bufferPosition
    · -- the position 0 is not written, and was there before
      obtain ⟨hraw, hfst⟩ := hskipped
      rw [hfst, given_position hraw hw hfst]
      exact (bufferPosition_of_raw_zero hraw).trans (hposition hraw)
    · have hwritten : w ∈ s.written :=
        Setter.written_of_given hw fun hraw hfst => hskipped ⟨hraw, hfst⟩
      rw [get_of_written hwritten]
      by_cases hfst : w.1 = .messageType
      · have hrest := htype (List.mem_map.mpr ⟨w, hw, hfst⟩)
        rw [if_pos hfst, hrest]
        rfl
      · rw [if_neg hfst]
        rfl

end Right

/-- A message with the buffer position 20. -/
def atPosition20 : Message := setBufferPosition 20 fun _ => 0

/-- A raw reply with the position 0 keeps the position 20 of the message before it. -/
theorem raw_reply_keeps_position :
    ¬ ∀ (rest : Nat) (s : Setter) (m : Message), SetterRight rest s m := by
  intro hall
  have hget := (hall 0 (.dataReplyRaw 0 4 0) atPosition20).given (.bufferPosition, 0) (by decide)
  exact absurd hget (by decide)

end CommunicationMessage
end Obsw
