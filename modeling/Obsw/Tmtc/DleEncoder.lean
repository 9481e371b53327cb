import Mathlib.Data.List.Basic

/-!
# `Tmtc.DleEncoder` — data link escape encoding

A packet is sent between an STX and an ETX byte; where these bytes and DLE occur in it, they are escaped
by DLE and replaced. The encoder of the on-board software belongs to the framework, and is a parameter
here (`DleEncoder`, with what its documentation says as `DleEncoder.Documented`).

`archived` is the C port of it in `misc/archive/blloader/utility/dleEncoder.c`, and is documented in this
sense (`archived_documented`).
-/

namespace Obsw
namespace Tmtc

/-- `STX_CHAR`. -/
def stxChar : UInt8 := 0x02

/-- `ETX_CHAR`. -/
def etxChar : UInt8 := 0x03

/-- `DLE_CHAR`. -/
def dleChar : UInt8 := 0x10

/-- What a successful `decode` gives: `readLen` and the decoded bytes. -/
structure Decoded where
  readLen : Nat
  data : List UInt8

/-- `DleEncoder`: `encode` with STX and ETX, and `decode` into a buffer of the given size. -/
structure DleEncoder where
  encode : List UInt8 → List UInt8
  decode : List UInt8 → Nat → Option Decoded

/-- Bytes without STX and ETX. -/
def Quiet (bytes : List UInt8) : Prop := ∀ byte ∈ bytes, byte ≠ stxChar ∧ byte ≠ etxChar

instance (bytes : List UInt8) : Decidable (Quiet bytes) :=
  List.decidableBAll (fun byte => byte ≠ stxChar ∧ byte ≠ etxChar) bytes

/-- What the documentation of the encoder says: STX and ETX stand at the ends of an encoded packet and
    nowhere else, `decode` converts the packet back if the buffer holds it, and gives an error, not a
    part of the packet, if it does not. -/
structure DleEncoder.Documented (d : DleEncoder) : Prop where
  framed : ∀ packet, ∃ body, d.encode packet = stxChar :: body ++ [etxChar] ∧ Quiet body
  decodes : ∀ packet rest maxSize, packet.length ≤ maxSize →
    d.decode (d.encode packet ++ rest) maxSize = some ⟨(d.encode packet).length, packet⟩
  tooLong : ∀ packet rest maxSize, maxSize < packet.length →
    d.decode (d.encode packet ++ rest) maxSize = none

theorem Quiet.sublist {a b : List UInt8} (hb : Quiet b) (h : a.Sublist b) : Quiet a :=
  fun byte hbyte => hb byte (h.subset hbyte)

theorem Quiet.etx_notMem {bytes : List UInt8} (h : Quiet bytes) : etxChar ∉ bytes :=
  fun hmem => (h etxChar hmem).2 rfl

/-! ## The archived port -/

/-- One byte of the packet in `encode_dle`. -/
def escape (byte : UInt8) : List UInt8 :=
  if byte = stxChar ∨ byte = etxChar then [dleChar, byte + 0x40]
  else if byte = dleChar then [dleChar, dleChar]
  else [byte]

/-- `encode_dle`, into a destination that is large enough. -/
def encodeDle (sourceStream : List UInt8) : List UInt8 :=
  stxChar :: sourceStream.flatMap escape ++ [etxChar]

/-- One more byte in front of a decoded stream. -/
def Decoded.cons (read : Nat) (byte : UInt8) (decoded : Decoded) : Decoded :=
  ⟨decoded.readLen + read, byte :: decoded.data⟩

/-- The loop of `decode_dle` with its final check, for what is left of the stream and the destination.
    `none`: `DECODING_ERROR`, or the stream has no end. -/
def decodeFrom : List UInt8 → Nat → Option Decoded
  | [], _ => none
  | byte :: rest, space =>
    if byte = etxChar then some ⟨1, []⟩
    else if byte = stxChar then none
    else
      match space with
      | 0 => none
      | space + 1 =>
        if byte = dleChar then
          match rest with
          | [] => none
          | next :: rest =>
            if next = dleChar then (decodeFrom rest space).map (Decoded.cons 2 next)
            else if next = 0x42 ∨ next = 0x43 ∨ next = 0x4D then
              (decodeFrom rest space).map (Decoded.cons 2 (next - 0x40))
            else none
        else (decodeFrom rest space).map (Decoded.cons 1 byte)

/-- `decode_dle`. -/
def decodeDle (sourceStream : List UInt8) (maxDestStreamlen : Nat) : Option Decoded :=
  match sourceStream with
  | [] => none
  | byte :: rest =>
    if byte ≠ stxChar then none
    else (decodeFrom rest maxDestStreamlen).map (fun d => ⟨d.readLen + 1, d.data⟩)

def archived : DleEncoder := ⟨encodeDle, decodeDle⟩

theorem quiet_escape (byte : UInt8) : Quiet (escape byte) := by
  unfold escape
  split
  · rename_i h
    rcases h with rfl | rfl
    · exact show Quiet [dleChar, stxChar + 0x40] by decide
    · exact show Quiet [dleChar, etxChar + 0x40] by decide
  · rename_i h
    rw [not_or] at h
    split
    · exact show Quiet [dleChar, dleChar] by decide
    · intro b hb
      rw [List.mem_singleton.mp hb]
      exact h

theorem quiet_flatMap_escape (packet : List UInt8) : Quiet (packet.flatMap escape) := by
  intro byte hbyte
  obtain ⟨source, -, hmem⟩ := List.mem_flatMap.mp hbyte
  exact quiet_escape source byte hmem

theorem decodeFrom_etx (rest : List UInt8) (space : Nat) :
    decodeFrom (etxChar :: rest) space = some ⟨1, []⟩ := by
  cases space with
  | zero => rfl
  | succ space => cases rest <;> rfl

theorem decodeFrom_plain {byte : UInt8} (hstx : byte ≠ stxChar) (hetx : byte ≠ etxChar)
    (hdle : byte ≠ dleChar) (rest : List UInt8) (space : Nat) :
    decodeFrom (byte :: rest) (space + 1) = (decodeFrom rest space).map (Decoded.cons 1 byte) := by
  cases rest <;> simp [decodeFrom, hstx, hetx, hdle]

/-- An escaped byte is decoded, if the destination has room for it. -/
theorem decodeFrom_escape (byte : UInt8) (rest : List UInt8) (space : Nat) :
    decodeFrom (escape byte ++ rest) (space + 1) =
      (decodeFrom rest space).map (Decoded.cons (escape byte).length byte) := by
  unfold escape
  split
  · rename_i h
    rcases h with rfl | rfl <;> rfl
  · rename_i h
    rw [not_or] at h
    split
    · rename_i hdle
      rw [hdle]
      rfl
    · rename_i hdle
      exact decodeFrom_plain h.1 h.2 hdle rest space

theorem decodeFrom_escape_zero (byte : UInt8) (rest : List UInt8) :
    decodeFrom (escape byte ++ rest) 0 = none := by
  have hquiet := quiet_escape byte
  cases hescape : escape byte with
  | nil =>
    unfold escape at hescape
    split at hescape
    · cases hescape
    · split at hescape <;> cases hescape
  | cons first others =>
    obtain ⟨hstx, hetx⟩ := hquiet first (by rw [hescape]; exact List.mem_cons_self)
    simp [decodeFrom, hstx, hetx]

theorem decodeFrom_flatMap_escape (packet rest : List UInt8) :
    ∀ space, decodeFrom (packet.flatMap escape ++ etxChar :: rest) space =
      if packet.length ≤ space then some ⟨(packet.flatMap escape).length + 1, packet⟩
      else none := by
  induction packet with
  | nil =>
    intro space
    rw [List.length_nil, if_pos (Nat.zero_le _)]
    exact decodeFrom_etx rest space
  | cons byte packet ih =>
    intro space
    rw [List.flatMap_cons, List.append_assoc, List.length_cons]
    cases space with
    | zero =>
      rw [if_neg (Nat.not_succ_le_zero _)]
      exact decodeFrom_escape_zero byte _
    | succ space =>
      rw [decodeFrom_escape, ih space]
      by_cases h : packet.length ≤ space
      · rw [if_pos h, if_pos (Nat.succ_le_succ h), Option.map_some, Decoded.cons,
          List.length_append, Nat.add_comm (escape byte).length, Nat.add_right_comm]
      · rw [if_neg h, if_neg (fun hle => h (Nat.le_of_succ_le_succ hle)), Option.map_none]

/-- **The archived port does what the documentation says.** -/
theorem archived_documented : archived.Documented := by
  have hdecode : ∀ packet rest maxSize, archived.decode (archived.encode packet ++ rest) maxSize =
      if packet.length ≤ maxSize then some ⟨(archived.encode packet).length, packet⟩
      else none := by
    intro packet rest maxSize
    show (decodeFrom ((packet.flatMap escape ++ [etxChar]) ++ rest) maxSize).map _ = _
    rw [List.append_assoc, List.singleton_append, decodeFrom_flatMap_escape]
    by_cases h : packet.length ≤ maxSize
    · rw [if_pos h, if_pos h, Option.map_some]
      simp [archived, encodeDle]
    · rw [if_neg h, if_neg h, Option.map_none]
  constructor
  · intro packet
    exact ⟨packet.flatMap escape, rfl, quiet_flatMap_escape packet⟩
  · intro packet rest maxSize h
    rw [hdecode, if_pos h]
  · intro packet rest maxSize h
    rw [hdecode, if_neg (Nat.not_le.mpr h)]

end Tmtc
end Obsw
