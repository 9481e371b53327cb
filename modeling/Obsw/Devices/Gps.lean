import Obsw.Lib.Reads

/-!
# `Devices.Gps` — replies of the GPS receiver

`GPSHandler` scans what it receives for binary messages: a start sequence, the length of the payload, the
payload with its message ID in front, a checksum over it and an end sequence. The length is compared with
what was received, but the checksum is looked for where it would be in a message of the usual size for
the ID, and the end sequence is not looked at. `scan_right_iff` says for which messages this is right.
-/

namespace Obsw
namespace Gps

open Reads

/-! ## The format -/

def startOfSequence : Nat := 0xA0A1

def endOfSequence : Nat := 0x0D0A

def nmeaStartOfSequence : Nat := 0x2447

def minReplyLength : Nat := 7

def binaryHeaderSize : Nat := 4

def binaryHeaderAndTailSize : Nat := 7

def payloadStartIndex : Nat := 4

/-- `NAVIGATION_DATA_MESSAGE`. -/
def navigationDataMessage : UInt8 := 0xA8

def ack : UInt8 := 0x83

def nack : UInt8 := 0x84

def nmeaMessage : UInt8 := 200

/-- The sizes of the elements of `GpsNavigationMessage`, from `startOfSequence` to `endOfSequence`. -/
def navigationMessageElements : List Nat :=
  [2, 2, 1, 1, 1, 2, 4, 4, 4, 4, 4, 2, 2, 2, 2, 2, 4, 4, 4, 4, 4, 4, 1, 2]

/-- `navMessage.getSerializedSize()`. -/
def navigationMessageSize : Nat := navigationMessageElements.foldr (· + ·) 0

/-- Two bytes, the high one in front. -/
def word (high low : UInt8) : Nat := high.toNat * 256 + low.toNat

/-- `calcChecksum` of the bytes from `start` on. -/
def calcChecksum (start : Nat) : Nat → Reads UInt8
  | 0 => .done 0
  | payloadSize + 1 =>
    (calcChecksum start payloadSize).bind fun checksum =>
      .read (start + payloadSize) fun byte => .done (checksum ^^^ byte)

/-! ## `scanForReply` -/

inductive ScanResult where
  | ok
  | aperiodicReply
  | ignoreReplyData
  | ignoreFullPacket
  | invalidData
  deriving DecidableEq, Repr

/-- What a scan returns, what it writes to the places of its caller, and whether it sets
    `firstReplyReceived`. -/
structure Scan where
  result : ScanResult
  foundId : Option UInt8
  foundLen : Option Nat
  firstReplyReceived : Bool
  deriving DecidableEq, Repr

/-- The end of `checkBinaryReply`, with what has been written to `foundLen` before. -/
def checkChecksum (payloadSize size : Nat) (foundId : UInt8) (foundLen : Option Nat) : Reads Scan :=
  .read (size - 3) fun foundChecksum =>
    (calcChecksum binaryHeaderSize payloadSize).bind fun calculatedChecksum =>
      .done (if foundChecksum ≠ calculatedChecksum then ⟨.invalidData, some foundId, foundLen, false⟩
        else if foundId = navigationDataMessage then ⟨.aperiodicReply, some foundId, some size, false⟩
        else ⟨.ok, some foundId, some size, false⟩)

/-- The switch of `checkBinaryReply`. -/
def checkMessage (payloadSize : Nat) (messageId : UInt8) : Reads Scan :=
  if messageId = navigationDataMessage then
    checkChecksum payloadSize navigationMessageSize navigationDataMessage (some navigationMessageSize)
  else if messageId = nack ∨ messageId = ack then
    .read (payloadStartIndex + 1) fun foundId =>
      checkChecksum payloadSize (2 + binaryHeaderAndTailSize) foundId none
  else .done ⟨.ignoreFullPacket, none, some 1, false⟩

/-- `checkBinaryReply`. The length is cut to 16 bits for the comparison. -/
def checkBinaryReply (len : Nat) : Reads Scan :=
  .read 2 fun high => .read 3 fun low =>
    if word high low + binaryHeaderAndTailSize > len % 65536 then
      .done ⟨.ignoreReplyData, none, none, false⟩
    else .read payloadStartIndex fun messageId => checkMessage (word high low) messageId

/-- The NMEA branch of `scanForReply`: the type is copied and not used. -/
def checkNmeaReply (waitsFirstMessage : Bool) : Reads Scan :=
  .read 2 fun _ => .read 3 fun _ => .read 4 fun _ =>
    .done ⟨.ignoreFullPacket, some nmeaMessage, none, waitsFirstMessage⟩

/-- `scanForReply`. -/
def scanForReply (waitsFirstMessage : Bool) (len : Nat) : Reads Scan :=
  if len < minReplyLength then .done ⟨.ignoreReplyData, none, none, false⟩
  else
    .read 0 fun high => .read 1 fun low =>
      if word high low = startOfSequence then checkBinaryReply len
      else if word high low = nmeaStartOfSequence then checkNmeaReply waitsFirstMessage
      else .done ⟨.ignoreReplyData, none, none, false⟩

/-! ## What is promised -/

/-- The bytes of a payload. -/
def payloadBytes (buffer : Nat → UInt8) (payloadSize : Nat) : List UInt8 :=
  (List.range payloadSize).map fun i => buffer (binaryHeaderSize + i)

/-- The exclusive or of bytes. -/
def checksumOf (bytes : List UInt8) : UInt8 := bytes.foldl (fun checksum byte => checksum ^^^ byte) 0

/-- The length a message announces. -/
def announced (buffer : Nat → UInt8) : Nat := word (buffer 2) (buffer 3)

/-- Behind the announced payload come its checksum and the end sequence, and they have been received. -/
structure Closed (buffer : Nat → UInt8) (len : Nat) : Prop where
  received : announced buffer + binaryHeaderAndTailSize ≤ len
  checksum : buffer (binaryHeaderSize + announced buffer) =
    checksumOf (payloadBytes buffer (announced buffer))
  endOfSequence : word (buffer (binaryHeaderSize + announced buffer + 1))
    (buffer (binaryHeaderSize + announced buffer + 2)) = Gps.endOfSequence

/-- A scan reads inside what was received and finds no more, and a binary message is accepted only if it
    is closed. -/
structure ScanRight (scan : Reads Scan) (buffer : Nat → UInt8) (len : Nat) : Prop where
  inside : scan.Inside buffer len
  foundLen : ∀ n, (scan.run buffer).foundLen = some n → n ≤ len
  accepted : (scan.run buffer).result = .ok ∨ (scan.run buffer).result = .aperiodicReply →
    Closed buffer len

/-- The byte where the checksum of a message of this size is. -/
def ChecksumAt (buffer : Nat → UInt8) (size : Nat) : Prop :=
  buffer (size - 3) = checksumOf (payloadBytes buffer (announced buffer))

/-- A binary message that is not too long for what was received. -/
def Announces (buffer : Nat → UInt8) (len : Nat) : Prop :=
  word (buffer 0) (buffer 1) = startOfSequence ∧
    announced buffer + binaryHeaderAndTailSize ≤ len % 65536

/-- A navigation message was received in its full size; and if a message has the checksum where messages
    of its kind have it, it is closed, and an acknowledgement was received in its full size. -/
structure MessageGood (buffer : Nat → UInt8) (len : Nat) : Prop where
  navigation : buffer payloadStartIndex = navigationDataMessage →
    navigationMessageSize ≤ len ∧ (ChecksumAt buffer navigationMessageSize → Closed buffer len)
  acknowledgement : buffer payloadStartIndex = nack ∨ buffer payloadStartIndex = ack →
    ChecksumAt buffer (2 + binaryHeaderAndTailSize) →
      2 + binaryHeaderAndTailSize ≤ len ∧ Closed buffer len

/-! ## The checksum -/

section Checksum

variable {buffer : Nat → UInt8} {len : Nat}

theorem run_calcChecksum (start payloadSize : Nat) (buffer : Nat → UInt8) :
    (calcChecksum start payloadSize).run buffer =
      checksumOf ((List.range payloadSize).map fun i => buffer (start + i)) := by
  induction payloadSize with
  | zero => rfl
  | succ payloadSize ih =>
      rw [calcChecksum, run_bind, ih, run_read, run_done, List.range_succ, List.map_append]
      simp [checksumOf]

theorem inside_calcChecksum {start payloadSize : Nat} (h : start + payloadSize ≤ len) :
    (calcChecksum start payloadSize).Inside buffer len := by
  induction payloadSize with
  | zero => exact inside_done 0
  | succ payloadSize ih =>
      rw [calcChecksum, inside_bind]
      refine ⟨ih (by omega), ?_⟩
      rw [inside_read]
      exact ⟨by omega, inside_done _⟩

end Checksum

/-! ## Scans -/

section Scans

variable {buffer : Nat → UInt8} {len : Nat}

theorem scanRight_read {index : Nat} {next : UInt8 → Reads Scan} :
    ScanRight (.read index next) buffer len ↔
      index < len ∧ ScanRight (next (buffer index)) buffer len := by
  constructor
  · rintro ⟨hinside, hfound, haccepted⟩
    obtain ⟨hindex, hnext⟩ := inside_read.mp hinside
    exact ⟨hindex, hnext, hfound, haccepted⟩
  · rintro ⟨hindex, hinside, hfound, haccepted⟩
    exact ⟨inside_read.mpr ⟨hindex, hinside⟩, hfound, haccepted⟩

/-- A scan that reads nothing more and accepts nothing. -/
theorem scanRight_done {scan : Scan} (hfound : ∀ n, scan.foundLen = some n → n ≤ len)
    (hok : scan.result ≠ .ok) (haperiodic : scan.result ≠ .aperiodicReply) :
    ScanRight (.done scan) buffer len := by
  refine ⟨inside_done _, hfound, ?_⟩
  rintro (h | h)
  · exact absurd h hok
  · exact absurd h haperiodic

/-- **The end of a scan.** It finds what it has announced before, and the whole size where the checksum
    is right. -/
theorem scanRight_checkChecksum_iff {size : Nat} (foundId : UInt8) (foundLen : Option Nat)
    (hreceived : announced buffer + binaryHeaderAndTailSize ≤ len) (hfound : ∀ n ∈ foundLen, n = size)
    (hsize : size - 3 < len) :
    ScanRight (checkChecksum (announced buffer) size foundId foundLen) buffer len ↔
      (foundLen.isSome → size ≤ len) ∧ (ChecksumAt buffer size → size ≤ len ∧ Closed buffer len) := by
  have hchecksum : (calcChecksum binaryHeaderSize (announced buffer)).run buffer =
      checksumOf (payloadBytes buffer (announced buffer)) := run_calcChecksum _ _ buffer
  have hinside : (calcChecksum binaryHeaderSize (announced buffer)).Inside buffer len := by
    apply inside_calcChecksum
    rw [binaryHeaderAndTailSize] at hreceived
    rw [binaryHeaderSize]
    omega
  have hreads : (checkChecksum (announced buffer) size foundId foundLen).Inside buffer len := by
    rw [checkChecksum, inside_read, inside_bind]
    exact ⟨hsize, hinside, inside_done _⟩
  have hrun : (checkChecksum (announced buffer) size foundId foundLen).run buffer =
      if buffer (size - 3) ≠ checksumOf (payloadBytes buffer (announced buffer)) then
        ⟨.invalidData, some foundId, foundLen, false⟩
      else if foundId = navigationDataMessage then ⟨.aperiodicReply, some foundId, some size, false⟩
      else ⟨.ok, some foundId, some size, false⟩ := by
    rw [checkChecksum, run_read, run_bind, run_done, hchecksum]
  -- with the checksum in place the length is the size found now, else the one found before
  by_cases hat : ChecksumAt buffer size
  · have hresult : ((checkChecksum (announced buffer) size foundId foundLen).run buffer).foundLen =
          some size ∧
        (((checkChecksum (announced buffer) size foundId foundLen).run buffer).result = .ok ∨
          ((checkChecksum (announced buffer) size foundId foundLen).run buffer).result =
            .aperiodicReply) := by
      have hequal : buffer (size - 3) = checksumOf (payloadBytes buffer (announced buffer)) := hat
      rw [hrun, if_neg (not_not.mpr hequal)]
      split
      · exact ⟨rfl, Or.inr rfl⟩
      · exact ⟨rfl, Or.inl rfl⟩
    constructor
    · intro h
      have hle := h.foundLen size hresult.1
      exact ⟨fun _ => hle, fun _ => ⟨hle, h.accepted hresult.2⟩⟩
    · intro h
      obtain ⟨hle, hclosed⟩ := h.2 hat
      refine ⟨hreads, fun n hn => ?_, fun _ => hclosed⟩
      rw [hresult.1] at hn
      rwa [← Option.some.inj hn]
  · have hresult : (checkChecksum (announced buffer) size foundId foundLen).run buffer =
        ⟨.invalidData, some foundId, foundLen, false⟩ := by
      have hdiffers : buffer (size - 3) ≠ checksumOf (payloadBytes buffer (announced buffer)) := hat
      rw [hrun, if_pos hdiffers]
    constructor
    · intro h
      refine ⟨fun hsome => ?_, fun hat' => absurd hat' hat⟩
      obtain ⟨n, hn⟩ := Option.isSome_iff_exists.mp hsome
      have hle := h.foundLen n (by rw [hresult]; exact hn)
      rwa [hfound n hn] at hle
    · intro h
      refine ⟨hreads, fun n hn => ?_, ?_⟩
      · rw [hresult] at hn
        rw [hfound n hn]
        exact h.1 (Option.isSome_iff_exists.mpr ⟨n, hn⟩)
      · rw [hresult]
        rintro (h | h)
        · cases h
        · cases h

/-- A navigation message is found in its full size, whatever it announces. -/
theorem scanRight_navigation_iff (hreceived : announced buffer + binaryHeaderAndTailSize ≤ len) :
    ScanRight (checkChecksum (announced buffer) navigationMessageSize navigationDataMessage
      (some navigationMessageSize)) buffer len ↔
        navigationMessageSize ≤ len ∧ (ChecksumAt buffer navigationMessageSize → Closed buffer len) := by
  by_cases hsize : navigationMessageSize - 3 < len
  · have hfound : ∀ n ∈ some navigationMessageSize, n = navigationMessageSize :=
      fun n hn => (Option.some.inj hn).symm
    rw [scanRight_checkChecksum_iff _ _ hreceived hfound hsize]
    constructor
    · exact fun h => ⟨h.1 rfl, fun hat => (h.2 hat).2⟩
    · exact fun h => ⟨fun _ => h.1, fun hat => ⟨h.1, h.2 hat⟩⟩
  · refine iff_of_false (fun h => hsize ?_) fun h => hsize ?_
    · rw [checkChecksum] at h
      exact (scanRight_read.mp h).1
    · exact Nat.lt_of_lt_of_le (by decide) h.1

/-- An acknowledgement is found in its full size where its checksum is right. -/
theorem scanRight_acknowledgement_iff (foundId : UInt8)
    (hreceived : announced buffer + binaryHeaderAndTailSize ≤ len) :
    ScanRight (checkChecksum (announced buffer) (2 + binaryHeaderAndTailSize) foundId none) buffer len ↔
      (ChecksumAt buffer (2 + binaryHeaderAndTailSize) →
        2 + binaryHeaderAndTailSize ≤ len ∧ Closed buffer len) := by
  have hsize : 2 + binaryHeaderAndTailSize - 3 < len := by
    rw [binaryHeaderAndTailSize] at hreceived ⊢
    omega
  rw [scanRight_checkChecksum_iff foundId none hreceived (fun _ hn => nomatch hn) hsize]
  constructor
  · exact fun h => h.2
  · exact fun h => ⟨(nomatch ·), h⟩

/-- **One message.** -/
theorem scanRight_checkMessage_iff (hreceived : announced buffer + binaryHeaderAndTailSize ≤ len) :
    ScanRight (checkMessage (announced buffer) (buffer payloadStartIndex)) buffer len ↔
      MessageGood buffer len := by
  have hlen : payloadStartIndex + 1 < len := by
    rw [binaryHeaderAndTailSize] at hreceived
    rw [payloadStartIndex]
    omega
  unfold checkMessage
  by_cases hnavigation : buffer payloadStartIndex = navigationDataMessage
  · rw [if_pos hnavigation, scanRight_navigation_iff hreceived]
    constructor
    · intro h
      refine ⟨fun _ => h, fun hacknowledged => ?_⟩
      rw [hnavigation] at hacknowledged
      exact absurd hacknowledged (by decide)
    · exact fun h => h.navigation hnavigation
  · rw [if_neg hnavigation]
    by_cases hacknowledged : buffer payloadStartIndex = nack ∨ buffer payloadStartIndex = ack
    · rw [if_pos hacknowledged, scanRight_read, scanRight_acknowledgement_iff _ hreceived]
      constructor
      · exact fun h => ⟨fun hid => absurd hid hnavigation, fun _ => h.2⟩
      · exact fun h => ⟨hlen, h.acknowledgement hacknowledged⟩
    · rw [if_neg hacknowledged]
      refine iff_of_true (scanRight_done ?_ ?_ ?_) ?_
      · rintro n ⟨⟩
        exact Nat.le_of_lt (Nat.lt_of_le_of_lt (by decide) hlen)
      · exact fun h => nomatch h
      · exact fun h => nomatch h
      · exact ⟨fun hid => absurd hid hnavigation, fun hid => absurd hid hacknowledged⟩

/-- What is not announced to fit is ignored. -/
theorem scanRight_checkBinaryReply_iff (hlen : minReplyLength ≤ len) :
    ScanRight (checkBinaryReply len) buffer len ↔
      (announced buffer + binaryHeaderAndTailSize ≤ len % 65536 → MessageGood buffer len) := by
  rw [minReplyLength] at hlen
  rw [checkBinaryReply, scanRight_read, scanRight_read]
  show 2 < len ∧ 3 < len ∧ ScanRight (if announced buffer + binaryHeaderAndTailSize > len % 65536 then _
    else _) buffer len ↔ _
  by_cases hfits : announced buffer + binaryHeaderAndTailSize ≤ len % 65536
  · have hreceived := Nat.le_trans hfits (Nat.mod_le len 65536)
    rw [if_neg (Nat.not_lt.mpr hfits), scanRight_read]
    have hmessage := scanRight_checkMessage_iff hreceived
    rw [announced] at hmessage
    rw [hmessage]
    constructor
    · exact fun h _ => h.2.2.2
    · exact fun h => ⟨by omega, by omega, by rw [payloadStartIndex]; omega, h hfits⟩
  · rw [if_pos (Nat.lt_of_not_le hfits)]
    refine iff_of_true ⟨by omega, by omega, ?_⟩ fun h => absurd h hfits
    exact scanRight_done (fun _ h => nomatch h) (fun h => nomatch h) fun h => nomatch h

theorem scanRight_checkNmeaReply (waitsFirstMessage : Bool) (hlen : minReplyLength ≤ len) :
    ScanRight (checkNmeaReply waitsFirstMessage) buffer len := by
  rw [minReplyLength] at hlen
  rw [checkNmeaReply, scanRight_read, scanRight_read, scanRight_read]
  refine ⟨by omega, by omega, by omega, ?_⟩
  exact scanRight_done (fun _ h => nomatch h) (fun h => nomatch h) fun h => nomatch h

/-- **Replies of the GPS receiver.** Whatever was received, the scan is right exactly if a message that is
    not too long is good. -/
theorem scan_right_iff (waitsFirstMessage : Bool) (buffer : Nat → UInt8) (len : Nat) :
    ScanRight (scanForReply waitsFirstMessage len) buffer len ↔
      (Announces buffer len → MessageGood buffer len) := by
  unfold scanForReply
  by_cases hshort : len < minReplyLength
  · rw [if_pos hshort]
    refine iff_of_true (scanRight_done (fun _ h => nomatch h) (fun h => nomatch h) fun h => nomatch h) ?_
    rintro ⟨-, hfits⟩
    have hreceived := Nat.le_trans hfits (Nat.mod_le len 65536)
    rw [minReplyLength] at hshort
    rw [binaryHeaderAndTailSize] at hreceived
    omega
  · have hlen : minReplyLength ≤ len := Nat.not_lt.mp hshort
    rw [if_neg hshort, scanRight_read, scanRight_read]
    rw [minReplyLength] at hshort
    have hreads : 0 < len ∧ 1 < len := by omega
    by_cases hstart : word (buffer 0) (buffer 1) = startOfSequence
    · rw [if_pos hstart, scanRight_checkBinaryReply_iff hlen]
      constructor
      · exact fun h hannounces => h.2.2 hannounces.2
      · exact fun h => ⟨hreads.1, hreads.2, fun hfits => h ⟨hstart, hfits⟩⟩
    · rw [if_neg hstart]
      refine iff_of_true ⟨hreads.1, hreads.2, ?_⟩ fun h => absurd h.1 hstart
      split
      · exact scanRight_checkNmeaReply waitsFirstMessage hlen
      · exact scanRight_done (fun _ h => nomatch h) (fun h => nomatch h) fun h => nomatch h

end Scans

/-- The header of a navigation message without a payload, with zeros where its tail would be. -/
def emptyNavigation (index : Nat) : UInt8 := [0xA0, 0xA1, 0, 0, 0xA8].getD index 0

/-- An acknowledgement whose tail is cut off and followed by zeros. -/
def cutAcknowledgement (index : Nat) : UInt8 := [0xA0, 0xA1, 0, 2, 0x83, 0x09, 0x8A].getD index 0

/-- **A navigation message that is cut off is read beyond its end, and an acknowledgement is accepted
    without an end sequence.** -/
theorem short_and_open_messages :
    ¬ (scanForReply false 7).Inside emptyNavigation 7 ∧
      ((scanForReply false 7).run emptyNavigation).foundLen = some 66 ∧
      ((scanForReply false 9).run cutAcknowledgement).result = .ok ∧ ¬ Closed cutAcknowledgement 9 := by
  refine ⟨fun h => ?_, by decide, by decide, fun h => ?_⟩
  · exact absurd (h 63 (by decide)) (by decide)
  · exact absurd h.endOfSequence (by decide)

end Gps
end Obsw
