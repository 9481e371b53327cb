import Obsw.Sdc.Read

/-!
# `Sdc.Packets` — the strings of a file command

`deSerializeRepositoryAndFilename` and `deSerializeRepositories` with the pointer and the size they keep.
The strings are looked for in the memory, of which the packet is the first part: a terminator behind the
packet is found as well, and a terminator right behind it makes the size wrap around. A string that is
too long is cut off at the capacity of its output, and the rest of it is taken for the next one.
-/

namespace Obsw
namespace Sdc
namespace Packets

open Download

/-! ## The parsers -/

/-- What the parsers return. -/
inductive Result where
  | returnOk
  | returnFailed
  | streamTooShort
  deriving DecidableEq, Repr

/-- How far `*buffer` has been moved, what is in `*size`, and the end of the bytes that have been read,
    counted from where `*buffer` was. -/
structure Cursor where
  offset : Nat
  size : UInt32
  seen : Nat
  deriving DecidableEq, Repr

/-- `strlen` of the string at the pointer reads its terminator as well. -/
def Cursor.look (c : Cursor) (length : Nat) : Cursor :=
  { c with seen := max c.seen (c.offset + length + 1) }

/-- Go on behind a string of an output. -/
def Cursor.skip (c : Cursor) (string : List UInt8) : Cursor :=
  { c with
    offset := c.offset + (string.length + 1)
    size := c.size - UInt32.ofNat (string.length + 1) }

/-- `assign` of `etl::string`, which takes no more characters than it has room for. -/
def assign (capacity : Nat) (text : List UInt8) : List UInt8 := text.take capacity

/-- `append` of `etl::string`. -/
def append (capacity : Nat) (string text : List UInt8) : List UInt8 := (string ++ text).take capacity

/-- What a parser returns, where it stands, and its output strings. -/
structure Parsed where
  result : Result
  cursor : Cursor
  first : List UInt8
  second : List UInt8
  deriving DecidableEq, Repr

/-- Two strings of a packet, for the memory from `*buffer` on: what the outputs hold behind a string, how
    long the second one may be, and what is returned if it is longer. `none`: there is no terminator in
    the memory. -/
def deSerializeStrings (takeFirst : List UInt8 → List UInt8) (allowed : List UInt8 → Nat)
    (tooLong : Result) (takeSecond : List UInt8 → List UInt8) (buffer : Option (List UInt8))
    (size : UInt32) (first second : List UInt8) : Option Parsed :=
  match buffer with
  | none => some ⟨.returnFailed, ⟨0, size, 0⟩, first, second⟩
  | some memory =>
    match strlen memory with
    | none => none
    | some firstLength =>
      let cursor := (⟨0, size, 0⟩ : Cursor).look firstLength
      -- a first string that is too long is only warned about
      if size.toNat < firstLength then some ⟨.streamTooShort, cursor, first, second⟩
      else
        let first := takeFirst (memory.take firstLength)
        let cursor := cursor.skip first
        match strlen (memory.drop cursor.offset) with
        | none => none
        | some secondLength =>
          let cursor := cursor.look secondLength
          if allowed first < secondLength then some ⟨tooLong, cursor, first, second⟩
          else if cursor.size.toNat < secondLength then
            some ⟨.streamTooShort, cursor, first, second⟩
          else
            let second := takeSecond ((memory.drop cursor.offset).take secondLength)
            some ⟨.returnOk, cursor.skip second, first, second⟩

/-- `deSerializeRepositoryAndFilename`. A name that is too long is no error. -/
def deSerializeRepositoryAndFilename (buffer : Option (List UInt8)) (size : UInt32)
    (repositoryPath filename : List UInt8) : Option Parsed :=
  deSerializeStrings (assign maxRepositoryPathLength) (fun _ => maxFilenameLength) .returnOk
    (assign maxFilenameLength) buffer size repositoryPath filename

/-- `deSerializeRepositories`. The strings are appended to what the outputs hold, and the pointer is moved
    by all of it. -/
def deSerializeRepositories (buffer : Option (List UInt8)) (size : UInt32)
    (repositoryPath dirname : List UInt8) : Option Parsed :=
  deSerializeStrings (append maxRepositoryPathLength repositoryPath)
    (fun repositoryPath => maxRepositoryPathLength - repositoryPath.length) .returnFailed
    (append maxRepositoryPathLength dirname) buffer size repositoryPath dirname

/-! ## What a parser is meant to do -/

/-- A packet starts with two strings, each with its terminator and within its maximum length. -/
structure TwoStrings (maxFirst maxSecond : Nat) (packet first second rest : List UInt8) : Prop where
  packet_eq : packet = first ++ 0 :: (second ++ 0 :: rest)
  first_terminator : 0 ∉ first
  second_terminator : 0 ∉ second
  first_length : first.length ≤ maxFirst
  second_length : second.length ≤ maxSecond

/-- A parser stays inside the packet, keeps its size, and returns OK only behind two strings. -/
structure Sound (maxFirst maxSecond : Nat) (buffer : Option (List UInt8)) (size : UInt32)
    (p : Parsed) : Prop where
  seen : p.cursor.seen ≤ size.toNat
  consumed : p.cursor.offset ≤ size.toNat
  size_left : p.cursor.size.toNat = size.toNat - p.cursor.offset
  ok : p.result = .returnOk → ∃ memory ∈ buffer, ∃ first second rest,
    TwoStrings maxFirst maxSecond (memory.take size.toNat) first second rest ∧
      p.cursor.offset = first.length + 1 + (second.length + 1)

/-- The condition on a packet with a path and a name: there are two strings in it. -/
def HoldsTwoStrings (maxFirst maxSecond : Nat) (packet : List UInt8) : Prop :=
  ∃ first second rest, TwoStrings maxFirst maxSecond packet first second rest

/-- The condition on a packet with two paths, for outputs that hold `path` and `dirname`. The first string
    ends in it and is either so long that the rest of it is refused as the second one, or within its
    maximum length. Behind it as many bytes are passed over as the path had characters before, which the
    second string follows. It ends in the packet, and is either refused because there is no room for it
    in the path, or no terminator has been passed over and the pointer is moved by its length. -/
def HoldsRepositories (path dirname packet : List UInt8) : Prop :=
  ∃ first rest, packet = first ++ 0 :: rest ∧ 0 ∉ first ∧
    (maxRepositoryPathLength + 1 < first.length ∨
      first.length ≤ maxRepositoryPathLength ∧
        ∃ passed second rest', rest = passed ++ (second ++ 0 :: rest') ∧ 0 ∉ second ∧
          passed.length = min path.length (maxRepositoryPathLength - first.length) ∧
          (maxRepositoryPathLength - first.length - passed.length < second.length ∨
            0 ∉ passed ∧ (dirname = [] ∨ second.length = maxRepositoryPathLength)))

/-! ## Strings in the memory -/

section Strings

variable {memory packet first first' second second' rest rest' : List UInt8} {n size : Nat}

/-- The first terminator is the end of the first string. -/
theorem string_unique (hfirst : 0 ∉ first) (hfirst' : 0 ∉ first')
    (h : first ++ 0 :: rest = first' ++ 0 :: rest') : first = first' ∧ rest = rest' := by
  have hlength : first.length = first'.length := by
    have hstrlen := strlen_string hfirst rest
    rw [h, strlen_string hfirst' rest'] at hstrlen
    exact (Option.some.inj hstrlen).symm
  obtain ⟨hfront, hback⟩ := List.append_inj h hlength
  exact ⟨hfront, (List.cons.inj hback).2⟩

theorem exists_of_strlen (h : strlen memory = some n) :
    ∃ string rest, memory = string ++ 0 :: rest ∧ 0 ∉ string ∧ string.length = n := by
  unfold strlen at h
  split_ifs at h with hmem
  obtain ⟨string, rest, hmemory, hzero⟩ := List.eq_append_cons_of_mem hmem
  refine ⟨string, rest, hmemory, hzero, ?_⟩
  have hstrlen := strlen_string hzero rest
  rw [← hmemory, strlen, if_pos hmem] at hstrlen
  exact (Option.some.inj hstrlen).symm.trans (Option.some.inj h)

/-- A string that ends in the front of the memory. -/
theorem strlen_of_take (h : memory.take size = first ++ 0 :: rest) (hfirst : 0 ∉ first) :
    strlen memory = some first.length := by
  have hmemory : memory = first ++ 0 :: (rest ++ memory.drop size) := by
    rw [← List.cons_append, ← List.append_assoc, ← h, List.take_append_drop]
  rw [hmemory]
  exact strlen_string hfirst _

/-- The end of a string that does not end in the front of the memory is behind it. -/
theorem le_of_strlen (h : strlen memory = some n) (hzero : 0 ∉ memory.take size) : size ≤ n := by
  obtain ⟨string, rest, rfl, hstring, rfl⟩ := exists_of_strlen h
  by_contra hlt
  apply hzero
  rw [List.take_append, List.mem_append]
  obtain ⟨k, hk⟩ : ∃ k, size - string.length = k + 1 := ⟨size - string.length - 1, by omega⟩
  rw [hk, List.take_succ_cons]
  exact .inr List.mem_cons_self

theorem length_lt_of_take (h : memory.take size = first ++ 0 :: rest) : first.length < size := by
  have hlength := List.length_take_le size memory
  rw [h, List.length_append, List.length_cons] at hlength
  omega

end Strings

/-! ## The pointer and the size -/

/-- The pointer is inside the packet, and the size is what is left of it. -/
def Cursor.Keeps (c : Cursor) (size : UInt32) : Prop :=
  c.offset ≤ size.toNat ∧ c.size.toNat = size.toNat - c.offset

theorem Cursor.keeps_start (size : UInt32) (seen : Nat) : (⟨0, size, seen⟩ : Cursor).Keeps size :=
  ⟨Nat.zero_le _, rfl⟩

theorem Cursor.Keeps.skip {c : Cursor} {size : UInt32} (h : c.Keeps size) (string : List UInt8)
    (hroom : c.offset + (string.length + 1) ≤ size.toNat) : (c.skip string).Keeps size := by
  obtain ⟨_, hsize⟩ := h
  have hlt := size.toNat_lt
  have hlength : (UInt32.ofNat (string.length + 1)).toNat = string.length + 1 := by
    rw [UInt32.toNat_ofNat']
    exact Nat.mod_eq_of_lt (by omega)
  refine ⟨hroom, ?_⟩
  show (c.size - UInt32.ofNat (string.length + 1)).toNat = size.toNat - (c.offset + (string.length + 1))
  rw [UInt32.toNat_sub_of_le _ _ (UInt32.le_iff_toNat_le.mpr (by omega)), hlength, hsize]
  omega

/-! ## The first string -/

section Parsing

variable {takeFirst : List UInt8 → List UInt8} {allowed : List UInt8 → Nat} {tooLong : Result}
  {takeSecond : List UInt8 → List UInt8} {memory first rest path name : List UInt8} {size : UInt32}
  {p : Parsed} {n : Nat}

/-- A first string that has been looked for has been read with its terminator. -/
theorem deSerializeStrings_seen (hlength : strlen memory = some n)
    (hparsed : deSerializeStrings takeFirst allowed tooLong takeSecond (some memory) size path name =
      some p) : n + 1 ≤ p.cursor.seen := by
  unfold deSerializeStrings at hparsed
  simp only [hlength] at hparsed
  split at hparsed
  · obtain rfl := Option.some.inj hparsed
    simp [Cursor.look]
  · split at hparsed
    · cases hparsed
    · split_ifs at hparsed
      all_goals
        obtain rfl := Option.some.inj hparsed
        simp [Cursor.look, Cursor.skip]

/-- A first string that does not end in the packet is looked for behind it. -/
theorem deSerializeStrings_unterminated (hzero : 0 ∉ memory.take size.toNat)
    (hparsed : deSerializeStrings takeFirst allowed tooLong takeSecond (some memory) size path name =
      some p) : size.toNat < p.cursor.seen := by
  cases hlength : strlen memory with
  | none =>
      unfold deSerializeStrings at hparsed
      simp only [hlength] at hparsed
      cases hparsed
  | some n =>
      have hseen := deSerializeStrings_seen hlength hparsed
      have hle := le_of_strlen hlength hzero
      omega

/-! ## The second string -/

/-- The cursor behind the search for the second string, when `output` holds the first one. -/
def secondCursor (size : UInt32) (first output : List UInt8) (m : Nat) : Cursor :=
  (((⟨0, size, 0⟩ : Cursor).look first.length).skip output).look m

theorem secondCursor_seen (size : UInt32) (first output : List UInt8) (m : Nat) :
    (secondCursor size first output m).seen =
      max (first.length + 1) (output.length + 1 + m + 1) := by
  simp [secondCursor, Cursor.look, Cursor.skip]

theorem secondCursor_offset (size : UInt32) (first output : List UInt8) (m : Nat) :
    (secondCursor size first output m).offset = output.length + 1 := by
  simp [secondCursor, Cursor.look, Cursor.skip]

theorem secondCursor_keeps (first : List UInt8) {output : List UInt8} (m : Nat)
    (hroom : output.length + 1 ≤ size.toNat) : (secondCursor size first output m).Keeps size := by
  have hkeeps := (Cursor.keeps_start size (max 0 (0 + first.length + 1))).skip output
    (by simpa using hroom)
  exact hkeeps

/-- What the parser does behind a first string that ends in the packet. -/
theorem deSerializeStrings_eq (hpacket : memory.take size.toNat = first ++ 0 :: rest)
    (hfirst : 0 ∉ first) :
    deSerializeStrings takeFirst allowed tooLong takeSecond (some memory) size path name =
      (strlen (memory.drop ((takeFirst first).length + 1))).map fun m =>
        let cursor := secondCursor size first (takeFirst first) m
        if allowed (takeFirst first) < m then ⟨tooLong, cursor, takeFirst first, name⟩
        else if cursor.size.toNat < m then ⟨.streamTooShort, cursor, takeFirst first, name⟩
        else
          let second := takeSecond ((memory.drop ((takeFirst first).length + 1)).take m)
          ⟨.returnOk, cursor.skip second, takeFirst first, second⟩ := by
  have hlt := length_lt_of_take hpacket
  have htake : memory.take first.length = first := by
    have h := congrArg (List.take first.length) hpacket
    rwa [List.take_take, Nat.min_eq_left (Nat.le_of_lt hlt), List.take_left] at h
  have hoffset : (((⟨0, size, 0⟩ : Cursor).look first.length).skip (takeFirst first)).offset =
      (takeFirst first).length + 1 := by
    simp [Cursor.look, Cursor.skip]
  unfold deSerializeStrings
  simp only [strlen_of_take hpacket hfirst, Nat.not_lt.mpr (Nat.le_of_lt hlt), if_false, htake, hoffset]
  cases hsecond : strlen (memory.drop ((takeFirst first).length + 1)) with
  | none => rfl
  | some m =>
      simp only [Option.map_some]
      rw [apply_ite some, apply_ite some]
      simp only [← secondCursor_offset size first (takeFirst first) m]
      rfl

/-- A second string that does not end in the packet is looked for behind it. -/
theorem deSerializeStrings_second_unterminated
    (hpacket : memory.take size.toNat = first ++ 0 :: rest) (hfirst : 0 ∉ first)
    (hzero : 0 ∉ (memory.take size.toNat).drop ((takeFirst first).length + 1))
    (hparsed : deSerializeStrings takeFirst allowed tooLong takeSecond (some memory) size path name =
      some p) : size.toNat < p.cursor.seen := by
  rw [deSerializeStrings_eq hpacket hfirst] at hparsed
  obtain ⟨m, hlength, rfl⟩ := Option.map_eq_some_iff.mp hparsed
  rw [List.drop_take] at hzero
  have hle := le_of_strlen hlength hzero
  have hseen := secondCursor_seen size first (takeFirst first) m
  dsimp only
  split_ifs
  · show size.toNat < (secondCursor size first (takeFirst first) m).seen
    omega
  · show size.toNat < (secondCursor size first (takeFirst first) m).seen
    omega
  · show size.toNat < (secondCursor size first (takeFirst first) m).seen
    omega

/-- What the parser does with a second string that ends in the packet. -/
theorem deSerializeStrings_inside {second rest' : List UInt8}
    (hpacket : memory.take size.toNat = first ++ 0 :: rest) (hfirst : 0 ∉ first)
    (hrest : (memory.take size.toNat).drop ((takeFirst first).length + 1) = second ++ 0 :: rest')
    (hsecond : 0 ∉ second) :
    deSerializeStrings takeFirst allowed tooLong takeSecond (some memory) size path name =
      some (if allowed (takeFirst first) < second.length then
        ⟨tooLong, secondCursor size first (takeFirst first) second.length, takeFirst first, name⟩
      else
        ⟨.returnOk,
          (secondCursor size first (takeFirst first) second.length).skip (takeSecond second),
          takeFirst first, takeSecond second⟩) := by
  rw [List.drop_take] at hrest
  have hinside := length_lt_of_take hrest
  have hsize : ¬ (secondCursor size first (takeFirst first) second.length).size.toNat <
      second.length := by
    rw [(secondCursor_keeps _ _ (by omega)).2, secondCursor_offset]
    omega
  have htake : (memory.drop ((takeFirst first).length + 1)).take second.length = second := by
    have h := congrArg (List.take second.length) hrest
    rwa [List.take_take, Nat.min_eq_left (Nat.le_of_lt hinside), List.take_left] at h
  rw [deSerializeStrings_eq hpacket hfirst, strlen_of_take hrest hsecond, Option.map_some]
  simp only [if_neg hsize, htake]

end Parsing

/-! ## When a result is right -/

section Results

variable {maxFirst maxSecond : Nat} {memory first rest second rest' output path name : List UInt8}
  {size : UInt32} {result : Result}

/-- The two strings of a packet whose first string is known. -/
theorem TwoStrings.of_packet {first' second' rest'' : List UInt8}
    (hpacket : memory.take size.toNat = first ++ 0 :: rest) (hfirst : 0 ∉ first)
    (h : TwoStrings maxFirst maxSecond (memory.take size.toNat) first' second' rest'') :
    first' = first ∧ rest = second' ++ 0 :: rest'' := by
  obtain ⟨rfl, rfl⟩ := string_unique hfirst h.first_terminator (hpacket.symm.trans h.packet_eq)
  exact ⟨rfl, rfl⟩

/-- The search for two strings that end in the packet stays inside it. -/
theorem secondCursor_seen_le (hpacket : memory.take size.toNat = first ++ 0 :: rest)
    (hrest : (memory.take size.toNat).drop (output.length + 1) = second ++ 0 :: rest') :
    (secondCursor size first output second.length).seen ≤ size.toNat ∧
      output.length + 1 + second.length < size.toNat := by
  have hlt := length_lt_of_take hpacket
  rw [List.drop_take] at hrest
  have hinside := length_lt_of_take hrest
  rw [secondCursor_seen]
  omega

/-- A result other than OK is right behind the first string. -/
theorem sound_of_refused (hpacket : memory.take size.toNat = first ++ 0 :: rest)
    (hrest : (memory.take size.toNat).drop (output.length + 1) = second ++ 0 :: rest')
    (hresult : result ≠ .returnOk) :
    Sound maxFirst maxSecond (some memory) size
      ⟨result, secondCursor size first output second.length, path, name⟩ := by
  obtain ⟨hseen, hinside⟩ := secondCursor_seen_le hpacket hrest
  obtain ⟨hoffset, hsize⟩ := secondCursor_keeps first second.length
    (show output.length + 1 ≤ size.toNat by omega)
  exact ⟨hseen, hoffset, hsize, fun h => absurd h hresult⟩

/-- OK is not right behind a string that is no longer than the first one of the packet. -/
theorem not_sound_of_ok (hpacket : memory.take size.toNat = first ++ 0 :: rest) (hfirst : 0 ∉ first)
    (hlength : output.length ≤ first.length) :
    ¬ Sound maxFirst maxSecond (some memory) size
      ⟨.returnOk, secondCursor size first output second.length, path, name⟩ := by
  intro h
  obtain ⟨_, hmem, first', second', rest'', htwo, hoffset⟩ := h.ok rfl
  obtain rfl := Option.mem_some.mp hmem
  obtain ⟨rfl, _⟩ := htwo.of_packet hpacket hfirst
  rw [secondCursor_offset] at hoffset
  omega

/-- OK is right behind the second string of the packet. -/
theorem sound_ok_iff {output' : List UInt8} (hpacket : memory.take size.toNat = first ++ 0 :: rest)
    (hfirst : 0 ∉ first)
    (hrest : (memory.take size.toNat).drop (output.length + 1) = second ++ 0 :: rest') :
    Sound maxFirst maxSecond (some memory) size
        ⟨.returnOk, (secondCursor size first output second.length).skip output', path, name⟩ ↔
      ∃ second' rest'', TwoStrings maxFirst maxSecond (memory.take size.toNat) first second' rest'' ∧
        output.length + (output'.length + 1) = first.length + (second'.length + 1) := by
  have hskip : ((secondCursor size first output second.length).skip output').offset =
      output.length + 1 + (output'.length + 1) := by
    show (secondCursor size first output second.length).offset + (output'.length + 1) = _
    rw [secondCursor_offset]
  constructor
  · intro h
    obtain ⟨_, hmem, first', second', rest'', htwo, hoffset⟩ := h.ok rfl
    obtain rfl := Option.mem_some.mp hmem
    obtain ⟨rfl, _⟩ := htwo.of_packet hpacket hfirst
    rw [hskip] at hoffset
    exact ⟨second', rest'', htwo, by omega⟩
  · rintro ⟨second', rest'', htwo, hlength⟩
    obtain ⟨hseen, hinside⟩ := secondCursor_seen_le hpacket hrest
    have hpacketLength := congrArg List.length htwo.packet_eq
    have htake := List.length_take_le size.toNat memory
    simp only [List.length_append, List.length_cons] at hpacketLength
    obtain ⟨hoffset, hsize⟩ := (secondCursor_keeps first second.length
      (show output.length + 1 ≤ size.toNat by omega)).skip output'
      (by rw [secondCursor_offset]; omega)
    refine ⟨hseen, hoffset, hsize, fun _ => ⟨memory, rfl, first, second', rest'', htwo, ?_⟩⟩
    rw [hskip]
    omega

end Results

/-! ## The two parsers -/

/-- A null pointer is refused. -/
theorem deSerializeStrings_null (takeFirst : List UInt8 → List UInt8) (allowed : List UInt8 → Nat)
    (tooLong : Result) (takeSecond : List UInt8 → List UInt8) (maxFirst maxSecond : Nat)
    (size : UInt32) (path name : List UInt8) :
    ∃ p, deSerializeStrings takeFirst allowed tooLong takeSecond none size path name = some p ∧
      Sound maxFirst maxSecond none size p :=
  ⟨_, rfl, Nat.zero_le _, Nat.zero_le _, rfl, fun h => by cases h⟩

section Parsers

variable {memory first rest : List UInt8} {size : UInt32}

theorem drop_packet (hpacket : memory.take size.toNat = first ++ 0 :: rest) :
    (memory.take size.toNat).drop (first.length + 1) = rest := by
  rw [hpacket, ← List.drop_drop, List.drop_left]
  rfl

theorem exists_sound_some {maxFirst maxSecond : Nat} {buffer : Option (List UInt8)} {p : Parsed} :
    (∃ p', some p = some p' ∧ Sound maxFirst maxSecond buffer size p') ↔
      Sound maxFirst maxSecond buffer size p := by
  constructor
  · rintro ⟨p', hp, hsound⟩
    obtain rfl := Option.some.inj hp
    exact hsound
  · exact fun h => ⟨p, rfl, h⟩

/-- A parser that looks behind the packet is not right. -/
theorem not_sound_of_seen {maxFirst maxSecond : Nat} {buffer : Option (List UInt8)}
    {parsed : Option Parsed} (h : ∀ p, parsed = some p → size.toNat < p.cursor.seen) :
    ¬ ∃ p, parsed = some p ∧ Sound maxFirst maxSecond buffer size p := by
  rintro ⟨p, hparsed, hsound⟩
  exact Nat.not_le.mpr (h p hparsed) hsound.seen

/-- The parser of a path and a name is right exactly if the packet starts with the two. -/
theorem repositoryAndFilename_sound_iff (path name : List UInt8) :
    (∃ p, deSerializeRepositoryAndFilename (some memory) size path name = some p ∧
        Sound maxRepositoryPathLength maxFilenameLength (some memory) size p) ↔
      HoldsTwoStrings maxRepositoryPathLength maxFilenameLength (memory.take size.toNat) := by
  by_cases hzero : 0 ∈ memory.take size.toNat
  swap
  · refine iff_of_false ?_ ?_
    · apply not_sound_of_seen
      intro p hparsed
      exact deSerializeStrings_unterminated hzero hparsed
    · rintro ⟨first, second, rest, htwo⟩
      rw [htwo.packet_eq] at hzero
      simp at hzero
  obtain ⟨first, rest, hpacket, hfirst⟩ := List.eq_append_cons_of_mem hzero
  have hassign : first.length ≤ maxRepositoryPathLength → assign maxRepositoryPathLength first = first :=
    List.take_of_length_le
  -- if there are two strings, the name is looked for where the second one is
  have hbehind : ∀ {first' second' rest''}, TwoStrings maxRepositoryPathLength maxFilenameLength
      (memory.take size.toNat) first' second' rest'' → first' = first ∧
        (memory.take size.toNat).drop ((assign maxRepositoryPathLength first).length + 1) =
          second' ++ 0 :: rest'' := by
    intro first' second' rest'' htwo
    obtain ⟨rfl, rfl⟩ := htwo.of_packet hpacket hfirst
    rw [hassign htwo.first_length]
    exact ⟨rfl, drop_packet hpacket⟩
  by_cases hname : 0 ∈ (memory.take size.toNat).drop ((assign maxRepositoryPathLength first).length + 1)
  swap
  · refine iff_of_false ?_ ?_
    · apply not_sound_of_seen
      intro p hparsed
      exact deSerializeStrings_second_unterminated hpacket hfirst hname hparsed
    · rintro ⟨_, second, rest', htwo⟩
      rw [(hbehind htwo).2] at hname
      simp at hname
  obtain ⟨second, rest', hrest, hsecond⟩ := List.eq_append_cons_of_mem hname
  rw [deSerializeRepositoryAndFilename, deSerializeStrings_inside hpacket hfirst hrest hsecond,
    exists_sound_some]
  by_cases hlong : maxFilenameLength < second.length
  · -- the name is passed over, and the parser returns OK
    rw [if_pos hlong]
    apply iff_of_false (not_sound_of_ok hpacket hfirst (List.length_take_le' _ _))
    rintro ⟨_, second', rest'', htwo⟩
    obtain ⟨rfl, _⟩ := string_unique hsecond htwo.second_terminator (hrest.symm.trans (hbehind htwo).2)
    exact Nat.not_le.mpr hlong htwo.second_length
  · rw [if_neg hlong, sound_ok_iff hpacket hfirst hrest]
    constructor
    · rintro ⟨second', rest'', htwo, _⟩
      exact ⟨first, second', rest'', htwo⟩
    · rintro ⟨first', second', rest'', htwo⟩
      obtain ⟨rfl, hdrop⟩ := hbehind htwo
      obtain ⟨rfl, _⟩ := string_unique hsecond htwo.second_terminator (hrest.symm.trans hdrop)
      refine ⟨second, rest'', htwo, ?_⟩
      rw [hassign htwo.first_length, assign, List.take_of_length_le htwo.second_length]

/-- The number of characters the path had before, as far as they are passed over. -/
theorem length_append (path first : List UInt8) :
    (append maxRepositoryPathLength path first).length =
      min maxRepositoryPathLength (path.length + first.length) := by
  rw [append, List.length_take, List.length_append]

/-- A first string that is too long: the rest of it is taken for the second one, for which there is no
    room. -/
theorem repositories_long_first (path dirname : List UInt8)
    (hpacket : memory.take size.toNat = first ++ 0 :: rest) (hfirst : 0 ∉ first)
    (hlong : maxRepositoryPathLength < first.length) :
    (∃ p, deSerializeRepositories (some memory) size path dirname = some p ∧
        Sound maxRepositoryPathLength maxRepositoryPathLength (some memory) size p) ↔
      maxRepositoryPathLength + 1 < first.length := by
  have houtput : (append maxRepositoryPathLength path first).length = maxRepositoryPathLength := by
    rw [length_append]
    omega
  have hrest : (memory.take size.toNat).drop
      ((append maxRepositoryPathLength path first).length + 1) =
        first.drop (maxRepositoryPathLength + 1) ++ 0 :: rest := by
    rw [houtput, hpacket, List.drop_append_of_le_length hlong]
  have hsecond : 0 ∉ first.drop (maxRepositoryPathLength + 1) := fun h => hfirst (List.mem_of_mem_drop h)
  rw [deSerializeRepositories, deSerializeStrings_inside hpacket hfirst hrest hsecond, exists_sound_some,
    houtput, Nat.sub_self, List.length_drop]
  by_cases hmore : maxRepositoryPathLength + 1 < first.length
  · rw [if_pos (Nat.sub_pos_of_lt hmore)]
    refine iff_of_true ?_ hmore
    rw [← List.length_drop]
    exact sound_of_refused hpacket hrest (fun h => by cases h)
  · rw [if_neg (by omega), ← List.length_drop, sound_ok_iff hpacket hfirst hrest]
    refine iff_of_false ?_ hmore
    rintro ⟨_, _, htwo, _⟩
    exact Nat.not_le.mpr hlong htwo.first_length

/-- Where the second string is looked for behind a first one within its maximum length. -/
theorem drop_append_path (path : List UInt8) (hpacket : memory.take size.toNat = first ++ 0 :: rest)
    (hshort : first.length ≤ maxRepositoryPathLength) :
    (memory.take size.toNat).drop ((append maxRepositoryPathLength path first).length + 1) =
      rest.drop (min path.length (maxRepositoryPathLength - first.length)) := by
  rw [length_append, show min maxRepositoryPathLength (path.length + first.length) + 1 =
    first.length + 1 + min path.length (maxRepositoryPathLength - first.length) by omega,
    ← List.drop_drop, drop_packet hpacket]

theorem holdsRepositories_iff {path dirname : List UInt8}
    (hpacket : memory.take size.toNat = first ++ 0 :: rest) (hfirst : 0 ∉ first) :
    HoldsRepositories path dirname (memory.take size.toNat) ↔
      (maxRepositoryPathLength + 1 < first.length ∨
        first.length ≤ maxRepositoryPathLength ∧
          ∃ passed second rest', rest = passed ++ (second ++ 0 :: rest') ∧ 0 ∉ second ∧
            passed.length = min path.length (maxRepositoryPathLength - first.length) ∧
            (maxRepositoryPathLength - first.length - passed.length < second.length ∨
              0 ∉ passed ∧ (dirname = [] ∨ second.length = maxRepositoryPathLength))) := by
  constructor
  · rintro ⟨first', rest', hpacket', hfirst', hholds⟩
    obtain ⟨rfl, rfl⟩ := string_unique hfirst hfirst' (hpacket.symm.trans hpacket')
    exact hholds
  · exact fun hholds => ⟨first, rest, hpacket, hfirst, hholds⟩

/-- The parser of two paths is right exactly under the condition. -/
theorem repositories_sound_iff (path dirname : List UInt8) :
    (∃ p, deSerializeRepositories (some memory) size path dirname = some p ∧
        Sound maxRepositoryPathLength maxRepositoryPathLength (some memory) size p) ↔
      HoldsRepositories path dirname (memory.take size.toNat) := by
  by_cases hzero : 0 ∈ memory.take size.toNat
  swap
  · refine iff_of_false ?_ ?_
    · apply not_sound_of_seen
      intro p hparsed
      exact deSerializeStrings_unterminated hzero hparsed
    · rintro ⟨first, rest, hpacket, _⟩
      rw [hpacket] at hzero
      simp at hzero
  obtain ⟨first, rest, hpacket, hfirst⟩ := List.eq_append_cons_of_mem hzero
  rw [holdsRepositories_iff hpacket hfirst]
  by_cases hlong : maxRepositoryPathLength < first.length
  · rw [repositories_long_first path dirname hpacket hfirst hlong]
    exact ⟨.inl, fun h => h.resolve_right fun h => Nat.not_le.mpr hlong h.1⟩
  have hshort := Nat.not_lt.mp hlong
  have hdrop := drop_append_path path hpacket hshort
  rw [or_iff_right (by omega), and_iff_right hshort]
  generalize hk : min path.length (maxRepositoryPathLength - first.length) = k at hdrop ⊢
  by_cases hname : 0 ∈ rest.drop k
  swap
  · refine iff_of_false ?_ ?_
    · apply not_sound_of_seen
      intro p hparsed
      rw [← hdrop] at hname
      exact deSerializeStrings_second_unterminated hpacket hfirst hname hparsed
    · rintro ⟨passed, second, rest', rfl, _, rfl, _⟩
      rw [List.drop_left] at hname
      simp at hname
  obtain ⟨second, rest', hrest, hsecond⟩ := List.eq_append_cons_of_mem hname
  obtain ⟨passed, rfl, rfl⟩ : ∃ passed, rest = passed ++ (second ++ 0 :: rest') ∧ passed.length = k := by
    refine ⟨rest.take k, ?_, ?_⟩
    · rw [← hrest, List.take_append_drop]
    · have hlength := congrArg List.length hrest
      rw [List.length_drop, List.length_append, List.length_cons] at hlength
      rw [List.length_take]
      omega
  have houtput : (append maxRepositoryPathLength path first).length = first.length + passed.length := by
    rw [length_append, ← hk]
    omega
  have hunique : (∃ passed' second' rest'', passed ++ (second ++ 0 :: rest') =
        passed' ++ (second' ++ 0 :: rest'') ∧ 0 ∉ second' ∧ passed'.length = passed.length ∧
          (maxRepositoryPathLength - first.length - passed'.length < second'.length ∨
            0 ∉ passed' ∧ (dirname = [] ∨ second'.length = maxRepositoryPathLength))) ↔
      (maxRepositoryPathLength - first.length - passed.length < second.length ∨
        0 ∉ passed ∧ (dirname = [] ∨ second.length = maxRepositoryPathLength)) := by
    constructor
    · rintro ⟨passed', second', rest'', heq, hsecond', hlength, hholds⟩
      obtain ⟨rfl, hback⟩ := List.append_inj heq hlength.symm
      obtain ⟨rfl, _⟩ := string_unique hsecond hsecond' hback
      exact hholds
    · exact fun hholds => ⟨passed, second, rest', rfl, hsecond, rfl, hholds⟩
  rw [deSerializeRepositories, deSerializeStrings_inside hpacket hfirst (hdrop.trans hrest) hsecond,
    exists_sound_some, houtput, hunique]
  by_cases hrefused : maxRepositoryPathLength - (first.length + passed.length) < second.length
  · rw [if_pos hrefused]
    exact iff_of_true (sound_of_refused hpacket (hdrop.trans hrest) (fun h => by cases h))
      (.inl (by omega))
  · rw [if_neg hrefused, sound_ok_iff hpacket hfirst (hdrop.trans hrest), houtput,
      or_iff_right (by omega)]
    constructor
    · rintro ⟨second', rest'', htwo, hlength⟩
      obtain ⟨_, hbehind⟩ := htwo.of_packet hpacket hfirst
      rw [length_append] at hlength
      -- a terminator that is passed over ends the second string too early
      have hpassed : 0 ∉ passed := by
        intro hmem
        obtain ⟨front, back, rfl, hfront⟩ := List.eq_append_cons_of_mem hmem
        obtain ⟨rfl, _⟩ := string_unique hfront htwo.second_terminator
          (by rw [← hbehind, List.append_assoc, List.cons_append])
        rw [List.length_append, List.length_cons] at hlength
        omega
      have hzero : 0 ∉ passed ++ second := by
        rw [List.mem_append]
        exact not_or.mpr ⟨hpassed, hsecond⟩
      obtain ⟨rfl, _⟩ := string_unique hzero htwo.second_terminator
        (by rw [← hbehind, List.append_assoc])
      refine ⟨hpassed, ?_⟩
      rw [List.length_append] at hlength
      by_cases hdirname : dirname.length = 0
      · exact .inl (List.length_eq_zero_iff.mp hdirname)
      · exact .inr (by omega)
    · rintro ⟨hpassed, hmoved⟩
      have hzero : 0 ∉ passed ++ second := by
        rw [List.mem_append]
        exact not_or.mpr ⟨hpassed, hsecond⟩
      refine ⟨passed ++ second, rest', ⟨?_, hfirst, hzero, hshort, ?_⟩, ?_⟩
      · rw [hpacket, List.append_assoc]
      · rw [List.length_append]
        omega
      · rw [length_append, List.length_append]
        rcases hmoved with rfl | hmoved
        · rw [List.length_nil]
          omega
        · omega

/-- **The parsers and the packet.** The parser of a path and a name stays inside the packet and answers
    rightly exactly if the packet starts with the two, and the parser of two paths exactly under its
    condition; a null pointer is refused by both. -/
theorem packets_sound_iff (buffer : Option (List UInt8)) (size : UInt32) (first second : List UInt8) :
    ((∃ p, deSerializeRepositoryAndFilename buffer size first second = some p ∧
        Sound maxRepositoryPathLength maxFilenameLength buffer size p) ↔
      ∀ memory ∈ buffer,
        HoldsTwoStrings maxRepositoryPathLength maxFilenameLength (memory.take size.toNat)) ∧
    ((∃ p, deSerializeRepositories buffer size first second = some p ∧
        Sound maxRepositoryPathLength maxRepositoryPathLength buffer size p) ↔
      ∀ memory ∈ buffer, HoldsRepositories first second (memory.take size.toNat)) := by
  cases buffer with
  | none =>
      exact ⟨iff_of_true (deSerializeStrings_null _ _ _ _ _ _ _ _ _) (fun _ h => by cases h),
        iff_of_true (deSerializeStrings_null _ _ _ _ _ _ _ _ _) (fun _ h => by cases h)⟩
  | some memory =>
      refine ⟨(repositoryAndFilename_sound_iff first second).trans ?_,
        (repositories_sound_iff first second).trans ?_⟩
      · exact ⟨fun h _ hmem => Option.mem_some.mp hmem ▸ h, fun h => h memory rfl⟩
      · exact ⟨fun h _ hmem => Option.mem_some.mp hmem ▸ h, fun h => h memory rfl⟩

/-- **A path without a terminator is accepted.** Of the packet `a` the byte behind it is taken for the
    terminator, the name is read behind it, and the size wraps around. -/
theorem unterminated_path_accepted :
    deSerializeRepositoryAndFilename (some [97, 0, 98, 0]) 1 [] [] =
      some ⟨.returnOk, ⟨4, 0xfffffffd, 4⟩, [97], [98]⟩ ∧
    ¬ ∀ (buffer : Option (List UInt8)) (size : UInt32) (path name : List UInt8),
      ∃ p, deSerializeRepositoryAndFilename buffer size path name = some p ∧
        Sound maxRepositoryPathLength maxFilenameLength buffer size p := by
  refine ⟨rfl, fun hsound => ?_⟩
  obtain ⟨p, hparsed, hsound⟩ := hsound (some [97, 0, 98, 0]) 1 [] []
  have hp : p = ⟨.returnOk, ⟨4, 0xfffffffd, 4⟩, [97], [98]⟩ := Option.some.inj hparsed.symm
  subst hp
  exact absurd hsound.seen (by decide)

end Parsers

/-! ## A packet in a memory of its own -/

/-- For a packet with nothing behind it, and empty outputs, the parser finds what the parser of a read
    command finds. -/
theorem deSerializeRepositoryAndFilename_whole {buffer : List UInt8} (hlt : buffer.length < 2 ^ 32) :
    Download.deSerializeRepositoryAndFilename buffer =
      (deSerializeRepositoryAndFilename (some buffer) (UInt32.ofNat buffer.length) [] []).map fun p =>
        if p.result = .returnOk then .ok ⟨p.first, p.second, buffer.drop p.cursor.offset⟩
        else .error .streamTooShort := by
  have hsize : (UInt32.ofNat buffer.length).toNat = buffer.length := by
    rw [UInt32.toNat_ofNat']
    exact Nat.mod_eq_of_lt hlt
  have htake : buffer.take (UInt32.ofNat buffer.length).toNat = buffer := by
    rw [hsize, List.take_length]
  unfold Download.deSerializeRepositoryAndFilename
  cases hlength : strlen buffer with
  | none =>
      unfold deSerializeRepositoryAndFilename deSerializeStrings
      simp only [hlength, Option.map_none]
  | some n =>
      obtain ⟨first, rest, hbuffer, hfirst, rfl⟩ := exists_of_strlen hlength
      have hfront : buffer.take first.length = first := by rw [hbuffer, List.take_left]
      have hlong : ¬ buffer.length < first.length := by
        rw [hbuffer, List.length_append]
        omega
      rw [deSerializeRepositoryAndFilename, deSerializeStrings_eq (htake.trans hbuffer) hfirst]
      simp only [if_neg hlong, hfront, assign]
      cases hname : strlen (buffer.drop ((first.take maxRepositoryPathLength).length + 1)) with
      | none => simp only [Option.map_none]
      | some m =>
          obtain ⟨name, rest', hdrop, hzero, rfl⟩ := exists_of_strlen hname
          have hinside := congrArg List.length hdrop
          rw [List.length_drop, List.length_append, List.length_cons] at hinside
          -- what is left of the packet has room for the name
          have hleft : ¬ (secondCursor (UInt32.ofNat buffer.length) first
              (first.take maxRepositoryPathLength) name.length).size.toNat < name.length := by
            rw [(secondCursor_keeps _ _ (by omega)).2, secondCursor_offset]
            omega
          have hleft' : ¬ (buffer.drop ((first.take maxRepositoryPathLength).length + 1)).length <
              name.length := by
            rw [List.length_drop]
            omega
          by_cases hlongName : maxFilenameLength < name.length
          · simp only [Option.map_some, if_pos hlongName, if_true, secondCursor_offset]
          · simp only [Option.map_some, if_neg hlongName, if_neg hleft, if_neg hleft', if_true,
              Cursor.skip, secondCursor_offset, List.drop_drop]

end Packets
end Sdc
end Obsw
