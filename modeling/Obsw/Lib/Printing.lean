import Mathlib.Algebra.Group.Nat.Defs
import Mathlib.Data.List.Basic

/-!
# `Lib.Printing` — text that is printed into a buffer

A `Page` is a buffer of a fixed size with the index behind the text so far. A printer writes at its index,
or a little ahead of it, and moves it on; a write behind the end is a fault. A printer *appends* a text if
it leaves it behind whatever was there, as long as there is room.

## Contents
- **Writing.** `put`, with `starts_put`: what is in front of a write stays.
- **Printers.** `sprintf`, `snprintf` and `copy` append their texts; `appends_then` and `appends_all` put
  printers together.
- **Texts.** Decimal numbers with the bound of their length, and formats that have no arguments.
-/

namespace Printing

/-- What can go wrong. -/
inductive Fault where
  /-- a write behind the end of the buffer -/
  | outside
  | divisionByZero
  /-- a directive of a format without its argument: what is written is not defined -/
  | noArgument
deriving DecidableEq, Repr

/-- A buffer, and the index behind its text. -/
structure Page (size : Nat) where
  buffer : List UInt8
  index : Nat
  length_eq : buffer.length = size

abbrev Printer (size : Nat) := Page size → Except Fault (Page size)

variable {size : Nat}

/-! ## Writing -/

/-- The buffer with bytes in place of those from a position on. -/
def splice (position : Nat) (bytes buffer : List UInt8) : List UInt8 :=
  buffer.take position ++ (bytes ++ buffer.drop (position + bytes.length))

theorem length_splice {position : Nat} {bytes buffer : List UInt8}
    (h : position + bytes.length ≤ buffer.length) :
    (splice position bytes buffer).length = buffer.length := by
  unfold splice
  rw [List.length_append, List.length_append, List.length_take, List.length_drop]
  omega

theorem length_splice_page {position : Nat} {bytes : List UInt8} {p : Page size}
    (h : position + bytes.length ≤ size) : (splice position bytes p.buffer).length = size := by
  rw [length_splice (by rwa [p.length_eq]), p.length_eq]

namespace Page

/-- Write bytes from a position on. -/
def put (position : Nat) (bytes : List UInt8) : Printer size := fun p =>
  if h : position + bytes.length ≤ size then
    .ok ⟨splice position bytes p.buffer, p.index, length_splice_page h⟩
  else .error .outside

/-- Move the index on. -/
def skip (n : Nat) (p : Page size) : Page size := { p with index := p.index + n }

/-- One printer behind the other. -/
def andThen (f g : Printer size) : Printer size := fun p => (f p).bind g

/-- `memcpy`, with the index moved on. -/
def copy (bytes : List UInt8) : Printer size := fun p => (p.put p.index bytes).map (skip bytes.length)

/-- `index += sprintf(buffer + index, ...)` of a text, which has a zero behind it. -/
def sprintf (text : List UInt8) : Printer size := fun p =>
  (p.put p.index (text ++ [0])).map (skip text.length)

/-- The bytes that `snprintf` writes: at most `limit`, with the zero. -/
def limited (limit : Nat) (text : List UInt8) : List UInt8 :=
  if limit = 0 then [] else text.take (limit - 1) ++ [0]

/-- `index += snprintf(buffer + index, limit, ...)`, which returns the length of the whole text. -/
def snprintf (limit : Nat) (text : List UInt8) : Printer size := fun p =>
  (p.put p.index (limited limit text)).map (skip text.length)

/-- The printers of a list, one after the other. -/
def all {α : Type} (f : α → Printer size) : List α → Printer size
  | [], p => .ok p
  | a :: as, p => andThen (f a) (all f as) p

theorem limited_of_lt {limit : Nat} {text : List UInt8} (h : text.length < limit) :
    limited limit text = text ++ [0] := by
  unfold limited
  rw [if_neg (by omega), List.take_of_length_le (by omega)]

/-! ## Pages that show a text -/

/-- The text is at the start of the buffer. -/
def Starts (p : Page size) (text : List UInt8) : Prop := text <+: p.buffer

/-- The buffer starts with the text, and the index is behind it. -/
structure Shows (p : Page size) (text : List UInt8) : Prop where
  starts : p.Starts text
  index : p.index = text.length

variable {p : Page size} {shown : List UInt8}

theorem Starts.mono {text : List UInt8} (h : p.Starts text) (hfront : shown <+: text) : p.Starts shown :=
  hfront.trans h

theorem Starts.length_le (h : p.Starts shown) : shown.length ≤ size := by
  rw [← p.length_eq]
  exact List.IsPrefix.length_le h

/-- What is written behind a text stands behind it. -/
theorem Starts.put (h : p.Starts shown) (bytes : List UInt8)
    (hroom : shown.length + bytes.length ≤ size) :
    ∃ p', p.put shown.length bytes = .ok p' ∧ p'.Starts (shown ++ bytes) ∧ p'.index = p.index := by
  refine ⟨⟨splice shown.length bytes p.buffer, p.index, length_splice_page hroom⟩, dif_pos hroom, ?_,
    rfl⟩
  obtain ⟨rest, hrest⟩ := h
  refine ⟨p.buffer.drop (shown.length + bytes.length), ?_⟩
  show shown ++ bytes ++ _ = p.buffer.take shown.length ++ (bytes ++ _)
  rw [← hrest, List.take_left, List.append_assoc]

/-- The printer leaves its text behind what is shown, if there is room for it and for a zero. -/
def Appends (f : Printer size) (text : List UInt8) : Prop :=
  ∀ p shown, p.Shows shown → shown.length + text.length < size →
    ∃ p', f p = .ok p' ∧ p'.Shows (shown ++ text)

/-- Bytes that are written ahead, of which the index passes only the text. -/
theorem appends_put (bytes text : List UInt8) (hfront : text <+: bytes)
    (hlength : bytes.length ≤ text.length + 1) :
    Appends (fun p : Page size => (p.put p.index bytes).map (skip text.length)) text := by
  intro p shown hshows hroom
  obtain ⟨p', hput, hstarts, hindex⟩ := hshows.starts.put bytes (by omega)
  refine ⟨skip text.length p', ?_, ?_, ?_⟩
  · dsimp only
    rw [hshows.index, hput]
    rfl
  · exact hstarts.mono ((List.prefix_append_right_inj shown).mpr hfront)
  · show p'.index + text.length = _
    rw [hindex, hshows.index, List.length_append]

theorem appends_copy (bytes : List UInt8) : Appends (copy bytes : Printer size) bytes :=
  appends_put bytes bytes List.prefix_rfl (Nat.le_succ _)

theorem appends_sprintf (text : List UInt8) : Appends (sprintf text : Printer size) text :=
  appends_put _ text (List.prefix_append _ _) (by simp)

theorem appends_snprintf {limit : Nat} {text : List UInt8} (h : text.length < limit) :
    Appends (snprintf limit text : Printer size) text := by
  unfold snprintf
  rw [limited_of_lt h]
  exact appends_sprintf text

/-- Printers append their texts one after the other. -/
theorem appends_then {f g : Printer size} {first second : List UInt8} (hf : Appends f first)
    (hg : Appends g second) : Appends (andThen f g) (first ++ second) := by
  intro p shown hshows hroom
  rw [List.length_append] at hroom
  obtain ⟨p', hfirst, hshows'⟩ := hf p shown hshows (by omega)
  obtain ⟨p'', hsecond, hshows''⟩ := hg p' _ hshows' (by rw [List.length_append]; omega)
  refine ⟨p'', ?_, by rwa [← List.append_assoc]⟩
  unfold andThen
  rw [hfirst]
  exact hsecond

theorem appends_all {α : Type} {f : α → Printer size} {text : α → List UInt8} {as : List α}
    (h : ∀ a ∈ as, Appends (f a) (text a)) : Appends (all f as) (as.flatMap text) := by
  induction as with
  | nil =>
      intro p shown hshows _
      exact ⟨p, rfl, by rwa [List.flatMap_nil, List.append_nil]⟩
  | cons a as ih =>
      rw [List.flatMap_cons]
      exact appends_then (h a List.mem_cons_self) (ih fun b hb => h b (List.mem_cons_of_mem _ hb))

/-- A printer that is through has been through all its parts. -/
theorem ok_of_andThen {f g : Printer size} {p p'' : Page size} (h : andThen f g p = .ok p'') :
    ∃ p', f p = .ok p' ∧ g p' = .ok p'' := by
  unfold andThen at h
  cases hf : f p with
  | error fault => rw [hf] at h; cases h
  | ok p' => exact ⟨p', rfl, by rwa [hf] at h⟩

theorem ok_of_all {α : Type} {f : α → Printer size} {as : List α} {p p' : Page size}
    (h : all f as p = .ok p') : ∀ a ∈ as, ∃ q q', f a q = .ok q' := by
  induction as generalizing p with
  | nil => intro a ha; cases ha
  | cons a as ih =>
      obtain ⟨q, hq, hrest⟩ := ok_of_andThen h
      intro b hb
      rcases List.mem_cons.mp hb with rfl | hb
      · exact ⟨p, q, hq⟩
      · exact ih hrest b hb

end Page

/-! ## Texts -/

def ascii (string : String) : List UInt8 := string.toList.map fun c => UInt8.ofNat c.toNat

/-- `%lu` -/
def decimal (n : Nat) : List UInt8 := (Nat.toDigits 10 n).map fun c => UInt8.ofNat c.toNat

theorem length_decimal_le {n digits : Nat} (hpos : 0 < digits) (h : n < 10 ^ digits) :
    (decimal n).length ≤ digits := by
  rw [decimal, List.length_map]
  exact (Nat.length_toDigits_le_iff (by decide) hpos).mpr h

/-- A number of at least so many digits, with zeros in front. -/
def zeroPadded (width n : Nat) : List UInt8 :=
  List.replicate (width - (decimal n).length) 0x30 ++ decimal n

theorem length_zeroPadded (width n : Nat) :
    (zeroPadded width n).length = max width (decimal n).length := by
  rw [zeroPadded, List.length_append, List.length_replicate]
  omega

/-- What a format prints that has no arguments. `none`: it asks for one. -/
def unformatted : List UInt8 → Option (List UInt8)
  | [] => some []
  | [c] => if c = 0x25 then none else some [c]
  | c :: d :: rest =>
    if c = 0x25 then
      if d = 0x25 then (unformatted rest).map (0x25 :: ·) else none
    else (unformatted (d :: rest)).map (c :: ·)

theorem length_unformatted_le {format text : List UInt8} (h : unformatted format = some text) :
    text.length ≤ format.length := by
  induction format using unformatted.induct generalizing text with
  | case1 =>
    cases h
    exact Nat.le_refl _
  | case2 => simp [unformatted] at h
  | case3 c hc =>
    rw [unformatted, if_neg hc] at h
    cases h
    exact Nat.le_refl _
  | case4 rest ih =>
    rw [unformatted, if_pos rfl, if_pos rfl, Option.map_eq_some_iff] at h
    obtain ⟨printed, hprinted, rfl⟩ := h
    have hle := ih hprinted
    simp only [List.length_cons]
    omega
  | case5 d rest hd => simp [unformatted, hd] at h
  | case6 c d rest hc ih =>
    rw [unformatted, if_neg hc, Option.map_eq_some_iff] at h
    obtain ⟨printed, hprinted, rfl⟩ := h
    have hle := ih hprinted
    simp only [List.length_cons] at hle ⊢
    omega

end Printing
