import EventGateway.Lib.Json.Scan

/-! Strings and integers as `encoding/json` writes and reads them. -/

namespace EventGateway.Lib.Json

/-- One character of a string: the short escapes, `\u` for other control characters and
for what HTML would read, and UTF-8 for the rest. -/
def encodeChar (c : Char) : Text :=
  match c.toNat with
  | 0x22 => [backslash, quote]
  | 0x5C => [backslash, backslash]
  | 0x08 => [backslash, 0x62]
  | 0x0C => [backslash, 0x66]
  | 0x0A => [backslash, 0x6E]
  | 0x0D => [backslash, 0x72]
  | 0x09 => [backslash, 0x74]
  | n => if n < 0x20 ∨ n ∈ [0x3C, 0x3E, 0x26, 0x2028, 0x2029] then unicodeEscape n
    else String.utf8EncodeChar c

def encodeString (s : String) : Text := quote :: s.toList.flatMap encodeChar ++ [quote]

def hexValue (c : UInt8) : Option Nat :=
  if isDigit c then some (c.toNat - 0x30)
  else if 0x61 ≤ c ∧ c ≤ 0x66 then some (c.toNat - 0x57)
  else if 0x41 ≤ c ∧ c ≤ 0x46 then some (c.toNat - 0x37)
  else none

def getu4 : Text → Option Nat
  | a :: b :: c :: d :: _ => do
      pure (4096 * (← hexValue a) + 256 * (← hexValue b) + 16 * (← hexValue c) + (← hexValue d))
  | _ => none

def replacementChar : Char := Char.ofNat 0xFFFD

def lowSurrogate : Text → Option Nat
  | 0x5C :: 0x75 :: rest => (getu4 rest).filter (fun low => 0xDC00 ≤ low ∧ low < 0xE000)
  | _ => none

/-- The character of the escape `\u` with this number, and the bytes it takes with the
`u`. An unpaired surrogate reads as the replacement character. -/
def unescapeUnicode (n : Nat) (rest : Text) : Char × Nat :=
  if 0xD800 ≤ n ∧ n < 0xE000 then
    match lowSurrogate rest with
    | some low =>
      if n < 0xDC00 then (Char.ofNat (0x10000 + 0x400 * (n - 0xD800) + (low - 0xDC00)), 11)
      else (replacementChar, 5)
    | none => (replacementChar, 5)
  else (Char.ofNat n, 5)

def unescape : Text → Option (Char × Nat)
  | 0x75 :: rest => (getu4 rest).map (fun n => unescapeUnicode n (rest.drop 4))
  | 0x62 :: _ => some (Char.ofNat 0x08, 1)
  | 0x66 :: _ => some (Char.ofNat 0x0C, 1)
  | 0x6E :: _ => some (Char.ofNat 0x0A, 1)
  | 0x72 :: _ => some (Char.ofNat 0x0D, 1)
  | 0x74 :: _ => some (Char.ofNat 0x09, 1)
  | 0x22 :: _ => some (Char.ofNat 0x22, 1)
  | 0x5C :: _ => some (Char.ofNat 0x5C, 1)
  | 0x2F :: _ => some (Char.ofNat 0x2F, 1)
  | 0x27 :: _ => some (Char.ofNat 0x27, 1)
  | _ => none

/-- The characters between the quotes. The first argument counts bytes that belong to a
character already read; a byte that begins no character reads as the replacement character. -/
def decodeChars : Nat → Text → Option (List Char)
  | _, [] => some []
  | skip + 1, _ :: rest => decodeChars skip rest
  | 0, c :: rest =>
    if c = backslash then
      match unescape rest with
      | some (char, used) => (decodeChars used rest).map (char :: ·)
      | none => none
    else if c < 0x80 then (decodeChars 0 rest).map (Char.ofNat c.toNat :: ·)
    else match ByteArray.utf8DecodeChar? (c :: rest).toByteArray 0 with
      | some char => (decodeChars (char.utf8Size - 1) rest).map (char :: ·)
      | none => (decodeChars 0 rest).map (replacementChar :: ·)

def unquote : Text → Option String
  | 0x22 :: rest => (decodeChars 0 rest.dropLast).map String.ofList
  | _ => none

theorem encodeChar_cases (c : Char) :
    (∃ b, encodeChar c = [backslash, b] ∧ b ∈ [quote, backslash, 0x62, 0x66, 0x6E, 0x72, 0x74] ∧
      ∀ rest, unescape (b :: rest) = some (c, 1)) ∨
    (encodeChar c = unicodeEscape c.toNat ∧ c.toNat < 0x10000) ∨
    (encodeChar c = String.utf8EncodeChar c ∧ 0x20 ≤ c.toNat ∧
      c.toNat ∉ [0x22, 0x5C, 0x3C, 0x3E, 0x26, 0x2028, 0x2029]) := by
  have named {n : Nat} (same : c.toNat = n) : Char.ofNat n = c := by
    rw [← same, Char.ofNat_toNat]
  unfold encodeChar
  split
  next same => exact .inl ⟨_, rfl, by decide, fun rest => by rw [unescape, named same]⟩
  next same => exact .inl ⟨_, rfl, by decide, fun rest => by rw [unescape, named same]⟩
  next same => exact .inl ⟨_, rfl, by decide, fun rest => by rw [unescape, named same]⟩
  next same => exact .inl ⟨_, rfl, by decide, fun rest => by rw [unescape, named same]⟩
  next same => exact .inl ⟨_, rfl, by decide, fun rest => by rw [unescape, named same]⟩
  next same => exact .inl ⟨_, rfl, by decide, fun rest => by rw [unescape, named same]⟩
  next same => exact .inl ⟨_, rfl, by decide, fun rest => by rw [unescape, named same]⟩
  next n noQuote noBackslash _ _ _ _ _ =>
    have noQuote : c.toNat ≠ 0x22 := noQuote
    have noBackslash : c.toNat ≠ 0x5C := noBackslash
    split
    next escaped =>
      refine .inr (.inl ⟨rfl, ?_⟩)
      simp only [List.mem_cons, List.not_mem_nil, or_false] at escaped
      omega
    next plain =>
      simp only [List.mem_cons, List.not_mem_nil, or_false] at plain
      refine .inr (.inr ⟨rfl, by omega, ?_⟩)
      simp only [List.mem_cons, List.not_mem_nil, or_false]
      omega

theorem hexDigit_isHex : ∀ n < 16, isHex (hexDigit n) = true := by decide

theorem hexValue_hexDigit : ∀ n < 16, hexValue (hexDigit n) = some n := by decide

theorem hexDigit_plain : ∀ n < 16, isHTML (hexDigit n) = false ∧ hexDigit n < 0x80 := by decide

theorem getu4_unicodeEscape {n : Nat} (bound : n < 0x10000) (rest : Text) :
    getu4 ((unicodeEscape n).drop 2 ++ rest) = some n := by
  have digit (m : Nat) : hexValue (hexDigit (m % 16)) = some (m % 16) :=
    hexValue_hexDigit _ (Nat.mod_lt _ (by decide))
  simp only [unicodeEscape, List.drop, List.cons_append, getu4, digit, Option.pure_def,
    Option.bind_eq_bind, Option.bind_some, Option.some.injEq]
  omega

theorem unescape_unicodeEscape (c : Char) (bound : c.toNat < 0x10000) (rest : Text) :
    unescape ((unicodeEscape c.toNat).tail ++ rest) = some (c, 5) := by
  have number := getu4_unicodeEscape bound rest
  have scalar : ¬(0xD800 ≤ c.toNat ∧ c.toNat < 0xE000) := by
    have range : c.toNat < 0xD800 ∨ 0xDFFF < c.toNat ∧ c.toNat < 0x110000 := c.valid
    omega
  have shape : (unicodeEscape c.toNat).tail ++ rest = 0x75 :: ((unicodeEscape c.toNat).drop 2 ++ rest) := rfl
  rw [shape, unescape, number, Option.map_some, unescapeUnicode, if_neg scalar, Char.ofNat_toNat]

theorem decodeChars_skip (used rest : Text) : decodeChars used.length (used ++ rest) = decodeChars 0 rest := by
  induction used with
  | nil => rfl
  | cons c used ih => exact ih

theorem toNat_ofNat_small {n : Nat} (bound : n < 256) : (UInt8.ofNat n).toNat = n := by
  rw [UInt8.toNat_ofNat', Nat.mod_eq_of_lt bound]

theorem continuation_range (n : Nat) :
    0x80 ≤ UInt8.ofNat (n % 64 + 128) ∧ UInt8.ofNat (n % 64 + 128) < 0xC0 := by
  have byte := toNat_ofNat_small (show n % 64 + 128 < 256 by omega)
  constructor
  · rw [UInt8.le_iff_toNat_le, byte]
    exact Nat.le_add_left 128 (n % 64)
  · rw [UInt8.lt_iff_toNat_lt, byte]
    show n % 64 + 128 < 192
    omega

theorem lead_range {n : Nat} (low : 192 ≤ n) (bound : n < 256) : 0xC0 ≤ UInt8.ofNat n := by
  rw [UInt8.le_iff_toNat_le, toNat_ofNat_small bound]
  exact low

/-- The UTF-8 form of a character outside ASCII: a leading byte and continuation bytes.
U+2028 and its neighbours are the ones written with `E2 80`. -/
theorem utf8EncodeChar_high {c : Char} (high : 0x80 ≤ c.toNat) :
    ∃ lead tail, String.utf8EncodeChar c = lead :: tail ∧ 0xC0 ≤ lead ∧
      (∀ b ∈ tail, 0x80 ≤ b ∧ b < 0xC0) ∧
      ∀ last more, lead = 0xE2 → tail = 0x80 :: last :: more → c.toNat = 0x1F80 + last.toNat := by
  have same : c.toNat = c.val.toNat := rfl
  have wide : ¬c.val.toNat ≤ 0x7F := by omega
  unfold String.utf8EncodeChar
  simp only [wide, if_false]
  split
  next =>
    refine ⟨_, _, rfl, lead_range (by omega) (by omega), ?_, ?_⟩
    · intro b member
      rw [List.mem_singleton.mp member]
      exact continuation_range _
    · intro last more _ pair
      cases (List.cons.inj pair).2
  next =>
    split
    next =>
      refine ⟨_, _, rfl, lead_range (by omega) (by omega), ?_, ?_⟩
      · intro b member
        rcases List.mem_cons.mp member with rfl | member
        · exact continuation_range _
        · rw [List.mem_singleton.mp member]
          exact continuation_range _
      · intro last more first pair
        obtain ⟨second, rest⟩ := List.cons.inj pair
        obtain ⟨third, -⟩ := List.cons.inj rest
        have one := congrArg UInt8.toNat first
        have two := congrArg UInt8.toNat second
        have three := congrArg UInt8.toNat third
        rw [toNat_ofNat_small (by omega)] at one two three
        have e2 : (0xE2 : UInt8).toNat = 226 := rfl
        have eighty : (0x80 : UInt8).toNat = 128 := rfl
        omega
    next =>
      refine ⟨_, _, rfl, lead_range (by omega) (by omega), ?_, ?_⟩
      · intro b member
        simp only [List.mem_cons, List.not_mem_nil, or_false] at member
        rcases member with rfl | rfl | rfl
        · exact continuation_range _
        · exact continuation_range _
        · exact continuation_range _
      · intro last more first _
        have one := congrArg UInt8.toNat first
        rw [toNat_ofNat_small (by omega)] at one
        have e2 : (0xE2 : UInt8).toNat = 226 := rfl
        omega

theorem utf8EncodeChar_low {c : Char} (low : c.toNat < 0x80) :
    String.utf8EncodeChar c = [UInt8.ofNat c.toNat] := by
  have bound : c.val.toNat ≤ 0x7F := Nat.le_of_lt_succ low
  unfold String.utf8EncodeChar
  simp only [bound, if_true]
  rfl

theorem decodeChars_unicodeEscape (c : Char) (bound : c.toNat < 0x10000) (rest : Text) :
    decodeChars 0 (unicodeEscape c.toNat ++ rest) = (decodeChars 0 rest).map (c :: ·) := by
  have read := unescape_unicodeEscape c bound rest
  have shape : unicodeEscape c.toNat ++ rest = backslash :: ((unicodeEscape c.toNat).tail ++ rest) := rfl
  rw [shape, decodeChars, if_pos rfl, read]
  exact congrArg (Option.map (c :: ·)) (decodeChars_skip (unicodeEscape c.toNat).tail rest)

theorem decodeChars_high {c : Char} (high : 0x80 ≤ c.toNat) (rest : Text) :
    decodeChars 0 (String.utf8EncodeChar c ++ rest) = (decodeChars 0 rest).map (c :: ·) := by
  obtain ⟨lead, tail, bytes, range, -, -⟩ := utf8EncodeChar_high high
  have size := String.length_utf8EncodeChar c
  have decoded : ByteArray.utf8DecodeChar? (lead :: (tail ++ rest)).toByteArray 0 = some c := by
    rw [← List.cons_append, ← bytes, List.toByteArray_append]
    exact ByteArray.utf8DecodeChar?_utf8EncodeChar_append
  have other : lead ≠ backslash := by
    rintro rfl
    exact absurd range (by decide)
  have wide : ¬lead < 0x80 := by
    intro ascii
    exact absurd (UInt8.lt_of_le_of_lt range ascii) (by decide)
  rw [bytes] at size ⊢
  rw [List.cons_append, decodeChars, if_neg other, if_neg wide, decoded]
  simp only [← size, List.length_cons, Nat.add_sub_cancel, decodeChars_skip]

theorem decodeChars_encodeChar (c : Char) (rest : Text) :
    decodeChars 0 (encodeChar c ++ rest) = (decodeChars 0 rest).map (c :: ·) := by
  rcases encodeChar_cases c with ⟨b, written, -, read⟩ | ⟨written, bound⟩ | ⟨written, visible, plain⟩
  · rw [written]
    simp only [List.cons_append, List.nil_append, decodeChars, if_true, read]
  · rw [written]
    exact decodeChars_unicodeEscape c bound rest
  · rw [written]
    simp only [List.mem_cons, List.not_mem_nil, or_false, not_or] at plain
    by_cases low : c.toNat < 0x80
    · have byte := toNat_ofNat_small (show c.toNat < 256 by omega)
      have other : UInt8.ofNat c.toNat ≠ backslash := by
        intro same
        exact plain.2.1 (byte.symm.trans (congrArg UInt8.toNat same))
      have ascii : UInt8.ofNat c.toNat < 0x80 := by
        rw [UInt8.lt_iff_toNat_lt, byte]
        exact low
      rw [utf8EncodeChar_low low, List.singleton_append, decodeChars, if_neg other, if_pos ascii, byte,
        Char.ofNat_toNat]
    · exact decodeChars_high (not_lt.mp low) rest

theorem decodeChars_flatMap (chars : List Char) : decodeChars 0 (chars.flatMap encodeChar) = some chars := by
  induction chars with
  | nil => rfl
  | cons c rest ih => rw [List.flatMap_cons, decodeChars_encodeChar, ih, Option.map_some]

theorem unquote_encodeString (s : String) : unquote (encodeString s) = some s := by
  have body : (s.toList.flatMap encodeChar ++ [quote]).dropLast = s.toList.flatMap encodeChar :=
    List.dropLast_concat
  rw [encodeString, List.cons_append, unquote, body, decodeChars_flatMap, Option.map_some, String.ofList_toList]

theorem tight_inString {text : Text} (plain : ∀ b ∈ text, 0x20 ≤ b ∧ b ≠ quote ∧ b ≠ backslash)
    (stack : List Frame) : Scanner.tight ⟨.inString, stack⟩ text = some ⟨.inString, stack⟩ := by
  induction text with
  | nil => rfl
  | cons b rest ih =>
    obtain ⟨visible, noQuote, noBackslash⟩ := plain b List.mem_cons_self
    have stepped : Scanner.step ⟨.inString, stack⟩ b = some ⟨.inString, stack⟩ := by
      simp only [Scanner.step, move, if_neg noQuote, if_neg noBackslash, if_neg (UInt8.not_lt.mpr visible)]
    have kept : Scanner.skips ⟨.inString, stack⟩ b = false := Bool.and_false _
    rw [Scanner.tight_cons rest kept stepped]
    exact ih (fun other member => plain other (List.mem_cons_of_mem b member))

theorem tight_unicodeEscape (n : Nat) (stack : List Frame) :
    Scanner.tight ⟨.inString, stack⟩ (unicodeEscape n) = some ⟨.inString, stack⟩ := by
  have digit (m : Nat) : isHex (hexDigit (m % 16)) = true := hexDigit_isHex _ (Nat.mod_lt _ (by decide))
  have opened : Scanner.step ⟨.inString, stack⟩ backslash = some ⟨.inStringEsc, stack⟩ := rfl
  have number : Scanner.step ⟨.inStringEsc, stack⟩ 0x75 = some ⟨.inStringEscU 3, stack⟩ := rfl
  have inner (left m : Nat) : Scanner.step ⟨.inStringEscU (left + 1), stack⟩ (hexDigit (m % 16)) =
      some ⟨.inStringEscU left, stack⟩ := by
    simp only [Scanner.step, move, digit, if_true]
  have last (m : Nat) : Scanner.step ⟨.inStringEscU 0, stack⟩ (hexDigit (m % 16)) =
      some ⟨.inString, stack⟩ := by
    simp only [Scanner.step, move, digit, if_true]
  simp only [unicodeEscape, Scanner.tight, Scanner.skips, Bool.and_false, Bool.false_eq_true, if_false,
    opened, number, inner, last, Option.bind_some]

theorem tight_encodeChar (c : Char) (stack : List Frame) :
    Scanner.tight ⟨.inString, stack⟩ (encodeChar c) = some ⟨.inString, stack⟩ := by
  rcases encodeChar_cases c with ⟨b, written, short, -⟩ | ⟨written, bound⟩ | ⟨written, visible, plain⟩
  · rw [written]
    simp only [List.mem_cons, List.not_mem_nil, or_false] at short
    rcases short with rfl | rfl | rfl | rfl | rfl | rfl | rfl <;> rfl
  · rw [written]
    exact tight_unicodeEscape c.toNat stack
  · rw [written]
    simp only [List.mem_cons, List.not_mem_nil, or_false, not_or] at plain
    apply tight_inString
    by_cases low : c.toNat < 0x80
    · have byte := toNat_ofNat_small (show c.toNat < 256 by omega)
      intro b member
      rw [utf8EncodeChar_low low] at member
      cases List.mem_singleton.mp member
      refine ⟨?_, fun same => ?_, fun same => ?_⟩
      · rw [UInt8.le_iff_toNat_le, byte]
        exact visible
      · exact plain.1 (byte.symm.trans (congrArg UInt8.toNat same))
      · exact plain.2.1 (byte.symm.trans (congrArg UInt8.toNat same))
    · obtain ⟨lead, tail, bytes, range, tails, -⟩ := utf8EncodeChar_high (not_lt.mp low)
      have high (b : UInt8) (bound : 0x80 ≤ b) : 0x20 ≤ b ∧ b ≠ quote ∧ b ≠ backslash := by
        refine ⟨UInt8.le_trans (by decide) bound, ?_, ?_⟩
        · rintro rfl
          exact absurd bound (by decide)
        · rintro rfl
          exact absurd bound (by decide)
      intro b member
      rw [bytes] at member
      rcases List.mem_cons.mp member with rfl | member
      · exact high b (UInt8.le_trans (by decide) range)
      · exact high b (tails b member).1

theorem isHTML_high {b : UInt8} (high : 0x80 ≤ b) : isHTML b = false := by
  have other (c : UInt8) (low : c < 0x80) : b ≠ c := by
    rintro rfl
    exact UInt8.not_lt.mpr high low
  simp only [isHTML, other 0x3C (by decide), other 0x3E (by decide), other 0x26 (by decide), decide_false,
    Bool.or_false]

theorem escapeHTML_tail {text : Text} (tails : ∀ b ∈ text, 0x80 ≤ b ∧ b < 0xC0) : escapeHTML text = text := by
  induction text with
  | nil => rfl
  | cons b rest ih =>
    obtain ⟨low, high⟩ := tails b List.mem_cons_self
    have other : b ≠ 0xE2 := by
      rintro rfl
      exact absurd high (by decide)
    rw [escapeHTML.eq_4 b rest (fun _ lead => absurd lead other) (fun _ lead => absurd lead other),
      isHTML_high low, ih (fun c member => tails c (List.mem_cons_of_mem b member))]
    rfl

theorem escapeHTML_ascii {text : Text} (plain : ∀ b ∈ text, isHTML b = false ∧ b < 0x80) :
    escapeHTML text = text := by
  induction text with
  | nil => rfl
  | cons b rest ih =>
    obtain ⟨other, ascii⟩ := plain b List.mem_cons_self
    rw [escapeHTML_cons other ascii, ih (fun c member => plain c (List.mem_cons_of_mem b member))]

theorem unicodeEscape_plain (n : Nat) : ∀ b ∈ unicodeEscape n, isHTML b = false ∧ b < 0x80 := by
  have digit (m : Nat) := hexDigit_plain (m % 16) (Nat.mod_lt m (by decide))
  intro b member
  simp only [unicodeEscape, List.mem_cons, List.not_mem_nil, or_false] at member
  rcases member with rfl | rfl | rfl | rfl | rfl | rfl
  · decide
  · decide
  · exact digit _
  · exact digit _
  · exact digit _
  · exact digit _

theorem escapeHTML_encodeChar (c : Char) : escapeHTML (encodeChar c) = encodeChar c := by
  rcases encodeChar_cases c with ⟨b, written, short, -⟩ | ⟨written, bound⟩ | ⟨written, visible, plain⟩
  · rw [written]
    simp only [List.mem_cons, List.not_mem_nil, or_false] at short
    rcases short with rfl | rfl | rfl | rfl | rfl | rfl | rfl <;> rfl
  · rw [written]
    exact escapeHTML_ascii (unicodeEscape_plain c.toNat)
  · rw [written]
    simp only [List.mem_cons, List.not_mem_nil, or_false, not_or] at plain
    obtain ⟨-, -, noLess, noGreater, noAmpersand, noLine, noParagraph⟩ := plain
    by_cases low : c.toNat < 0x80
    · have byte := toNat_ofNat_small (show c.toNat < 256 by omega)
      have other (d : UInt8) (differs : c.toNat ≠ d.toNat) : UInt8.ofNat c.toNat ≠ d :=
        fun same => differs (byte.symm.trans (congrArg UInt8.toNat same))
      have ascii : UInt8.ofNat c.toNat < 0x80 := by
        rw [UInt8.lt_iff_toNat_lt, byte]
        exact low
      have html : isHTML (UInt8.ofNat c.toNat) = false := by
        simp only [isHTML, other 0x3C noLess, other 0x3E noGreater, other 0x26 noAmpersand,
          decide_false, Bool.or_false]
      rw [utf8EncodeChar_low low, escapeHTML_cons html ascii]
      rfl
    · obtain ⟨lead, tail, bytes, range, tails, separator⟩ := utf8EncodeChar_high (not_lt.mp low)
      rw [bytes, escapeHTML.eq_4 lead tail, isHTML_high (UInt8.le_trans (by decide) range), escapeHTML_tail tails]
      · rfl
      · exact fun more first rest => noLine (separator _ more first rest)
      · exact fun more first rest => noParagraph (separator _ more first rest)

theorem leads_encodeChar (c : Char) (rest : Text) : Leads (encodeChar c ++ rest) := by
  rcases encodeChar_cases c with ⟨b, written, -, -⟩ | ⟨written, -⟩ | ⟨written, -, -⟩
  · rw [written]
    rintro b ⟨⟩
    exact .inl (by decide)
  · rw [written]
    rintro b ⟨⟩
    exact .inl (by decide)
  · rw [written]
    by_cases low : c.toNat < 0x80
    · rw [utf8EncodeChar_low low]
      rintro b ⟨⟩
      rw [UInt8.lt_iff_toNat_lt, toNat_ofNat_small (show c.toNat < 256 by omega)]
      exact .inl low
    · obtain ⟨lead, tail, bytes, range, -⟩ := utf8EncodeChar_high (not_lt.mp low)
      rw [bytes]
      rintro b ⟨⟩
      exact .inr range

theorem leads_cons {c : UInt8} (ascii : c < 0x80) (rest : Text) : Leads (c :: rest) := by
  rintro b ⟨⟩
  exact .inl ascii

theorem value_encodeString (s : String) : Value (encodeString s) := by
  have body (chars : List Char) (stack : List Frame) :
      Scanner.tight ⟨.inString, stack⟩ (chars.flatMap encodeChar) = some ⟨.inString, stack⟩ := by
    induction chars with
    | nil => rfl
    | cons c rest ih =>
      rw [List.flatMap_cons, Scanner.tight_append, tight_encodeChar, Option.bind_some, ih]
  have plain (chars : List Char) : escapeHTML (chars.flatMap encodeChar ++ [quote]) =
      chars.flatMap encodeChar ++ [quote] := by
    induction chars with
    | nil => rfl
    | cons c rest ih =>
      have leads : Leads (rest.flatMap encodeChar ++ [quote]) := by
        cases rest with
        | nil => exact leads_cons (by decide) []
        | cons d more =>
          rw [List.flatMap_cons, List.append_assoc]
          exact leads_encodeChar d _
      rw [List.flatMap_cons, List.append_assoc, escapeHTML_append _ leads, escapeHTML_encodeChar, ih]
  constructor
  · refine ⟨.endValue, rfl, fun base => ?_⟩
    have opened : Scanner.step ⟨.beginValue, base⟩ quote = some ⟨.inString, base⟩ := rfl
    have closed : Scanner.step ⟨.inString, base⟩ quote = some ⟨.endValue, base⟩ := rfl
    rw [encodeString, List.cons_append, Scanner.tight_cons _ rfl opened, Scanner.tight_append, body,
      Option.bind_some, Scanner.tight_cons _ rfl closed]
    rfl
  · rw [encodeString, List.cons_append, escapeHTML_cons (by decide) (by decide), plain]

end EventGateway.Lib.Json
