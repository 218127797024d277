import EventGateway.Lib.Json.Text
import Mathlib.Data.FinEnum

/-! What escaping for HTML does to a text: a value stays a value, and a string keeps its
characters. -/

namespace EventGateway.Lib.Json

theorem escapeHTML_other {c : UInt8} {rest : Text} (lead : c ≠ 0xE2) :
    escapeHTML (c :: rest) = (if isHTML c then unicodeEscape c.toNat else [c]) ++ escapeHTML rest :=
  escapeHTML.eq_4 c rest (fun _ same => absurd same lead) (fun _ same => absurd same lead)

theorem escapeHTML_continuation {c : UInt8} (low : 0x80 ≤ c) (high : c < 0xC0) (rest : Text) :
    escapeHTML (c :: rest) = c :: escapeHTML rest := by
  have lead : c ≠ 0xE2 := by
    rintro rfl
    exact absurd high (by decide)
  rw [escapeHTML_other lead, isHTML_high low]
  rfl

theorem escapeHTML_eq_append {tail : Text} (tails : ∀ b ∈ tail, 0x80 ≤ b ∧ b < 0xC0) {text more : Text}
    (same : escapeHTML text = tail ++ more) : ∃ rest, text = tail ++ rest ∧ more = escapeHTML rest := by
  induction tail generalizing text with
  | nil => exact ⟨text, rfl, same.symm⟩
  | cons b tail ih =>
    obtain ⟨low, high⟩ := tails b List.mem_cons_self
    have escape (n : Nat) (others : Text) : unicodeEscape n ++ others ≠ b :: (tail ++ more) := by
      intro here
      have first : backslash = b := (List.cons.inj here).1
      rw [← first] at low
      exact absurd low (by decide)
    fun_cases escapeHTML text with
    | case1 =>
      cases same
    | case2 rest => exact absurd same (escape _ _)
    | case3 rest => exact absurd same (escape _ _)
    | case4 c rest absent absent' =>
      rw [escapeHTML.eq_4 c rest absent absent'] at same
      cases html : isHTML c with
      | true =>
        rw [html] at same
        exact absurd same (escape _ _)
      | false =>
        rw [html] at same
        obtain ⟨rfl, after⟩ := List.cons.inj same
        obtain ⟨last, split, later⟩ := ih (fun other member => tails other (List.mem_cons_of_mem c member)) after
        exact ⟨last, congrArg (c :: ·) split, later⟩

theorem escapeHTML_append_continuation {tail : Text} (tails : ∀ b ∈ tail, 0x80 ≤ b ∧ b < 0xC0) (rest : Text) :
    escapeHTML (tail ++ rest) = tail ++ escapeHTML rest := by
  induction tail with
  | nil => rfl
  | cons b tail ih =>
    obtain ⟨low, high⟩ := tails b List.mem_cons_self
    rw [List.cons_append, escapeHTML_continuation low high,
      ih (fun other member => tails other (List.mem_cons_of_mem b member))]
    rfl

theorem escapeHTML_unicodeEscape (n : Nat) (rest : Text) :
    escapeHTML (unicodeEscape n ++ rest) = unicodeEscape n ++ escapeHTML rest := by
  have plain := unicodeEscape_plain n
  generalize unicodeEscape n = used at plain ⊢
  induction used with
  | nil => rfl
  | cons b used ih =>
    obtain ⟨html, ascii⟩ := plain b List.mem_cons_self
    rw [List.cons_append, escapeHTML_cons html ascii, ih (fun c member => plain c (List.mem_cons_of_mem b member))]
    rfl

theorem escapeHTML_idem (text : Text) : escapeHTML (escapeHTML text) = escapeHTML text := by
  fun_induction escapeHTML text with
  | case1 => rfl
  | case2 rest ih => rw [escapeHTML_unicodeEscape, ih]
  | case3 rest ih => rw [escapeHTML_unicodeEscape, ih]
  | case4 c rest absent absent' ih =>
    split
    next => rw [escapeHTML_unicodeEscape, ih]
    next plain =>
      have tails (last : UInt8) (range : 0x80 ≤ last ∧ last < 0xC0) : ∀ b ∈ [0x80, last], 0x80 ≤ b ∧ b < 0xC0 := by
        simpa using range
      have kept {last : UInt8} {more : Text} (range : 0x80 ≤ last ∧ last < 0xC0)
          (same : escapeHTML rest = 0x80 :: last :: more) : ∃ others, rest = 0x80 :: last :: others := by
        obtain ⟨others, split, -⟩ := escapeHTML_eq_append (tails last range) same
        exact ⟨others, split⟩
      rw [List.singleton_append, escapeHTML.eq_4 c (escapeHTML rest), ih, if_neg plain]
      · rfl
      · intro more lead same
        obtain ⟨others, split⟩ := kept (by decide) same
        exact absent others lead split
      · intro more lead same
        obtain ⟨others, split⟩ := kept (by decide) same
        exact absent' others lead split

def State.avoids (kind : UInt8 → Bool) : State → Bool
  | .literal rest => rest.all (fun c => !kind c)
  | _ => true

def Move.avoids (kind : UInt8 → Bool) : Move → Bool
  | .go next | .push _ next => next.avoids kind
  | .pop | .close | .fail => true

section Avoids
variable {kind : UInt8 → Bool}

theorem avoids_ite {p : Prop} [Decidable p] {yes no : Move} (left : yes.avoids kind = true)
    (right : no.avoids kind = true) : (if p then yes else no).avoids kind = true := by
  split
  next => exact left
  next => exact right

theorem avoids_move (letters : [0x72, 0x75, 0x65, 0x61, 0x6C, 0x73].all (fun c => !kind c) = true) {state : State}
    (avoids : state.avoids kind = true) (c : UInt8) : (move state c).avoids kind = true := by
  have word {rest : Text} (spelled : rest ⊆ [0x72, 0x75, 0x65, 0x61, 0x6C, 0x73]) :
      (Move.go (.literal rest)).avoids kind = true := by
    exact List.all_eq_true.mpr (fun c member => List.all_eq_true.mp letters c (spelled member))
  cases state with
  | literal rest =>
    rcases rest with _ | ⟨first, _ | ⟨second, rest⟩⟩
    · rfl
    · exact avoids_ite rfl rfl
    · rw [move]
      · exact avoids_ite (Bool.and_eq_true_iff.mp avoids).2 rfl
      · exact List.cons_ne_nil second rest
  | inStringEscU left => cases left <;> exact avoids_ite rfl rfl
  | _ =>
    unfold move
    repeat' apply avoids_ite
    all_goals first | rfl | exact word (by decide)

theorem avoids_endValue {c : UInt8} {stack : List Frame} {next : Scanner} (ended : endValue c stack = some next) :
    next.state.avoids kind = true := by
  rcases stack with _ | ⟨_ | _ | _, rest⟩ <;> grind [endValue, State.avoids]

theorem avoids_step (letters : [0x72, 0x75, 0x65, 0x61, 0x6C, 0x73].all (fun c => !kind c) = true) {s next : Scanner}
    (avoids : s.state.avoids kind = true) {c : UInt8} (stepped : s.step c = some next) :
    next.state.avoids kind = true := by
  unfold Scanner.step at stepped
  have spelled := avoids_move letters avoids c
  cases moved : move s.state c with
  | go state =>
    rw [moved] at stepped spelled
    cases stepped
    exact spelled
  | push frame state =>
    rw [moved] at stepped spelled
    cases stepped
    exact spelled
  | pop =>
    rw [moved] at stepped
    rcases stack : s.stack with _ | ⟨frame, rest⟩
    · simp [stack] at stepped
    · simp only [stack, Option.some.injEq] at stepped
      rw [← stepped]
      rfl
  | close =>
    rw [moved] at stepped
    exact avoids_endValue stepped
  | fail =>
    rw [moved] at stepped
    cases stepped

end Avoids

def isSpecial (c : UInt8) : Bool := isHTML c || 0x80 ≤ c

theorem special_bytes : ∀ c : UInt8, isSpecial c = true → isSpace c = false ∧ isDigit c = false ∧ isHex c = false ∧
    c ∉ [quote, backslash, comma, colon, minus, openBrace, closeBrace, openBracket, closeBracket, 0x2E, 0x65, 0x45,
      0x2B, 0x62, 0x66, 0x6E, 0x72, 0x74, 0x2F, 0x75, 0x30] ∧ ¬c < 0x20 := by
  decide +kernel

theorem endValue_special {c : UInt8} (special : isSpecial c = true) (stack : List Frame) : endValue c stack = none := by
  obtain ⟨noSpace, -, -, absent, -⟩ := special_bytes c special
  simp only [List.mem_cons, List.not_mem_nil, or_false, not_or] at absent
  rcases stack with _ | ⟨_ | _ | _, rest⟩ <;> simp [endValue, noSpace, absent]

theorem move_special {state : State} (plain : state.avoids isSpecial = true) {c : UInt8} (special : isSpecial c = true) :
    move state c = .fail ∨ move state c = .close ∨ state = .inString ∧ move state c = .go .inString := by
  obtain ⟨noSpace, noDigit, noHex, absent, visible⟩ := special_bytes c special
  simp only [List.mem_cons, List.not_mem_nil, or_false, not_or] at absent
  cases state with
  | inString => simp [move, absent, visible]
  | literal rest =>
    have other (d : UInt8) (expected : d ∈ rest) : c ≠ d := by
      rintro rfl
      simpa [special] using List.all_eq_true.mp plain c expected
    rcases rest with _ | ⟨last, _ | _⟩ <;> simp [move, other]
  | inStringEscU left => cases left <;> simp [move, noHex]
  | _ => simp [move, beginValue, beginString, afterInteger, exponent, noSpace, noDigit, absent]

theorem step_special {s next : Scanner} (plain : s.state.avoids isSpecial = true) {c : UInt8} (special : isSpecial c = true)
    (stepped : s.step c = some next) : s.state = .inString ∧ next = s := by
  unfold Scanner.step at stepped
  rcases move_special plain special with moved | moved | ⟨inside, moved⟩
  · rw [moved] at stepped
    cases stepped
  · rw [moved] at stepped
    exact absurd stepped (by simp [endValue_special special])
  · rw [moved] at stepped
    cases stepped
    exact ⟨inside, by rw [← inside]⟩

theorem scan_special {s final : Scanner} {c : UInt8} {rest : Text} (plain : s.state.avoids isSpecial = true)
    (special : isSpecial c = true) (scanned : s.tight (c :: rest) = some final) :
    (s.tight rest = some final ∧ s.depth (c :: rest) = s.depth rest) ∧ ∀ n more,
      s.tight (unicodeEscape n ++ more) = s.tight more ∧ s.depth (unicodeEscape n ++ more) = s.depth more := by
  obtain ⟨-, next, stepped, later⟩ := Scanner.of_tight_cons scanned
  obtain ⟨inside, rfl⟩ := step_special plain special stepped
  refine ⟨⟨later, ?_⟩, fun n more => ?_⟩
  · rw [Scanner.depth_cons stepped, max_eq_right (next.stack_le_depth rest)]
  · obtain ⟨state, stack⟩ := next
    cases inside
    have framed := Scanner.depth_frame (Scanner.scan_of_tight (tight_unicodeEscape n [])).1 stack
    rw [Scanner.depth_inner rfl, Nat.zero_add] at framed
    rw [Scanner.tight_append, tight_unicodeEscape, Option.bind_some,
      Scanner.depth_append (Scanner.scan_of_tight (tight_unicodeEscape n stack)).1]
    exact ⟨rfl, (congrArg (max · _) framed).trans (max_eq_right (Scanner.stack_le_depth ⟨.inString, stack⟩ more))⟩

theorem scan_escapeHTML {s final : Scanner} {text : Text} (plain : s.state.avoids isSpecial = true)
    (scanned : s.tight text = some final) :
    s.tight (escapeHTML text) = some final ∧ s.depth (escapeHTML text) = s.depth text := by
  have separator {s : Scanner} {last : UInt8} {rest : Text} (plain : s.state.avoids isSpecial = true)
      (special : isSpecial last = true) (scanned : s.tight (0xE2 :: 0x80 :: last :: rest) = some final) :
      (s.tight rest = some final ∧ s.depth (0xE2 :: 0x80 :: last :: rest) = s.depth rest) ∧ ∀ n more,
        s.tight (unicodeEscape n ++ more) = s.tight more ∧ s.depth (unicodeEscape n ++ more) = s.depth more := by
    obtain ⟨⟨second, flat⟩, -⟩ := scan_special plain (by decide) scanned
    obtain ⟨⟨third, flat'⟩, -⟩ := scan_special plain (by decide) second
    obtain ⟨⟨later, flat''⟩, escape⟩ := scan_special plain special third
    exact ⟨⟨later, flat.trans (flat'.trans flat'')⟩, escape⟩
  fun_induction escapeHTML text generalizing s with
  | case1 => exact ⟨scanned, rfl⟩
  | case2 rest ih =>
    obtain ⟨⟨later, flat⟩, escape⟩ := separator plain (by decide) scanned
    rw [(escape _ _).1, (escape _ _).2, flat]
    exact ih plain later
  | case3 rest ih =>
    obtain ⟨⟨later, flat⟩, escape⟩ := separator plain (by decide) scanned
    rw [(escape _ _).1, (escape _ _).2, flat]
    exact ih plain later
  | case4 c rest _ _ ih =>
    split
    next html =>
      obtain ⟨⟨later, flat⟩, escape⟩ := scan_special plain (by rw [isSpecial, html]; rfl) scanned
      rw [(escape _ _).1, (escape _ _).2, flat]
      exact ih plain later
    next =>
      obtain ⟨kept, next, stepped, later⟩ := Scanner.of_tight_cons scanned
      have rest := ih (avoids_step (by decide) plain stepped) later
      rw [List.singleton_append, Scanner.tight_cons _ kept stepped, Scanner.depth_cons stepped,
        Scanner.depth_cons stepped, rest.2]
      exact ⟨rest.1, rfl⟩

/-- A valid text without white space between tokens is a value once it is escaped. -/
theorem value_escapeHTML {text : Text} (whole : valid text = true) (same : Scanner.start.strip text = text) :
    Value (escapeHTML text) ∧ depth (escapeHTML text) = depth text := by
  obtain ⟨final, scanned, ended, shallow⟩ := valid_iff.mp whole
  have tight := Scanner.tight_of_strip scanned same
  obtain ⟨again, deep⟩ := scan_escapeHTML rfl tight
  have deep : depth (escapeHTML text) = depth text := deep
  obtain ⟨rescanned, unchanged⟩ := Scanner.scan_of_tight again
  have settled : Settled (escapeHTML text) :=
    ⟨valid_iff.mpr ⟨final, rescanned, ended, deep.le.trans shallow⟩, unchanged, escapeHTML_idem text⟩
  exact ⟨settled.toValue, deep⟩

inductive Body : Text → Prop where
  | nil : Body []
  | short {b : UInt8} {rest : Text} (known : b ∈ [0x62, 0x66, 0x6E, 0x72, 0x74, backslash, 0x2F, quote])
      (more : Body rest) : Body (backslash :: b :: rest)
  | unicode {a b c d : UInt8} {rest : Text} (digits : ∀ digit ∈ [a, b, c, d], isHex digit = true)
      (more : Body rest) : Body (backslash :: 0x75 :: a :: b :: c :: d :: rest)
  | plain {c : UInt8} {rest : Text} (noQuote : c ≠ quote) (noBackslash : c ≠ backslash)
      (more : Body rest) : Body (c :: rest)

def State.afterDigit : Nat → State
  | 0 => .inString
  | left + 1 => .inStringEscU left

theorem digit_of_tight {left : Nat} {text : Text} {state : State} (ends : state.closes = true)
    (scanned : Scanner.tight ⟨.inStringEscU left, []⟩ text = some ⟨state, []⟩) :
    ∃ digit rest, text = digit :: rest ∧ isHex digit = true ∧
      Scanner.tight ⟨.afterDigit left, []⟩ rest = some ⟨state, []⟩ := by
  cases text with
  | nil =>
    cases scanned
    cases ends
  | cons c rest =>
    obtain ⟨-, next, stepped, later⟩ := Scanner.of_tight_cons scanned
    cases hex : isHex c with
    | false => cases left <;> simp [Scanner.step, move, hex] at stepped
    | true =>
      refine ⟨c, rest, rfl, hex, ?_⟩
      cases left <;> simp only [Scanner.step, move, hex, if_true, Option.some.injEq] at stepped
      · exact stepped ▸ later
      · exact stepped ▸ later

theorem escape_of_tight {text : Text} {state : State} (ends : state.closes = true)
    (scanned : Scanner.tight ⟨.inStringEsc, []⟩ text = some ⟨state, []⟩) :
    ∃ used rest, text = used ++ rest ∧ (∀ body, Body body → Body (backslash :: (used ++ body))) ∧
      Scanner.tight ⟨.inString, []⟩ rest = some ⟨state, []⟩ := by
  cases text with
  | nil =>
    cases scanned
    cases ends
  | cons b rest =>
    obtain ⟨-, next, stepped, later⟩ := Scanner.of_tight_cons scanned
    by_cases short : b ∈ [0x62, 0x66, 0x6E, 0x72, 0x74, backslash, 0x2F, quote]
    · simp only [Scanner.step, move, if_pos short, Option.some.injEq] at stepped
      exact ⟨[b], rest, rfl, fun body more => .short short more, by rwa [stepped]⟩
    · by_cases unicode : b = 0x75
      · simp only [Scanner.step, move, if_neg short, if_pos unicode, Option.some.injEq] at stepped
        subst stepped unicode
        obtain ⟨first, rest, rfl, hex, later⟩ := digit_of_tight ends later
        obtain ⟨second, rest, rfl, hex', later⟩ := digit_of_tight ends later
        obtain ⟨third, rest, rfl, hex'', later⟩ := digit_of_tight ends later
        obtain ⟨fourth, rest, rfl, hex''', later⟩ := digit_of_tight ends later
        refine ⟨[0x75, first, second, third, fourth], rest, rfl, fun body more => ?_, later⟩
        exact .unicode (by simp [hex, hex', hex'', hex''']) more
      · simp [Scanner.step, move, short, unicode] at stepped

theorem body_of_tight {state : State} (ends : state.closes = true) :
    ∀ {text : Text}, Scanner.tight ⟨.inString, []⟩ text = some ⟨state, []⟩ → ∃ body, text = body ++ [quote] ∧ Body body
  | [], scanned => by
    cases scanned
    cases ends
  | c :: rest, scanned => by
    obtain ⟨-, next, stepped, later⟩ := Scanner.of_tight_cons scanned
    by_cases closing : c = quote
    · simp only [Scanner.step, move, if_pos closing, Option.some.injEq] at stepped
      subst stepped closing
      cases rest with
      | nil => exact ⟨[], rfl, .nil⟩
      | cons d more =>
        obtain ⟨kept, after, stepped, -⟩ := Scanner.of_tight_cons later
        have visible : isSpace d = false := by simpa [Scanner.skips] using kept
        simp [Scanner.step, move, endValue, visible] at stepped
    · by_cases escape : c = backslash
      · simp only [Scanner.step, move, if_neg closing, if_pos escape, Option.some.injEq] at stepped
        subst stepped
        obtain ⟨used, more, split, extend, later⟩ := escape_of_tight ends later
        have shorter : more.length ≤ rest.length := by simp [split]
        obtain ⟨body, rfl, known⟩ := body_of_tight ends later
        exact ⟨backslash :: (used ++ body), by simp [split, escape], extend body known⟩
      · have inside : next = ⟨.inString, []⟩ := by
          by_cases low : c < 0x20
          · simp [Scanner.step, move, closing, escape, low] at stepped
          · simp only [Scanner.step, move, if_neg closing, if_neg escape, if_neg low, Option.some.injEq] at stepped
            exact stepped.symm
        subst inside
        obtain ⟨body, rfl, known⟩ := body_of_tight ends later
        exact ⟨c :: body, rfl, .plain closing escape known⟩
  termination_by text => text.length
  decreasing_by
    · simpa using Nat.lt_succ_of_le shorter
    · simp

theorem Body.of_other {c : UInt8} {rest : Text} (body : Body (c :: rest)) (other : c ≠ backslash) : Body rest := by
  cases body with
  | short known more => exact absurd rfl other
  | unicode digits more => exact absurd rfl other
  | plain noQuote noBackslash more => exact more

theorem Body.of_continuation {tail rest : Text} (tails : ∀ b ∈ tail, 0x80 ≤ b ∧ b < 0xC0)
    (body : Body (tail ++ rest)) : Body rest := by
  induction tail with
  | nil => exact body
  | cons b tail ih =>
    have other : b ≠ backslash := by
      rintro rfl
      exact absurd (tails backslash List.mem_cons_self).1 (by decide)
    exact ih (fun c member => tails c (List.mem_cons_of_mem b member)) (Body.of_other body other)

theorem utf8_split {c : UInt8} {rest : Text} {char : Char} (wide : ¬c < 0x80)
    (decoded : ByteArray.utf8DecodeChar? (c :: rest).toByteArray 0 = some char) :
    ∃ tail more, rest = tail ++ more ∧ String.utf8EncodeChar char = c :: tail ∧
      (∀ b ∈ tail, 0x80 ≤ b ∧ b < 0xC0) ∧ 0x80 ≤ char.toNat := by
  obtain ⟨last, split⟩ := ByteArray.exists_of_utf8DecodeChar?_eq_some decoded
  have split : c :: rest = String.utf8EncodeChar char ++ last.data.toList := by
    simpa using congrArg (fun bytes => bytes.data.toList) split
  by_cases low : char.toNat < 0x80
  · rw [utf8EncodeChar_low low] at split
    have first : c = UInt8.ofNat char.toNat := (List.cons.inj split).1
    rw [first, UInt8.lt_iff_toNat_lt, toNat_ofNat_small (by omega)] at wide
    exact absurd low wide
  · obtain ⟨lead, tail, bytes, -, tails, -⟩ := utf8EncodeChar_high (not_lt.mp low)
    rw [bytes] at split
    obtain ⟨rfl, after⟩ := List.cons.inj split
    exact ⟨tail, _, after, bytes, tails, not_lt.mp low⟩

theorem utf8DecodeChar_escapeHTML {c : UInt8} (wide : ¬c < 0x80) (rest : Text) :
    ByteArray.utf8DecodeChar? (c :: escapeHTML rest).toByteArray 0 =
      ByteArray.utf8DecodeChar? (c :: rest).toByteArray 0 := by
  have whole {char : Char} {tail : Text} (bytes : String.utf8EncodeChar char = c :: tail) (more : Text) :
      ByteArray.utf8DecodeChar? (c :: (tail ++ more)).toByteArray 0 = some char := by
    rw [← List.cons_append, ← bytes, List.toByteArray_append]
    exact ByteArray.utf8DecodeChar?_utf8EncodeChar_append
  apply Option.ext
  intro char
  constructor
  · intro decoded
    obtain ⟨tail, more, split, bytes, tails, -⟩ := utf8_split wide decoded
    obtain ⟨others, rfl, -⟩ := escapeHTML_eq_append tails split
    exact whole bytes others
  · intro decoded
    obtain ⟨tail, more, rfl, bytes, tails, -⟩ := utf8_split wide decoded
    rw [escapeHTML_append_continuation tails]
    exact whole bytes (escapeHTML more)

theorem hex_plain : ∀ c : UInt8, isHex c = true → isHTML c = false ∧ c < 0x80 := by
  decide +kernel

theorem short_plain : ∀ b ∈ [0x62, 0x66, 0x6E, 0x72, 0x74, backslash, 0x2F, quote],
    isHTML b = false ∧ b < 0x80 ∧ ∃ c, ∀ rest, unescape (b :: rest) = some (c, 1) := by
  simp [unescape]
  decide

theorem escapeHTML_digits {a b c d : UInt8} (digits : ∀ digit ∈ [a, b, c, d], isHex digit = true) (rest : Text) :
    escapeHTML (backslash :: 0x75 :: a :: b :: c :: d :: rest) =
      backslash :: 0x75 :: a :: b :: c :: d :: escapeHTML rest := by
  have plain (digit : UInt8) (member : digit ∈ [a, b, c, d]) (rest : Text) :
      escapeHTML (digit :: rest) = digit :: escapeHTML rest :=
    escapeHTML_cons (hex_plain digit (digits digit member)).1 (hex_plain digit (digits digit member)).2
  rw [escapeHTML_cons (by decide) (by decide), escapeHTML_cons (by decide) (by decide), plain a (by simp),
    plain b (by simp), plain c (by simp), plain d (by simp)]

/-- A string that goes on with the second half of a surrogate pair does so in an escape. -/
theorem Body.of_lowSurrogate {text : Text} (body : Body text) (found : (lowSurrogate text).isSome = true) :
    ∃ a b c d rest, text = backslash :: 0x75 :: a :: b :: c :: d :: rest ∧
      (∀ digit ∈ [a, b, c, d], isHex digit = true) ∧ Body rest := by
  unfold lowSurrogate at found
  split at found
  next rest =>
    cases body with
    | short known more => exact absurd known (by decide)
    | unicode digits more => exact ⟨_, _, _, _, _, rfl, digits, more⟩
    | plain noQuote noBackslash more => exact absurd rfl noBackslash
  next => cases found

/-- What escaping does at the start of a text: to a byte that HTML would read, to a line separator,
and to anything else. -/
theorem escapeHTML_cases (c : UInt8) (rest : Text) :
    (isHTML c = true ∧ escapeHTML (c :: rest) = unicodeEscape c.toNat ++ escapeHTML rest) ∨
    (∃ char last more, c :: rest = 0xE2 :: 0x80 :: last :: more ∧ 0x80 ≤ last ∧ last < 0xC0 ∧
      String.utf8EncodeChar char = [0xE2, 0x80, last] ∧ 0x80 ≤ char.toNat ∧ char.toNat < 0xDC00 ∧
      escapeHTML (c :: rest) = unicodeEscape char.toNat ++ escapeHTML more) ∨
    (isHTML c = false ∧ escapeHTML (c :: rest) = c :: escapeHTML rest) := by
  generalize same : c :: rest = text
  fun_cases escapeHTML text with
  | case1 => cases same
  | case2 more => exact .inr (.inl ⟨Char.ofNat 0x2028, 0xA8, more, rfl, by decide, by decide, by decide, by decide,
      by decide, rfl⟩)
  | case3 more => exact .inr (.inl ⟨Char.ofNat 0x2029, 0xA9, more, rfl, by decide, by decide, by decide, by decide,
      by decide, rfl⟩)
  | case4 c rest absent absent' =>
    cases same
    cases html : isHTML c with
    | true => exact .inl ⟨rfl, rfl⟩
    | false => exact .inr (.inr ⟨rfl, rfl⟩)

theorem head_escapeHTML {text : Text} {c : UInt8} (other : c ≠ backslash)
    (head : (escapeHTML text).head? = some c) : text.head? = some c := by
  cases text with
  | nil => exact head
  | cons first rest =>
    rcases escapeHTML_cases first rest with ⟨-, escaped⟩ | ⟨char, last, more, -, -, -, -, -, -, escaped⟩ | ⟨-, kept⟩
    · rw [escaped] at head
      exact absurd (Option.some.inj head).symm other
    · rw [escaped] at head
      exact absurd (Option.some.inj head).symm other
    · rw [kept] at head
      exact head

theorem lowSurrogate_unicodeEscape {n : Nat} (low : n < 0xDC00) (rest : Text) :
    lowSurrogate (unicodeEscape n ++ rest) = none := by
  have number := getu4_unicodeEscape (show n < 0x10000 by omega) rest
  have shape : unicodeEscape n ++ rest = backslash :: 0x75 :: ((unicodeEscape n).drop 2 ++ rest) := rfl
  rw [shape, lowSurrogate, number]
  simp only [Option.filter_some, decide_eq_true_eq, ite_eq_right_iff, reduceCtorEq, imp_false]
  omega

theorem lowSurrogate_other {c : UInt8} (other : c ≠ backslash) (rest : Text) : lowSurrogate (c :: rest) = none := by
  unfold lowSurrogate
  split
  next same => exact absurd (List.cons.inj same).1 other
  next => rfl

theorem lowSurrogate_escapeHTML {text : Text} (body : Body text) :
    lowSurrogate (escapeHTML text) = lowSurrogate text := by
  cases body with
  | nil => rfl
  | @short b rest known more =>
    obtain ⟨html, ascii, -⟩ := short_plain b known
    rw [escapeHTML_cons (by decide) (by decide), escapeHTML_cons html ascii]
    simp only [List.mem_cons, List.not_mem_nil, or_false] at known
    rcases known with rfl | rfl | rfl | rfl | rfl | rfl | rfl | rfl <;> rfl
  | unicode digits more =>
    rw [escapeHTML_digits digits]
    rfl
  | @plain c rest noQuote noBackslash more =>
    rw [lowSurrogate_other noBackslash]
    rcases escapeHTML_cases c rest with ⟨html, escaped⟩ | ⟨char, last, others, -, -, -, -, -, low, escaped⟩ | ⟨-, kept⟩
    · have low : c.toNat < 256 := c.toNat_lt
      rw [escaped, lowSurrogate_unicodeEscape (by omega)]
    · rw [escaped, lowSurrogate_unicodeEscape low]
    · rw [kept, lowSurrogate_other noBackslash]

theorem unescapeUnicode_used (n : Nat) (rest : Text) :
    (unescapeUnicode n rest).2 = 5 ∨ (unescapeUnicode n rest).2 = 11 ∧ (lowSurrogate rest).isSome = true := by
  unfold unescapeUnicode
  split
  next =>
    split
    next low found =>
      split
      next => exact .inr ⟨rfl, by rw [found]; rfl⟩
      next => exact .inl rfl
    next => exact .inl rfl
  next => exact .inl rfl

theorem decodeChars_low {c : UInt8} (other : c ≠ backslash) (ascii : c < 0x80) (rest : Text) :
    decodeChars 0 (c :: rest) = (decodeChars 0 rest).map (Char.ofNat c.toNat :: ·) := by
  rw [decodeChars, if_neg other, if_pos ascii]

theorem decodeChars_escapeHTML {text : Text} (body : Body text) :
    decodeChars 0 (escapeHTML text) = decodeChars 0 text := by
  cases body with
  | nil => rfl
  | @short b rest known more =>
    obtain ⟨html, ascii, char, read⟩ := short_plain b known
    rw [escapeHTML_cons (by decide) (by decide), escapeHTML_cons html ascii]
    simp only [decodeChars, if_true, read, decodeChars_escapeHTML more]
  | @unicode a b c d rest digits more =>
    have number (text : Text) : unescape (0x75 :: a :: b :: c :: d :: text) =
        (getu4 [a, b, c, d]).map (fun n => unescapeUnicode n text) := rfl
    have same (n : Nat) : unescapeUnicode n (escapeHTML rest) = unescapeUnicode n rest := by
      rw [unescapeUnicode, lowSurrogate_escapeHTML more, unescapeUnicode]
    rw [escapeHTML_digits digits]
    simp only [decodeChars, if_true, number, same]
    cases getu4 [a, b, c, d] with
    | none => rfl
    | some n =>
      have taken := unescapeUnicode_used n rest
      simp only [Option.map_some]
      generalize unescapeUnicode n rest = read at taken ⊢
      obtain ⟨char, used⟩ := read
      rcases taken with five | ⟨eleven, found⟩
      · cases five
        show (decodeChars 0 (escapeHTML rest)).map (char :: ·) = (decodeChars 0 rest).map (char :: ·)
        rw [decodeChars_escapeHTML more]
      · cases eleven
        obtain ⟨_, _, _, _, last, rfl, digits, after⟩ := more.of_lowSurrogate found
        rw [escapeHTML_digits digits]
        show (decodeChars 0 (escapeHTML last)).map (char :: ·) = (decodeChars 0 last).map (char :: ·)
        rw [decodeChars_escapeHTML after]
  | @plain c rest noQuote noBackslash more =>
    rcases escapeHTML_cases c rest with ⟨html, escaped⟩ |
      ⟨char, last, others, shape, low, high, bytes, wide, small, escaped⟩ | ⟨-, kept⟩
    · have ascii : c < 0x80 := by
        by_contra above
        rw [isHTML_high (UInt8.not_lt.mp above)] at html
        cases html
      have below : c.toNat < 256 := c.toNat_lt
      have number : (Char.ofNat c.toNat).toNat = c.toNat := by
        rw [Char.ofNat, dif_pos (.inl (by omega))]
        rfl
      rw [escaped, ← number, decodeChars_unicodeEscape _ (by omega), decodeChars_low noBackslash ascii,
        decodeChars_escapeHTML more]
    · obtain ⟨rfl, rfl⟩ := List.cons.inj shape
      have tails : ∀ b ∈ [0x80, last], 0x80 ≤ b ∧ b < 0xC0 := by simpa using ⟨low, high⟩
      have after : Body others := Body.of_continuation tails more
      have written : 0xE2 :: 0x80 :: last :: others = String.utf8EncodeChar char ++ others := by
        rw [bytes]
        rfl
      rw [escaped, decodeChars_unicodeEscape _ (by omega), written, decodeChars_high wide, decodeChars_escapeHTML after]
    · rw [kept]
      by_cases ascii : c < 0x80
      · rw [decodeChars_low noBackslash ascii, decodeChars_low noBackslash ascii, decodeChars_escapeHTML more]
      · cases decoded : ByteArray.utf8DecodeChar? (c :: rest).toByteArray 0 with
        | none =>
          simp only [decodeChars, if_neg noBackslash, if_neg ascii, utf8DecodeChar_escapeHTML ascii, decoded,
            decodeChars_escapeHTML more]
        | some char =>
          obtain ⟨tail, last, rfl, bytes, tails, wide⟩ := utf8_split ascii decoded
          have after := more.of_continuation tails
          rw [escapeHTML_append_continuation tails, ← List.cons_append, ← List.cons_append, ← bytes,
            decodeChars_high wide, decodeChars_high wide, decodeChars_escapeHTML after]
  termination_by text.length
  decreasing_by
    all_goals
      subst_vars
      simp only [List.length_cons, List.length_append]
      omega

theorem body_of_valid {rest : Text} (whole : valid (quote :: rest) = true)
    (same : Scanner.start.strip (quote :: rest) = quote :: rest) : ∃ body, rest = body ++ [quote] ∧ Body body := by
  obtain ⟨final, scanned, ended, -⟩ := valid_iff.mp whole
  have tight := Scanner.tight_of_strip scanned same
  obtain ⟨-, next, stepped, later⟩ := Scanner.of_tight_cons tight
  obtain ⟨ends, closed⟩ := Bool.and_eq_true_iff.mp ended
  cases stepped
  have shape : final = ⟨final.state, []⟩ := by rw [← List.isEmpty_iff.mp closed]
  rw [shape] at later
  exact body_of_tight ends later

theorem unquote_escapeHTML {rest : Text} (whole : valid (quote :: rest) = true)
    (same : Scanner.start.strip (quote :: rest) = quote :: rest) :
    unquote (escapeHTML (quote :: rest)) = unquote (quote :: rest) := by
  obtain ⟨body, rfl, known⟩ := body_of_valid whole same
  have closing : Leads [quote] := leads_cons (by decide) _
  have escaped : escapeHTML (quote :: (body ++ [quote])) = quote :: (escapeHTML body ++ [quote]) := by
    rw [escapeHTML_cons (by decide) (by decide), escapeHTML_append _ closing]
    rfl
  rw [escaped, unquote, unquote, List.dropLast_concat, List.dropLast_concat, decodeChars_escapeHTML known]

theorem length_decodeChars {skip : Nat} {text : Text} {chars : List Char}
    (decoded : decodeChars skip text = some chars) : chars.length ≤ text.length := by
  induction text generalizing skip chars with
  | nil =>
    simp only [decodeChars, Option.some.injEq] at decoded
    rw [← decoded]
    exact le_refl _
  | cons c rest ih =>
    have one {skip : Nat} {char : Char} (read : (decodeChars skip rest).map (char :: ·) = some chars) :
        chars.length ≤ (c :: rest).length := by
      obtain ⟨later, found, rfl⟩ := Option.map_eq_some_iff.mp read
      exact Nat.succ_le_succ (ih found)
    cases skip with
    | succ skip => exact (ih decoded).trans (Nat.le_succ _)
    | zero =>
      unfold decodeChars at decoded
      split at decoded
      next =>
        split at decoded
        next => exact one decoded
        next => cases decoded
      next =>
        split at decoded
        next => exact one decoded
        next =>
          split at decoded
          next => exact one decoded
          next => exact one decoded

theorem length_unquote {text : Text} {value : String} (read : unquote text = some value) :
    value.toList.length < text.length := by
  unfold unquote at read
  split at read
  next rest =>
    obtain ⟨chars, decoded, rfl⟩ := Option.map_eq_some_iff.mp read
    have bound := length_decodeChars decoded
    rw [List.length_dropLast] at bound
    rw [String.toList_ofList, List.length_cons]
    omega
  next => cases read

end EventGateway.Lib.Json
