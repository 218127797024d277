import Mathlib.Data.List.Basic
import Mathlib.Data.UInt
import Mathlib.Tactic.Common

/-! The JSON scanner of Go's `encoding/json`: one byte at a time, with a stack of the
objects and arrays that are open. On top of it the check for validity, which also bounds
the nesting, and `compact`, which drops white space between tokens and escapes what HTML
would read. -/

namespace EventGateway.Lib.Json

abbrev Text := List UInt8

abbrev quote : UInt8 := 0x22
abbrev backslash : UInt8 := 0x5C
abbrev comma : UInt8 := 0x2C
abbrev colon : UInt8 := 0x3A
abbrev minus : UInt8 := 0x2D
abbrev openBrace : UInt8 := 0x7B
abbrev closeBrace : UInt8 := 0x7D
abbrev openBracket : UInt8 := 0x5B
abbrev closeBracket : UInt8 := 0x5D
abbrev space : UInt8 := 0x20

def isSpace (c : UInt8) : Bool := c = space || c = 0x09 || c = 0x0D || c = 0x0A

def isDigit (c : UInt8) : Bool := 0x30 ≤ c && c ≤ 0x39

def isHex (c : UInt8) : Bool := isDigit c || (0x61 ≤ c && c ≤ 0x66) || (0x41 ≤ c && c ≤ 0x46)

/-- What an open composite value is waiting for: `parseState`. -/
inductive Frame where
  | objectKey
  | objectValue
  | arrayValue
  deriving DecidableEq

/-- The step functions of the scanner. `inStringEscU` counts the hexadecimal digits after
the next one, and `literal` keeps the bytes of `true`, `false` or `null` still to come. -/
inductive State where
  | beginValueOrEmpty
  | beginValue
  | beginStringOrEmpty
  | beginString
  | endValue
  | inString
  | inStringEsc
  | inStringEscU (left : Nat)
  | neg
  | one
  | zero
  | dot
  | dot0
  | e
  | eSign
  | e0
  | literal (rest : Text)
  deriving DecidableEq

/-- What a byte does to the stack: nothing, open a composite value, close an empty object,
end the value before it, or stop the scan. -/
inductive Move where
  | go (next : State)
  | push (frame : Frame) (next : State)
  | pop
  | close
  | fail
  deriving DecidableEq

def beginValue (c : UInt8) : Move :=
  if c = openBrace then .push .objectKey .beginStringOrEmpty
  else if c = openBracket then .push .arrayValue .beginValueOrEmpty
  else if c = quote then .go .inString
  else if c = minus then .go .neg
  else if c = 0x30 then .go .zero
  else if c = 0x74 then .go (.literal [0x72, 0x75, 0x65])
  else if c = 0x66 then .go (.literal [0x61, 0x6C, 0x73, 0x65])
  else if c = 0x6E then .go (.literal [0x75, 0x6C, 0x6C])
  else if isDigit c then .go .one
  else .fail

def beginString (c : UInt8) : Move :=
  if c = quote then .go .inString else .fail

def afterInteger (c : UInt8) : Move :=
  if c = 0x2E then .go .dot
  else if c = 0x65 ∨ c = 0x45 then .go .e
  else .close

def exponent (c : UInt8) : Move :=
  if isDigit c then .go .e0 else .fail

def move (state : State) (c : UInt8) : Move :=
  match state with
  | .beginValueOrEmpty =>
    if isSpace c then .go .beginValueOrEmpty else if c = closeBracket then .close else beginValue c
  | .beginValue => if isSpace c then .go .beginValue else beginValue c
  | .beginStringOrEmpty =>
    if isSpace c then .go .beginStringOrEmpty else if c = closeBrace then .pop else beginString c
  | .beginString => if isSpace c then .go .beginString else beginString c
  | .endValue => .close
  | .inString =>
    if c = quote then .go .endValue
    else if c = backslash then .go .inStringEsc
    else if c < 0x20 then .fail
    else .go .inString
  | .inStringEsc =>
    if c ∈ [0x62, 0x66, 0x6E, 0x72, 0x74, backslash, 0x2F, quote] then .go .inString
    else if c = 0x75 then .go (.inStringEscU 3)
    else .fail
  | .inStringEscU 0 => if isHex c then .go .inString else .fail
  | .inStringEscU (left + 1) => if isHex c then .go (.inStringEscU left) else .fail
  | .neg => if c = 0x30 then .go .zero else if isDigit c then .go .one else .fail
  | .one => if isDigit c then .go .one else afterInteger c
  | .zero => afterInteger c
  | .dot => if isDigit c then .go .dot0 else .fail
  | .dot0 => if isDigit c then .go .dot0 else if c = 0x65 ∨ c = 0x45 then .go .e else .close
  | .e => if c = 0x2B ∨ c = minus then .go .eSign else exponent c
  | .eSign => exponent c
  | .e0 => if isDigit c then .go .e0 else .close
  | .literal [] => .fail
  | .literal [last] => if c = last then .go .endValue else .fail
  | .literal (next :: rest) => if c = next then .go (.literal rest) else .fail

def State.closes : State → Bool
  | .endValue | .one | .zero | .dot0 | .e0 => true
  | _ => false

structure Scanner where
  state : State
  stack : List Frame
  deriving DecidableEq

/-- `stateEndValue`: what may follow a value depends on what it is part of. -/
def endValue (c : UInt8) (stack : List Frame) : Option Scanner :=
  if isSpace c then some ⟨.endValue, stack⟩
  else match stack with
  | [] => none
  | .objectKey :: rest => if c = colon then some ⟨.beginValue, .objectValue :: rest⟩ else none
  | .objectValue :: rest =>
    if c = comma then some ⟨.beginString, .objectKey :: rest⟩
    else if c = closeBrace then some ⟨.endValue, rest⟩
    else none
  | .arrayValue :: rest =>
    if c = comma then some ⟨.beginValue, .arrayValue :: rest⟩
    else if c = closeBracket then some ⟨.endValue, rest⟩
    else none

namespace Scanner

def start : Scanner := ⟨.beginValue, []⟩

def step (s : Scanner) (c : UInt8) : Option Scanner :=
  match move s.state c with
  | .go next => some ⟨next, s.stack⟩
  | .push frame next => some ⟨next, frame :: s.stack⟩
  | .pop => match s.stack with
    | [] => none
    | _ :: rest => some ⟨.endValue, rest⟩
  | .close => endValue c s.stack
  | .fail => none

def scan : Scanner → Text → Option Scanner
  | s, [] => some s
  | s, c :: rest => (s.step c).bind (fun next => next.scan rest)

def eof (s : Scanner) : Bool := s.state.closes && s.stack.isEmpty

/-- How many objects and arrays are open at once, at the most. -/
def depth : Scanner → Text → Nat
  | s, [] => s.stack.length
  | s, c :: rest => max s.stack.length (match s.step c with
    | some next => next.depth rest
    | none => 0)

/-- White space is dropped by `compact` everywhere but inside a string. -/
def skips (s : Scanner) (c : UInt8) : Bool :=
  isSpace c && match s.state with
    | .inString | .inStringEsc | .inStringEscU _ => false
    | _ => true

def strip : Scanner → Text → Text
  | _, [] => []
  | s, c :: rest => match s.step c with
    | none => c :: rest
    | some next => if s.skips c then next.strip rest else c :: next.strip rest

def tight : Scanner → Text → Option Scanner
  | s, [] => some s
  | s, c :: rest => if s.skips c then none else (s.step c).bind (fun next => next.tight rest)

end Scanner

def maxNestingDepth : Nat := 10000

def depth (text : Text) : Nat := Scanner.start.depth text

def valid (text : Text) : Bool :=
  match Scanner.start.scan text with
  | some final => final.eof && decide (depth text ≤ maxNestingDepth)
  | none => false

def hexDigit (n : Nat) : UInt8 := UInt8.ofNat (if n < 10 then 0x30 + n else 0x57 + n)

def unicodeEscape (n : Nat) : Text :=
  [backslash, 0x75, hexDigit (n / 4096 % 16), hexDigit (n / 256 % 16), hexDigit (n / 16 % 16), hexDigit (n % 16)]

def isHTML (c : UInt8) : Bool := c = 0x3C || c = 0x3E || c = 0x26

/-- Escape the bytes `<`, `>` and `&`, and the characters U+2028 and U+2029. -/
def escapeHTML : Text → Text
  | [] => []
  | 0xE2 :: 0x80 :: 0xA8 :: rest => unicodeEscape 0x2028 ++ escapeHTML rest
  | 0xE2 :: 0x80 :: 0xA9 :: rest => unicodeEscape 0x2029 ++ escapeHTML rest
  | c :: rest => (if isHTML c then unicodeEscape c.toNat else [c]) ++ escapeHTML rest

def compact (text : Text) : Option Text :=
  if valid text then some (escapeHTML (Scanner.start.strip text)) else none

/-- Valid JSON that `compact` has nothing to do on: no white space to drop and nothing to escape. -/
structure Settled (text : Text) : Prop where
  valid : valid text = true
  compact : Scanner.start.strip text = text
  escaped : escapeHTML text = text

theorem valid_iff {text : Text} : valid text = true ↔
    ∃ final, Scanner.start.scan text = some final ∧ final.eof = true ∧ depth text ≤ maxNestingDepth := by
  unfold valid
  cases Scanner.start.scan text with
  | none => simp
  | some final => simp

theorem move_of_closes {state : State} (ends : state.closes = true) {c : UInt8}
    (after : c = space ∨ c = comma ∨ c = colon ∨ c = closeBrace ∨ c = closeBracket) : move state c = .close := by
  cases state <;> simp only [State.closes, reduceCtorEq] at ends
  all_goals rcases after with rfl | rfl | rfl | rfl | rfl <;> rfl

namespace Scanner

theorem step_go {s : Scanner} {c : UInt8} {next : State} (moved : move s.state c = .go next) :
    s.step c = some ⟨next, s.stack⟩ := by
  rw [step, moved]

theorem not_skips {s : Scanner} {c : UInt8} (visible : isSpace c = false) : s.skips c = false := by
  rw [skips, visible, Bool.false_and]

theorem step_frame {s next : Scanner} {c : UInt8} (stepped : s.step c = some next) (base : List Frame) :
    step ⟨s.state, s.stack ++ base⟩ c = some ⟨next.state, next.stack ++ base⟩ := by
  unfold step at stepped ⊢
  cases moved : move s.state c with
  | go state =>
    rw [moved] at stepped
    cases stepped
    rfl
  | push frame state =>
    rw [moved] at stepped
    cases stepped
    rfl
  | pop =>
    rw [moved] at stepped
    cases stack : s.stack with
    | nil => simp [stack] at stepped
    | cons frame rest =>
      simp only [stack] at stepped
      cases stepped
      rfl
  | close =>
    rw [moved] at stepped
    simp only [endValue] at stepped ⊢
    split at stepped
    next blank =>
      cases stepped
      simp only [blank, if_true]
    next other =>
      simp only [other]
      cases stack : s.stack with
      | nil => simp [stack] at stepped
      | cons frame rest =>
        cases frame <;> simp only [stack] at stepped <;> simp only [List.cons_append] <;> grind
  | fail =>
    rw [moved] at stepped
    cases stepped

theorem stack_le_depth (s : Scanner) (text : Text) : s.stack.length ≤ s.depth text := by
  cases text with
  | nil => exact le_rfl
  | cons c rest => exact le_max_left _ _

theorem depth_cons {s next : Scanner} {c : UInt8} (stepped : s.step c = some next) (rest : Text) :
    s.depth (c :: rest) = max s.stack.length (next.depth rest) := by
  rw [depth, stepped]

theorem depth_frame {s final : Scanner} {text : Text} (scanned : s.scan text = some final) (base : List Frame) :
    depth ⟨s.state, s.stack ++ base⟩ text = s.depth text + base.length := by
  induction text generalizing s with
  | nil => exact List.length_append
  | cons c rest ih =>
    obtain ⟨next, stepped, later⟩ := Option.bind_eq_some_iff.mp scanned
    rw [depth_cons (step_frame stepped base), depth_cons stepped, ih later, List.length_append]
    exact Nat.add_max_add_right _ _ _

theorem depth_append {s next : Scanner} {first : Text} (scanned : s.scan first = some next) (second : Text) :
    s.depth (first ++ second) = max (s.depth first) (next.depth second) := by
  induction first generalizing s with
  | nil =>
    cases scanned
    exact (max_eq_right (stack_le_depth _ second)).symm
  | cons c rest ih =>
    obtain ⟨after, stepped, later⟩ := Option.bind_eq_some_iff.mp scanned
    rw [List.cons_append, depth_cons stepped, depth_cons stepped, ih later, max_assoc]

theorem of_tight_cons {s final : Scanner} {c : UInt8} {rest : Text} (scanned : s.tight (c :: rest) = some final) :
    s.skips c = false ∧ ∃ next, s.step c = some next ∧ next.tight rest = some final := by
  unfold tight at scanned
  split at scanned
  next => cases scanned
  next kept => exact ⟨Bool.eq_false_iff.mpr kept, Option.bind_eq_some_iff.mp scanned⟩

theorem tight_frame {s final : Scanner} {text : Text} (scanned : s.tight text = some final)
    (base : List Frame) :
    tight ⟨s.state, s.stack ++ base⟩ text = some ⟨final.state, final.stack ++ base⟩ := by
  induction text generalizing s with
  | nil =>
    cases scanned
    rfl
  | cons c rest ih =>
    obtain ⟨kept, next, stepped, later⟩ := of_tight_cons scanned
    have same : skips ⟨s.state, s.stack ++ base⟩ c = s.skips c := rfl
    rw [tight, same, kept, step_frame stepped base]
    exact ih later

theorem tight_cons {s next : Scanner} {c : UInt8} (rest : Text) (kept : s.skips c = false)
    (stepped : s.step c = some next) : s.tight (c :: rest) = next.tight rest := by
  rw [tight, kept, stepped]
  rfl

theorem tight_append (s : Scanner) (first second : Text) :
    s.tight (first ++ second) = (s.tight first).bind (fun next => next.tight second) := by
  induction first generalizing s with
  | nil => rfl
  | cons c rest ih =>
    simp only [List.cons_append, tight]
    split
    · rfl
    · rw [Option.bind_assoc]
      exact congrArg (s.step c).bind (funext ih)

theorem scan_of_tight {s final : Scanner} {text : Text} (scanned : s.tight text = some final) :
    s.scan text = some final ∧ s.strip text = text := by
  induction text generalizing s with
  | nil => exact ⟨scanned, rfl⟩
  | cons c rest ih =>
    obtain ⟨kept, next, stepped, later⟩ := of_tight_cons scanned
    obtain ⟨whole, same⟩ := ih later
    simp only [scan, strip, stepped, Option.bind_some, kept, Bool.false_eq_true, if_false]
    exact ⟨whole, congrArg (c :: ·) same⟩

theorem strip_length_le (s : Scanner) (text : Text) : (s.strip text).length ≤ text.length := by
  induction text generalizing s with
  | nil => exact le_rfl
  | cons c rest ih =>
    unfold strip
    split
    next => exact le_rfl
    next next _ =>
      have bound := ih next
      split
      · exact bound.trans (Nat.le_succ _)
      · exact Nat.succ_le_succ bound

theorem tight_of_strip {s final : Scanner} {text : Text} (scanned : s.scan text = some final)
    (same : s.strip text = text) : s.tight text = some final := by
  induction text generalizing s with
  | nil => exact scanned
  | cons c rest ih =>
    obtain ⟨next, stepped, scanned⟩ := Option.bind_eq_some_iff.mp scanned
    simp only [strip, stepped] at same
    split at same
    next skipped =>
      have bound := next.strip_length_le rest
      rw [same, List.length_cons] at bound
      omega
    next kept =>
      simp only [tight, kept, stepped, Option.bind_some]
      exact ih scanned (List.cons.inj same).2

end Scanner

/-! ### Scalars -/

/-- Inside a scalar or after it, where nothing can be opened. -/
def State.inner : State → Bool
  | .beginValueOrEmpty | .beginValue | .beginStringOrEmpty | .beginString => false
  | _ => true

def Move.inner : Move → Bool
  | .go next => next.inner
  | .close | .fail => true
  | .push _ _ | .pop => false

theorem inner_ite {p : Prop} [Decidable p] {yes no : Move} (left : yes.inner = true) (right : no.inner = true) :
    (if p then yes else no).inner = true := by
  split
  next => exact left
  next => exact right

theorem inner_move {state : State} (inner : state.inner = true) (c : UInt8) : (move state c).inner = true := by
  cases state with
  | literal rest =>
    rcases rest with _ | ⟨first, _ | ⟨second, rest⟩⟩
    · rfl
    · exact inner_ite rfl rfl
    · rw [move]
      · exact inner_ite rfl rfl
      · exact List.cons_ne_nil second rest
  | inStringEscU left => cases left <;> exact inner_ite rfl rfl
  | beginValueOrEmpty | beginValue | beginStringOrEmpty | beginString => cases inner
  | _ =>
    unfold move
    repeat' apply inner_ite
    all_goals rfl

theorem Scanner.depth_inner {state : State} (inner : state.inner = true) (text : Text) : depth ⟨state, []⟩ text = 0 := by
  induction text generalizing state with
  | nil => rfl
  | cons c rest ih =>
    have moves := inner_move inner c
    cases stepped : Scanner.step ⟨state, []⟩ c with
    | none => rw [depth, stepped]; rfl
    | some next =>
      rw [depth_cons stepped]
      unfold Scanner.step at stepped
      cases moved : move state c with
      | go later =>
        rw [moved] at moves stepped
        cases stepped
        exact (Nat.zero_max _).trans (ih moves)
      | close =>
        simp only [moved, endValue] at stepped
        split at stepped
        next =>
          cases stepped
          exact (Nat.zero_max _).trans (ih rfl)
        next => cases stepped
      | push | pop =>
        rw [moved] at moves
        cases moves
      | fail =>
        rw [moved] at stepped
        cases stepped

def Leads (text : Text) : Prop := ∀ c ∈ text.head?, c < 0x80 ∨ 0xC0 ≤ c

theorem append_ne_tail {rest second : Text} (leads : Leads second) {last : UInt8}
    (tail : 0x80 ≤ last ∧ last < 0xC0) (absent : ∀ more, rest ≠ 0x80 :: last :: more) (more : Text) :
    rest ++ second ≠ 0x80 :: last :: more := by
  match rest with
  | [] =>
    rintro rfl
    exact absurd (leads 0x80 rfl) (by decide)
  | [c] =>
    rintro same
    obtain ⟨-, rfl⟩ := List.cons.inj same
    rcases leads last rfl with low | high
    · exact absurd low (UInt8.not_lt.mpr tail.1)
    · exact absurd high (UInt8.not_le.mpr tail.2)
  | c :: d :: others =>
    intro same
    obtain ⟨first, same⟩ := List.cons.inj same
    obtain ⟨next, -⟩ := List.cons.inj same
    exact absent others (by rw [first, next])

theorem escapeHTML_append (first : Text) {second : Text} (leads : Leads second) :
    escapeHTML (first ++ second) = escapeHTML first ++ escapeHTML second := by
  fun_induction escapeHTML first with
  | case1 => rfl
  | case2 rest ih => simp only [List.cons_append, escapeHTML, ih, List.append_assoc]
  | case3 rest ih => simp only [List.cons_append, escapeHTML, ih, List.append_assoc]
  | case4 c rest absent absent' ih =>
    rw [List.cons_append, escapeHTML.eq_4 c (rest ++ second), ih, List.append_assoc]
    · intro more lead
      exact append_ne_tail leads (by decide) (fun more same => absent more lead same) more
    · intro more lead
      exact append_ne_tail leads (by decide) (fun more same => absent' more lead same) more

theorem escapeHTML_cons {c : UInt8} {rest : Text} (plain : isHTML c = false) (ascii : c < 0x80) :
    escapeHTML (c :: rest) = c :: escapeHTML rest := by
  have other : c ≠ 0xE2 := by
    rintro rfl
    exact absurd ascii (by decide)
  rw [escapeHTML.eq_4 c rest (fun _ lead => absurd lead other) (fun _ lead => absurd lead other), plain]
  rfl

/-- A text that reads as one value wherever a value may stand, on which `compact` has
nothing to do. -/
structure Value (text : Text) : Prop where
  tight : ∃ state : State, state.closes = true ∧
    ∀ base, Scanner.tight ⟨.beginValue, base⟩ text = some ⟨state, base⟩
  escaped : escapeHTML text = text

theorem Settled.toValue {text : Text} (settled : Settled text) : Value text := by
  refine ⟨?_, settled.escaped⟩
  obtain ⟨final, scanned, whole, -⟩ := valid_iff.mp settled.valid
  have tight := Scanner.tight_of_strip scanned settled.compact
  obtain ⟨ends, closed⟩ := Bool.and_eq_true_iff.mp whole
  refine ⟨final.state, ends, fun base => ?_⟩
  have framed := Scanner.tight_frame tight base
  rwa [List.isEmpty_iff.mp closed] at framed

namespace Value
variable {text : Text}

theorem valid_iff (value : Value text) : Json.valid text = true ↔ depth text ≤ maxNestingDepth := by
  obtain ⟨state, ends, tight⟩ := value.tight
  have scanned : Scanner.start.scan text = some ⟨state, []⟩ := (Scanner.scan_of_tight (tight [])).1
  have whole : Scanner.eof ⟨state, []⟩ = true := Bool.and_eq_true_iff.mpr ⟨ends, rfl⟩
  simp [Json.valid, scanned, whole]

theorem strip (value : Value text) : Scanner.start.strip text = text := by
  obtain ⟨state, ends, tight⟩ := value.tight
  exact (Scanner.scan_of_tight (tight [])).2

theorem compact (value : Value text) (shallow : depth text ≤ maxNestingDepth) : Json.compact text = some text := by
  rw [Json.compact, if_pos (value.valid_iff.mpr shallow), value.strip, value.escaped]

theorem of_compact (value : Value text) {written : Text} (compacted : Json.compact text = some written) :
    written = text ∧ depth text ≤ maxNestingDepth := by
  obtain ⟨whole, same⟩ := Option.ite_none_right_eq_some.mp compacted
  rw [value.strip, value.escaped] at same
  exact ⟨(Option.some.inj same).symm, value.valid_iff.mp whole⟩

theorem settled (value : Value text) (shallow : depth text ≤ maxNestingDepth) : Settled text :=
  ⟨value.valid_iff.mpr shallow, value.strip, value.escaped⟩

theorem depth_frame (value : Value text) (base : List Frame) :
    Scanner.depth ⟨.beginValue, base⟩ text = depth text + base.length := by
  obtain ⟨state, ends, tight⟩ := value.tight
  exact Scanner.depth_frame (Scanner.scan_of_tight (tight [])).1 base

/-- A value that is no object and no array has no depth. -/
theorem depth_scalar (value : Value text) (plain : ∀ c ∈ text.head?, c ≠ openBrace ∧ c ≠ openBracket) :
    depth text = 0 := by
  obtain ⟨state, ends, tight⟩ := value.tight
  cases text with
  | nil => rfl
  | cons c rest =>
    obtain ⟨kept, next, stepped, -⟩ := Scanner.of_tight_cons (tight [])
    have visible : isSpace c = false := by simpa [Scanner.skips] using kept
    obtain ⟨noBrace, noBracket⟩ := plain c rfl
    have moves : (move .beginValue c).inner = true := by
      simp only [move, visible, beginValue, noBrace, noBracket, Bool.false_eq_true, if_false]
      repeat' apply inner_ite
      all_goals rfl
    rw [depth, Scanner.start, Scanner.depth_cons stepped]
    unfold Scanner.step at stepped
    cases moved : move .beginValue c with
    | go later =>
      rw [moved] at moves stepped
      cases stepped
      exact (Nat.zero_max _).trans (Scanner.depth_inner moves rest)
    | close =>
      simp only [moved, endValue, visible] at stepped
      cases stepped
    | push | pop =>
      rw [moved] at moves
      cases moves
    | fail =>
      rw [moved] at stepped
      cases stepped

end Value

end EventGateway.Lib.Json
