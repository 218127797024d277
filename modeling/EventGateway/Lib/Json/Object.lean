import EventGateway.Lib.Json.Text
import Mathlib.Data.Nat.Digits.Lemmas

/-! Integers and objects as `encoding/json` writes and reads them. The values of an
object are kept as text, so that each may be read in its own way. -/

namespace EventGateway.Lib.Json

def digitByte (d : Nat) : UInt8 := UInt8.ofNat (0x30 + d)

def encodeNat (n : Nat) : Text :=
  if n = 0 then [digitByte 0] else (Nat.digits 10 n).reverse.map digitByte

def encodeInt (n : Int64) : Text :=
  if n.toInt < 0 then minus :: encodeNat n.toInt.natAbs else encodeNat n.toInt.natAbs

def parseNat (text : Text) : Option Nat :=
  if text ≠ [] ∧ text.all isDigit then some (text.foldl (fun n c => 10 * n + (c.toNat - 0x30)) 0) else none

def parseInt : Text → Option Int64
  | 0x2D :: rest => (parseNat rest).bind (fun n =>
      if n ≤ 2 ^ 63 then some (Int64.ofInt (-(n : Int))) else none)
  | text => (parseNat text).bind (fun n => if n < 2 ^ 63 then some (Int64.ofInt n) else none)

theorem digitByte_isDigit : ∀ d < 10, isDigit (digitByte d) = true := by decide

theorem digitByte_value : ∀ d < 10, (digitByte d).toNat - 0x30 = d := by decide

theorem digitByte_plain : ∀ d < 10, isHTML (digitByte d) = false ∧ digitByte d < 0x80 := by decide

theorem digitByte_kept : ∀ d < 10, isSpace (digitByte d) = false := by decide

theorem move_one_digit : ∀ d < 10, move .one (digitByte d) = .go .one := by decide

theorem move_first_digit :
    ∀ d < 10, d ≠ 0 → move .beginValue (digitByte d) = .go .one ∧ move .neg (digitByte d) = .go .one := by
  decide

theorem digits_split {n : Nat} (positive : n ≠ 0) :
    ∃ first rest, (Nat.digits 10 n).reverse = first :: rest ∧ first ≠ 0 ∧
      (∀ d ∈ first :: rest, d < 10) ∧ (first :: rest).foldl (fun n d => 10 * n + d) 0 = n := by
  have nonempty : Nat.digits 10 n ≠ [] := Nat.digits_ne_nil_iff_ne_zero.mpr positive
  have bound : ∀ d ∈ (Nat.digits 10 n).reverse, d < 10 := fun d member =>
    Nat.digits_lt_base (by decide) (List.mem_reverse.mp member)
  have total : (Nat.digits 10 n).reverse.foldl (fun n d => 10 * n + d) 0 = n := by
    have value := Nat.ofDigits_digits 10 n
    rw [Nat.ofDigits_eq_foldr] at value
    rw [List.foldl_reverse]
    simpa only [Nat.add_comm, Nat.cast_id] using value
  cases split : (Nat.digits 10 n).reverse with
  | nil => exact absurd (List.reverse_eq_nil_iff.mp split) nonempty
  | cons first rest =>
    have leading := Nat.getLast_digit_ne_zero 10 positive
    rw [split] at bound total
    have shape : Nat.digits 10 n = rest.reverse ++ [first] := by
      rw [← List.reverse_reverse (Nat.digits 10 n), split, List.reverse_cons]
    simp only [shape, List.getLast_append_singleton] at leading
    exact ⟨first, rest, rfl, leading, bound, total⟩

theorem parseNat_digits {digits : List Nat} (nonempty : digits ≠ []) (bound : ∀ d ∈ digits, d < 10) :
    parseNat (digits.map digitByte) = some (digits.foldl (fun n d => 10 * n + d) 0) := by
  have shape : digits.map digitByte ≠ [] ∧ (digits.map digitByte).all isDigit = true := by
    refine ⟨by simpa using nonempty, List.all_eq_true.mpr ?_⟩
    intro c member
    obtain ⟨d, known, rfl⟩ := List.mem_map.mp member
    exact digitByte_isDigit d (bound d known)
  have step (start : Nat) (digits : List Nat) (bound : ∀ d ∈ digits, d < 10) :
      (digits.map digitByte).foldl (fun n c => 10 * n + (c.toNat - 0x30)) start =
        digits.foldl (fun n d => 10 * n + d) start := by
    induction digits generalizing start with
    | nil => rfl
    | cons d rest ih =>
      rw [List.map_cons, List.foldl_cons, List.foldl_cons, digitByte_value d (bound d List.mem_cons_self)]
      exact ih _ (fun other member => bound other (List.mem_cons_of_mem d member))
  rw [parseNat, if_pos shape, step 0 digits bound]

theorem encodeNat_digits (n : Nat) :
    ∃ digits, encodeNat n = digits.map digitByte ∧ digits ≠ [] ∧ (∀ d ∈ digits, d < 10) ∧
      digits.foldl (fun n d => 10 * n + d) 0 = n := by
  by_cases zero : n = 0
  · refine ⟨[0], by rw [encodeNat, if_pos zero]; rfl, by decide, by decide, zero.symm⟩
  · obtain ⟨first, rest, split, -, bound, total⟩ := digits_split zero
    exact ⟨first :: rest, by rw [encodeNat, if_neg zero, split], List.cons_ne_nil _ _, bound, total⟩

theorem parseNat_encodeNat (n : Nat) : parseNat (encodeNat n) = some n := by
  obtain ⟨digits, written, nonempty, bound, total⟩ := encodeNat_digits n
  rw [written, parseNat_digits nonempty bound, total]

theorem encodeNat_ne_minus (n : Nat) (rest : Text) : encodeNat n ≠ minus :: rest := by
  obtain ⟨digits, written, nonempty, bound, -⟩ := encodeNat_digits n
  rw [written]
  cases digits with
  | nil => exact absurd rfl nonempty
  | cons d more =>
    intro same
    have first := (List.cons.inj same).1
    have digit := digitByte_isDigit d (bound d List.mem_cons_self)
    rw [first] at digit
    exact absurd digit (by decide)

theorem parseInt_encodeInt (n : Int64) : parseInt (encodeInt n) = some n := by
  have low := n.le_toInt
  have high := n.toInt_lt
  unfold encodeInt
  split
  next negative =>
    have whole : -((n.toInt.natAbs : Nat) : Int) = n.toInt := by omega
    have range : n.toInt.natAbs ≤ 2 ^ 63 := by omega
    rw [parseInt, parseNat_encodeNat, Option.bind_some, if_pos range, whole, Int64.ofInt_toInt]
  next positive =>
    have whole : ((n.toInt.natAbs : Nat) : Int) = n.toInt := by omega
    have range : n.toInt.natAbs < 2 ^ 63 := by omega
    rw [parseInt, parseNat_encodeNat, Option.bind_some, if_pos range, whole, Int64.ofInt_toInt]
    exact encodeNat_ne_minus _

theorem tight_digits {digits : List Nat} (bound : ∀ d ∈ digits, d < 10) (base : List Frame) :
    Scanner.tight ⟨.one, base⟩ (digits.map digitByte) = some ⟨.one, base⟩ := by
  induction digits with
  | nil => rfl
  | cons d rest ih =>
    have digit := bound d List.mem_cons_self
    rw [List.map_cons, Scanner.tight_cons _ (Scanner.not_skips (digitByte_kept d digit))
      (Scanner.step_go (move_one_digit d digit))]
    exact ih (fun other member => bound other (List.mem_cons_of_mem d member))

/-- Written digits are scanned as an integer, from the start of a value or after a sign. -/
theorem tight_encodeNat (n : Nat) :
    ∃ state : State, state.closes = true ∧ ∀ base,
      Scanner.tight ⟨.beginValue, base⟩ (encodeNat n) = some ⟨state, base⟩ ∧
      Scanner.tight ⟨.neg, base⟩ (encodeNat n) = some ⟨state, base⟩ := by
  by_cases zero : n = 0
  · refine ⟨.zero, rfl, fun base => ?_⟩
    rw [encodeNat, if_pos zero]
    exact ⟨rfl, rfl⟩
  · obtain ⟨first, rest, split, leading, bound, -⟩ := digits_split zero
    have digit := bound first List.mem_cons_self
    have kept (s : Scanner) : s.skips (digitByte first) = false := Scanner.not_skips (digitByte_kept first digit)
    have moved := move_first_digit first digit leading
    have others := tight_digits (fun d member => bound d (List.mem_cons_of_mem first member))
    refine ⟨.one, rfl, fun base => ?_⟩
    rw [encodeNat, if_neg zero, split, List.map_cons, Scanner.tight_cons _ (kept _) (Scanner.step_go moved.1),
      Scanner.tight_cons _ (kept _) (Scanner.step_go moved.2)]
    exact ⟨others base, others base⟩

theorem value_encodeInt (n : Int64) : Value (encodeInt n) := by
  obtain ⟨digits, written, -, bound, -⟩ := encodeNat_digits n.toInt.natAbs
  have plain : escapeHTML (encodeNat n.toInt.natAbs) = encodeNat n.toInt.natAbs := by
    rw [written]
    apply escapeHTML_ascii
    intro c member
    obtain ⟨d, known, rfl⟩ := List.mem_map.mp member
    exact digitByte_plain d (bound d known)
  obtain ⟨state, ends, tight⟩ := tight_encodeNat n.toInt.natAbs
  unfold encodeInt
  split
  next =>
    refine ⟨⟨state, ends, fun base => ?_⟩, ?_⟩
    · have signed : Scanner.step ⟨.beginValue, base⟩ minus = some ⟨.neg, base⟩ := rfl
      rw [Scanner.tight_cons _ rfl signed]
      exact (tight base).2
    · rw [escapeHTML_cons (by decide) (by decide), plain]
  next => exact ⟨⟨state, ends, fun base => (tight base).1⟩, plain⟩

abbrev Member := String × Text

def encodeMember (member : Member) : Text := encodeString member.1 ++ colon :: member.2

def encodeRest : List Member → Text
  | [] => [closeBrace]
  | member :: rest => comma :: (encodeMember member ++ encodeRest rest)

def encodeObject : List Member → Text
  | [] => [openBrace, closeBrace]
  | member :: rest => openBrace :: (encodeMember member ++ encodeRest rest)

/-- Where the reader of an object stands: between members, after a name, or in the text of
a name or of a value, which has a scanner of its own. -/
inductive Phase where
  | between
  | named (name : Text)
  | reading (name : Option Text) (s : Scanner) (text : Text)

def endsText (s : Scanner) (c : UInt8) : Bool :=
  s.eof && (isSpace c || c = comma || c = colon || c = closeBrace)

/-- The members of the object from here on, each with the text of its name and of its
value. The object is one that the scanner has accepted. -/
def membersFrom : Phase → Text → List (Text × Text)
  | _, [] => []
  | .between, c :: rest =>
    if c = quote then membersFrom (.reading none ⟨.inString, []⟩ [c]) rest else membersFrom .between rest
  | .named name, c :: rest =>
    if isSpace c || c = colon then membersFrom (.named name) rest
    else match Scanner.start.step c with
    | some next => membersFrom (.reading (some name) next [c]) rest
    | none => []
  | .reading name s text, c :: rest =>
    if endsText s c then
      match name with
      | none => membersFrom (.named text) rest
      | some name => (name, text) :: membersFrom .between rest
    else match s.step c with
    | some next => membersFrom (.reading name next (text ++ [c])) rest
    | none => []

def members (object : Text) : List (Text × Text) := membersFrom .between object

theorem not_endsText {s next : Scanner} {c : UInt8} (kept : s.skips c = false)
    (stepped : s.step c = some next) : endsText s c = false := by
  by_contra ended
  simp only [endsText, Scanner.eof, Bool.not_eq_false, Bool.and_eq_true, Bool.or_eq_true, decide_eq_true_eq,
    List.isEmpty_iff] at ended
  obtain ⟨⟨closes, closed⟩, after⟩ := ended
  by_cases blank : isSpace c = true
  · have skipped : s.skips c = true := by
      unfold Scanner.skips
      rw [blank, Bool.true_and]
      split <;> simp_all [State.closes]
    rw [kept] at skipped
    cases skipped
  · have follows : c = space ∨ c = comma ∨ c = colon ∨ c = closeBrace ∨ c = closeBracket := by tauto
    have moved := move_of_closes closes follows
    simp only [Scanner.step, moved, endValue, blank, closed, Bool.false_eq_true, if_false, reduceCtorEq] at stepped

theorem membersFrom_reading {s final : Scanner} {text : Text} (scanned : s.tight text = some final)
    (name : Option Text) (before rest : Text) :
    membersFrom (.reading name s before) (text ++ rest) =
      membersFrom (.reading name final (before ++ text)) rest := by
  induction text generalizing s before with
  | nil =>
    cases scanned
    rw [List.nil_append, List.append_nil]
  | cons c more ih =>
    obtain ⟨kept, next, stepped, later⟩ := Scanner.of_tight_cons scanned
    have inside := not_endsText kept stepped
    have tail := ih later (before ++ [c])
    rw [List.append_assoc, List.singleton_append] at tail
    cases name with
    | none =>
      simp only [List.cons_append, membersFrom, inside, stepped]
      exact tail
    | some name =>
      simp only [List.cons_append, membersFrom, inside, stepped]
      exact tail

theorem Value.split {text : Text} (value : Value text) :
    ∃ c rest next, text = c :: rest ∧ isSpace c = false ∧ c ≠ colon ∧ Scanner.start.step c = some next ∧
      ∃ state : State, state.closes = true ∧ next.tight rest = some ⟨state, []⟩ := by
  obtain ⟨state, ends, tight⟩ := value.tight
  have alone := tight []
  cases text with
  | nil =>
    cases alone
    cases ends
  | cons c rest =>
    obtain ⟨kept, next, stepped, scanned⟩ := Scanner.of_tight_cons alone
    refine ⟨c, rest, next, rfl, ?_, ?_, stepped, state, ends, scanned⟩
    · simpa [Scanner.skips] using kept
    · rintro rfl
      cases stepped

theorem endsText_of_closes {state : State} (ends : state.closes = true) {c : UInt8}
    (after : c = comma ∨ c = colon ∨ c = closeBrace) : endsText ⟨state, []⟩ c = true := by
  simp only [endsText, Scanner.eof, ends, List.isEmpty_nil, Bool.and_self, Bool.true_and]
  rcases after with rfl | rfl | rfl <;> rfl

theorem encodeString_eq (s : String) : ∃ body, encodeString s = quote :: body :=
  ⟨s.toList.flatMap encodeChar ++ [quote], rfl⟩

theorem membersFrom_encodeMember {member : Member} (value : Value member.2) {c : UInt8}
    (after : c = comma ∨ c = closeBrace) (rest : Text) :
    membersFrom .between (encodeMember member ++ c :: rest) =
      (encodeString member.1, member.2) :: membersFrom .between rest := by
  obtain ⟨name, text⟩ := member
  obtain ⟨body, written⟩ := encodeString_eq name
  obtain ⟨first, more, next, rfl, blank, noColon, stepped, state, ends, scanned⟩ := value.split
  obtain ⟨nameState, nameEnds, nameTight⟩ := (value_encodeString name).tight
  have opened : Scanner.step ⟨.beginValue, []⟩ quote = some ⟨.inString, []⟩ := rfl
  have named := nameTight []
  rw [written, Scanner.tight_cons body rfl opened] at named
  calc
    membersFrom .between (encodeMember (name, first :: more) ++ c :: rest)
      = membersFrom (.reading none ⟨.inString, []⟩ [quote]) (body ++ colon :: first :: (more ++ c :: rest)) := by
        simp [encodeMember, written, membersFrom]
    _ = membersFrom (.named (quote :: body)) (first :: (more ++ c :: rest)) := by
        rw [membersFrom_reading named]
        simp [membersFrom, endsText_of_closes nameEnds]
    _ = membersFrom (.reading (some (quote :: body)) next [first]) (more ++ c :: rest) := by
        simp only [membersFrom, blank, noColon, stepped, decide_false, Bool.or_self, Bool.false_eq_true, if_false]
    _ = (encodeString name, first :: more) :: membersFrom .between rest := by
        rw [membersFrom_reading scanned, written]
        have ended := endsText_of_closes ends (show c = comma ∨ c = colon ∨ c = closeBrace by tauto)
        simp only [membersFrom, ended, if_true, List.singleton_append]

theorem membersFrom_encodeRest {all : List Member} (values : ∀ member ∈ all, Value member.2) :
    ∀ member, Value member.2 → membersFrom .between (encodeMember member ++ encodeRest all) =
      (member :: all).map (fun member => (encodeString member.1, member.2)) := by
  induction all with
  | nil =>
    intro member value
    rw [encodeRest, membersFrom_encodeMember value (.inr rfl)]
    rfl
  | cons next rest ih =>
    intro member value
    rw [encodeRest, membersFrom_encodeMember value (.inl rfl),
      ih (fun other known => values other (List.mem_cons_of_mem next known)) next (values next List.mem_cons_self)]
    rfl

theorem encodeObject_eq (all : List Member) : ∃ rest, encodeObject all = openBrace :: rest := by
  cases all with
  | nil => exact ⟨_, rfl⟩
  | cons first rest => exact ⟨_, rfl⟩

theorem members_encodeObject {all : List Member} (values : ∀ member ∈ all, Value member.2) :
    members (encodeObject all) = all.map (fun member => (encodeString member.1, member.2)) := by
  cases all with
  | nil => rfl
  | cons first rest =>
    have opened : membersFrom .between (openBrace :: (encodeMember first ++ encodeRest rest)) =
        membersFrom .between (encodeMember first ++ encodeRest rest) := rfl
    rw [members, encodeObject, opened]
    exact membersFrom_encodeRest (fun member known => values member (List.mem_cons_of_mem first known)) first
      (values first List.mem_cons_self)

theorem step_of_closes {state : State} (ends : state.closes = true) {c : UInt8}
    (after : c = space ∨ c = comma ∨ c = colon ∨ c = closeBrace ∨ c = closeBracket) (stack : List Frame) :
    Scanner.step ⟨state, stack⟩ c = endValue c stack := by
  rw [Scanner.step, move_of_closes ends after]

/-- A written member is scanned from where a name may stand to the end of its value. -/
theorem tight_encodeMember {member : Member} (value : Value member.2) {before : State}
    (ready : before = .beginStringOrEmpty ∨ before = .beginString) :
    ∃ state : State, state.closes = true ∧ ∀ base,
      Scanner.tight ⟨before, .objectKey :: base⟩ (encodeMember member) = some ⟨state, .objectValue :: base⟩ := by
  obtain ⟨name, text⟩ := member
  obtain ⟨body, written⟩ := encodeString_eq name
  obtain ⟨state, ends, tight⟩ := value.tight
  obtain ⟨nameState, nameEnds, nameTight⟩ := (value_encodeString name).tight
  refine ⟨state, ends, fun base => ?_⟩
  have opened (from' : State) (known : from' = before ∨ from' = .beginValue) :
      Scanner.step ⟨from', .objectKey :: base⟩ quote = some ⟨.inString, .objectKey :: base⟩ := by
    rcases known with rfl | rfl
    · rcases ready with rfl | rfl <;> rfl
    · rfl
  have named := nameTight (.objectKey :: base)
  rw [written, Scanner.tight_cons body rfl (opened _ (.inr rfl))] at named
  have separated : Scanner.step ⟨nameState, .objectKey :: base⟩ colon =
      some ⟨.beginValue, .objectValue :: base⟩ := by
    rw [step_of_closes nameEnds (by decide)]
    rfl
  rw [encodeMember, written, List.cons_append,
    Scanner.tight_cons _ (Scanner.not_skips rfl) (opened _ (.inl rfl)), Scanner.tight_append, named,
    Option.bind_some, Scanner.tight_cons _ (Scanner.not_skips rfl) separated]
  exact tight _

theorem tight_encodeRest {all : List Member} (values : ∀ member ∈ all, Value member.2) {before : State}
    (ends : before.closes = true) (base : List Frame) :
    Scanner.tight ⟨before, .objectValue :: base⟩ (encodeRest all) = some ⟨.endValue, base⟩ := by
  induction all generalizing before with
  | nil =>
    have closed : Scanner.step ⟨before, .objectValue :: base⟩ closeBrace = some ⟨.endValue, base⟩ := by
      rw [step_of_closes ends (by decide)]
      rfl
    rw [encodeRest, Scanner.tight_cons _ (Scanner.not_skips rfl) closed]
    rfl
  | cons member rest ih =>
    have separated : Scanner.step ⟨before, .objectValue :: base⟩ comma =
        some ⟨.beginString, .objectKey :: base⟩ := by
      rw [step_of_closes ends (by decide)]
      rfl
    obtain ⟨state, closes, tight⟩ := tight_encodeMember (values member List.mem_cons_self) (.inr rfl)
    rw [encodeRest, Scanner.tight_cons _ (Scanner.not_skips rfl) separated, Scanner.tight_append, tight,
      Option.bind_some]
    exact ih (fun other known => values other (List.mem_cons_of_mem member known)) closes

theorem escapeHTML_encodeMember {member : Member} (value : Value member.2) {rest : Text} (leads : Leads rest) :
    escapeHTML (encodeMember member ++ rest) = encodeMember member ++ escapeHTML rest := by
  have separator : Leads (colon :: (member.2 ++ rest)) := leads_cons (by decide) _
  rw [encodeMember, List.append_assoc, List.cons_append, escapeHTML_append _ separator,
    (value_encodeString member.1).escaped, escapeHTML_cons (by decide) (by decide), escapeHTML_append _ leads,
    value.escaped]
  simp

theorem leads_encodeRest (all : List Member) : Leads (encodeRest all) := by
  cases all with
  | nil => exact leads_cons (by decide) _
  | cons member rest => exact leads_cons (by decide) _

theorem escapeHTML_encodeRest {all : List Member} (values : ∀ member ∈ all, Value member.2) :
    escapeHTML (encodeRest all) = encodeRest all := by
  induction all with
  | nil => rfl
  | cons member rest ih =>
    rw [encodeRest, escapeHTML_cons (by decide) (by decide),
      escapeHTML_encodeMember (values member List.mem_cons_self) (leads_encodeRest rest),
      ih (fun other known => values other (List.mem_cons_of_mem member known))]

theorem value_encodeObject {all : List Member} (values : ∀ member ∈ all, Value member.2) :
    Value (encodeObject all) := by
  cases all with
  | nil => exact ⟨⟨.endValue, rfl, fun _ => rfl⟩, rfl⟩
  | cons first rest =>
    have others : ∀ member ∈ rest, Value member.2 :=
      fun member known => values member (List.mem_cons_of_mem first known)
    have head := values first List.mem_cons_self
    constructor
    · refine ⟨.endValue, rfl, fun base => ?_⟩
      obtain ⟨state, closes, tight⟩ := tight_encodeMember head (.inl rfl)
      have opened : Scanner.step ⟨.beginValue, base⟩ openBrace =
          some ⟨.beginStringOrEmpty, .objectKey :: base⟩ := rfl
      rw [encodeObject, Scanner.tight_cons _ (Scanner.not_skips rfl) opened, Scanner.tight_append, tight,
        Option.bind_some]
      exact tight_encodeRest others closes base
    · rw [encodeObject, escapeHTML_cons (by decide) (by decide),
        escapeHTML_encodeMember head (leads_encodeRest rest), escapeHTML_encodeRest others]

/-! ### Nesting -/

theorem depth_encodeString (s : String) : depth (encodeString s) = 0 := by
  apply (value_encodeString s).depth_scalar
  rintro c ⟨⟩
  decide

theorem number_plain {c : UInt8} (number : c = minus ∨ isDigit c = true) : c ≠ openBrace ∧ c ≠ openBracket := by
  rcases number with rfl | digit
  · decide
  · constructor
    · rintro rfl
      exact absurd digit (by decide)
    · rintro rfl
      exact absurd digit (by decide)

theorem depth_encodeInt (n : Int64) : depth (encodeInt n) = 0 := by
  apply (value_encodeInt n).depth_scalar
  obtain ⟨digits, written, nonempty, bound, -⟩ := encodeNat_digits n.toInt.natAbs
  intro c head
  apply number_plain
  unfold encodeInt at head
  split at head
  next => exact .inl (Option.some.inj head).symm
  next =>
    rw [written] at head
    obtain ⟨digit, known, rfl⟩ := List.mem_map.mp (List.mem_of_head? head)
    exact .inr (digitByte_isDigit digit (bound digit known))

theorem depth_encodeMember {member : Member} (value : Value member.2) {before : State}
    (ready : before = .beginStringOrEmpty ∨ before = .beginString) :
    Scanner.depth ⟨before, [.objectKey]⟩ (encodeMember member) = depth member.2 + 1 := by
  obtain ⟨name, text⟩ := member
  obtain ⟨body, written⟩ := encodeString_eq name
  obtain ⟨nameState, nameEnds, nameTight⟩ := (value_encodeString name).tight
  have opened (from' : State) (known : from' = before ∨ from' = .beginValue) :
      Scanner.step ⟨from', [.objectKey]⟩ quote = some ⟨.inString, [.objectKey]⟩ := by
    rcases known with rfl | rfl
    · rcases ready with rfl | rfl <;> rfl
    · rfl
  have named := (Scanner.scan_of_tight (nameTight [.objectKey])).1
  have flat := (value_encodeString name).depth_frame [.objectKey]
  rw [depth_encodeString] at flat
  rw [written] at named flat
  rw [Scanner.scan, opened _ (.inr rfl), Option.bind_some] at named
  rw [Scanner.depth_cons (opened _ (.inr rfl))] at flat
  have scanned : Scanner.scan ⟨before, [.objectKey]⟩ (quote :: body) = some ⟨nameState, [.objectKey]⟩ := by
    rw [Scanner.scan, opened _ (.inl rfl), Option.bind_some, named]
  have separated : Scanner.step ⟨nameState, [.objectKey]⟩ colon = some ⟨.beginValue, [.objectValue]⟩ := by
    rw [step_of_closes nameEnds (by decide)]
    rfl
  rw [encodeMember, written, Scanner.depth_append scanned, Scanner.depth_cons (opened _ (.inl rfl)),
    Scanner.depth_cons separated, value.depth_frame]
  simp only [List.length_singleton] at flat ⊢
  omega

theorem depth_encodeRest_le {all : List Member} (values : ∀ member ∈ all, Value member.2) {before : State}
    (ends : before.closes = true) {bound : Nat} :
    Scanner.depth ⟨before, [.objectValue]⟩ (encodeRest all) ≤ bound + 1 ↔ ∀ member ∈ all, depth member.2 ≤ bound := by
  induction all generalizing before with
  | nil =>
    have closed : Scanner.step ⟨before, [.objectValue]⟩ closeBrace = some ⟨.endValue, []⟩ := by
      rw [step_of_closes ends (by decide)]
      rfl
    rw [encodeRest, Scanner.depth_cons closed]
    simp [Scanner.depth]
  | cons member rest ih =>
    have separated : Scanner.step ⟨before, [.objectValue]⟩ comma = some ⟨.beginString, [.objectKey]⟩ := by
      rw [step_of_closes ends (by decide)]
      rfl
    obtain ⟨first, others⟩ := List.forall_mem_cons.mp values
    obtain ⟨state, closes, tight⟩ := tight_encodeMember first (.inr rfl)
    rw [encodeRest, Scanner.depth_cons separated, Scanner.depth_append (Scanner.scan_of_tight (tight [])).1,
      depth_encodeMember first (.inr rfl), List.forall_mem_cons, ← ih others closes]
    simp only [List.length_singleton]
    omega

/-- An object is one level deeper than its members. -/
theorem depth_encodeObject_le {all : List Member} (values : ∀ member ∈ all, Value member.2) {bound : Nat} :
    depth (encodeObject all) ≤ bound + 1 ↔ ∀ member ∈ all, depth member.2 ≤ bound := by
  have opened : Scanner.start.step openBrace = some ⟨.beginStringOrEmpty, [.objectKey]⟩ := rfl
  cases all with
  | nil =>
    have one : depth (encodeObject []) = 1 := by decide
    simp [one]
  | cons first rest =>
    obtain ⟨head, others⟩ := List.forall_mem_cons.mp values
    obtain ⟨state, closes, tight⟩ := tight_encodeMember head (.inl rfl)
    rw [depth, encodeObject, Scanner.depth_cons opened, Scanner.depth_append (Scanner.scan_of_tight (tight [])).1,
      depth_encodeMember head (.inl rfl), List.forall_mem_cons, ← depth_encodeRest_le others closes]
    simp only [Scanner.start, List.length_nil]
    omega

end EventGateway.Lib.Json
