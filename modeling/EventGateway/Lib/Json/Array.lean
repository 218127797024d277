import EventGateway.Lib.Json.Escape
import EventGateway.Lib.Json.Object

/-! Arrays as `encoding/json` writes and reads them, element by element. -/

namespace EventGateway.Lib.Json

def encodeItems : List Text → Text
  | [] => [closeBracket]
  | item :: rest => comma :: (item ++ encodeItems rest)

def encodeArray : List Text → Text
  | [] => [openBracket, closeBracket]
  | item :: rest => openBracket :: (item ++ encodeItems rest)

def isSeparator (c : UInt8) : Bool := c = comma || c = closeBracket

/-- The texts of the elements from here on; inside an element, with its scanner and with what
has been read of it. There is no white space between tokens. -/
def elementsFrom : Option (Scanner × Text) → Text → List Text
  | _, [] => []
  | none, c :: rest =>
    match Scanner.start.step c with
    | some next => elementsFrom (some (next, [c])) rest
    | none => []
  | some (s, text), c :: rest =>
    if s.eof && isSeparator c then text :: elementsFrom none rest
    else match s.step c with
    | some next => elementsFrom (some (next, text ++ [c])) rest
    | none => []

def elements (array : Text) : List Text := elementsFrom none array.tail

theorem step_separator {s : Scanner} (ended : s.eof = true) {c : UInt8}
    (after : isSeparator c = true) : s.step c = none := by
  have after : c = comma ∨ c = closeBracket := by simpa [isSeparator] using after
  obtain ⟨closes, closed⟩ := Bool.and_eq_true_iff.mp ended
  have shape : s = ⟨s.state, []⟩ := by rw [← List.isEmpty_iff.mp closed]
  rw [shape, step_of_closes closes (by tauto)]
  rcases after with rfl | rfl <;> rfl

theorem elementsFrom_reading {s final : Scanner} {text : Text} (scanned : s.tight text = some final)
    (before rest : Text) :
    elementsFrom (some (s, before)) (text ++ rest) = elementsFrom (some (final, before ++ text)) rest := by
  induction text generalizing s before with
  | nil =>
    cases scanned
    rw [List.nil_append, List.append_nil]
  | cons c more ih =>
    obtain ⟨-, next, stepped, later⟩ := Scanner.of_tight_cons scanned
    have inside : (s.eof && isSeparator c) = false := by
      by_contra ended
      simp only [Bool.not_eq_false, Bool.and_eq_true] at ended
      rw [step_separator ended.1 ended.2] at stepped
      cases stepped
    have tail := ih later (before ++ [c])
    rw [List.append_assoc, List.singleton_append] at tail
    simp only [List.cons_append, elementsFrom, inside, stepped]
    exact tail

theorem elementsFrom_item {item : Text} (value : Value item) {c : UInt8}
    (after : isSeparator c = true) (rest : Text) :
    elementsFrom none (item ++ c :: rest) = item :: elementsFrom none rest := by
  obtain ⟨first, more, next, rfl, -, -, stepped, state, ends, scanned⟩ := value.split
  have ended : (Scanner.eof ⟨state, []⟩ && isSeparator c) = true := by simp [Scanner.eof, ends, after]
  calc
    elementsFrom none (first :: more ++ c :: rest) = elementsFrom (some (next, [first])) (more ++ c :: rest) := by
      simp only [List.cons_append, elementsFrom, stepped]
    _ = (first :: more) :: elementsFrom none rest := by
      rw [elementsFrom_reading scanned]
      simp only [elementsFrom, ended, if_true, List.singleton_append]

theorem elementsFrom_encodeItems {items : List Text} (values : ∀ item ∈ items, Value item) :
    ∀ item, Value item → elementsFrom none (item ++ encodeItems items) = item :: items := by
  induction items with
  | nil =>
    intro item value
    rw [encodeItems, elementsFrom_item value rfl]
    rfl
  | cons next rest ih =>
    intro item value
    rw [encodeItems, elementsFrom_item value rfl,
      ih (fun other known => values other (List.mem_cons_of_mem next known)) next (values next List.mem_cons_self)]

theorem elements_encodeArray {items : List Text} (values : ∀ item ∈ items, Value item) :
    elements (encodeArray items) = items := by
  cases items with
  | nil => rfl
  | cons first rest =>
    exact elementsFrom_encodeItems (fun item known => values item (List.mem_cons_of_mem first known)) first
      (values first List.mem_cons_self)

theorem length_elementsFrom (inside : Option (Scanner × Text)) (text : Text) :
    (elementsFrom inside text).length ≤ text.countP isSeparator := by
  induction text generalizing inside with
  | nil => cases inside <;> exact le_refl _
  | cons c rest ih =>
    have later (inside : Option (Scanner × Text)) :
        (elementsFrom inside rest).length ≤ (c :: rest).countP isSeparator :=
      (ih inside).trans (List.Sublist.countP_le (List.sublist_cons_self c rest))
    cases inside with
    | none =>
      unfold elementsFrom
      split
      next => exact later _
      next => exact Nat.zero_le _
    | some inside =>
      unfold elementsFrom
      split
      next ended =>
        rw [List.countP_cons_of_pos (Bool.and_eq_true_iff.mp ended).2]
        exact Nat.succ_le_succ (ih none)
      next =>
        split
        next => exact later _
        next => exact Nat.zero_le _

theorem countP_escapeHTML (text : Text) : (escapeHTML text).countP isSeparator = text.countP isSeparator := by
  have digit : ∀ n < 16, isSeparator (hexDigit n) = false := by decide
  have escape (n : Nat) : (unicodeEscape n).countP isSeparator = 0 := by
    have last (m : Nat) := digit (m % 16) (Nat.mod_lt m (by decide))
    have first : isSeparator backslash = false ∧ isSeparator 0x75 = false := by decide
    simp only [unicodeEscape, List.countP_cons, List.countP_nil, last, first, Bool.false_eq_true, if_false]
  have html : ∀ c, isHTML c = true → isSeparator c = false := by decide +kernel
  fun_induction escapeHTML text with
  | case1 => rfl
  | case2 rest ih =>
    rw [List.countP_append, escape, ih, Nat.zero_add]
    rfl
  | case3 rest ih =>
    rw [List.countP_append, escape, ih, Nat.zero_add]
    rfl
  | case4 c rest _ _ ih =>
    rw [List.countP_append, ih]
    split
    next found => rw [escape, List.countP_cons_of_neg (by rw [html c found]; exact Bool.false_ne_true), Nat.zero_add]
    next => rw [List.countP_singleton, List.countP_cons, Nat.add_comm]

theorem length_elements_escapeHTML (rest : Text) :
    (elements (escapeHTML (openBracket :: rest))).length ≤ rest.length := by
  have escaped : escapeHTML (openBracket :: rest) = openBracket :: escapeHTML rest :=
    escapeHTML_cons (by decide) (by decide)
  calc
    (elements (escapeHTML (openBracket :: rest))).length ≤ (escapeHTML rest).countP isSeparator := by
      rw [escaped]
      exact length_elementsFrom none _
    _ = rest.countP isSeparator := countP_escapeHTML rest
    _ ≤ rest.length := List.countP_le_length

theorem scan_first {item : Text} (value : Value item) (base : List Frame) :
    Scanner.tight ⟨.beginValueOrEmpty, base⟩ item = Scanner.tight ⟨.beginValue, base⟩ item ∧
      Scanner.depth ⟨.beginValueOrEmpty, base⟩ item = Scanner.depth ⟨.beginValue, base⟩ item := by
  obtain ⟨first, more, next, rfl, blank, -, stepped, -⟩ := value.split
  have other : first ≠ closeBracket := by
    rintro rfl
    cases stepped
  have same : move .beginValueOrEmpty first = move .beginValue first := by
    simp only [move, blank, other, Bool.false_eq_true, if_false]
  have kept (state : State) : Scanner.skips ⟨state, base⟩ first = false := Scanner.not_skips blank
  constructor
  · simp only [Scanner.tight, Scanner.step, kept, same]
  · simp only [Scanner.depth, Scanner.step, same]

theorem tight_encodeItems {items : List Text} (values : ∀ item ∈ items, Value item) {before : State}
    (ends : before.closes = true) (base : List Frame) :
    Scanner.tight ⟨before, .arrayValue :: base⟩ (encodeItems items) = some ⟨.endValue, base⟩ := by
  induction items generalizing before with
  | nil =>
    have closed : Scanner.step ⟨before, .arrayValue :: base⟩ closeBracket = some ⟨.endValue, base⟩ := by
      rw [step_of_closes ends (by decide)]
      rfl
    rw [encodeItems, Scanner.tight_cons _ (Scanner.not_skips rfl) closed]
    rfl
  | cons item rest ih =>
    have separated : Scanner.step ⟨before, .arrayValue :: base⟩ comma =
        some ⟨.beginValue, .arrayValue :: base⟩ := by
      rw [step_of_closes ends (by decide)]
      rfl
    obtain ⟨state, closes, tight⟩ := (values item List.mem_cons_self).tight
    rw [encodeItems, Scanner.tight_cons _ (Scanner.not_skips rfl) separated, Scanner.tight_append, tight,
      Option.bind_some]
    exact ih (fun other known => values other (List.mem_cons_of_mem item known)) closes

theorem leads_encodeItems (items : List Text) : Leads (encodeItems items) := by
  cases items with
  | nil => exact leads_cons (by decide) _
  | cons item rest => exact leads_cons (by decide) _

theorem escapeHTML_encodeItems {items : List Text} (values : ∀ item ∈ items, Value item) :
    escapeHTML (encodeItems items) = encodeItems items := by
  induction items with
  | nil => rfl
  | cons item rest ih =>
    rw [encodeItems, escapeHTML_cons (by decide) (by decide), escapeHTML_append _ (leads_encodeItems rest),
      (values item List.mem_cons_self).escaped,
      ih (fun other known => values other (List.mem_cons_of_mem item known))]

theorem value_encodeArray {items : List Text} (values : ∀ item ∈ items, Value item) :
    Value (encodeArray items) := by
  cases items with
  | nil => exact ⟨⟨.endValue, rfl, fun _ => rfl⟩, rfl⟩
  | cons first rest =>
    have others : ∀ item ∈ rest, Value item := fun item known => values item (List.mem_cons_of_mem first known)
    have head := values first List.mem_cons_self
    constructor
    · refine ⟨.endValue, rfl, fun base => ?_⟩
      obtain ⟨state, closes, tight⟩ := head.tight
      have opened : Scanner.step ⟨.beginValue, base⟩ openBracket =
          some ⟨.beginValueOrEmpty, .arrayValue :: base⟩ := rfl
      rw [encodeArray, Scanner.tight_cons _ (Scanner.not_skips rfl) opened, Scanner.tight_append,
        (scan_first head _).1, tight, Option.bind_some]
      exact tight_encodeItems others closes base
    · rw [encodeArray, escapeHTML_cons (by decide) (by decide), escapeHTML_append _ (leads_encodeItems rest),
        head.escaped, escapeHTML_encodeItems others]

theorem depth_encodeItems_le {items : List Text} (values : ∀ item ∈ items, Value item) {before : State}
    (ends : before.closes = true) {bound : Nat} (shallow : ∀ item ∈ items, depth item ≤ bound) :
    Scanner.depth ⟨before, [.arrayValue]⟩ (encodeItems items) ≤ bound + 1 := by
  induction items generalizing before with
  | nil =>
    have closed : Scanner.step ⟨before, [.arrayValue]⟩ closeBracket = some ⟨.endValue, []⟩ := by
      rw [step_of_closes ends (by decide)]
      rfl
    rw [encodeItems, Scanner.depth_cons closed]
    simp [Scanner.depth]
  | cons item rest ih =>
    have separated : Scanner.step ⟨before, [.arrayValue]⟩ comma = some ⟨.beginValue, [.arrayValue]⟩ := by
      rw [step_of_closes ends (by decide)]
      rfl
    obtain ⟨first, others⟩ := List.forall_mem_cons.mp values
    obtain ⟨low, rests⟩ := List.forall_mem_cons.mp shallow
    obtain ⟨state, closes, tight⟩ := first.tight
    have later := ih others closes rests
    rw [encodeItems, Scanner.depth_cons separated, Scanner.depth_append (Scanner.scan_of_tight (tight _)).1,
      first.depth_frame]
    simp only [List.length_singleton]
    omega

theorem depth_encodeArray_le {items : List Text} (values : ∀ item ∈ items, Value item) {bound : Nat}
    (shallow : ∀ item ∈ items, depth item ≤ bound) : depth (encodeArray items) ≤ bound + 1 := by
  cases items with
  | nil =>
    have one : depth (encodeArray []) = 1 := by decide
    omega
  | cons item rest =>
    have opened : Scanner.start.step openBracket = some ⟨.beginValueOrEmpty, [.arrayValue]⟩ := rfl
    obtain ⟨first, others⟩ := List.forall_mem_cons.mp values
    obtain ⟨low, rests⟩ := List.forall_mem_cons.mp shallow
    obtain ⟨state, closes, tight⟩ := first.tight
    obtain ⟨sameTight, sameDepth⟩ := scan_first first [.arrayValue]
    have later := depth_encodeItems_le others closes rests
    rw [depth, encodeArray, Scanner.depth_cons opened,
      Scanner.depth_append (Scanner.scan_of_tight (sameTight.trans (tight _))).1, sameDepth, first.depth_frame]
    simp only [Scanner.start, List.length_nil, List.length_singleton]
    omega

end EventGateway.Lib.Json
