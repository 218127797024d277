import EventGateway.Lib.Json.Escape
import EventGateway.Lib.Json.Object

/-! What is taken out of a valid text is valid again: the values of an object's members are JSON of their own, and
`compact` makes a value of any valid text. Dropping white space leaves the scanner behind in at most one way: where
the space has ended a number, the number is still open. -/

namespace EventGateway.Lib.Json

namespace Scanner

theorem scan_append (s : Scanner) (first second : Text) :
    s.scan (first ++ second) = (s.scan first).bind (fun next => next.scan second) := by
  induction first generalizing s with
  | nil => rfl
  | cons c rest ih =>
    simp only [List.cons_append, scan, Option.bind_assoc]
    exact congrArg (s.step c).bind (funext ih)

theorem endValue_bytes {stack : List Frame} {next : Scanner} {c : UInt8} (visible : isSpace c = false)
    (ended : endValue c stack = some next) :
    c = space ∨ c = comma ∨ c = colon ∨ c = closeBrace ∨ c = closeBracket := by
  rcases stack with _ | ⟨_ | _ | _, rest⟩ <;> grind [endValue]

def Behind (s other : Scanner) : Prop :=
  s.stack = other.stack ∧ (s.state = other.state ∨ other.state = .endValue ∧ s.state.closes = true)

theorem move_blank {s : Scanner} {c : UInt8} (spelled : s.state.avoids isSpace = true) (skipped : s.skips c = true) :
    move s.state c = .go s.state ∨ (s.state.closes = true ∧ move s.state c = .close) ∨ move s.state c = .fail := by
  obtain ⟨state, stack⟩ := s
  obtain ⟨blank, outside⟩ := Bool.and_eq_true_iff.mp skipped
  have bytes : ∀ c : UInt8, isSpace c = true → isDigit c = false ∧
      c ∉ [minus, 0x30, 0x2E, 0x65, 0x45, 0x2B] := by decide +kernel
  obtain ⟨noDigit, absent⟩ := bytes c blank
  simp only [List.mem_cons, List.not_mem_nil, or_false, not_or] at absent
  cases state with
  | literal rest =>
    have other (d : UInt8) (expected : d ∈ rest) : c ≠ d := by
      rintro rfl
      simpa [blank] using List.all_eq_true.mp spelled c expected
    rcases rest with _ | ⟨last, _ | _⟩ <;> simp [move, other]
  | inString => cases outside
  | inStringEsc => cases outside
  | inStringEscU left => cases outside
  | _ => simp [move, afterInteger, exponent, State.closes, blank, noDigit, absent]

namespace Behind
variable {s other next : Scanner} {c : UInt8}

theorem refl (s : Scanner) : s.Behind s := ⟨rfl, .inl rfl⟩

theorem closes (behind : s.Behind other) : s.state.closes = other.state.closes := by
  rcases behind.2 with same | ⟨ended, closes⟩
  · rw [same]
  · rw [ended, closes]
    rfl

theorem eof (behind : s.Behind other) : s.eof = other.eof := by
  rw [Scanner.eof, Scanner.eof, behind.closes, behind.1]

theorem skip (behind : s.Behind other) (spelled : other.state.avoids isSpace = true)
    (stepped : other.step c = some next) (skipped : other.skips c = true) : s.Behind next := by
  have blank : isSpace c = true := (Bool.and_eq_true_iff.mp skipped).1
  unfold Scanner.step at stepped
  rcases move_blank spelled skipped with moved | ⟨closes, moved⟩ | moved
  · rw [moved] at stepped
    cases stepped
    exact behind
  · rw [moved] at stepped
    simp only [endValue, blank, if_true, Option.some.injEq] at stepped
    cases stepped
    exact ⟨behind.1, .inr ⟨rfl, behind.closes.trans closes⟩⟩
  · rw [moved] at stepped
    cases stepped

theorem keep (behind : s.Behind other) (stepped : other.step c = some next) (kept : other.skips c = false) :
    s.step c = some next ∧ s.skips c = false := by
  obtain ⟨state, stack⟩ := s
  obtain ⟨otherState, otherStack⟩ := other
  obtain ⟨sameStack, same | ⟨ended, closes⟩⟩ := behind
  · cases sameStack
    cases same
    exact ⟨stepped, kept⟩
  · cases sameStack
    cases ended
    have visible : isSpace c = false := by simpa [skips] using kept
    have follows := endValue_bytes visible stepped
    refine ⟨?_, not_skips visible⟩
    rw [step_of_closes closes follows]
    exact stepped

end Behind

theorem tight_strip {s other final : Scanner} {text : Text} (behind : s.Behind other)
    (spelled : other.state.avoids isSpace = true) (scanned : other.scan text = some final) :
    ∃ last, s.tight (other.strip text) = some last ∧ last.Behind final := by
  induction text generalizing s other with
  | nil =>
    cases scanned
    exact ⟨s, rfl, behind⟩
  | cons c rest ih =>
    obtain ⟨next, stepped, later⟩ := Option.bind_eq_some_iff.mp scanned
    cases skipped : other.skips c with
    | true =>
      simp only [strip, stepped, skipped, if_true]
      exact ih (behind.skip spelled stepped skipped) (avoids_step (by decide) spelled stepped) later
    | false =>
      obtain ⟨followed, kept⟩ := behind.keep stepped skipped
      obtain ⟨last, tight, still⟩ := ih (.refl next) (avoids_step (by decide) spelled stepped) later
      refine ⟨last, ?_, still⟩
      simp only [strip, stepped, skipped, Bool.false_eq_true, if_false]
      rw [tight_cons _ kept followed]
      exact tight

theorem depth_strip_le {s other final : Scanner} {text : Text} (behind : s.Behind other)
    (spelled : other.state.avoids isSpace = true) (scanned : other.scan text = some final) :
    s.depth (other.strip text) ≤ other.depth text := by
  induction text generalizing s other with
  | nil => exact (congrArg List.length behind.1).le
  | cons c rest ih =>
    obtain ⟨next, stepped, later⟩ := Option.bind_eq_some_iff.mp scanned
    rw [depth_cons stepped]
    cases skipped : other.skips c with
    | true =>
      simp only [strip, stepped, skipped, if_true]
      have shallow := ih (behind.skip spelled stepped skipped) (avoids_step (by decide) spelled stepped) later
      exact le_max_of_le_right shallow
    | false =>
      have shallow := ih (.refl next) (avoids_step (by decide) spelled stepped) later
      simp only [strip, stepped, skipped, Bool.false_eq_true, if_false]
      rw [depth_cons (behind.keep stepped skipped).1, behind.1]
      exact max_le_max_left _ shallow

end Scanner

theorem valid_strip {text : Text} (whole : valid text = true) :
    valid (Scanner.start.strip text) = true ∧
      Scanner.start.strip (Scanner.start.strip text) = Scanner.start.strip text ∧
      depth (Scanner.start.strip text) ≤ depth text := by
  obtain ⟨final, scanned, ended, shallow⟩ := valid_iff.mp whole
  obtain ⟨last, tight, behind⟩ := Scanner.tight_strip (.refl Scanner.start) rfl scanned
  obtain ⟨rescanned, same⟩ := Scanner.scan_of_tight tight
  have shallower : depth (Scanner.start.strip text) ≤ depth text :=
    Scanner.depth_strip_le (.refl Scanner.start) rfl scanned
  exact ⟨valid_iff.mpr ⟨last, rescanned, behind.eof.trans ended, shallower.trans shallow⟩, same, shallower⟩

theorem exists_compact {text : Text} (whole : valid text = true) :
    ∃ written, compact text = some written ∧ Value written ∧ depth written ≤ depth text := by
  obtain ⟨still, same, shallower⟩ := valid_strip whole
  obtain ⟨value, deep⟩ := value_escapeHTML still same
  exact ⟨_, if_pos whole, value, deep.le.trans shallower⟩

/-! ### Members -/

theorem step_ends {s : Scanner} {c : UInt8} (ended : endsText s c = true) (frame : Frame) :
    Scanner.step ⟨s.state, s.stack ++ [frame]⟩ c = endValue c [frame] := by
  have bytes : ∀ c : UInt8, (isSpace c || c = comma || c = colon || c = closeBrace) = true → isDigit c = false ∧
      c ∉ [0x2E, 0x65, 0x45] := by decide +kernel
  obtain ⟨whole, after⟩ := Bool.and_eq_true_iff.mp ended
  obtain ⟨noDigit, absent⟩ := bytes c after
  obtain ⟨closes, closed⟩ := Bool.and_eq_true_iff.mp whole
  have moved : move s.state c = .close := by
    simp only [List.mem_cons, List.not_mem_nil, or_false, not_or] at absent
    cases state : s.state with
    | endValue | one | zero | dot0 | e0 => simp [move, afterInteger, noDigit, absent]
    | _ =>
      rw [state] at closes
      cases closes
  rw [List.isEmpty_iff.mp closed]
  simp only [Scanner.step, moved, List.nil_append]

/-- Where the scanner of the object is while its members are read, and how deep the value is that is being read. -/
def Phase.Aligned (bound : Nat) : Phase → Scanner → Prop
  | .between, outer => outer ∈ [⟨.beginStringOrEmpty, [.objectKey]⟩, ⟨.beginString, [.objectKey]⟩,
      ⟨.endValue, [.objectValue]⟩, ⟨.endValue, []⟩]
  | .named _, outer => outer ∈ [⟨.endValue, [.objectKey]⟩, ⟨.beginValue, [.objectValue]⟩]
  | .reading none s _, outer => outer = ⟨s.state, s.stack ++ [.objectKey]⟩
  | .reading (some _) s text, outer => outer = ⟨s.state, s.stack ++ [.objectValue]⟩ ∧
      Scanner.start.scan text = some s ∧ depth text ≤ bound

section Members
variable {bound : Nat} {outer next : Scanner} {c : UInt8}

theorem Phase.Aligned.between (aligned : Phase.between.Aligned bound outer) (stepped : outer.step c = some next) :
    if c = quote then next = ⟨.inString, [.objectKey]⟩ else Phase.between.Aligned bound next := by
  simp only [Phase.Aligned, List.mem_cons, List.not_mem_nil, or_false] at aligned ⊢
  have plain : isSpace quote = false := rfl
  rcases aligned with rfl | rfl | rfl | rfl <;>
    simp only [Scanner.step, move, endValue, beginString] at stepped <;> grind

theorem Phase.Aligned.named {name : Text} (aligned : (Phase.named name).Aligned bound outer)
    (stepped : outer.step c = some next) :
    if isSpace c || c = colon then (Phase.named name).Aligned bound next
    else outer = ⟨.beginValue, [.objectValue]⟩ := by
  simp only [Phase.Aligned, List.mem_cons, List.not_mem_nil, or_false] at aligned ⊢
  rcases aligned with rfl | rfl <;> simp only [Scanner.step, move, endValue] at stepped
  · grind
  · have colons : beginValue colon = .fail := rfl
    grind

/-- A value that is read goes on one level below the object. -/
theorem Phase.Aligned.reads {name text rest : Text} {s after : Scanner}
    (here : outer = ⟨s.state, s.stack ++ [.objectValue]⟩) (scanned : Scanner.start.scan text = some s)
    (deep : depth text ≤ bound) (stepped : s.step c = some after) (shallow : outer.depth (c :: rest) ≤ bound + 1) :
    (Phase.reading (some name) after (text ++ [c])).Aligned bound ⟨after.state, after.stack ++ [.objectValue]⟩ := by
  have framed := Scanner.step_frame stepped [.objectValue]
  rw [here, Scanner.depth_cons framed] at shallow
  have inner := Scanner.stack_le_depth ⟨after.state, after.stack ++ [.objectValue]⟩ rest
  simp only [List.length_append, List.length_singleton] at shallow inner
  refine ⟨rfl, ?_, ?_⟩
  · rw [Scanner.scan_append, scanned, Option.bind_some, Scanner.scan, stepped]
    rfl
  · rw [depth, Scanner.depth_append scanned, Scanner.depth_cons stepped]
    change Scanner.start.depth text ≤ bound at deep
    simp only [Scanner.depth]
    omega

theorem Phase.Aligned.inner {frame : Frame} {s after : Scanner} (here : outer = ⟨s.state, s.stack ++ [frame]⟩)
    (inner : s.step c = some after) (stepped : outer.step c = some next) :
    next = ⟨after.state, after.stack ++ [frame]⟩ := by
  rw [here, Scanner.step_frame inner [frame]] at stepped
  exact (Option.some.inj stepped).symm

theorem Phase.Aligned.ends {frame : Frame} {s : Scanner} (here : outer = ⟨s.state, s.stack ++ [frame]⟩)
    (ended : endsText s c = true) (stepped : outer.step c = some next) : endValue c [frame] = some next := by
  rw [here, step_ends ended] at stepped
  exact stepped

/-- The values of the members of an object are complete, and less deep than the object. -/
theorem shallow_of_mem_membersFrom {phase : Phase} {final : Scanner} {object : Text}
    (aligned : phase.Aligned bound outer) (scanned : outer.scan object = some final)
    (shallow : outer.depth object ≤ bound + 1) : ∀ member ∈ membersFrom phase object,
      ∃ s, Scanner.start.scan member.2 = some s ∧ s.eof = true ∧ depth member.2 ≤ bound := by
  induction object generalizing phase outer with
  | nil =>
    intro member known
    cases phase <;> cases known
  | cons c rest ih =>
    obtain ⟨next, stepped, later⟩ := Option.bind_eq_some_iff.mp scanned
    have deeper : next.depth rest ≤ bound + 1 := by
      rw [Scanner.depth_cons stepped] at shallow
      exact (le_max_right _ _).trans shallow
    cases phase with
    | between =>
      have goes := aligned.between stepped
      unfold membersFrom
      split
      next opened =>
        rw [if_pos opened] at goes
        exact @ih next (.reading none ⟨.inString, []⟩ [c]) goes later deeper
      next other =>
        rw [if_neg other] at goes
        exact ih goes later deeper
    | named name =>
      have goes := aligned.named stepped
      unfold membersFrom
      split
      next blank =>
        rw [if_pos blank] at goes
        exact ih goes later deeper
      next other =>
        rw [if_neg other] at goes
        split
        next first started =>
          have here : outer = ⟨Scanner.start.state, Scanner.start.stack ++ [.objectValue]⟩ := goes
          cases Phase.Aligned.inner here started stepped
          have reads := @Phase.Aligned.reads _ _ _ name [] rest _ _ here rfl (Nat.zero_le _) started shallow
          exact ih reads later deeper
        next => exact fun _ known => by cases known
    | reading name s text =>
      cases name with
      | none =>
        have here : outer = ⟨s.state, s.stack ++ [.objectKey]⟩ := aligned
        unfold membersFrom
        split
        next ended =>
          have goes := Phase.Aligned.ends here ended stepped
          refine @ih next (.named text) ?_ later deeper
          simp only [endValue] at goes
          simp only [Phase.Aligned, List.mem_cons, List.not_mem_nil, or_false]
          grind
        next =>
          split
          next after inner =>
            cases Phase.Aligned.inner here inner stepped
            exact @ih _ (.reading none after (text ++ [c])) rfl later deeper
          next => exact fun _ known => by cases known
      | some name =>
        obtain ⟨here, sound, deep⟩ := aligned
        unfold membersFrom
        split
        next ended =>
          have goes := Phase.Aligned.ends here ended stepped
          have whole : s.eof = true := (Bool.and_eq_true_iff.mp ended).1
          refine List.forall_mem_cons.mpr ⟨⟨s, sound, whole, deep⟩, @ih next .between ?_ later deeper⟩
          simp only [endValue] at goes
          simp only [Phase.Aligned, List.mem_cons, List.not_mem_nil, or_false]
          grind
        next =>
          split
          next after inner =>
            cases Phase.Aligned.inner here inner stepped
            exact ih (Phase.Aligned.reads here sound deep inner shallow) later deeper
          next => exact fun _ known => by cases known

end Members

theorem valid_of_mem_members {object : Text} {member : Text × Text} (whole : valid object = true)
    (opens : (object.dropWhile isSpace).head? = some openBrace) (known : member ∈ members object) :
    valid member.2 = true ∧ depth member.2 < maxNestingDepth := by
  obtain ⟨final, scanned, -, shallow⟩ := valid_iff.mp whole
  have inside : ∃ s, Scanner.start.scan member.2 = some s ∧ s.eof = true ∧ depth member.2 ≤ maxNestingDepth - 1 := by
    have shallow : Scanner.start.depth object ≤ maxNestingDepth - 1 + 1 := shallow
    clear whole
    unfold members at known
    induction object with
    | nil => cases known
    | cons c rest ih =>
      cases blank : isSpace c with
      | true =>
        have stepped : Scanner.start.step c = some Scanner.start := by
          simp [Scanner.step, Scanner.start, move, blank]
        have other : c ≠ quote := by
          rintro rfl
          cases blank
        rw [Scanner.scan, stepped, Option.bind_some] at scanned
        rw [Scanner.depth_cons stepped] at shallow
        rw [List.dropWhile_cons_of_pos blank] at opens
        rw [membersFrom, if_neg other] at known
        have deeper : depth rest ≤ maxNestingDepth - 1 + 1 := (le_max_right _ _).trans shallow
        exact ih opens known scanned deeper deeper
      | false =>
        rw [List.dropWhile_cons_of_neg (by rw [blank]; decide)] at opens
        cases opens
        have stepped : Scanner.start.step openBrace = some ⟨.beginStringOrEmpty, [.objectKey]⟩ := rfl
        rw [Scanner.scan, stepped, Option.bind_some] at scanned
        rw [Scanner.depth_cons stepped] at shallow
        have aligned : Phase.between.Aligned (maxNestingDepth - 1) ⟨.beginStringOrEmpty, [.objectKey]⟩ :=
          List.mem_cons_self
        exact shallow_of_mem_membersFrom aligned scanned ((le_max_right _ _).trans shallow) member known
  obtain ⟨s, read, ended, deep⟩ := inside
  have less : depth member.2 < maxNestingDepth := Nat.lt_of_le_pred (by decide) deep
  exact ⟨valid_iff.mpr ⟨s, read, ended, less.le⟩, less⟩

end EventGateway.Lib.Json
