import EventGateway.Lib.Json.Array
import EventGateway.Lib.SortedMap
import Mathlib.Data.String.Basic

/-! JSON values as `encoding/json` decodes them into an empty interface, and as it writes them
out again. Numbers become floating-point numbers; these, with their texts, are a parameter. -/

namespace EventGateway.Lib.Json

/-- Floating-point numbers with their texts, as `strconv` reads and writes them. A literal that
is out of range has no number. -/
structure Floats where
  Number : Type
  parse : Text → Option Number
  format : Number → Text
  value_format : ∀ number, Value (format number)
  format_head : ∀ number, ∃ c rest, format number = c :: rest ∧ (c = minus ∨ isDigit c = true)
  parse_format : ∀ number, parse (format number) = some number

inductive Tree (floats : Floats) where
  | null
  | bool (value : Bool)
  | num (value : floats.Number)
  | str (value : String)
  | arr (items : List (Tree floats))
  | obj (entries : List (String × Tree floats))

abbrev nullText : Text := [0x6E, 0x75, 0x6C, 0x6C]
abbrev trueText : Text := [0x74, 0x72, 0x75, 0x65]
abbrev falseText : Text := [0x66, 0x61, 0x6C, 0x73, 0x65]

section Options
variable {α β : Type} {f : α → Option β}

/-! Lists whose elements all have a result. -/

theorem map_of_mapM {xs : List α} {ys : List β} (results : xs.mapM f = some ys) : xs.map f = ys.map some := by
  induction xs generalizing ys with
  | nil =>
    cases results
    rfl
  | cons x rest ih =>
    simp only [List.mapM_cons, Option.bind_eq_bind, Option.bind_eq_some_iff, Option.pure_def,
      Option.some.injEq] at results
    obtain ⟨first, found, others, later, rfl⟩ := results
    rw [List.map_cons, List.map_cons, found, ih later]

theorem exists_of_mapM {xs : List α} {ys : List β} (results : xs.mapM f = some ys) {y : β} (member : y ∈ ys) :
    ∃ x ∈ xs, f x = some y := by
  rw [← List.mem_map, map_of_mapM results]
  exact List.mem_map_of_mem member

theorem length_of_mapM {xs : List α} {ys : List β} (results : xs.mapM f = some ys) : ys.length = xs.length := by
  simpa using (congrArg List.length (map_of_mapM results)).symm

theorem mapM_map_eq {g : β → α} {ys : List β} (back : ∀ y ∈ ys, f (g y) = some y) : (ys.map g).mapM f = some ys := by
  induction ys with
  | nil => rfl
  | cons y rest ih =>
    rw [List.map_cons, List.mapM_cons, back y List.mem_cons_self,
      ih (fun other member => back other (List.mem_cons_of_mem y member))]
    rfl

end Options

section Coding
variable {floats : Floats}

mutual

def encodeTree : Tree floats → Text
  | .null => nullText
  | .bool value => if value then trueText else falseText
  | .num value => floats.format value
  | .str value => encodeString value
  | .arr items => encodeArray (encodeTrees items)
  | .obj entries => encodeObject (encodeEntries entries)

def encodeTrees : List (Tree floats) → List Text
  | [] => []
  | item :: rest => encodeTree item :: encodeTrees rest

def encodeEntries : List (String × Tree floats) → List Member
  | [] => []
  | (name, value) :: rest => (name, encodeTree value) :: encodeEntries rest

end

def decodeScalar (text : Text) : Option (Tree floats) :=
  match text.head? with
  | some c =>
    if c = 0x6E then some .null
    else if c = 0x74 then some (.bool true)
    else if c = 0x66 then some (.bool false)
    else if c = quote then (unquote text).map .str
    else if c = minus ∨ isDigit c then (floats.parse text).map .num
    else none
  | none => none

def decodeMember (decode : Text → Option (Tree floats)) (member : Text × Text) : Option (String × Tree floats) := do
  pure (← unquote member.1, ← decode member.2)

/-- The value of a text that the scanner has accepted, without white space between tokens.
Objects are maps: of several members with one name the last one counts. The first argument
bounds the nesting. -/
def decodeTree : Nat → Text → Option (Tree floats)
  | 0, text => decodeScalar text
  | depth + 1, text =>
    if text.head? = some openBracket then
      ((elements text).mapM (decodeTree depth)).map .arr
    else if text.head? = some openBrace then
      ((members text).mapM (decodeMember (decodeTree depth))).map (fun all => .obj (SortedMap.ofList all).entries)
    else decodeScalar text

theorem encodeTrees_eq (items : List (Tree floats)) : encodeTrees items = items.map encodeTree := by
  induction items with
  | nil => rfl
  | cons item rest ih => rw [encodeTrees, ih, List.map_cons]

theorem encodeEntries_eq (entries : List (String × Tree floats)) :
    encodeEntries entries = entries.map (fun entry => (entry.1, encodeTree entry.2)) := by
  induction entries with
  | nil => rfl
  | cons entry rest ih => rw [encodeEntries, ih, List.map_cons]

mutual

theorem value_encodeTree : ∀ tree : Tree floats, Value (encodeTree tree)
  | .null => ⟨⟨.endValue, rfl, fun _ => rfl⟩, rfl⟩
  | .bool true => ⟨⟨.endValue, rfl, fun _ => rfl⟩, rfl⟩
  | .bool false => ⟨⟨.endValue, rfl, fun _ => rfl⟩, rfl⟩
  | .num value => floats.value_format value
  | .str value => value_encodeString value
  | .arr items => value_encodeArray (value_encodeTrees items)
  | .obj entries => value_encodeObject (value_encodeEntries entries)

theorem value_encodeTrees : ∀ items : List (Tree floats), ∀ text ∈ encodeTrees items, Value text
  | [] => nofun
  | item :: rest => List.forall_mem_cons.mpr ⟨value_encodeTree item, value_encodeTrees rest⟩

theorem value_encodeEntries : ∀ entries : List (String × Tree floats),
    ∀ member ∈ encodeEntries entries, Value member.2
  | [] => nofun
  | (_, value) :: rest => List.forall_mem_cons.mpr ⟨value_encodeTree value, value_encodeEntries rest⟩

end

theorem decodeScalar_encodeTree {text : Text} {tree : Tree floats} (decoded : decodeScalar text = some tree) :
    decodeScalar (encodeTree tree) = some tree ∧
      ∃ c, (encodeTree tree).head? = some c ∧ c ≠ openBracket ∧ c ≠ openBrace := by
  unfold decodeScalar at decoded
  split at decoded
  next c _ =>
    split_ifs at decoded
    · cases decoded
      exact ⟨rfl, 0x6E, rfl, by decide, by decide⟩
    · cases decoded
      exact ⟨rfl, 0x74, rfl, by decide, by decide⟩
    · cases decoded
      exact ⟨rfl, 0x66, rfl, by decide, by decide⟩
    · obtain ⟨value, -, rfl⟩ := Option.map_eq_some_iff.mp decoded
      have read := unquote_encodeString value
      obtain ⟨body, written⟩ := encodeString_eq value
      rw [encodeTree]
      rw [written] at read ⊢
      refine ⟨?_, quote, rfl, by decide, by decide⟩
      exact congrArg (Option.map Tree.str) read
    · obtain ⟨value, -, rfl⟩ := Option.map_eq_some_iff.mp decoded
      have read := floats.parse_format value
      obtain ⟨c, rest, written, number⟩ := floats.format_head value
      have other (d : UInt8) (letter : ¬(d = minus ∨ isDigit d = true)) : c ≠ d := by
        rintro rfl
        exact letter number
      rw [encodeTree]
      rw [written] at read ⊢
      refine ⟨?_, c, rfl, other openBracket (by decide), other openBrace (by decide)⟩
      simp only [decodeScalar, List.head?_cons, read, number, other 0x6E (by decide), other 0x74 (by decide),
        other 0x66 (by decide), other quote (by decide), if_false, if_true, Option.map_some]
  next => cases decoded

theorem decodeTree_array {depth : Nat} {items : List Text} (values : ∀ item ∈ items, Value item) :
    decodeTree (depth + 1) (encodeArray items) =
      (items.mapM (decodeTree depth)).map (Tree.arr : List (Tree floats) → Tree floats) := by
  have head : (encodeArray items).head? = some openBracket := by cases items <;> rfl
  rw [decodeTree, if_pos head, elements_encodeArray values]

def decodeNamed (depth : Nat) (member : Member) : Option (String × Tree floats) :=
  (decodeTree depth member.2).map (fun tree => (member.1, tree))

theorem decodeMember_encodeString (depth : Nat) (member : Member) :
    decodeMember (decodeTree depth) (encodeString member.1, member.2) =
      (decodeNamed depth member : Option (String × Tree floats)) := by
  simp only [decodeMember, decodeNamed, unquote_encodeString]
  cases decodeTree depth member.2 <;> rfl

theorem decodeTree_object {depth : Nat} {all : List Member} (values : ∀ member ∈ all, Value member.2) :
    decodeTree (depth + 1) (encodeObject all) =
      (all.mapM (decodeNamed depth)).map
        (fun (entries : List (String × Tree floats)) => .obj (SortedMap.ofList entries).entries) := by
  have head : (encodeObject all).head? = some openBrace := by cases all <;> rfl
  have other : (encodeObject all).head? ≠ some openBracket := by
    rw [head]
    decide
  have read : (fun member : Member => decodeMember (decodeTree depth) (encodeString member.1, member.2)) =
      (decodeNamed depth : Member → Option (String × Tree floats)) := funext (decodeMember_encodeString depth)
  rw [decodeTree, if_neg other, if_pos head, members_encodeObject values, List.mapM_map, ← read]
  rfl

theorem decodeTree_encodeTree {depth : Nat} {text : Text} {tree : Tree floats}
    (decoded : decodeTree depth text = some tree) : decodeTree depth (encodeTree tree) = some tree := by
  induction depth generalizing text tree with
  | zero => exact (decodeScalar_encodeTree decoded).1
  | succ depth ih =>
    unfold decodeTree at decoded
    split at decoded
    next =>
      obtain ⟨items, read, rfl⟩ := Option.map_eq_some_iff.mp decoded
      have back : ∀ item ∈ items, decodeTree depth (encodeTree item) = some item := by
        intro item member
        obtain ⟨element, -, found⟩ := exists_of_mapM read member
        exact ih found
      rw [encodeTree, decodeTree_array (value_encodeTrees items), encodeTrees_eq, mapM_map_eq back]
      rfl
    next =>
      split at decoded
      next =>
        obtain ⟨all, read, rfl⟩ := Option.map_eq_some_iff.mp decoded
        have back : ∀ entry ∈ (SortedMap.ofList all).entries,
            decodeNamed depth (entry.1, encodeTree entry.2) = some entry := by
          intro entry member
          obtain ⟨_, -, found⟩ := exists_of_mapM read (SortedMap.mem_ofList member)
          simp only [decodeMember, Option.bind_eq_bind, Option.bind_eq_some_iff, Option.pure_def,
            Option.some.injEq] at found
          obtain ⟨name, -, value, found, rfl⟩ := found
          rw [decodeNamed, ih found, Option.map_some]
        rw [encodeTree, decodeTree_object (value_encodeEntries _), encodeEntries_eq, mapM_map_eq back, Option.map_some,
          SortedMap.ofList_entries]
      next =>
        obtain ⟨back, c, head, noArray, noObject⟩ := decodeScalar_encodeTree decoded
        rw [decodeTree, head, if_neg (fun same => noArray (Option.some.inj same)),
          if_neg (fun same => noObject (Option.some.inj same)), back]

/-- A tree that was read is written again no deeper than the reader allows. -/
theorem depth_encodeTree_le {bound : Nat} {text : Text} {tree : Tree floats}
    (decoded : decodeTree bound text = some tree) : depth (encodeTree tree) ≤ bound := by
  have scalar {text : Text} {tree : Tree floats} (decoded : decodeScalar text = some tree) :
      depth (encodeTree tree) = 0 := by
    obtain ⟨-, c, head, noArray, noObject⟩ := decodeScalar_encodeTree decoded
    apply (value_encodeTree tree).depth_scalar
    rw [head]
    rintro c ⟨⟩
    exact ⟨noObject, noArray⟩
  induction bound generalizing text tree with
  | zero => exact (scalar decoded).le
  | succ bound ih =>
    unfold decodeTree at decoded
    split_ifs at decoded
    · obtain ⟨items, read, rfl⟩ := Option.map_eq_some_iff.mp decoded
      rw [encodeTree]
      refine depth_encodeArray_le (value_encodeTrees items) (fun item known => ?_)
      rw [encodeTrees_eq] at known
      obtain ⟨tree, member, rfl⟩ := List.mem_map.mp known
      obtain ⟨element, -, found⟩ := exists_of_mapM read member
      exact ih found
    · obtain ⟨all, read, rfl⟩ := Option.map_eq_some_iff.mp decoded
      rw [encodeTree]
      refine (depth_encodeObject_le (value_encodeEntries _)).mpr (fun member known => ?_)
      rw [encodeEntries_eq] at known
      obtain ⟨entry, kept, rfl⟩ := List.mem_map.mp known
      obtain ⟨_, -, found⟩ := exists_of_mapM read (SortedMap.mem_ofList kept)
      simp only [decodeMember, Option.bind_eq_bind, Option.bind_eq_some_iff, Option.pure_def,
        Option.some.injEq] at found
      obtain ⟨name, -, value, found, rfl⟩ := found
      exact ih found
    · rw [scalar decoded]
      exact Nat.zero_le _

def Tree.Fits (text : Text) : Tree floats → Prop
  | .str value => text.head? = some quote ∧ unquote text = some value
  | .arr items => text.head? = some openBracket ∧ items.length = (elements text).length
  | .obj entries => (SortedMap.ofList entries).entries = entries
  | .null | .bool _ | .num _ => True

theorem fits_of_decodeScalar {text : Text} {tree : Tree floats} (decoded : decodeScalar text = some tree) :
    tree.Fits text := by
  unfold decodeScalar at decoded
  split at decoded
  next c head =>
    split_ifs at decoded with _ _ _ string _
    · cases decoded
      trivial
    · cases decoded
      trivial
    · cases decoded
      trivial
    · obtain ⟨value, literal, rfl⟩ := Option.map_eq_some_iff.mp decoded
      exact ⟨string ▸ head, literal⟩
    · obtain ⟨value, -, rfl⟩ := Option.map_eq_some_iff.mp decoded
      trivial
  next => cases decoded

theorem fits_of_decodeTree {depth : Nat} {text : Text} {tree : Tree floats}
    (decoded : decodeTree depth text = some tree) : tree.Fits text := by
  cases depth with
  | zero => exact fits_of_decodeScalar decoded
  | succ depth =>
    unfold decodeTree at decoded
    split at decoded
    next array =>
      obtain ⟨items, read, rfl⟩ := Option.map_eq_some_iff.mp decoded
      exact ⟨array, length_of_mapM read⟩
    next =>
      split at decoded
      next =>
        obtain ⟨all, -, rfl⟩ := Option.map_eq_some_iff.mp decoded
        exact congrArg SortedMap.entries (SortedMap.ofList_entries _)
      next => exact fits_of_decodeScalar decoded

end Coding
end EventGateway.Lib.Json
