import EventGateway.Domain.Event
import Mathlib.Data.List.DropRight

/-! The functions of Go's standard library that turn the text of a variable into a value: `strings.TrimSpace`,
`strconv.Atoi` and `time.ParseDuration`. Every error is the same to the caller, who then uses the default. -/

namespace EventGateway.Configuration

def isSpace (c : Char) : Bool :=
  c.toNat ∈ [0x09, 0x0a, 0x0b, 0x0c, 0x0d, 0x20, 0x85, 0xa0, 0x1680, 0x2028, 0x2029, 0x202f, 0x205f, 0x3000] ||
    (0x2000 ≤ c.toNat && c.toNat ≤ 0x200a)

def trimSpace (text : List Char) : String := String.ofList ((text.dropWhile isSpace).rdropWhile isSpace)

theorem trimSpace_eq_empty {text : List Char} : trimSpace text = "" ↔ ∀ c ∈ text, isSpace c = true := by
  have empty : trimSpace text = "" ↔ (text.dropWhile isSpace).rdropWhile isSpace = [] := by
    rw [trimSpace, ← String.ofList_nil, String.ofList_inj]
  rw [empty, List.rdropWhile_eq_nil_iff]
  constructor
  · intro blank c member
    by_contra other
    have kept : c ∈ text.dropWhile isSpace := by
      rw [← @List.takeWhile_append_dropWhile _ isSpace text, List.mem_append] at member
      exact member.resolve_left (fun among => other (List.mem_takeWhile_imp among))
    exact other (blank c kept)
  · intro blank c member
    exact blank c ((List.dropWhile_sublist isSpace).mem member)

def valueOf (digits : List Char) : Nat := digits.foldl (fun n digit => 10 * n + (digit.toNat - '0'.toNat)) 0

def decimal (digits : List Char) : Option Nat :=
  if digits ≠ [] ∧ digits.all Char.isDigit then some (valueOf digits) else none

def signed (text : List Char) : Option Int :=
  match text with
  | '-' :: digits => (decimal digits).map (fun n => -(n : Int))
  | '+' :: digits => (decimal digits).map (fun n => (n : Int))
  | digits => (decimal digits).map (fun n => (n : Int))

def atoi (text : String) : Option Int64 :=
  match signed text.toList with
  | some n => if -2 ^ 63 ≤ n ∧ n < 2 ^ 63 then some (Int64.ofInt n) else none
  | none => none

def unitMap (unit : String) : Option Nat :=
  if unit = "ns" then some 1
  else if unit = "us" ∨ unit = "µs" ∨ unit = "μs" then some 1000
  else if unit = "ms" then some 1000000
  else if unit = "s" then some 1000000000
  else if unit = "m" then some (60 * 1000000000)
  else if unit = "h" then some (3600 * 1000000000)
  else none

def inUnit (c : Char) : Bool := !(c = '.' || c.isDigit)

def leadingFraction (text : List Char) : List Char × List Char :=
  match text with
  | '.' :: more => (more.takeWhile Char.isDigit, more.dropWhile Char.isDigit)
  | rest => ([], rest)

section Durations
variable (fraction : List Char → Nat → Nat)

def leadingPart (text : List Char) : Option (Nat × List Char) :=
  let whole := text.takeWhile Char.isDigit
  let (digits, rest) := leadingFraction (text.dropWhile Char.isDigit)
  let unit := rest.takeWhile inUnit
  if whole = [] ∧ digits = [] then none
  else if unit = [] then none
  else match unitMap (String.ofList unit) with
    | none => none
    | some size =>
      if valueOf whole > 2 ^ 63 / size then none
      else
        let v := valueOf whole * size + if valueOf digits > 0 then fraction digits size else 0
        if v > 2 ^ 63 then none else some (v, rest.dropWhile inUnit)

theorem leadingFraction_length (text : List Char) : (leadingFraction text).2.length ≤ text.length := by
  unfold leadingFraction
  split
  next more => exact ((List.dropWhile_sublist Char.isDigit).length_le).trans (Nat.le_succ more.length)
  next => exact le_rfl

theorem leadingPart_shorter {text rest : List Char} {v : Nat} (read : leadingPart fraction text = some (v, rest)) :
    rest.length < text.length := by
  have before : (leadingFraction (text.dropWhile Char.isDigit)).2.length ≤ text.length :=
    (leadingFraction_length _).trans (List.dropWhile_sublist Char.isDigit).length_le
  unfold leadingPart at read
  generalize leadingFraction (text.dropWhile Char.isDigit) = number at read before
  have whole := congrArg List.length (@List.takeWhile_append_dropWhile _ inUnit number.2)
  rw [List.length_append] at whole
  by_cases unit : number.2.takeWhile inUnit = []
  · simp [unit] at read
  · have positive := List.length_pos_iff.mpr unit
    have after : rest = number.2.dropWhile inUnit := by grind
    rw [after]
    omega

def sumParts (total : Nat) (text : List Char) : Option Nat :=
  if text = [] then some total
  else match part : leadingPart fraction text with
    | none => none
    | some (v, rest) =>
      let d := (total + v) % 2 ^ 64
      if d > 2 ^ 63 then none else sumParts d rest
termination_by text.length
decreasing_by exact leadingPart_shorter fraction part

def parseDuration (text : String) : Option Duration :=
  let (neg, text) := match text.toList with
    | '-' :: rest => (true, rest)
    | '+' :: rest => (false, rest)
    | rest => (false, rest)
  if text = ['0'] then some 0
  else if text = [] then none
  else match sumParts fraction 0 text with
    | none => none
    | some d =>
      if neg then some (Int64.ofInt (-d))
      else if d > 2 ^ 63 - 1 then none
      else some (Int64.ofInt d)

end Durations

example : parseDuration (fun _ _ => 0) "1h5m" = some 3900000000000 := by decide +kernel

end EventGateway.Configuration
