import Mathlib.Data.List.Basic
import Mathlib.Data.UInt

/-! Standard Base64 with padding, as `encoding/base64` decodes it: line breaks are passed
over, and the bits that padding leaves over are not looked at. -/

namespace EventGateway.Lib.Base64

def sextet (c : Char) : Option Nat :=
  if 'A' ≤ c ∧ c ≤ 'Z' then some (c.toNat - 65)
  else if 'a' ≤ c ∧ c ≤ 'z' then some (c.toNat - 71)
  else if '0' ≤ c ∧ c ≤ '9' then some (c.toNat + 4)
  else if c = '+' then some 62
  else if c = '/' then some 63
  else none

def groupBytes (count bits : Nat) : List UInt8 :=
  [UInt8.ofNat (bits / 65536), UInt8.ofNat (bits / 256), UInt8.ofNat bits].take count

def decodeGroups : List Char → Option (List UInt8)
  | [] => some []
  | [a, b, '=', '='] => do
      let bits := (← sextet a) * 262144 + (← sextet b) * 4096
      pure (groupBytes 1 bits)
  | [a, b, c, '='] => do
      let bits := (← sextet a) * 262144 + (← sextet b) * 4096 + (← sextet c) * 64
      pure (groupBytes 2 bits)
  | a :: b :: c :: d :: rest => do
      let bits := (← sextet a) * 262144 + (← sextet b) * 4096 + (← sextet c) * 64 + (← sextet d)
      pure (groupBytes 3 bits ++ (← decodeGroups rest))
  | _ => none

def decode (text : List Char) : Option (List UInt8) :=
  decodeGroups (text.filter (fun c => c ≠ Char.ofNat 0x0D ∧ c ≠ Char.ofNat 0x0A))

theorem length_groupBytes (count bits : Nat) : (groupBytes count bits).length ≤ count :=
  List.length_take_le _ _

theorem length_decodeGroups {text : List Char} {bytes : List UInt8} (decoded : decodeGroups text = some bytes) :
    bytes.length ≤ text.length := by
  induction text using decodeGroups.induct generalizing bytes with
  | case1 =>
    cases decoded
    exact le_refl _
  | case2 a b =>
    simp only [decodeGroups, Option.bind_eq_bind, Option.bind_eq_some_iff, Option.pure_def,
      Option.some.injEq] at decoded
    obtain ⟨_, -, _, -, rfl⟩ := decoded
    exact (length_groupBytes _ _).trans (by simp)
  | case3 a b c =>
    simp only [decodeGroups, Option.bind_eq_bind, Option.bind_eq_some_iff, Option.pure_def,
      Option.some.injEq] at decoded
    obtain ⟨_, -, _, -, _, -, rfl⟩ := decoded
    exact (length_groupBytes _ _).trans (by simp)
  | case4 a b c d rest _ _ ih =>
    simp only [decodeGroups, Option.bind_eq_bind, Option.bind_eq_some_iff, Option.pure_def,
      Option.some.injEq] at decoded
    obtain ⟨first, -, second, -, third, -, fourth, -, tail, later, rfl⟩ := decoded
    have head := length_groupBytes 3 (first * 262144 + second * 4096 + third * 64 + fourth)
    have after := ih later
    simp only [List.length_append, List.length_cons]
    omega
  | case5 text =>
    rw [decodeGroups] at decoded
    · cases decoded
    all_goals assumption

theorem length_decode {text : List Char} {bytes : List UInt8} (decoded : decode text = some bytes) :
    bytes.length ≤ text.length :=
  (length_decodeGroups decoded).trans (List.length_filter_le _ _)

example : decode "SGk=".toList = some [0x48, 0x69] := by decide

end EventGateway.Lib.Base64
