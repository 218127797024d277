import Mathlib.Order.Basic
import Mathlib.Data.Option.Basic

/-! Entries that expire, once and for all. Two entries are alike from some time on if no later look can
tell them apart, and an expired entry is like one that was dropped. -/

namespace EventGateway.Lib.Expiry
variable {τ ρ : Type*} {expired : τ → ρ → Bool} {clock now : τ} {entry one two three : Option ρ}

def live (expired : τ → ρ → Bool) (now : τ) (entry : Option ρ) : Option ρ :=
  entry.filter (fun held => !expired now held)

@[simp] theorem live_none : live expired now none = none := rfl

theorem live_eq_some {held : ρ} :
    live expired now entry = some held ↔ entry = some held ∧ expired now held = false := by
  simp [live, Option.filter_eq_some_iff]

theorem live_some (held : ρ) : live expired now (some held) = if expired now held then none else some held := by
  simp only [live, Option.filter_some]
  cases expired now held <;> rfl

variable [Preorder τ] {next : τ}

def Final (expired : τ → ρ → Bool) : Prop :=
  ∀ now next held, now ≤ next → expired now held = true → expired next held = true

def Alike (expired : τ → ρ → Bool) (clock : τ) (one two : Option ρ) : Prop :=
  ∀ now, clock ≤ now → live expired now one = live expired now two

theorem live_live (final : Final expired) (order : now ≤ next) :
    live expired next (live expired now entry) = live expired next entry := by
  cases entry with
  | none => rfl
  | some held =>
    rw [live_some]
    split
    next old =>
      rw [live_some, if_pos (final now _ held order old)]
      rfl
    next => rfl

theorem Alike.refl (entry : Option ρ) : Alike expired clock entry entry := fun _ _ => rfl

theorem Alike.symm (alike : Alike expired clock one two) : Alike expired clock two one :=
  fun now order => (alike now order).symm

theorem Alike.trans (first : Alike expired clock one two) (second : Alike expired clock two three) :
    Alike expired clock one three :=
  fun now order => (first now order).trans (second now order)

theorem Alike.mono (alike : Alike expired clock one two) (order : clock ≤ now) : Alike expired now one two :=
  fun _ beyond => alike _ (order.trans beyond)

theorem alike_live (final : Final expired) (now : τ) (entry : Option ρ) :
    Alike expired now (live expired now entry) entry :=
  fun _ order => live_live final order

end EventGateway.Lib.Expiry
