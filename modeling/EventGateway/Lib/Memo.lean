import EventGateway.Lib.FiniteMap

/-! Results that are remembered: what is looked up is what would be computed. Failures are
not remembered. -/

namespace EventGateway.Lib.Memo
variable {κ α ε : Type*} [DecidableEq κ]

def get (memo : Finmap (fun _ : κ => α)) (compute : κ → Except ε α) (key : κ) :
    Except ε α × Finmap (fun _ : κ => α) :=
  match memo.lookup key with
  | some value => (.ok value, memo)
  | none =>
    match compute key with
    | .error cause => (.error cause, memo)
    | .ok value => (.ok value, memo.insert key value)

def Sound (memo : Finmap (fun _ : κ => α)) (compute : κ → Except ε α) : Prop :=
  ∀ key value, memo.lookup key = some value → compute key = .ok value

variable {memo : Finmap (fun _ : κ => α)} {compute : κ → Except ε α}

theorem sound_empty : Sound ∅ compute := by
  intro key value found
  rw [Finmap.lookup_empty] at found
  cases found

theorem get_eq (sound : Sound memo compute) (key : κ) :
    (get memo compute key).1 = compute key ∧ Sound (get memo compute key).2 compute := by
  unfold get
  cases found : memo.lookup key with
  | some value => exact ⟨(sound key value found).symm, sound⟩
  | none =>
    cases computed : compute key with
    | error cause => exact ⟨rfl, sound⟩
    | ok value =>
      refine ⟨rfl, fun other value' known => ?_⟩
      rw [FiniteMap.lookup_insert] at known
      split at known
      next same =>
        cases known
        rw [same, computed]
      next => exact sound other value' known

end EventGateway.Lib.Memo
