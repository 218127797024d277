import Mathlib.Logic.Relation

/-! Labelled machines. A label carries every choice that the environment or the
scheduler makes, so that one step is a partial function and a finite run can be
evaluated. Safety results are stated for `Reaches`, whose second parameter
admits only those steps that are taken under a stated condition. -/

namespace EventGateway.Lib

structure Machine (σ α : Type*) where
  init : σ → Prop
  step : σ → α → Option σ

namespace Machine
variable {σ α : Type*}

def run (machine : Machine σ α) (admits : σ → α → Prop) [∀ state label, Decidable (admits state label)] :
    σ → List α → Option σ
  | state, [] => some state
  | state, label :: rest =>
      if admits state label then
        (machine.step state label).bind (fun next => machine.run admits next rest)
      else none

inductive Reaches (machine : Machine σ α) (admits : σ → α → Prop) : σ → Prop where
  | start {state : σ} (initial : machine.init state) : machine.Reaches admits state
  | next {state after : σ} {label : α} (before : machine.Reaches admits state)
      (admitted : admits state label) (step : machine.step state label = some after) :
      machine.Reaches admits after

abbrev Reachable (machine : Machine σ α) : σ → Prop := machine.Reaches (fun _ _ => True)

theorem Reaches.invariant {machine : Machine σ α} {admits : σ → α → Prop} (holds : σ → Prop)
    (initially : ∀ state, machine.init state → holds state)
    (preserved : ∀ state label after, machine.Reaches admits state → holds state → admits state label →
      machine.step state label = some after → holds after)
    {state : σ} (reached : machine.Reaches admits state) : holds state := by
  induction reached with
  | start initial => exact initially _ initial
  | next before admitted step ih => exact preserved _ _ _ before ih admitted step

theorem Reaches.mono {machine : Machine σ α} {strict loose : σ → α → Prop}
    (weaker : ∀ state label, strict state label → loose state label)
    {state : σ} (reached : machine.Reaches strict state) : machine.Reaches loose state := by
  induction reached with
  | start initial => exact .start initial
  | next before admitted step ih => exact .next ih (weaker _ _ admitted) step

theorem Reaches.reachable {machine : Machine σ α} {admits : σ → α → Prop} {state : σ}
    (reached : machine.Reaches admits state) : machine.Reachable state :=
  reached.mono (fun _ _ _ => trivial)

theorem run_cons {machine : Machine σ α} {admits : σ → α → Prop} [∀ state label, Decidable (admits state label)]
    {state after : σ} {label : α} {rest : List α} (ran : machine.run admits state (label :: rest) = some after) :
    ∃ next, admits state label ∧ machine.step state label = some next ∧ machine.run admits next rest = some after := by
  simp only [Machine.run] at ran
  split at ran
  next admitted =>
    obtain ⟨next, stepped, rest⟩ := Option.bind_eq_some_iff.mp ran
    exact ⟨next, admitted, stepped, rest⟩
  next => cases ran

theorem Reaches.run {machine : Machine σ α} {admits : σ → α → Prop}
    [∀ state label, Decidable (admits state label)] {state after : σ} (labels : List α)
    (reached : machine.Reaches admits state) (ran : machine.run admits state labels = some after) :
    machine.Reaches admits after := by
  induction labels generalizing state with
  | nil =>
    simp only [Machine.run, Option.some.injEq] at ran
    exact ran ▸ reached
  | cons label rest ih =>
    obtain ⟨next, admitted, stepped, later⟩ := run_cons ran
    exact ih (.next reached admitted stepped) later

theorem run_append {machine : Machine σ α} {admits : σ → α → Prop} [∀ state label, Decidable (admits state label)]
    {state after : σ} {first second : List α} (ran : machine.run admits state (first ++ second) = some after) :
    ∃ middle, machine.run admits state first = some middle ∧ machine.run admits middle second = some after := by
  induction first generalizing state with
  | nil => exact ⟨state, rfl, ran⟩
  | cons label rest ih =>
    obtain ⟨next, admitted, stepped, later⟩ := run_cons ran
    obtain ⟨middle, head, tail⟩ := ih later
    exact ⟨middle, by simp only [Machine.run, if_pos admitted, stepped, Option.bind_some, head], tail⟩

/-- A trace that can be evaluated shows that a state with the tested property is reached. -/
theorem reaches_of_run (machine : Machine σ α) (admits : σ → α → Prop)
    [∀ state label, Decidable (admits state label)] (state : σ) (labels : List α) (test : σ → Bool)
    (initial : machine.init state) (found : (machine.run admits state labels).map test = some true) :
    ∃ after, machine.Reaches admits after ∧ test after = true := by
  cases ran : machine.run admits state labels with
  | none => simp [ran] at found
  | some after =>
    simp only [ran, Option.map_some, Option.some.injEq] at found
    exact ⟨after, Reaches.run labels (.start initial) ran, found⟩

theorem length_add_le_of_run {machine : Machine σ α} {admits : σ → α → Prop}
    [∀ state label, Decidable (admits state label)] (weight : σ → Nat)
    (lowered : ∀ state label after, machine.step state label = some after → weight after < weight state)
    {state after : σ} {labels : List α} (ran : machine.run admits state labels = some after) :
    labels.length + weight after ≤ weight state := by
  induction labels generalizing state with
  | nil =>
    cases ran
    exact Nat.le_of_eq (Nat.zero_add _)
  | cons label rest ih =>
    obtain ⟨next, -, stepped, later⟩ := run_cons ran
    have first := lowered state label next stepped
    have others := ih later
    rw [List.length_cons]
    omega

def startingAt (machine : Machine σ α) (start : σ) : Machine σ α where
  init := (· = start)
  step := machine.step

theorem Reaches.trans {machine : Machine σ α} {admits : σ → α → Prop} {state after : σ}
    (reached : machine.Reaches admits state) (further : (machine.startingAt state).Reaches admits after) :
    machine.Reaches admits after := by
  induction further with
  | start initial => exact initial ▸ reached
  | next _ admitted step ih => exact .next ih admitted step

section Interleaving
variable {τ β : Type*} {one : Machine σ α} {other : Machine τ β} {admits : σ × τ → α ⊕ β → Prop}

def interleave (one : Machine σ α) (other : Machine τ β) : Machine (σ × τ) (α ⊕ β) where
  init := fun state => one.init state.1 ∧ other.init state.2
  step := fun state label =>
    match label with
    | .inl own => (one.step state.1 own).map (fun after => (after, state.2))
    | .inr own => (other.step state.2 own).map (fun after => (state.1, after))

theorem Reaches.left {own : σ → α → Prop} (weaker : ∀ state label, admits state (.inl label) → own state.1 label)
    {state : σ × τ} (reached : (one.interleave other).Reaches admits state) : one.Reaches own state.1 := by
  induction reached with
  | start initial => exact .start initial.1
  | @next state after label _ admitted step ih =>
    cases label with
    | inl label =>
      obtain ⟨moved, stepped, rfl⟩ := Option.map_eq_some_iff.mp step
      exact .next ih (weaker _ _ admitted) stepped
    | inr label =>
      obtain ⟨moved, -, rfl⟩ := Option.map_eq_some_iff.mp step
      exact ih

theorem Reaches.right {own : τ → β → Prop} (weaker : ∀ state label, admits state (.inr label) → own state.2 label)
    {state : σ × τ} (reached : (one.interleave other).Reaches admits state) : other.Reaches own state.2 := by
  induction reached with
  | start initial => exact .start initial.2
  | @next state after label _ admitted step ih =>
    cases label with
    | inl label =>
      obtain ⟨moved, -, rfl⟩ := Option.map_eq_some_iff.mp step
      exact ih
    | inr label =>
      obtain ⟨moved, stepped, rfl⟩ := Option.map_eq_some_iff.mp step
      exact .next ih (weaker _ _ admitted) stepped

end Interleaving

end Machine
end EventGateway.Lib
