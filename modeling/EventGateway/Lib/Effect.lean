import Mathlib.Data.List.Forall2
import Mathlib.Tactic.Common

/-! Effects on a state that may fail with a message, with rules of pre- and
postconditions for them. The two loops run an action on every element, one of them
collecting the results; a failure stops the loop and keeps the state reached so far. -/

namespace EventGateway.Lib

def Effect (σ α : Type) : Type := σ → Except String α × σ

namespace Effect
variable {σ τ α β : Type}

protected def pure (value : α) : Effect σ α := fun state => (.ok value, state)

protected def bind (first : Effect σ α) (next : α → Effect σ β) : Effect σ β := fun state =>
  match first state with
  | (.ok value, after) => next value after
  | (.error err, after) => (.error err, after)

instance : Monad (Effect σ) where
  pure := Effect.pure
  bind := Effect.bind

def fail (err : String) : Effect σ α := fun state => (.error err, state)

def observe (action : σ → α × σ) : Effect σ α := fun state => (.ok (action state).1, (action state).2)

/-- Prefix the message of a failure, as wrapping with `%w` does. -/
def wrap (context : String) (action : Effect σ α) : Effect σ α := fun state =>
  match action state with
  | (.ok value, after) => (.ok value, after)
  | (.error err, after) => (.error (context ++ err), after)

/-- Run the body on every element with its index, from `start` on. -/
def eachFrom (body : Nat → α → Effect σ Unit) : Nat → List α → Effect σ Unit
  | _, [] => pure ()
  | start, element :: rest => do
      body start element
      eachFrom body (start + 1) rest

def collectFrom (body : Nat → α → Effect σ β) : Nat → List α → Effect σ (List β)
  | _, [] => pure []
  | start, element :: rest => do
      let result ← body start element
      let results ← collectFrom body (start + 1) rest
      pure (result :: results)

theorem bind_apply (first : Effect σ α) (next : α → Effect σ β) (state : σ) :
    (first >>= next) state = match first state with
      | (.ok value, after) => next value after
      | (.error err, after) => (.error err, after) := rfl

/-- From a state with `before`, a success ends in `after` and a failure in `failed`. -/
def Triple (before : σ → Prop) (action : Effect σ α) (after : α → σ → Prop) (failed : σ → Prop) : Prop :=
  ∀ state, before state → match action state with
    | (.ok value, final) => after value final
    | (.error _, final) => failed final

section Rules
variable {before : σ → Prop} {failed : σ → Prop}

theorem Triple.ok {action : Effect σ α} {after : α → σ → Prop}
    (triple : Triple before action after failed) {state final : σ} (start : before state)
    {value : α} (ran : action state = (.ok value, final)) : after value final := by
  have result := triple state start
  rwa [ran] at result

theorem Triple.error {action : Effect σ α} {after : α → σ → Prop}
    (triple : Triple before action after failed) {state final : σ} (start : before state)
    {err : String} (ran : action state = (.error err, final)) : failed final := by
  have result := triple state start
  rwa [ran] at result

theorem Triple.of_final {action : Effect σ α} (kept : ∀ state, before state → before (action state).2) :
    Triple before action (fun _ => before) before := by
  intro state start
  have result := kept state start
  revert result
  rcases action state with ⟨err | value, after⟩
  · exact id
  · exact id

theorem Triple.final {action : Effect σ α} (triple : Triple before action (fun _ => before) before)
    {state : σ} (start : before state) : before (action state).2 := by
  have result := triple state start
  revert result
  rcases action state with ⟨err | value, after⟩
  · exact id
  · exact id

theorem Triple.succeeds {action : Effect σ α} {after : α → σ → Prop}
    (triple : Triple before action after (fun _ => False)) {state : σ} (start : before state) :
    ∃ value final, action state = (.ok value, final) ∧ after value final := by
  have result := triple state start
  rcases ran : action state with ⟨err | value, final⟩
  · rw [ran] at result
    exact result.elim
  · rw [ran] at result
    exact ⟨value, final, rfl, result⟩

theorem Triple.weaken {action : Effect σ α} {after wider : α → σ → Prop} {failed' : σ → Prop}
    (triple : Triple before action after failed)
    (success : ∀ value final, after value final → wider value final)
    (failure : ∀ final, failed final → failed' final) : Triple before action wider failed' := by
  intro state start
  have result := triple state start
  rcases ran : action state with ⟨err | value, final⟩
  · rw [ran] at result
    exact failure final result
  · rw [ran] at result
    exact success value final result

theorem Triple.failing {action : Effect σ α} {after : α → σ → Prop} {failed' : σ → Prop}
    (triple : Triple before action after failed) (failure : ∀ final, failed final → failed' final) :
    Triple before action after failed' :=
  triple.weaken (fun _ _ reached => reached) failure

/-- A fact that does not depend on the state may be taken out of the precondition. -/
theorem Triple.given {fact : Prop} {action : Effect σ α} {after : α → σ → Prop}
    (triple : fact → Triple before action after failed) :
    Triple (fun state => fact ∧ before state) action after failed :=
  fun state start => triple start.1 state start.2

theorem Triple.pure {value : α} {after : α → σ → Prop}
    (holds : ∀ state, before state → after value state) :
    Triple before (Pure.pure value : Effect σ α) after failed :=
  holds

theorem Triple.fail {err : String} {after : α → σ → Prop}
    (holds : ∀ state, before state → failed state) :
    Triple before (Effect.fail err : Effect σ α) after failed :=
  holds

theorem Triple.observe {action : σ → α × σ} {after : α → σ → Prop}
    (holds : ∀ state, before state → after (action state).1 (action state).2) :
    Triple before (Effect.observe action) after failed :=
  holds

theorem Triple.bind {first : Effect σ α} {next : α → Effect σ β} {middle : α → σ → Prop}
    {after : β → σ → Prop} (head : Triple before first middle failed)
    (tail : ∀ value, Triple (middle value) (next value) after failed) :
    Triple before (first >>= next) after failed := by
  intro state start
  have result := head state start
  rw [bind_apply]
  rcases ran : first state with ⟨err | value, final⟩
  · rw [ran] at result
    exact result
  · rw [ran] at result
    exact tail value final result

theorem Triple.wrap {context : String} {action : Effect σ α} {after : α → σ → Prop}
    (triple : Triple before action after failed) :
    Triple before (Effect.wrap context action) after failed := by
  intro state start
  have result := triple state start
  unfold Effect.wrap
  rcases ran : action state with ⟨err | value, final⟩
  · rw [ran] at result
    exact result
  · rw [ran] at result
    exact result

theorem Triple.eachFrom {body : Nat → α → Effect σ Unit} (holds : List α → σ → Prop)
    (elements : List α)
    (step : ∀ index done element, done ++ [element] <+: elements →
      Triple (holds done) (body index element) (fun _ => holds (done ++ [element])) failed)
    (start : Nat) : Triple (holds []) (eachFrom body start elements) (fun _ => holds elements) failed := by
  suffices loop : ∀ rest done start, done ++ rest = elements →
      Triple (holds done) (Effect.eachFrom body start rest) (fun _ => holds elements) failed from
    loop elements [] start rfl
  intro rest
  induction rest with
  | nil =>
    intro done start whole
    rw [List.append_nil] at whole
    subst whole
    exact Triple.pure (fun _ reached => reached)
  | cons element rest ih =>
    intro done start whole
    have split : (done ++ [element]) ++ rest = elements := by simpa using whole
    exact (step start done element ⟨rest, split⟩).bind (fun _ => ih _ (start + 1) split)

/-- The rule for the collecting loop: the invariant speaks about the elements that are done and their results. -/
theorem Triple.collecting {body : Nat → α → Effect σ β} (holds : List α → List β → σ → Prop) (elements : List α)
    (step : ∀ index done values, ∀ element ∈ elements, Triple (holds done values) (body index element)
      (fun value => holds (done ++ [element]) (values ++ [value])) failed) (start : Nat) :
    Triple (holds [] []) (collectFrom body start elements) (holds elements) failed := by
  suffices loop : ∀ rest done values start, (∀ element ∈ rest, element ∈ elements) →
      Triple (holds done values) (Effect.collectFrom body start rest)
        (fun more => holds (done ++ rest) (values ++ more)) failed from
    loop elements [] [] start (fun _ member => member)
  intro rest
  induction rest with
  | nil =>
    intro done values start _
    apply Triple.pure
    intro state reached
    rwa [List.append_nil, List.append_nil]
  | cons element rest ih =>
    intro done values start inside
    apply (step start done values element (inside element List.mem_cons_self)).bind
    intro value
    apply (ih (done ++ [element]) (values ++ [value]) (start + 1)
      (fun other member => inside other (List.mem_cons_of_mem _ member))).bind
    intro more
    apply Triple.pure
    intro state reached
    rwa [List.append_assoc, List.append_assoc] at reached

theorem Triple.collectFrom {body : Nat → α → Effect σ β} (related : α → β → Prop) (elements : List α)
    (step : ∀ index, ∀ element ∈ elements, Triple before (body index element)
      (fun value state => related element value ∧ before state) failed) (start : Nat) :
    Triple before (collectFrom body start elements)
      (fun values state => List.Forall₂ related elements values ∧ before state) failed := by
  intro state reached
  apply Triple.collecting (fun done values state => List.Forall₂ related done values ∧ before state) elements
  · intro index done values element member
    apply Triple.given
    intro others
    apply (step index element member).weaken
    · exact fun value final own => ⟨List.rel_append others (.cons own.1 .nil), own.2⟩
    · exact fun _ => id
  · exact ⟨.nil, reached⟩

end Rules

/-- From a state with `before` the action fails, with a message for which `reason` holds. -/
def Refuses (before : σ → Prop) (action : Effect σ α) (reason : String → Prop) : Prop :=
  ∀ state, before state → ∃ err final, action state = (.error err, final) ∧ reason err

section Refusal
variable {before : σ → Prop} {reason : String → Prop}

theorem Refuses.fail {err : String} (holds : reason err) :
    Refuses before (Effect.fail err : Effect σ α) reason :=
  fun state _ => ⟨err, state, rfl, holds⟩

theorem Refuses.head {first : Effect σ α} {next : α → Effect σ β} (refuses : Refuses before first reason) :
    Refuses before (first >>= next) reason := by
  intro state start
  obtain ⟨err, final, ran, holds⟩ := refuses state start
  exact ⟨err, final, by rw [bind_apply, ran], holds⟩

theorem Refuses.given {fact : Prop} {action : Effect σ α} (refuses : fact → Refuses before action reason) :
    Refuses (fun state => fact ∧ before state) action reason :=
  fun state start => refuses start.1 state start.2

theorem Triple.refuses {first : Effect σ α} {next : α → Effect σ β} {middle : α → σ → Prop}
    (succeeds : Triple before first middle (fun _ => False))
    (refuses : ∀ value, Refuses (middle value) (next value) reason) :
    Refuses before (first >>= next) reason := by
  intro state start
  obtain ⟨value, middle, ran, reached⟩ := succeeds.succeeds start
  obtain ⟨err, final, failed, holds⟩ := refuses value middle reached
  exact ⟨err, final, by rw [bind_apply, ran]; exact failed, holds⟩

theorem Refuses.wrap {context : String} {action : Effect σ α}
    (refuses : Refuses before action (fun err => reason (context ++ err))) :
    Refuses before (Effect.wrap context action) reason := by
  intro state start
  obtain ⟨err, final, ran, holds⟩ := refuses state start
  exact ⟨context ++ err, final, by simp only [Effect.wrap, ran], holds⟩

end Refusal

def Mirrors (view : σ → τ) (fine : Effect σ α) (coarse : Effect τ α) : Prop :=
  ∀ state, coarse (view state) = ((fine state).1, view (fine state).2)

section Mirroring
variable {view : σ → τ}

theorem Mirrors.pure (value : α) :
    Mirrors view (Pure.pure value : Effect σ α) (Pure.pure value : Effect τ α) :=
  fun _ => rfl

theorem Mirrors.fail (err : String) :
    Mirrors view (Effect.fail err : Effect σ α) (Effect.fail err : Effect τ α) :=
  fun _ => rfl

theorem Mirrors.observe {fine : σ → α × σ} {coarse : τ → α × τ}
    (same : ∀ state, coarse (view state) = ((fine state).1, view (fine state).2)) :
    Mirrors view (Effect.observe fine) (Effect.observe coarse) := by
  intro state
  simp only [Effect.observe, same state]

theorem Mirrors.bind {first : Effect σ α} {first' : Effect τ α} {next : α → Effect σ β}
    {next' : α → Effect τ β} (head : Mirrors view first first')
    (tail : ∀ value, Mirrors view (next value) (next' value)) :
    Mirrors view (first >>= next) (first' >>= next') := by
  intro state
  rw [bind_apply, bind_apply, head state]
  rcases first state with ⟨err | value, final⟩
  · rfl
  · exact tail value final

theorem Mirrors.wrap {fine : Effect σ α} {coarse : Effect τ α} (context : String)
    (same : Mirrors view fine coarse) :
    Mirrors view (Effect.wrap context fine) (Effect.wrap context coarse) := by
  intro state
  simp only [Effect.wrap, same state]
  rcases fine state with ⟨err | value, final⟩ <;> rfl

theorem Mirrors.eachFrom {body : Nat → α → Effect σ Unit} {body' : Nat → α → Effect τ Unit}
    (same : ∀ index element, Mirrors view (body index element) (body' index element))
    (elements : List α) (start : Nat) :
    Mirrors view (Effect.eachFrom body start elements) (Effect.eachFrom body' start elements) := by
  induction elements generalizing start with
  | nil => exact Mirrors.pure ()
  | cons element rest ih => exact (same start element).bind (fun _ => ih (start + 1))

theorem Mirrors.collectFrom {body : Nat → α → Effect σ β} {body' : Nat → α → Effect τ β}
    (same : ∀ index element, Mirrors view (body index element) (body' index element))
    (elements : List α) (start : Nat) :
    Mirrors view (Effect.collectFrom body start elements) (Effect.collectFrom body' start elements) := by
  induction elements generalizing start with
  | nil => exact Mirrors.pure []
  | cons element rest ih =>
    exact (same start element).bind (fun _ => (ih (start + 1)).bind (fun _ => Mirrors.pure _))

end Mirroring
end Effect
end EventGateway.Lib
