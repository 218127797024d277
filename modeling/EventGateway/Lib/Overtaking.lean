import EventGateway.Lib.TokenBucket
import Mathlib.Data.List.Induction

/-! Token buckets whose callers read the clock before they get at the bucket. A caller may be overtaken by another that
read it later, and the bucket is then set back: it gains for the same time once more. What it grants is bounded by its
capacity, what it gains in the interval, and what it gains for the times by which it was set back. -/

namespace EventGateway.Lib.TokenBucket

section Parts
variable {α : Type*} (counts : α → Bool)

/-- What is counted in a list is in a part of it that starts and ends with something that counts. -/
theorem exists_infix_of_countP (list : List α) (counted : list.countP counts ≠ 0) :
    ∃ (part : List α) (inhabited : part ≠ []), part <:+: list ∧ list.countP counts ≤ part.length ∧
      counts (part.head inhabited) = true ∧ counts (part.getLast inhabited) = true := by
  induction list with
  | nil => exact absurd rfl counted
  | cons first rest ih =>
    by_cases here : counts first = true
    · clear ih
      induction rest using List.reverseRecOn with
      | nil => exact ⟨[first], List.cons_ne_nil _ _, List.infix_rfl, List.countP_le_length, here, here⟩
      | append_singleton middle last ih =>
        by_cases there : counts last = true
        · refine ⟨first :: (middle ++ [last]), List.cons_ne_nil _ _, List.infix_rfl, List.countP_le_length, here, ?_⟩
          rw [List.getLast_cons (by simp), List.getLast_concat]
          exact there
        · have same : (first :: (middle ++ [last])).countP counts = (first :: middle).countP counts := by
            rw [← List.cons_append, List.countP_append, List.countP_singleton, if_neg there]
            rfl
          rw [same] at counted ⊢
          obtain ⟨part, inhabited, inside, most, front, back⟩ := ih counted
          exact ⟨part, inhabited, inside.trans (List.prefix_append (first :: middle) [last]).isInfix, most, front, back⟩
    · rw [List.countP_cons_of_neg here] at counted ⊢
      obtain ⟨part, inhabited, inside, most, front, back⟩ := ih counted
      exact ⟨part, inhabited, inside.trans (List.suffix_cons first rest).isInfix, most, front, back⟩

end Parts

variable {K : Type*} [CommRing K] [LinearOrder K]

def overtaken : List K → K
  | newer :: older :: rest => max 0 (older - newer) + overtaken (older :: rest)
  | _ => 0

def climb : List K → K
  | newer :: older :: rest => max 0 (newer - older) + climb (older :: rest)
  | _ => 0

/-- What is known of a bucket that has granted at these times, the latest grant first: it is not in debt, and with what
is left in it, it has paid for its latest grants no more than its capacity and what it gained between them. -/
structure Tab (policy : Policy K) (bucket : Bucket K) (granted : List K) : Prop where
  solvent : 0 ≤ bucket.tokens
  last : ∀ time ∈ granted.head?, bucket.last = time
  owed : ∀ latest, latest ≠ [] → latest <+: granted →
    latest.length * policy.cost + bucket.tokens ≤ policy.capacity + policy.rate * climb latest

def Spaced (policy : Policy K) (granted : List K) : Prop :=
  ∀ row, row ≠ [] → row <:+: granted → row.length * policy.cost ≤ policy.capacity + policy.rate * climb row

theorem Tab.full (policy : Policy K) (positive : 0 ≤ policy.capacity) : Tab policy policy.full [] where
  solvent := positive
  last := fun _ none => by cases none
  owed := fun latest inhabited inside => absurd (List.prefix_nil.mp inside) inhabited

theorem Spaced.nil (policy : Policy K) : Spaced policy [] :=
  fun _ inhabited inside => absurd (List.infix_nil.mp inside) inhabited

variable [IsStrictOrderedRing K] {policy : Policy K} {bucket : Bucket K} {granted : List K} {now : K}

theorem overtaken_nonneg (times : List K) : 0 ≤ overtaken times := by
  induction times with
  | nil => exact le_rfl
  | cons newer rest ih =>
    cases rest with
    | nil => exact le_rfl
    | cons older rest => exact add_nonneg (le_max_left _ _) ih

theorem overtaken_front {part times : List K} (inside : part <+: times) : overtaken part ≤ overtaken times := by
  induction part generalizing times with
  | nil => exact overtaken_nonneg times
  | cons newer rest ih =>
    obtain ⟨last, rfl⟩ := inside
    cases rest with
    | nil => exact overtaken_nonneg _
    | cons older rest => exact add_le_add_right (ih (List.prefix_append _ _)) _

theorem overtaken_back {part times : List K} (inside : part <:+ times) : overtaken part ≤ overtaken times := by
  obtain ⟨front, rfl⟩ := inside
  induction front with
  | nil => exact le_rfl
  | cons newer rest ih =>
    have more : overtaken (rest ++ part) ≤ overtaken (newer :: (rest ++ part)) := by
      cases rest ++ part with
      | nil => exact le_rfl
      | cons older rest => exact le_add_of_nonneg_left (le_max_left _ _)
    exact ih.trans more

theorem climb_eq (times : List K) (inhabited : times ≠ []) :
    climb times = times.head inhabited - times.getLast inhabited + overtaken times := by
  induction times with
  | nil => exact absurd rfl inhabited
  | cons newer rest ih =>
    cases rest with
    | nil => simp [climb, overtaken]
    | cons older rest =>
      have step : max 0 (newer - older) = newer - older + max 0 (older - newer) := by
        rcases le_total older newer with order | order
        · rw [max_eq_right (sub_nonneg.mpr order), max_eq_left (sub_nonpos.mpr order), add_zero]
        · rw [max_eq_left (sub_nonpos.mpr order), max_eq_right (sub_nonneg.mpr order)]
          ring
      have before := ih (List.cons_ne_nil _ _)
      rw [List.head_cons] at before
      rw [climb, overtaken, before, step, List.head_cons, List.getLast_cons (List.cons_ne_nil _ _)]
      ring

theorem Tab.take (tab : Tab policy bucket granted) (answered : (policy.take bucket now).1 = true) :
    Tab policy (policy.take bucket now).2 (now :: granted) := by
  unfold Policy.take at answered ⊢
  split at answered
  next enough =>
    rw [if_pos enough]
    constructor
    · exact sub_nonneg.mpr enough
    · exact fun time latest => Option.some.inj latest
    · intro latest inhabited inside
      cases latest with
      | nil => exact absurd rfl inhabited
      | cons first rest =>
        obtain ⟨rfl, earlier⟩ := List.cons_prefix_cons.mp inside
        cases rest with
        | nil =>
          have most := policy.level_le bucket first
          simp only [List.length_singleton, Nat.cast_one, one_mul, climb, mul_zero, add_zero]
          linarith
        | cons older rest =>
          have last : bucket.last = older := by
            obtain ⟨others, rfl⟩ := earlier
            exact tab.last older rfl
          have before := tab.owed (older :: rest) (List.cons_ne_nil _ _) earlier
          have gained : policy.level bucket first ≤ bucket.tokens + policy.rate * max 0 (first - older) :=
            last ▸ min_le_right _ _
          rw [climb, List.length_cons, Nat.cast_add, Nat.cast_one, add_mul, one_mul, mul_add]
          linarith
  next => cases answered

theorem Spaced.cons (spaced : Spaced policy granted) (tab : Tab policy bucket (now :: granted)) :
    Spaced policy (now :: granted) := by
  intro row inhabited inside
  rcases List.infix_cons_iff.mp inside with latest | earlier
  · have owed := tab.owed row inhabited latest
    have solvent := tab.solvent
    linarith
  · exact spaced row inhabited earlier

/-- Over every interval, the grants are covered by the capacity, the gain there and the gain for the setbacks. -/
theorem Spaced.within (spaced : Spaced policy granted) (positive : 0 ≤ policy.capacity) {start finish : K}
    (order : start ≤ finish) : grantsWithin start finish granted * policy.cost ≤
      policy.capacity + policy.rate * (finish - start + overtaken granted) := by
  have setback := overtaken_nonneg granted
  by_cases none : grantsWithin start finish granted = 0
  · have gain : 0 ≤ policy.rate * (finish - start + overtaken granted) := mul_nonneg policy.rate_nonneg (by linarith)
    rw [none, Nat.cast_zero]
    linarith
  · obtain ⟨row, inhabited, inside, most, front, back⟩ := exists_infix_of_countP _ granted none
    have early : start ≤ row.getLast inhabited := (of_decide_eq_true back).1
    have late : row.head inhabited ≤ finish := (of_decide_eq_true front).2
    have part : overtaken row ≤ overtaken granted := by
      obtain ⟨middle, ahead, behind⟩ := List.infix_iff_prefix_suffix.mp inside
      exact (overtaken_front ahead).trans (overtaken_back behind)
    have span : climb row ≤ finish - start + overtaken granted := by
      rw [climb_eq row inhabited]
      linarith
    have cost := policy.cost_pos
    calc grantsWithin start finish granted * policy.cost
        ≤ row.length * policy.cost := by
          apply mul_le_mul_of_nonneg_right _ cost.le
          exact_mod_cast most
      _ ≤ policy.capacity + policy.rate * climb row := spaced row inhabited inside
      _ ≤ policy.capacity + policy.rate * (finish - start + overtaken granted) := by
          have gained := mul_le_mul_of_nonneg_left span policy.rate_nonneg
          linarith

end EventGateway.Lib.TokenBucket
