import Mathlib.Algebra.Order.Ring.Defs
import Mathlib.Algebra.Order.Group.MinMax
import Mathlib.Data.Nat.Cast.Order.Ring
import Mathlib.Tactic.Linarith
import Mathlib.Tactic.Ring

/-! Exact token buckets over an ordered ring, in which times and tokens are counted in the same
numbers. A bucket gains tokens at a rate up to its capacity and pays a fixed cost for what it
grants. Two results carry over to programs that keep buckets: buckets with the same level from now
on behave the same, and what a bucket grants in an interval is bounded by its capacity and what it
gains there. -/

namespace EventGateway.Lib.TokenBucket

structure Policy (K : Type*) [CommRing K] [LinearOrder K] where
  rate : K
  capacity : K
  cost : K
  rate_nonneg : 0 ≤ rate
  cost_pos : 0 < cost

structure Bucket (K : Type*) where
  tokens : K
  last : K
  deriving DecidableEq

variable {K : Type*} [LinearOrder K]

/-- How often a bucket has granted from `start` to `finish`. -/
def grantsWithin (start finish : K) (granted : List K) : Nat :=
  granted.countP (fun time => start ≤ time ∧ time ≤ finish)

theorem grantsWithin_past {granted : List K} {now later start : K} (past : ∀ time ∈ granted, time ≤ now)
    (after : now ≤ later) : grantsWithin start later granted = grantsWithin start now granted := by
  apply List.countP_congr
  intro time member
  have bound := past time member
  simp [bound, bound.trans after]

theorem grantsWithin_none {granted : List K} {now start finish : K} (past : ∀ time ∈ granted, time ≤ now)
    (late : now < start) : grantsWithin start finish granted = 0 := by
  apply List.countP_eq_zero.mpr
  intro time member
  have bound := (past time member).trans_lt late
  simp [bound]

variable [CommRing K]

namespace Policy
variable (policy : Policy K) (bucket : Bucket K) (now : K)

def level : K := min policy.capacity (bucket.tokens + policy.rate * max 0 (now - bucket.last))

def full : Bucket K := ⟨policy.capacity, 0⟩

def take : Bool × Bucket K :=
  if policy.cost ≤ policy.level bucket now then (true, ⟨policy.level bucket now - policy.cost, now⟩)
  else (false, bucket)

def Same (one other : Bucket K) : Prop :=
  ∀ time, now ≤ time → policy.level one time = policy.level other time

theorem level_le : policy.level bucket now ≤ policy.capacity := min_le_left _ _

theorem take_unpaid (denied : (policy.take bucket now).1 = false) : (policy.take bucket now).2 = bucket := by
  unfold take at denied ⊢
  split at denied
  next => cases denied
  next short => rw [if_neg short]

theorem affordable {bucket : Bucket K} {now : K} (granted : (policy.take bucket now).1 = true) :
    policy.cost ≤ policy.level bucket now := by
  by_contra short
  rw [take, if_neg short] at granted
  cases granted

theorem level_paid {tokens : K} (fits : tokens ≤ policy.capacity) : policy.level ⟨tokens, now⟩ now = tokens := by
  simp only [level, sub_self, max_self, mul_zero, add_zero]
  exact min_eq_right fits

section Same
variable {policy now} {one other : Bucket K}

theorem Same.refl : policy.Same now bucket bucket := fun _ _ => rfl

theorem Same.after (same : policy.Same now one other) {later : K} (late : now ≤ later) :
    policy.Same later one other :=
  fun time later => same time (late.trans later)

theorem Same.take (same : policy.Same now one other) :
    (policy.take one now).1 = (policy.take other now).1 ∧
      policy.Same now (policy.take one now).2 (policy.take other now).2 := by
  unfold Policy.take
  rw [same now le_rfl]
  split
  next => exact ⟨rfl, Same.refl _⟩
  next => exact ⟨rfl, same⟩

end Same

variable [IsStrictOrderedRing K] {bucket now} {later : K}

theorem level_full (now : K) : policy.level policy.full now = policy.capacity := by
  have gained : 0 ≤ policy.rate * max 0 (now - policy.full.last) :=
    mul_nonneg policy.rate_nonneg (le_max_left _ _)
  apply min_eq_left
  change policy.capacity ≤ policy.capacity + _
  linarith

theorem level_mono (after : now ≤ later) : policy.level bucket now ≤ policy.level bucket later := by
  have longer : max 0 (now - bucket.last) ≤ max 0 (later - bucket.last) := by
    apply max_le_max_left
    linarith
  have gained := mul_le_mul_of_nonneg_left longer policy.rate_nonneg
  apply min_le_min_left
  linarith

theorem level_le_add (bucket : Bucket K) (after : now ≤ later) :
    policy.level bucket later ≤ policy.level bucket now + policy.rate * (later - now) := by
  have gain : 0 ≤ policy.rate * (later - now) := mul_nonneg policy.rate_nonneg (by linarith)
  have longer : max 0 (later - bucket.last) ≤ max 0 (now - bucket.last) + (later - now) := by
    have least := le_max_left 0 (now - bucket.last)
    have most := le_max_right 0 (now - bucket.last)
    apply max_le
    · linarith
    · linarith
  have gained := mul_le_mul_of_nonneg_left longer policy.rate_nonneg
  rw [mul_add] at gained
  unfold level
  rw [← min_add_add_right]
  apply min_le_min
  · linarith
  · linarith

theorem level_refilled {span : K} (solvent : 0 ≤ bucket.tokens) (idle : bucket.last + span ≤ now)
    (enough : policy.capacity ≤ policy.rate * span) : policy.level bucket now = policy.capacity := by
  have longer : span ≤ max 0 (now - bucket.last) := le_max_of_le_right (by linarith)
  have gained := mul_le_mul_of_nonneg_left longer policy.rate_nonneg
  apply min_eq_left
  linarith

end Policy

section Granted
variable {policy : Policy K} {bucket : Bucket K} {granted : List K} {now : K}

/-- What is known of a bucket that has granted at these times: it is not in debt, and with what is left
in it, it has paid no more than its capacity and its gain since any time. -/
structure Paid (policy : Policy K) (bucket : Bucket K) (granted : List K) (now : K) : Prop where
  solvent : 0 ≤ policy.level bucket now
  past : ∀ time ∈ granted, time ≤ now
  balance : ∀ start ≤ now, grantsWithin start now granted * policy.cost + policy.level bucket now ≤
    policy.capacity + policy.rate * (now - start)

variable [IsStrictOrderedRing K]

theorem Paid.full (policy : Policy K) (positive : 0 ≤ policy.capacity) (now : K) :
    Paid policy policy.full [] now := by
  constructor
  · rwa [policy.level_full]
  · simp
  · intro start before
    have gain : 0 ≤ policy.rate * (now - start) := mul_nonneg policy.rate_nonneg (by linarith)
    rw [grantsWithin, List.countP_nil, policy.level_full, Nat.cast_zero]
    linarith

theorem Paid.after (paid : Paid policy bucket granted now) {later : K} (late : now ≤ later) :
    Paid policy bucket granted later := by
  constructor
  · exact paid.solvent.trans (policy.level_mono late)
  · exact fun time member => (paid.past time member).trans late
  · intro start before
    by_cases early : start ≤ now
    · have balance := paid.balance start early
      have gained := policy.level_le_add bucket late
      have split : policy.rate * (later - start) = policy.rate * (now - start) + policy.rate * (later - now) := by
        ring
      rw [grantsWithin_past paid.past late]
      linarith
    · have gain : 0 ≤ policy.rate * (later - start) := mul_nonneg policy.rate_nonneg (by linarith)
      have most := policy.level_le bucket later
      rw [grantsWithin_none paid.past (not_le.mp early), Nat.cast_zero]
      linarith

theorem Paid.take (paid : Paid policy bucket granted now) (answered : (policy.take bucket now).1 = true) :
    Paid policy (policy.take bucket now).2 (now :: granted) now := by
  unfold Policy.take at answered ⊢
  split at answered
  next enough =>
    have fits : policy.level bucket now - policy.cost ≤ policy.capacity := by
      have most := policy.level_le bucket now
      have cost := policy.cost_pos
      linarith
    have left := policy.level_paid now fits
    rw [if_pos enough]
    constructor
    · rw [left]
      exact sub_nonneg.mpr enough
    · intro time member
      rcases List.mem_cons.mp member with rfl | old
      · exact le_rfl
      · exact paid.past time old
    · intro start before
      have one : grantsWithin start now (now :: granted) = grantsWithin start now granted + 1 := by
        simp [grantsWithin, before]
      have balance := paid.balance start before
      rw [one, left, Nat.cast_add, Nat.cast_one]
      linarith
  next => cases answered

def Bounded (policy : Policy K) (granted : List K) : Prop :=
  ∀ start finish, start ≤ finish →
    grantsWithin start finish granted * policy.cost ≤ policy.capacity + policy.rate * (finish - start)

theorem Bounded.nil (policy : Policy K) (positive : 0 ≤ policy.capacity) : Bounded policy [] := by
  intro start finish order
  have gain : 0 ≤ policy.rate * (finish - start) := mul_nonneg policy.rate_nonneg (by linarith)
  rw [grantsWithin, List.countP_nil, Nat.cast_zero]
  linarith

theorem Bounded.cons (bounded : Bounded policy granted) (positive : 0 ≤ policy.capacity)
    (paid : Paid policy bucket (now :: granted) now) : Bounded policy (now :: granted) := by
  intro start finish order
  by_cases current : now ≤ finish
  · by_cases begun : start ≤ now
    · have balance := (paid.after current).balance start order
      have solvent := (paid.after current).solvent
      linarith
    · have gain : 0 ≤ policy.rate * (finish - start) := mul_nonneg policy.rate_nonneg (by linarith)
      rw [grantsWithin_none paid.past (not_le.mp begun), Nat.cast_zero]
      linarith
  · have apart : grantsWithin start finish (now :: granted) = grantsWithin start finish granted := by
      simp [grantsWithin, current]
    rw [apart]
    exact bounded start finish order

end Granted
end EventGateway.Lib.TokenBucket
