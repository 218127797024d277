import EventGateway.Domain.Event
import Mathlib.Algebra.Field.Rat
import Mathlib.Algebra.Order.Field.Rat
import Mathlib.Algebra.Order.Ring.Cast
import Mathlib.Algebra.Order.Ring.Int

/-! The waiting times of `pkg/retry`. The exponential product is one of floats in the source, so
what it comes to as a duration is a parameter of the model; the exact scaling takes the product
over the rationals and truncates it, with the conversion of a product outside of 64 bits left
open. Of `rand.Int63n` it is known that it panics unless its argument is positive, and that it
may give any number below it. -/

namespace EventGateway.Retry

/-- Multipliers: the test of `Do` for a default, that default, and the duration
`time.Duration(float64(initial) * math.Pow(multiplier, float64(attempt)))`. -/
structure Scaling (M : Type) where
  nonPositive : M → Bool
  two : M
  scaled : Duration → M → Int64 → Duration

structure Config (M : Type) where
  maxRetries : Int64
  initialBackoff : Duration
  maxBackoff : Duration
  backoffMultiplier : M
  jitter : Bool
  isRetryable : Option (String → Bool)

def millisecond : Duration := 1000000

def second : Duration := 1000000000

section Config
variable {M : Type}

def defaultConfig (scaling : Scaling M) : Config M where
  maxRetries := 3
  initialBackoff := 100 * millisecond
  maxBackoff := 30 * second
  backoffMultiplier := scaling.two
  jitter := true
  isRetryable := none

namespace Config

def withInitialBackoff (c : Config M) (backoff : Duration) : Config M := { c with initialBackoff := backoff }

def withMaxBackoff (c : Config M) (maxBackoff : Duration) : Config M := { c with maxBackoff }

def withJitter (c : Config M) (jitter : Bool) : Config M := { c with jitter }

/-- The defaults that `Do` puts in place of values that are not positive. -/
def normalised (cfg : Config M) (scaling : Scaling M) : Config M where
  maxRetries := if cfg.maxRetries < 0 then 0 else cfg.maxRetries
  initialBackoff := if cfg.initialBackoff ≤ 0 then 100 * millisecond else cfg.initialBackoff
  maxBackoff := if cfg.maxBackoff ≤ 0 then 30 * second else cfg.maxBackoff
  backoffMultiplier := if scaling.nonPositive cfg.backoffMultiplier then scaling.two else cfg.backoffMultiplier
  jitter := cfg.jitter
  isRetryable := cfg.isRetryable

end Config

def int63n (n : Int64) (draw : Nat) : Option Int64 :=
  if n ≤ 0 then none else some (Int64.ofInt (draw % n.toInt))

def capped (scaling : Scaling M) (attempt : Int64) (cfg : Config M) : Duration :=
  if cfg.maxBackoff < scaling.scaled cfg.initialBackoff cfg.backoffMultiplier attempt then cfg.maxBackoff
  else scaling.scaled cfg.initialBackoff cfg.backoffMultiplier attempt

def calculateBackoff (scaling : Scaling M) (attempt : Int64) (cfg : Config M) (draw : Nat) : Option Duration :=
  if cfg.jitter then
    (int63n (capped scaling attempt cfg / 2) draw).map (fun jitterAmount => capped scaling attempt cfg + jitterAmount)
  else some (capped scaling attempt cfg)

end Config

section Jitter
variable {M : Type} {scaling : Scaling M} {attempt : Int64} {cfg : Config M} {draw : Nat}

theorem capped_le : capped scaling attempt cfg ≤ cfg.maxBackoff := by
  unfold capped
  split
  next => exact Int64.le_refl _
  next within => exact Int64.not_lt.mp within

theorem toInt_half (duration : Duration) : (duration / 2).toInt = duration.toInt.tdiv 2 :=
  Int64.toInt_div_of_ne_right duration 2 (by decide)

theorem half_pos (duration : Duration) : 0 < duration / 2 ↔ 2 ≤ duration := by
  rw [Int64.lt_iff_toInt_lt, Int64.le_iff_toInt_le, toInt_half]
  change 0 < duration.toInt.tdiv 2 ↔ 2 ≤ duration.toInt
  rcases Int.le_total 0 duration.toInt with nonnegative | nonpositive
  · rw [Int.tdiv_eq_ediv_of_nonneg nonnegative]
    omega
  · have mirrored : (-duration.toInt).tdiv 2 = -duration.toInt.tdiv 2 := Int.neg_tdiv _ _
    rw [Int.tdiv_eq_ediv_of_nonneg (by omega)] at mirrored
    omega

theorem calculateBackoff_ne_none (jitter : cfg.jitter = true) :
    calculateBackoff scaling attempt cfg draw ≠ none ↔ 2 ≤ capped scaling attempt cfg := by
  rw [calculateBackoff, if_pos jitter, Ne, Option.map_eq_none_iff, int63n, ← half_pos]
  by_cases positive : capped scaling attempt cfg / 2 ≤ 0
  · rw [if_pos positive]
    exact iff_of_false (fun some => some rfl) (Int64.not_lt.mpr positive)
  · rw [if_neg positive]
    exact iff_of_true (Option.some_ne_none _) (Int64.not_le.mp positive)

/-- `Int63n` is called with a positive number whatever it draws, and the time to wait is positive
and at most half as long again as the maximum. -/
def JitterWellDefined (scaling : Scaling M) (attempt : Int64) (cfg : Config M) : Prop :=
  ∀ draw, ∃ backoff, calculateBackoff scaling attempt cfg draw = some backoff ∧ 0 < backoff ∧
    backoff.toInt ≤ cfg.maxBackoff.toInt + cfg.maxBackoff.toInt / 2

/-- What jitter makes of a capped duration of at least two nanoseconds; the sum may wrap. -/
theorem calculateBackoff_jitter (jitter : cfg.jitter = true) (enough : 2 ≤ capped scaling attempt cfg) (draw : Nat) :
    ∃ backoff, calculateBackoff scaling attempt cfg draw = some backoff ∧
      backoff.toInt = ((capped scaling attempt cfg).toInt +
        draw % ((capped scaling attempt cfg).toInt / 2)).bmod (2 ^ 64) := by
  have positive : ¬capped scaling attempt cfg / 2 ≤ 0 := Int64.not_le.mpr ((half_pos _).mpr enough)
  have least : 2 ≤ (capped scaling attempt cfg).toInt := Int64.le_iff_toInt_le.mp enough
  have most := (capped scaling attempt cfg).toInt_lt
  have half : (capped scaling attempt cfg / 2).toInt = (capped scaling attempt cfg).toInt / 2 := by
    rw [toInt_half, Int.tdiv_eq_ediv_of_nonneg (by omega)]
  have drawn : (Int64.ofInt (draw % (capped scaling attempt cfg / 2).toInt)).toInt =
      draw % ((capped scaling attempt cfg).toInt / 2) := by
    have above := Int.emod_nonneg draw (show (capped scaling attempt cfg).toInt / 2 ≠ 0 by omega)
    have below := Int.emod_lt_of_pos draw (show 0 < (capped scaling attempt cfg).toInt / 2 by omega)
    rw [half]
    exact Int64.toInt_ofInt_of_le (by omega) (by omega)
  refine ⟨_, by rw [calculateBackoff, if_pos jitter, int63n, if_neg positive, Option.map_some], ?_⟩
  rw [Int64.toInt_add, drawn]

/-- Jitter is well defined exactly if the capped duration has at least two nanoseconds and one and
a half times as many still have 64 bits. -/
theorem jitterWellDefined_capped (jitter : cfg.jitter = true) :
    JitterWellDefined scaling attempt cfg ↔ 2 ≤ capped scaling attempt cfg ∧
      (capped scaling attempt cfg).toInt + (capped scaling attempt cfg).toInt / 2 ≤ 2 ^ 63 := by
  constructor
  · intro defined
    obtain ⟨first, returned, -⟩ := defined 0
    have enough : 2 ≤ capped scaling attempt cfg :=
      (calculateBackoff_ne_none jitter).mp (returned ▸ Option.some_ne_none first)
    have least : 2 ≤ (capped scaling attempt cfg).toInt := Int64.le_iff_toInt_le.mp enough
    refine ⟨enough, ?_⟩
    by_contra beyond
    obtain ⟨backoff, given, value⟩ :=
      calculateBackoff_jitter jitter enough ((capped scaling attempt cfg).toInt / 2 - 1).toNat
    obtain ⟨same, returned, positive, -⟩ := defined ((capped scaling attempt cfg).toInt / 2 - 1).toNat
    cases given.symm.trans returned
    have most := (capped scaling attempt cfg).toInt_lt
    have draw : (((capped scaling attempt cfg).toInt / 2 - 1).toNat : Int) % ((capped scaling attempt cfg).toInt / 2) =
        (capped scaling attempt cfg).toInt / 2 - 1 := by
      rw [Int.toNat_of_nonneg (by omega)]
      exact Int.emod_eq_of_lt (by omega) (by omega)
    rw [draw] at value
    have wrapped : backoff.toInt < 0 := by
      rw [value, Int.bmod_def]
      omega
    have above : 0 < backoff.toInt := Int64.lt_iff_toInt_lt.mp positive
    omega
  · rintro ⟨enough, fits⟩ draw
    obtain ⟨backoff, returned, value⟩ := calculateBackoff_jitter jitter enough draw
    have least : 2 ≤ (capped scaling attempt cfg).toInt := Int64.le_iff_toInt_le.mp enough
    have most : (capped scaling attempt cfg).toInt ≤ cfg.maxBackoff.toInt := Int64.le_iff_toInt_le.mp capped_le
    have above := Int.emod_nonneg draw (show (capped scaling attempt cfg).toInt / 2 ≠ 0 by omega)
    have below := Int.emod_lt_of_pos draw (show 0 < (capped scaling attempt cfg).toInt / 2 by omega)
    rw [Int.bmod_eq_of_le (by omega) (by omega)] at value
    refine ⟨backoff, returned, Int64.lt_iff_toInt_lt.mpr ?_, by omega⟩
    change 0 < backoff.toInt
    omega

end Jitter

section Exact

/-- The product without rounding, truncated to whole nanoseconds; `outside` converts one that is
not a duration. -/
def exact (outside : Rat → Duration) : Scaling Rat where
  nonPositive multiplier := decide (multiplier ≤ 0)
  two := 2
  scaled initial multiplier attempt :=
    let product := (initial.toInt : Rat) * multiplier ^ attempt.toInt
    let truncated := product.num.tdiv product.den
    if -2 ^ 63 ≤ truncated ∧ truncated < 2 ^ 63 then Int64.ofInt truncated else outside product

variable {outside : Rat → Duration} {cfg : Config Rat} {attempt : Int64}

def product (cfg : Config Rat) (attempt : Int64) : Rat :=
  cfg.initialBackoff.toInt * cfg.backoffMultiplier ^ attempt.toInt

theorem product_pos (initial : 0 < cfg.initialBackoff) (multiplier : 0 < cfg.backoffMultiplier) :
    0 < product cfg attempt := by
  have first : 0 < cfg.initialBackoff.toInt := Int64.lt_iff_toInt_lt.mp initial
  exact mul_pos (Int.cast_pos.mpr first) (zpow_pos multiplier _)

def converted (outside : Rat → Duration) (product : Rat) : Int :=
  if product.floor < 2 ^ 63 then product.floor else (outside product).toInt

theorem toInt_scaled (initial : 0 < cfg.initialBackoff) (multiplier : 0 < cfg.backoffMultiplier) (attempt : Int64) :
    ((exact outside).scaled cfg.initialBackoff cfg.backoffMultiplier attempt).toInt =
      converted outside (product cfg attempt) := by
  have positive : 0 < product cfg attempt := product_pos initial multiplier
  have floored : (product cfg attempt).num.tdiv (product cfg attempt).den = (product cfg attempt).floor := by
    rw [Int.tdiv_eq_ediv_of_nonneg (Rat.num_nonneg.mpr positive.le), Rat.floor_def]
  have nonnegative : 0 ≤ (product cfg attempt).floor := Rat.le_floor_iff.mpr (by simpa using positive.le)
  have value : (exact outside).scaled cfg.initialBackoff cfg.backoffMultiplier attempt =
      if -2 ^ 63 ≤ (product cfg attempt).floor ∧ (product cfg attempt).floor < 2 ^ 63 then
        Int64.ofInt (product cfg attempt).floor else outside (product cfg attempt) := by
    rw [← floored]
    rfl
  rw [value, converted]
  by_cases fits : (product cfg attempt).floor < 2 ^ 63
  · rw [if_pos fits, if_pos ⟨by omega, fits⟩]
    exact Int64.toInt_ofInt_of_le (by omega) fits
  · rw [if_neg fits, if_neg (fun both => fits both.2)]

theorem toInt_capped (initial : 0 < cfg.initialBackoff) (multiplier : 0 < cfg.backoffMultiplier) (attempt : Int64) :
    (capped (exact outside) attempt cfg).toInt =
      min (converted outside (product cfg attempt)) cfg.maxBackoff.toInt := by
  rw [← toInt_scaled initial multiplier attempt, capped]
  split
  next beyond => exact (min_eq_right (Int64.lt_iff_toInt_lt.mp beyond).le).symm
  next within => exact (min_eq_left (Int64.le_iff_toInt_le.mp (Int64.not_lt.mp within))).symm

/-- Jitter is well defined exactly if the capped backoff has at least two nanoseconds and one and
a half times as many still have 64 bits, however a product past 64 bits is converted. -/
theorem jitterWellDefined_iff (outside : Rat → Duration) (cfg : Config Rat) (attempt : Int64)
    (initial : 0 < cfg.initialBackoff) (multiplier : 0 < cfg.backoffMultiplier) (jitter : cfg.jitter = true) :
    JitterWellDefined (exact outside) attempt cfg ↔
      2 ≤ min (converted outside (product cfg attempt)) cfg.maxBackoff.toInt ∧
      min (converted outside (product cfg attempt)) cfg.maxBackoff.toInt +
        min (converted outside (product cfg attempt)) cfg.maxBackoff.toInt / 2 ≤ 2 ^ 63 := by
  rw [jitterWellDefined_capped jitter, ← toInt_capped initial multiplier attempt, Int64.le_iff_toInt_le]
  rfl

def amd64 : Rat → Duration := fun _ => Int64.minValue

theorem product_zero (cfg : Config Rat) : product cfg 0 = cfg.initialBackoff.toInt := by
  change (cfg.initialBackoff.toInt : Rat) * cfg.backoffMultiplier ^ (0 : Int) = _
  rw [zpow_zero, mul_one]

theorem converted_zero (cfg : Config Rat) : converted outside (product cfg 0) = cfg.initialBackoff.toInt := by
  rw [product_zero, converted, Rat.floor_intCast, if_pos (Int64.toInt_lt _)]

theorem jitterWellDefined_default : JitterWellDefined (exact amd64) 0 (defaultConfig (exact amd64)) := by
  rw [jitterWellDefined_iff amd64 (defaultConfig (exact amd64)) 0 (by decide) rfl rfl, converted_zero]
  decide

theorem calculateBackoff_one (draw : Nat) :
    calculateBackoff (exact amd64) 0 ((defaultConfig (exact amd64)).withInitialBackoff 1) draw = none := by
  by_contra returns
  have enough := Int64.le_iff_toInt_le.mp ((calculateBackoff_ne_none rfl).mp returns)
  rw [toInt_capped (by decide) rfl, converted_zero] at enough
  exact absurd enough (by decide)

/-- With a first wait of one nanosecond `Int63n` is called with zero. At the other end, with the largest duration that
is a `float64` for the first wait and the maximum, a draw makes the sum wrap. -/
theorem jitter_undefined :
    (∀ draw, calculateBackoff (exact amd64) 0 ((defaultConfig (exact amd64)).withInitialBackoff 1) draw = none) ∧
      ¬JitterWellDefined (exact amd64) 0 ((defaultConfig (exact amd64)).withInitialBackoff 1) ∧
      ¬JitterWellDefined (exact amd64) 0
        (((defaultConfig (exact amd64)).withInitialBackoff 9223372036854774784).withMaxBackoff
          9223372036854774784) := by
  refine ⟨calculateBackoff_one, ?_, ?_⟩
  · intro defined
    obtain ⟨backoff, returned, -⟩ := defined 0
    cases (calculateBackoff_one 0).symm.trans returned
  · rw [jitterWellDefined_capped rfl, Int64.le_iff_toInt_le, toInt_capped (by decide) rfl, converted_zero]
    decide

end Exact

section Multiplied
variable {cfg : Config Rat} {multiplier : Nat}

/-- Without jitter, at this attempt and every one before it: the product is capped, and the wait
is positive and at least as long as each before it. -/
structure CappedExponential (cfg : Config Rat) (multiplier : Nat) (attempt : Int64) (draw : Nat) : Prop where
  value : ∃ backoff, calculateBackoff (exact amd64) attempt cfg draw = some backoff ∧ 0 < backoff ∧
    backoff.toInt = min (cfg.initialBackoff.toInt * multiplier ^ attempt.toInt.toNat) cfg.maxBackoff.toInt
  rising : ∀ earlier, 0 ≤ earlier → earlier ≤ attempt → ∃ before backoff,
    calculateBackoff (exact amd64) earlier cfg draw = some before ∧
    calculateBackoff (exact amd64) attempt cfg draw = some backoff ∧ before ≤ backoff

theorem product_nat (same : cfg.backoffMultiplier = multiplier) {attempt : Int64} (later : 0 ≤ attempt) :
    product cfg attempt = ((cfg.initialBackoff.toInt * multiplier ^ attempt.toInt.toNat : Int) : Rat) := by
  have exponent : attempt.toInt = attempt.toInt.toNat := (Int.toNat_of_nonneg (Int64.le_iff_toInt_le.mp later)).symm
  rw [product, same]
  nth_rewrite 1 [exponent]
  rw [zpow_natCast]
  push_cast
  rfl

theorem product_mono (positive : 1 ≤ multiplier) (initial : 0 < cfg.initialBackoff) {earlier attempt : Int64}
    (order : earlier ≤ attempt) :
    cfg.initialBackoff.toInt * (multiplier : Int) ^ earlier.toInt.toNat ≤
      cfg.initialBackoff.toInt * (multiplier : Int) ^ attempt.toInt.toNat := by
  have first : 0 < cfg.initialBackoff.toInt := Int64.lt_iff_toInt_lt.mp initial
  have exponents : earlier.toInt.toNat ≤ attempt.toInt.toNat := Int.toNat_le_toNat (Int64.le_iff_toInt_le.mp order)
  exact Int.mul_le_mul_of_nonneg_left (pow_le_pow_right₀ (by omega) exponents) first.le

theorem toInt_capped_nat (same : cfg.backoffMultiplier = multiplier) (positive : 1 ≤ multiplier)
    (initial : 0 < cfg.initialBackoff) {attempt : Int64} (later : 0 ≤ attempt) :
    (capped (exact amd64) attempt cfg).toInt =
      if cfg.initialBackoff.toInt * (multiplier : Int) ^ attempt.toInt.toNat < 2 ^ 63 then
        min (cfg.initialBackoff.toInt * multiplier ^ attempt.toInt.toNat) cfg.maxBackoff.toInt
      else min (-2 ^ 63) cfg.maxBackoff.toInt := by
  have natural : 0 < cfg.backoffMultiplier := same ▸ Nat.cast_pos.mpr positive
  rw [toInt_capped initial natural, product_nat same later, converted, Rat.floor_intCast]
  split
  next => rfl
  next => rfl

/-- The documented formula holds at an attempt exactly if the product has 64 bits there. -/
theorem cappedExponential_iff (cfg : Config Rat) (multiplier : Nat) (attempt : Int64) (draw : Nat)
    (same : cfg.backoffMultiplier = multiplier) (positive : 1 ≤ multiplier) (initial : 0 < cfg.initialBackoff)
    (maximal : 0 < cfg.maxBackoff) (steady : cfg.jitter = false) (later : 0 ≤ attempt) :
    CappedExponential cfg multiplier attempt draw ↔
      cfg.initialBackoff.toInt * (multiplier : Int) ^ attempt.toInt.toNat < 2 ^ 63 := by
  have returns (attempt : Int64) :
      calculateBackoff (exact amd64) attempt cfg draw = some (capped (exact amd64) attempt cfg) := by
    rw [calculateBackoff, steady, if_neg Bool.false_ne_true]
  have first : 0 < cfg.initialBackoff.toInt := Int64.lt_iff_toInt_lt.mp initial
  have most : 0 < cfg.maxBackoff.toInt := Int64.lt_iff_toInt_lt.mp maximal
  have powers : 0 < (multiplier : Int) ^ attempt.toInt.toNat := pow_pos (by omega) _
  have above : 0 < cfg.initialBackoff.toInt * (multiplier : Int) ^ attempt.toInt.toNat := mul_pos first powers
  have now := toInt_capped_nat same positive initial later
  constructor
  · rintro ⟨⟨backoff, returned, waits, -⟩, -⟩
    cases (returns attempt).symm.trans returned
    have waits : 0 < (capped (exact amd64) attempt cfg).toInt := Int64.lt_iff_toInt_lt.mp waits
    by_contra beyond
    rw [if_neg beyond] at now
    omega
  · intro fits
    rw [if_pos fits] at now
    constructor
    · refine ⟨_, returns attempt, Int64.lt_iff_toInt_lt.mpr ?_, now⟩
      change 0 < (capped (exact amd64) attempt cfg).toInt
      omega
    · intro earlier early order
      have mono := product_mono positive initial order
      have before := toInt_capped_nat same positive initial early
      rw [if_pos (by omega)] at before
      refine ⟨_, _, returns earlier, returns attempt, Int64.le_iff_toInt_le.mpr ?_⟩
      omega

theorem cappedExponential_default :
    CappedExponential ((defaultConfig (exact amd64)).withJitter false) 2 10 0 :=
  (cappedExponential_iff _ 2 10 0 rfl (by decide) (by decide) (by decide) rfl (by decide)).mpr (by decide)

/-- With the default settings and jitter off, attempt 37 waits for the least duration. -/
theorem backoff_overflows :
    calculateBackoff (exact amd64) 37 ((defaultConfig (exact amd64)).withJitter false) 0 = some Int64.minValue ∧
      ¬CappedExponential ((defaultConfig (exact amd64)).withJitter false) 2 37 0 := by
  have least : capped (exact amd64) 37 ((defaultConfig (exact amd64)).withJitter false) = Int64.minValue := by
    apply Int64.toInt_inj.mp
    rw [toInt_capped_nat (rfl : _ = ((2 : Nat) : Rat)) (by decide) (by decide) (by decide)]
    decide
  have returned : calculateBackoff (exact amd64) 37 ((defaultConfig (exact amd64)).withJitter false) 0 =
      some Int64.minValue := congrArg some least
  refine ⟨returned, ?_⟩
  rintro ⟨⟨backoff, same, positive, -⟩, -⟩
  cases returned.symm.trans same
  exact absurd positive (by decide)

end Multiplied
end EventGateway.Retry
