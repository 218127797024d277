import EventGateway.Domain.Event

/-! Differences of times. A `Duration` has 64 bits and `Time.Sub` saturates, so that a
comparison with a duration agrees with the exact difference except at the largest one. -/

namespace EventGateway

/-- `now.Sub(past)`, which is also `time.Since(past)` when `now` is what the clock reads. -/
def since (now past : Time) : Duration := Int64.ofIntClamp (now - past)

variable {now later past : Time} {span : Duration}

theorem toInt_since (now past : Time) :
    (since now past).toInt = max (-2 ^ 63) (min (2 ^ 63 - 1) (now - past)) := by
  have low : Int64.minValue.toInt = -2 ^ 63 := by decide
  have high : Int64.maxValue.toInt = 2 ^ 63 - 1 := by decide
  unfold since Int64.ofIntClamp
  split
  next lower =>
    split
    next upper =>
      rw [Int64.toInt_ofIntLE]
      omega
    next above => omega
  next below => omega

theorem lt_since : span < since now past ↔ span.toInt < now - past ∧ span.toInt < 2 ^ 63 - 1 := by
  rw [Int64.lt_iff_toInt_lt, toInt_since]
  have low := span.le_toInt
  omega

theorem le_since (positive : 0 ≤ span.toInt) : span ≤ since now past ↔ span.toInt ≤ now - past := by
  rw [Int64.le_iff_toInt_le, toInt_since]
  have high := span.toInt_lt
  omega

end EventGateway
