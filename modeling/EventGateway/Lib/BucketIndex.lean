import Mathlib.Data.List.Perm.Basic
import Mathlib.Data.List.Count
import Mathlib.Order.Lattice
import Mathlib.Order.Monotone.Basic
import Mathlib.Tactic.Common

/-! A list of timed entries beside an index that groups them into buckets of a
coarser time. Both are pruned at a cutoff, the list at the exact time and the index
only at whole buckets. `Indexed` says how far the two may drift apart, `Exact` that
they agree, and `Exact.scan` what a scan of the index then returns. -/

namespace EventGateway.Lib.BucketIndex

variable {α τ κ : Type*}

section Grouping
variable [DecidableEq κ]

def inBucket (bucket : τ → κ) (time : α → τ) (listed : List α) (key : κ) : List α :=
  listed.filter (fun entry => bucket (time entry) = key)

/-- Grouping by the keys of a duplicate-free list and concatenating only reorders. -/
theorem flatMap_inBucket_perm (bucket : τ → κ) (time : α → τ) (listed : List α) (keys : List κ)
    (distinct : keys.Nodup) :
    (keys.flatMap (inBucket bucket time listed)).Perm
      (listed.filter (fun entry => bucket (time entry) ∈ keys)) := by
  induction keys with
  | nil => simp
  | cons key rest ih =>
    obtain ⟨fresh, tail⟩ := List.nodup_cons.mp distinct
    have split : (listed.filter (fun entry => bucket (time entry) ∈ key :: rest)).Perm
        (inBucket bucket time listed key ++
          listed.filter (fun entry => bucket (time entry) ∈ rest)) := by
      have parts := List.filter_append_perm (fun entry => decide (bucket (time entry) = key))
        (listed.filter (fun entry => bucket (time entry) ∈ key :: rest))
      refine parts.symm.trans (List.Perm.of_eq ?_)
      unfold inBucket
      simp only [List.filter_filter]
      congr 1
      · apply List.filter_congr
        intro entry _
        by_cases own : bucket (time entry) = key <;> simp [own]
      · apply List.filter_congr
        intro entry _
        by_cases own : bucket (time entry) = key
        · simp [own, fresh]
        · simp [own]
    rw [List.flatMap_cons]
    exact ((List.Perm.refl _).append (ih tail)).trans split.symm

def insertIndex (bucket : τ → κ) (time : α → τ) (entry : α) (index : κ → List α) : κ → List α :=
  fun key => if key = bucket (time entry) then index key ++ [entry] else index key

def Exact (bucket : τ → κ) (time : α → τ) (listed : List α) (index : κ → List α) : Prop :=
  ∀ key, index key = inBucket bucket time listed key

theorem Exact.insert {bucket : τ → κ} {time : α → τ} {listed : List α} {index : κ → List α}
    (held : Exact bucket time listed index) (entry : α) :
    Exact bucket time (listed ++ [entry]) (insertIndex bucket time entry index) := by
  intro key
  have old := held key
  unfold inBucket at old ⊢
  unfold insertIndex
  rw [List.filter_append]
  by_cases own : key = bucket (time entry)
  · subst own
    simp [old]
  · simp [own, Ne.symm own, old]

/-- A scan of enough buckets of an exact index is a permutation of the plain selection. -/
theorem Exact.scan {bucket : τ → κ} {time : α → τ} {listed : List α} {index : κ → List α}
    (held : Exact bucket time listed index) (keys : List κ) (distinct : keys.Nodup)
    (selects : α → Bool)
    (covered : ∀ entry ∈ listed, selects entry = true → bucket (time entry) ∈ keys) :
    (keys.flatMap (fun key => (index key).filter selects)).Perm (listed.filter selects) := by
  have grouped : (keys.flatMap (fun key => (index key).filter selects)) =
      (keys.flatMap (inBucket bucket time listed)).filter selects := by
    rw [List.filter_flatMap]
    exact congrArg keys.flatMap (funext fun key => by rw [held key])
  rw [grouped]
  refine ((flatMap_inBucket_perm bucket time listed keys distinct).filter selects).trans
    (List.Perm.of_eq ?_)
  rw [List.filter_filter]
  apply List.filter_congr
  intro entry member
  by_cases chosen : selects entry = true
  · simp [chosen, covered entry member chosen]
  · simp [chosen]

end Grouping

section Pruning
variable [LinearOrder τ] [LinearOrder κ]

def pruneList (time : α → τ) (cutoff : τ) (listed : List α) : List α :=
  listed.filter (fun entry => cutoff < time entry)

def pruneIndex (bucket : τ → κ) (cutoff : τ) (index : κ → List α) : κ → List α :=
  fun key => if key < bucket cutoff then [] else index key

omit [LinearOrder τ] in
/-- Pruning the list at whole buckets keeps the two in agreement whatever it holds. -/
theorem Exact.pruneWhole {bucket : τ → κ} {time : α → τ} {listed : List α} {index : κ → List α}
    (held : Exact bucket time listed index) (now : τ) :
    Exact bucket time (listed.filter (fun entry => bucket now ≤ bucket (time entry)))
      (pruneIndex bucket now index) := by
  intro key
  unfold pruneIndex inBucket
  rw [List.filter_filter]
  split
  next early =>
    symm
    simp only [List.filter_eq_nil_iff, Bool.and_eq_true, decide_eq_true_eq, not_and]
    intro entry _ own
    exact not_le.mpr (own ▸ early)
  next late =>
    rw [held key]
    unfold inBucket
    apply List.filter_congr
    intro entry _
    by_cases own : bucket (time entry) = key
    · simp [own, not_lt.mp late]
    · simp [own]

/-- Pruning keeps the two in agreement when the bucket of the cutoff has nothing expired. -/
theorem Exact.prune {bucket : τ → κ} {time : α → τ} {listed : List α} {index : κ → List α}
    (held : Exact bucket time listed index) (monotone : Monotone bucket) (now : τ)
    (whole : ∀ entry ∈ index (bucket now), now < time entry) :
    Exact bucket time (pruneList time now listed) (pruneIndex bucket now index) := by
  have same : pruneList time now listed = listed.filter (fun entry => bucket now ≤ bucket (time entry)) := by
    apply List.filter_congr
    intro entry member
    rw [decide_eq_decide]
    refine ⟨fun fresh => monotone fresh.le, fun late => ?_⟩
    by_contra stale
    have own : bucket (time entry) = bucket now := le_antisymm (monotone (not_lt.mp stale)) late
    apply stale
    apply whole entry
    rw [held (bucket now)]
    exact List.mem_filter.mpr ⟨member, by simpa using own⟩
  rw [same]
  exact held.pruneWhole now

section Slack
variable [DecidableEq α]

/-- The index misses nothing of the list, and a copy it holds beyond those of the
list was expired by the latest cutoff and lies in the bucket of that cutoff. -/
structure Indexed (bucket : τ → κ) (time : α → τ) (listed : List α) (index : κ → List α)
    (cutoff : Option τ) : Prop where
  keyed : ∀ key, ∀ entry ∈ index key, bucket (time entry) = key
  covers : ∀ key, (inBucket bucket time listed key).Sublist (index key)
  slack : ∀ key entry, listed.count entry < (index key).count entry →
    ∃ latest, cutoff = some latest ∧ time entry ≤ latest ∧ key = bucket latest

theorem Indexed.empty (bucket : τ → κ) (time : α → τ) (cutoff : Option τ) :
    Indexed bucket time [] (fun _ => []) cutoff where
  keyed := by simp
  covers := by simp [inBucket]
  slack := by simp

theorem Indexed.insert {bucket : τ → κ} {time : α → τ} {listed : List α} {index : κ → List α}
    {cutoff : Option τ} (held : Indexed bucket time listed index cutoff) (entry : α) :
    Indexed bucket time (listed ++ [entry]) (insertIndex bucket time entry index) cutoff where
  keyed := by
    intro key other member
    unfold insertIndex at member
    split at member
    next own =>
      rcases List.mem_append.mp member with old | new
      · exact held.keyed key other old
      · rw [List.mem_singleton.mp new, own]
    next => exact held.keyed key other member
  covers := by
    intro key
    have old := held.covers key
    unfold inBucket at old ⊢
    unfold insertIndex
    rw [List.filter_append]
    by_cases own : key = bucket (time entry)
    · simpa [own] using List.Sublist.append (own ▸ old) (List.Sublist.refl [entry])
    · simpa [own, Ne.symm own] using old
  slack := by
    intro key other surplus
    apply held.slack key other
    unfold insertIndex at surplus
    split at surplus
    next => simp only [List.count_append] at surplus; omega
    next => simp only [List.count_append] at surplus; omega

theorem Indexed.prune {bucket : τ → κ} {time : α → τ} {listed : List α} {index : κ → List α}
    {cutoff : Option τ} (held : Indexed bucket time listed index cutoff) (monotone : Monotone bucket)
    (now : τ) (later : ∀ latest, cutoff = some latest → latest ≤ now) :
    Indexed bucket time (pruneList time now listed) (pruneIndex bucket now index) (some now) where
  keyed := by
    intro key entry member
    unfold pruneIndex at member
    split at member
    next => simp at member
    next => exact held.keyed key entry member
  covers := by
    intro key
    unfold pruneIndex
    split
    next early =>
      have none : inBucket bucket time (pruneList time now listed) key = [] := by
        unfold inBucket pruneList
        simp only [List.filter_eq_nil_iff, List.mem_filter, decide_eq_true_eq, and_imp]
        intro entry _ fresh own
        exact absurd (monotone fresh.le) (not_le.mpr (own ▸ early))
      rw [none]
    next =>
      have fewer : (pruneList time now listed).Sublist listed := List.filter_sublist
      exact (fewer.filter _).trans (held.covers key)
  slack := by
    intro key entry surplus
    refine ⟨now, rfl, ?_⟩
    unfold pruneIndex at surplus
    split at surplus
    next => simp at surplus
    next late =>
      have member : entry ∈ index key := List.count_pos_iff.mp (by omega)
      have own := held.keyed key entry member
      by_cases fresh : now < time entry
      · have kept : (pruneList time now listed).count entry = listed.count entry := by
          unfold pruneList
          exact List.count_filter (by simpa using fresh)
        obtain ⟨latest, known, expired, -⟩ := held.slack key entry (by omega)
        exact absurd (expired.trans (later latest known)) (not_le.mpr fresh)
      · have expired : time entry ≤ now := not_lt.mp fresh
        refine ⟨expired, ?_⟩
        apply le_antisymm
        · exact own ▸ monotone expired
        · exact not_lt.mp late

end Slack
end Pruning
end EventGateway.Lib.BucketIndex
