import Mathlib
import Metamorph.Campaign.Summary

/-! # Counting results

A tally has each label once, so that the count under a label is found wherever it was put. The
counts of a summary are those of the results that were added to it, in whatever order. -/

namespace Metamorph

namespace Tally

variable {tally : Tally} {label key : String}

-- The equations of `add` are derived here, ahead of the proofs that open it.
attribute [local grind =] add

/-- The count under a label; a label that is missing was never counted. -/
def count (tally : Tally) (label : String) : Nat :=
  (tally.lookup label).getD 0

/-- Labels stand in increasing order. -/
def Sorted (tally : Tally) : Prop :=
  (tally.map Prod.fst).Pairwise (· < ·)

theorem sorted_cons {entry : String × Nat} :
    Sorted (entry :: tally) ↔ (∀ key ∈ tally.map Prod.fst, entry.1 < key) ∧ tally.Sorted :=
  List.pairwise_cons

theorem mem_keys_add : key ∈ (add label tally).map Prod.fst ↔
    key = label ∨ key ∈ tally.map Prod.fst := by
  induction tally with
  | nil => simp [add]
  | cons entry rest ih =>
    rw [add]
    split
    · rename_i same
      simp [same]
    · split
      · simp
      · rw [List.map_cons, List.map_cons, List.mem_cons, List.mem_cons, ih]
        exact or_left_comm

theorem Sorted.add (sorted : tally.Sorted) : (add label tally).Sorted := by
  induction tally with
  | nil => exact List.pairwise_singleton ..
  | cons entry rest ih =>
    obtain ⟨first, others⟩ := sorted_cons.mp sorted
    rw [Tally.add]
    split
    · exact sorted
    · rename_i differs
      split
      · rename_i less
        refine sorted_cons.mpr ⟨List.forall_mem_cons.mpr ⟨less, ?_⟩, sorted⟩
        exact fun key member => less.trans (first key member)
      · rename_i notLess
        refine sorted_cons.mpr ⟨fun key member => ?_, ih others⟩
        obtain rfl | member := mem_keys_add.mp member
        · exact lt_of_le_of_ne (not_lt.mp notLess) (Ne.symm differs)
        · exact first key member

theorem count_cons {other : String} {number : Nat} : count ((other, number) :: tally) label =
    if label = other then number else tally.count label := by
  by_cases same : label = other
  · simp [count, same]
  · rw [count, List.lookup_cons, if_neg same, beq_eq_false_iff_ne.mpr same]
    rfl

/-- What comes before all labels of a tally is not counted in it. -/
theorem count_eq_zero (before : ∀ key ∈ tally.map Prod.fst, label < key) : tally.count label = 0 := by
  induction tally with
  | nil => rfl
  | cons entry rest ih =>
    obtain ⟨first, others⟩ := List.forall_mem_cons.mp before
    rw [count_cons, if_neg first.ne]
    exact ih others

/-- One more under a label is one more under this label only. -/
theorem Sorted.count_add (sorted : tally.Sorted) (label other : String) :
    (Tally.add label tally).count other = tally.count other + if label = other then 1 else 0 := by
  induction tally with
  | nil =>
    rw [Tally.add, count_cons]
    simp [count, eq_comm]
  | cons entry rest ih =>
    obtain ⟨first, others⟩ := sorted_cons.mp sorted
    obtain ⟨key, number⟩ := entry
    rw [Tally.add]
    -- the label stands here, belongs before this place, or comes later
    split
    · rename_i same
      subst same
      rw [count_cons, count_cons]
      by_cases here : other = label
      · simp [here]
      · simp [here, Ne.symm here]
    · rename_i differs
      split
      · rename_i less
        rw [count_cons]
        split
        · rename_i here
          subst here
          have missing : count ((key, number) :: rest) other = 0 :=
            count_eq_zero (List.forall_mem_cons.mpr
              ⟨less, fun later member => less.trans (first later member)⟩)
          simp [missing]
        · rename_i there
          simp [Ne.symm there]
      · rw [count_cons, count_cons, ih others]
        split
        · rename_i here
          subst here
          simp [differs]
        · rfl

theorem sum_add : ((add label tally).map Prod.snd).sum = (tally.map Prod.snd).sum + 1 := by
  induction tally with
  | nil => rfl
  | cons entry rest ih =>
    rw [add]
    split
    · simp only [List.map_cons, List.sum_cons]
      omega
    · split
      · simp only [List.map_cons, List.sum_cons]
        omega
      · simp only [List.map_cons, List.sum_cons, ih]
        omega

end Tally

namespace Summary

variable {summary : Summary} {played : List Bundle} {results : List Result}

/-- The counts of a summary are those of some bundles and results. -/
structure Counts (summary : Summary) (played : List Bundle) (results : List Result) : Prop where
  bundles : summary.bundles = played.length
  circuits : summary.circuits = (played.map Bundle.size).sum
  sorted : summary.outcomes.Sorted
  outcomes : ∀ label, summary.outcomes.count label =
    results.countP fun result => result.outcome.label = label
  total : (summary.outcomes.map Prod.snd).sum = results.length
  findings : summary.findings = results.countP Result.isFinding

theorem counts_nil : Counts {} [] [] :=
  ⟨rfl, rfl, .nil, fun _ => rfl, rfl, rfl⟩

theorem Counts.addBundle (counts : summary.Counts played results) (bundle : Bundle) :
    (summary.addBundle bundle).Counts (played ++ [bundle]) results where
  bundles := by simp [Summary.addBundle, counts.bundles]
  circuits := by simp [Summary.addBundle, counts.circuits]
  sorted := counts.sorted
  outcomes := counts.outcomes
  total := counts.total
  findings := counts.findings

theorem Counts.addResult (counts : summary.Counts played results) (result : Result) :
    (summary.addResult result).Counts played (results ++ [result]) where
  bundles := counts.bundles
  circuits := counts.circuits
  sorted := counts.sorted.add
  outcomes label := by
    rw [Summary.addResult, counts.sorted.count_add, counts.outcomes]
    simp [List.countP_append, List.countP_singleton]
  total := by rw [Summary.addResult, Tally.sum_add, counts.total, List.length_append]; rfl
  findings := by
    rw [List.countP_append, List.countP_singleton, ← counts.findings, Summary.addResult]
    split <;> rfl

theorem Counts.addResults (counts : summary.Counts played results) (more : List Result) :
    (more.foldl Summary.addResult summary).Counts played (results ++ more) := by
  induction more generalizing summary results with
  | nil => rwa [List.append_nil]
  | cons result more ih =>
    rw [List.append_cons]
    exact ih (counts.addResult result)

end Summary

end Metamorph
