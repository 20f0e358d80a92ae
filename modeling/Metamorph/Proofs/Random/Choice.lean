import Metamorph.Proofs.Random.Contract
import Metamorph.Random.Choice

/-! # Members are chosen

Whatever way an item is chosen from a list, it is one of the list. Here the sources need keep
to no range, and every error of a choice is allowed. -/

namespace Metamorph

variable {ρ α : Type} [RandomSource ρ]

theorem drawItem_mem {first : α} {rest : List α} :
    Always (drawItem first rest : StateM ρ α) (· ∈ first :: rest) := by
  refine Always.bind (Always.drawn _) fun number _ => Always.pure ?_
  rw [List.getD_eq_getElem?_getD]
  cases found : (first :: rest)[number]? with
  | none => simp
  | some a => exact List.mem_of_getElem? found

theorem itemAt_mem {point sum : Float} {last : α} {items : List (α × Float)} :
    itemAt point sum last items ∈ last :: items.map (·.1) := by
  induction items generalizing sum last with
  | nil => simp [itemAt]
  | cons item rest ih =>
      rw [itemAt]
      split
      · simp
      · exact List.mem_cons_of_mem _ ih

theorem chooseAmong_mem {first : α} {items : List (α × Float)} (member : first ∈ items.map (·.1)) :
    Meets (fun _ => True) (chooseAmong first items : Draw ρ α) (· ∈ items.map (·.1)) := by
  refine Meets.bind (Meets.drawn _) fun _ _ => ?_
  refine Meets.bind (Meets.drawn _) fun point _ => Meets.pure ?_
  have chosen : itemAt point 0.0 first items ∈ first :: items.map (·.1) := itemAt_mem
  rcases List.mem_cons.mp chosen with isFirst | later
  · rw [isFirst]
    exact member
  · exact later

theorem chooseWeighted_mem {weight : α → Float} {items : List α} :
    Meets (fun _ => True) (chooseWeighted weight items : Draw ρ α) (· ∈ items) := by
  cases items with
  | nil => exact fun _ => trivial
  | cons first rest =>
      have member : first ∈ ((first :: rest).map fun a => (a, weight a)).map (·.1) := by simp
      have chosen : Meets (fun _ => True) (chooseAmong first _ : Draw ρ α) _ :=
        chooseAmong_mem member
      simpa [chooseWeighted, Function.comp_def] using chosen

theorem weightsOf_items {shown : α → String} {weightOf : α → Option Float} {options : List α}
    {items : List (α × Float)} (listed : weightsOf shown weightOf options = .ok items) :
    items.map (·.1) = options := by
  induction options generalizing items with
  | nil =>
      obtain rfl : [] = items := by simpa [weightsOf] using listed
      rfl
  | cons a rest ih =>
      cases weighed : weightOf a with
      | none => simp [weightsOf, weighed] at listed
      | some weight =>
          cases others : weightsOf shown weightOf rest with
          | error e => simp [weightsOf, weighed, others, Except.map] at listed
          | ok more =>
              obtain rfl : (a, weight) :: more = items := by
                simpa [weightsOf, weighed, others, Except.map] using listed
              rw [List.map_cons, ih others]

theorem weightedSelect_mem {shown : α → String} {weightOf : α → Option Float} {options : List α} :
    Meets (fun _ => True) (weightedSelect shown weightOf options : Draw ρ α) (· ∈ options) := by
  cases options with
  | nil => exact fun _ => trivial
  | cons first rest =>
      have listed : Meets (fun _ => True)
          (liftM (weightsOf shown weightOf (first :: rest)) : Draw ρ (List (α × Float)))
          fun items => items.map (·.1) = first :: rest := by
        refine Meets.check ?_
        cases outcome : weightsOf shown weightOf (first :: rest) with
        | ok items => exact weightsOf_items outcome
        | error e => trivial
      refine Meets.bind listed fun items same => ?_
      rw [← same]
      exact chooseAmong_mem (by simp [same])

end Metamorph
