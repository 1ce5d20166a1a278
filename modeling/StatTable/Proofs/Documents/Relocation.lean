import StatTable.TableState.Reading

set_option autoImplicit false

namespace StatTable.TableState

open Json (Value)

def Problem.under (place : Path) (problem : Problem) : Problem :=
  ⟨place ++ problem.path, problem.cause⟩

namespace Checked

variable {α β : Type}

def under (place : Path) (part : Checked α) : Checked α :=
  part.mapError (List.map (Problem.under place))

theorem under_problems (place : Path) (part : Checked α) :
    (part.under place).problems = part.problems.map (Problem.under place) := by
  cases part <;> rfl

theorem under_refuse (place path : Path) (cause : Cause) :
    (refuse path cause : Checked α).under place = refuse (place ++ path) cause := rfl

theorem under_under (place path : Path) (part : Checked α) :
    (part.under path).under place = part.under (place ++ path) := by
  cases part with
  | ok => rfl
  | error problems =>
      have moved : Problem.under place ∘ Problem.under path = Problem.under (place ++ path) :=
        funext fun problem => by simp [Problem.under]
      exact congrArg Except.error (List.map_map.trans (congrArg (List.map · problems) moved))

theorem under_map (place : Path) (f : α → β) (part : Checked α) :
    under place (part.map f) = (part.under place).map f := by
  cases part <;> rfl

theorem under_bind (place : Path) (part : Checked α) (next : α → Checked β) :
    under place (part >>= next) = part.under place >>= fun a => (next a).under place := by
  cases part <;> rfl

theorem under_both (place : Path) (first : Checked α) (second : Checked β) :
    (both first second).under place = both (first.under place) (second.under place) := by
  cases first with
  | ok a => cases second <;> rfl
  | error problems => cases second <;> exact congrArg Except.error List.map_append

end Checked

open Checked

-- A reader that finds at each place what it finds at the root, under the place.
def Relocates {α : Type} (read : Path → Value → Checked α) : Prop :=
  ∀ place value, read place value = (read [] value).under place

theorem read_id_relocates : Relocates readId := by
  intro place value
  unfold readId
  split
  · split
    · rfl
    · split <;> rw [under_refuse, List.append_nil]
  · rw [under_refuse, List.append_nil]

theorem read_id_member_relocates : Relocates readIdMember := by
  intro place value
  unfold readIdMember
  split
  · rename_i name id _
    rw [read_id_relocates (place.field name), read_id_relocates (Path.field [] name), under_under]
    rfl
  · rw [under_refuse]
    rfl

theorem read_params_relocates : Relocates readParams := by
  intro place value
  unfold readParams
  split
  · rfl
  · split
    · rfl
    · rename_i problems _
      refine congrArg Except.error (Eq.trans ?_ List.map_map.symm)
      refine congrArg (problems.map ·) (funext fun problem => ?_)
      simp only [Function.comp, Problem.under, paramsPath]
      split <;> simp [Path.field]

theorem read_column_relocates : Relocates readColumn := by
  intro place value
  unfold readColumn
  split
  · rw [read_id_relocates place, under_map]
  · dsimp only
    rw [read_id_member_relocates place, read_params_relocates place, under_map, under_both]
  · rw [under_refuse, List.append_nil]

theorem read_operator_relocates : Relocates readOperator := by
  intro place value
  unfold readOperator
  dsimp only
  split
  · rfl
  · split <;> rfl
  · rfl

theorem read_operand_relocates (operator : FilterOperator) :
    Relocates fun path value => readOperand path operator value := by
  intro place value
  dsimp only
  unfold readOperand
  split <;> rfl

theorem read_comparison_relocates : Relocates readComparison := by
  intro place value
  unfold readComparison
  rw [under_bind, read_operator_relocates place]
  refine congrArg _ (funext fun operator => ?_)
  rw [under_bind]
  exact congrArg (· >>= _) (read_operand_relocates operator place value)

theorem read_filter_relocates : Relocates readFilter := by
  intro place value
  unfold readFilter
  split
  · dsimp only
    rw [read_column_relocates place, read_comparison_relocates place, under_map, under_both]
  · rw [under_refuse, List.append_nil]

theorem read_occurrence_relocates : Relocates readOccurrence := by
  intro place value
  unfold readOccurrence
  split
  · rfl
  · split <;> rfl

theorem read_direction_relocates : Relocates readDirection := by
  intro place value
  unfold readDirection
  split
  · rfl
  · split <;> rfl

theorem read_sort_relocates : Relocates readSort := by
  intro place value
  unfold readSort
  split
  · dsimp only
    rw [read_column_relocates place, read_occurrence_relocates place,
      read_direction_relocates place, under_map, under_both, under_both]
  · rw [under_refuse, List.append_nil]

end StatTable.TableState
