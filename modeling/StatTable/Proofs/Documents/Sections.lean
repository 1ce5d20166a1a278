import Mathlib.Data.List.Nodup
import StatTable.Proofs.Documents.Relocation

set_option autoImplicit false

namespace StatTable.TableState

open Json (Value)

inductive ClauseList where
  | leading
  | columns
  | filters
  | sorts
deriving DecidableEq

namespace ClauseList

def name : ClauseList → String
  | leading => "prefix_columns"
  | columns => "columns"
  | filters => "where"
  | sorts => "sort"

def problems : ClauseList → Value → List Problem
  | leading, clause | columns, clause => (readColumn [] clause).problems
  | filters, clause => (readFilter [] clause).problems
  | sorts, clause => (readSort [] clause).problems

def place (list : ClauseList) (i : Nat) : Path := [.field list.name, .index i]

def problemsAt (list : ClauseList) (i : Nat) (clause : Value) : List Problem :=
  (list.problems clause).map (Problem.under (list.place i))

def problemsFrom (list : ClauseList) (start : Nat) (clauses : List Value) : List Problem :=
  (clauses.zipIdx start).flatMap fun (clause, i) => list.problemsAt i clause

def reported (list : ClauseList) : Option Value → List Problem
  | none => []
  | some (.array clauses) => list.problemsFrom 0 clauses
  | some _ => [⟨[.field list.name], .notAnArray⟩]

end ClauseList

inductive Section where
  | clauses (list : ClauseList)
  | splits
  | offset
  | limit
deriving DecidableEq

namespace Section

def all : List Section :=
  [clauses .leading, clauses .columns, clauses .filters, clauses .sorts, splits, offset, limit]

def name : Section → String
  | clauses list => list.name
  | splits => "splits"
  | offset => "offset"
  | limit => "limit"

def problems (limits : Limits) (document : Value) : Section → List Problem
  | clauses list => list.reported (document.given? list.name)
  | splits => (readSplits document).problems
  | offset => (readOffset document).problems
  | limit => (readLimit limits document).problems

theorem mem_all (part : Section) : part ∈ all := by
  cases part with
  | clauses list => cases list <;> decide
  | splits | offset | limit => decide

theorem name_injective (one other : Section) (same : one.name = other.name) : one = other :=
  List.inj_on_of_nodup_map (by decide : (all.map name).Nodup) (mem_all one) (mem_all other) same

theorem flat_map_only {α : Type} (f : Section → List α) (part : Section)
    (others : ∀ other, other ≠ part → f other = []) : all.flatMap f = f part := by
  rcases part with list | _ | _ | _ <;> try cases list
  all_goals simp +decide [all, others]

end Section

namespace Checked

variable {α β : Type}

theorem problems_map (part : Checked α) (f : α → β) :
    problems (part.map f) = part.problems := by
  cases part <;> rfl

theorem problems_both (first : Checked α) (second : Checked β) :
    (both first second).problems = first.problems ++ second.problems := by
  cases first <;> cases second <;> rfl

theorem problems_all (parts : List (Checked α)) :
    (all parts).problems = parts.flatMap problems := by
  induction parts with
  | nil => rfl
  | cons part rest ih => rw [all, problems_map, problems_both, ih, List.flatMap_cons]

end Checked

open Checked

def problemsOf (limits : Limits) (members : List (String × Value)) : List Problem :=
  (ofJson limits (.object members)).problems

def only (name : String) (members : List (String × Value)) : List (String × Value) :=
  members.filter (·.1 == name)

theorem lookup_only_own (name : String) (members : List (String × Value)) :
    (only name members).lookup name = members.lookup name := by
  induction members with
  | nil => rfl
  | cons member rest ih =>
      rw [only, List.filter_cons, List.lookup_cons]
      by_cases own : member.1 = name
      · rw [if_pos (beq_iff_eq.mpr own), List.lookup_cons, ← own, beq_self_eq_true]
      · rw [if_neg fun same => own (beq_iff_eq.mp same), beq_eq_false_iff_ne.mpr (Ne.symm own)]
        exact ih

theorem lookup_only_other (name other : String) (members : List (String × Value))
    (different : other ≠ name) : (only name members).lookup other = none := by
  refine List.lookup_eq_none_iff.mpr fun member listed => ?_
  rw [beq_iff_eq.mp (List.mem_filter.mp listed).2]
  exact bne_iff_ne.mpr different

theorem only_given_own (name : String) (members : List (String × Value)) :
    (Value.object (only name members)).given? name = (Value.object members).given? name := by
  rw [Value.given?, Value.get?, lookup_only_own]
  rfl

theorem only_given_other (name other : String) (members : List (String × Value))
    (different : other ≠ name) : (Value.object (only name members)).given? other = none := by
  rw [Value.given?, Value.get?, lookup_only_other name other members different]
  rfl

section

variable {α : Type} (document : Value) (name : String) (read : Path → Value → Checked α)

theorem section_problems : (readSection document name read).problems =
    match document.given? name with
    | none => []
    | some (.array items) => items.zipIdx.flatMap fun (item, i) =>
        (read [.field name, .index i] item).problems
    | some _ => [⟨[.field name], .notAnArray⟩] := by
  unfold readSection sectionItems
  cases document.given? name with
  | none => rfl
  | some value =>
      cases value with
      | array items =>
          change (all (List.map _ (items.zipIdx.map _))).problems = _
          rw [problems_all, List.map_map, List.flatMap_map]
          rfl
      | _ => rfl

theorem section_reported (list : ClauseList) (relocates : Relocates read)
    (own : ∀ clause, (read [] clause).problems = list.problems clause) :
    (readSection document list.name read).problems =
      list.reported (document.given? list.name) := by
  rw [section_problems]
  cases document.given? list.name with
  | none => rfl
  | some value =>
      cases value with
      | array clauses =>
          refine List.flatMap_congr fun placed _ => ?_
          change (read (list.place placed.2) placed.1).problems = list.problemsAt placed.2 placed.1
          rw [relocates, under_problems, own]
          rfl
      | _ => rfl

end

theorem document_problems (limits : Limits) (members : List (String × Value)) :
    problemsOf limits members = Section.all.flatMap (Section.problems limits (.object members)) := by
  have leading := section_reported (.object members) readColumn .leading read_column_relocates
    fun _ => rfl
  have columns := section_reported (.object members) readColumn .columns read_column_relocates
    fun _ => rfl
  have filters := section_reported (.object members) readFilter .filters read_filter_relocates
    fun _ => rfl
  have sorts := section_reported (.object members) readSort .sorts read_sort_relocates fun _ => rfl
  simp only [ClauseList.name] at leading columns filters sorts
  rw [problemsOf, ofJson, problems_map]
  simp only [problems_both, leading, columns, filters, sorts, Section.all, List.flatMap_cons,
    List.flatMap_nil, List.append_nil, Section.problems, ClauseList.name]

namespace Section

variable (limits : Limits)

theorem problems_congr (part : Section) (one other : Value)
    (same : one.given? part.name = other.given? part.name) :
    part.problems limits one = part.problems limits other := by
  cases part with
  | clauses list =>
      rw [name] at same
      rw [problems, problems, same]
  | splits =>
      rw [name] at same
      rw [problems, problems, readSplits, readSplits, sectionItems, sectionItems, same]
  | offset =>
      rw [name] at same
      rw [problems, problems, readOffset, readOffset, same]
  | limit =>
      rw [name] at same
      rw [problems, problems, readLimit, readLimit, same]

theorem problems_absent (part : Section) (document : Value)
    (absent : document.given? part.name = none) : part.problems limits document = [] := by
  have same := problems_congr limits part document (.object []) absent
  rw [same]
  cases part with
  | clauses list => rfl
  | splits | offset | limit => rfl

theorem only_problems (part : Section) (members : List (String × Value)) :
    problemsOf limits (only part.name members) = part.problems limits (.object members) := by
  rw [document_problems, flat_map_only _ part]
  · exact problems_congr limits part _ _ (only_given_own part.name members)
  · refine fun other different => problems_absent limits other _ (only_given_other _ _ members ?_)
    exact fun same => different (name_injective other part same)

end Section

end StatTable.TableState
