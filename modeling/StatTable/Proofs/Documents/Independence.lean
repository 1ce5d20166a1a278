import StatTable.Proofs.Documents.Checks
import StatTable.Proofs.Documents.Sections

set_option autoImplicit false

namespace StatTable.TableState

open Json (Value)

def Problem.isUnder (place : Path) (problem : Problem) : Bool := place.isPrefixOf problem.path

inductive SplitFault : Value → Cause → Prop
  | unread (item : Value) (cause : Cause) (refused : splitOfJson item = .error cause) :
      SplitFault item cause
  | repeated (item : Value) (split : Split) (read : splitOfJson item = .ok split) :
      SplitFault item (.splitRepeated split)

namespace ClauseList

variable (list : ClauseList)

theorem problems_at_path (i : Nat) (clause : Value) : ∀ problem ∈ list.problemsAt i clause,
    ∃ rest, problem.path = .field list.name :: .index i :: rest := by
  intro problem found
  obtain ⟨own, _, rfl⟩ := List.mem_map.mp found
  exact ⟨own.path, rfl⟩

theorem problems_at_under (i : Nat) (clause : Value) (other : Nat) :
    ∀ problem ∈ list.problemsAt i clause, problem.isUnder (list.place other) = (other == i) := by
  intro problem found
  obtain ⟨rest, path⟩ := list.problems_at_path i clause problem found
  rw [Problem.isUnder, path, place]
  simp [List.isPrefixOf]

theorem problems_from_apart (start : Nat) (clauses : List Value) (i : Nat)
    (apart : i < start ∨ start + clauses.length ≤ i) :
    ∀ problem ∈ list.problemsFrom start clauses, problem.isUnder (list.place i) = false := by
  intro problem found
  obtain ⟨⟨clause, j⟩, listed, own⟩ := List.mem_flatMap.mp found
  obtain ⟨low, high, _⟩ := List.mem_zipIdx listed
  rw [list.problems_at_under j clause i problem own]
  exact beq_eq_false_iff_ne.mpr (by omega)

theorem problems_from_split (before : List Value) (clause : Value) (after : List Value) :
    list.problemsFrom 0 (before ++ clause :: after) = list.problemsFrom 0 before ++
      (list.problemsAt before.length clause ++ list.problemsFrom (before.length + 1) after) := by
  rw [problemsFrom, List.zipIdx_append, List.flatMap_append, Nat.zero_add, List.zipIdx_cons,
    List.flatMap_cons]
  rfl

theorem problems_parted (before : List Value) (clause : Value) (after : List Value) :
    (list.problemsFrom 0 (before ++ clause :: after)).filter
        (·.isUnder (list.place before.length)) = list.problemsAt before.length clause ∧
      (list.problemsFrom 0 (before ++ clause :: after)).filter
        (!·.isUnder (list.place before.length)) =
          list.problemsFrom 0 before ++ list.problemsFrom (before.length + 1) after := by
  have left := list.problems_from_apart 0 before before.length (.inr (by omega))
  have right := list.problems_from_apart (before.length + 1) after before.length (.inl (by omega))
  have own := list.problems_at_under before.length clause before.length
  rw [beq_self_eq_true] at own
  rw [problems_from_split]
  exact filter_middle _ _ _ _ left own right

theorem reported_starts (value : Option Value) : ∀ problem ∈ list.reported value,
    ∃ rest, problem.path = .field list.name :: rest := by
  intro problem found
  unfold reported at found
  split at found
  · cases found
  · obtain ⟨⟨clause, i⟩, _, own⟩ := List.mem_flatMap.mp found
    obtain ⟨rest, path⟩ := list.problems_at_path i clause problem own
    exact ⟨_, path⟩
  · obtain rfl := List.mem_singleton.mp found
    exact ⟨[], rfl⟩

end ClauseList

theorem collect_splits_fault (items : List (Path × Value)) (done : List Split) :
    ∀ problem ∈ (collectSplits done items).2, ∃ item ∈ items, problem.path = item.1 ∧
      SplitFault item.2 problem.cause := by
  induction items generalizing done with
  | nil => simp [collectSplits]
  | cons item rest ih =>
      intro problem found
      have later (done : List Split) (further : problem ∈ (collectSplits done rest).2) :
          ∃ other ∈ item :: rest, problem.path = other.1 ∧ SplitFault other.2 problem.cause := by
        obtain ⟨other, listed, fault⟩ := ih done problem further
        exact ⟨other, List.mem_cons_of_mem _ listed, fault⟩
      obtain ⟨path, value⟩ := item
      rw [collectSplits] at found
      cases read : splitOfJson value with
      | error cause =>
          rw [read] at found
          rcases List.mem_cons.mp found with rfl | further
          · exact ⟨_, List.mem_cons_self, rfl, .unread value cause read⟩
          · exact later done further
      | ok split =>
          rw [read] at found
          dsimp only at found
          split at found
          · rcases List.mem_cons.mp found with rfl | further
            · exact ⟨_, List.mem_cons_self, rfl, .repeated value split read⟩
            · exact later done further
          · exact later _ found

theorem splits_problems (document : Value) (placed : List (Path × Value))
    (ok : sectionItems document "splits" = .ok placed) : ∃ orphan,
      (readSplits document).problems = (collectSplits [] placed).2 ++ orphan ∧
        ∀ problem ∈ orphan, problem.path = [.field "splits"] := by
  refine ⟨if .week ∈ (collectSplits [] placed).1 ∧ .year ∉ (collectSplits [] placed).1 then
    [⟨[.field "splits"], .weekWithoutYear⟩] else [], ?_, ?_⟩
  · rw [readSplits, ok]
    simp only [bind, Except.bind]
    split
    · rename_i none
      exact none.symm
    · rfl
  · intro problem found
    split at found
    · rw [List.mem_singleton.mp found]
    · cases found

theorem section_items_error (document : Value) (name : String) (problems : List Problem)
    (failed : sectionItems document name = .error problems) :
    problems = [⟨[.field name], .notAnArray⟩] := by
  unfold sectionItems at failed
  cases given : document.given? name with
  | none =>
      rw [given] at failed
      cases failed
  | some value =>
      rw [given] at failed
      cases value with
      | array items => cases failed
      | _ => exact (Except.error.inj failed).symm

theorem splits_stand (document : Value) : ∀ problem ∈ (readSplits document).problems,
    problem.path = [.field "splits"] ∨ ∃ (items : List Value) (i : Nat) (item : Value),
      document.given? "splits" = some (.array items) ∧ items[i]? = some item ∧
        problem.path = [.field "splits", .index i] ∧ SplitFault item problem.cause := by
  intro problem found
  cases listed : sectionItems document "splits" with
  | error problems =>
      rw [readSplits, listed] at found
      obtain rfl := section_items_error document "splits" problems listed
      exact .inl (congrArg Problem.path (List.mem_singleton.mp found))
  | ok placed =>
      obtain ⟨orphan, problems, whole⟩ := splits_problems document placed listed
      rw [problems] at found
      rcases List.mem_append.mp found with element | own
      · obtain ⟨pair, member, path, fault⟩ := collect_splits_fault placed [] problem element
        obtain ⟨items, lists, rfl⟩ := (section_items_ok document "splits" placed).mp listed
        obtain ⟨⟨item, i⟩, indexed, rfl⟩ := List.mem_map.mp member
        have held : items[i]? = some item := List.mem_zipIdx_iff_getElem?.mp indexed
        cases lists with
        | absent _ => cases indexed
        | given _ given => exact .inr ⟨items, i, item, given, held, path, fault⟩
      · exact .inl (whole problem own)

theorem offset_stands (document : Value) : ∀ problem ∈ (readOffset document).problems,
    problem.path = [.field "offset"] := by
  intro problem found
  unfold readOffset at found
  split at found
  · cases found
  · split at found
    · cases found
    · rw [List.mem_singleton.mp found]

theorem limit_stands (limits : Limits) (document : Value) :
    ∀ problem ∈ (readLimit limits document).problems, problem.path = [.field "limit"] := by
  intro problem found
  unfold readLimit at found
  dsimp only at found
  split at found
  · cases found
  · split at found
    · rw [List.mem_singleton.mp found]
    · split at found
      · rw [List.mem_singleton.mp found]
      · split at found
        · rw [List.mem_singleton.mp found]
        · cases found

namespace Section

variable (limits : Limits) (document : Value)

theorem problems_start (part : Section) : ∀ problem ∈ part.problems limits document,
    ∃ rest, problem.path = .field part.name :: rest := by
  intro problem found
  cases part with
  | clauses list => exact list.reported_starts _ problem found
  | splits =>
      rcases splits_stand document problem found with whole | ⟨items, i, item, _, _, path, _⟩
      · exact ⟨_, whole⟩
      · exact ⟨_, path⟩
  | offset => exact ⟨_, offset_stands document problem found⟩
  | limit => exact ⟨_, limit_stands limits document problem found⟩

theorem problems_elsewhere (part : Section) (list : ClauseList) (i : Nat)
    (other : part ≠ .clauses list) : ∀ problem ∈ part.problems limits document,
    problem.isUnder (list.place i) = false := by
  intro problem found
  obtain ⟨rest, path⟩ := part.problems_start limits document problem found
  have apart : list.name ≠ part.name := fun same =>
    other (name_injective part (.clauses list) same.symm)
  rw [Problem.isUnder, path, ClauseList.place, List.isPrefixOf, Bool.and_eq_false_iff]
  exact .inl (beq_eq_false_iff_ne.mpr fun same => apart (Segment.field.inj same))

end Section

def inside (place : Path) (problems : List Problem) : List Problem :=
  problems.filter (·.isUnder place)

def outside (place : Path) (problems : List Problem) : List Problem :=
  problems.filter (!·.isUnder place)

theorem clause_problems (limits : Limits) (members : List (String × Value)) (list : ClauseList)
    (clauses : List Value) (given : (Value.object members).given? list.name = some (.array clauses))
    (i : Nat) (clause : Value) (held : clauses[i]? = some clause) :
    inside (list.place i) (problemsOf limits members) = list.problemsAt i clause := by
  obtain ⟨within, rfl⟩ := List.getElem?_eq_some_iff.mp held
  have whole : clauses = clauses.take i ++ clauses[i] :: clauses.drop (i + 1) := by
    rw [← List.drop_eq_getElem_cons within, List.take_append_drop]
  have count : (clauses.take i).length = i := List.length_take_of_le (Nat.le_of_lt within)
  have own := (list.problems_parted (clauses.take i) clauses[i] (clauses.drop (i + 1))).1
  rw [← whole, count] at own
  rw [inside, document_problems, List.filter_flatMap, Section.flat_map_only _ (.clauses list)]
  · rw [Section.problems, given]
    exact own
  · intro other different
    refine List.filter_eq_nil_iff.mpr fun problem found => Bool.eq_false_iff.mp ?_
    exact other.problems_elsewhere limits _ list i different problem found

structure DifferInClause (list : ClauseList) (before after : List Value) (clause changed : Value)
    (one other : List (String × Value)) : Prop where
  held : (Value.object one).given? list.name = some (.array (before ++ clause :: after))
  replaced : (Value.object other).given? list.name = some (.array (before ++ changed :: after))
  others : ∀ name, name ≠ list.name → (Value.object one).get? name = (Value.object other).get? name

theorem others_keep_problems (limits : Limits) (list : ClauseList) (before after : List Value)
    (clause changed : Value) (one other : List (String × Value))
    (differ : DifferInClause list before after clause changed one other) :
    outside (list.place before.length) (problemsOf limits one) =
      outside (list.place before.length) (problemsOf limits other) := by
  rw [outside, outside, document_problems, document_problems, List.filter_flatMap,
    List.filter_flatMap]
  refine List.flatMap_congr fun part _ => ?_
  by_cases own : part = .clauses list
  · subst own
    rw [Section.problems, Section.problems, differ.held, differ.replaced]
    exact (list.problems_parted before clause after).2.trans
      (list.problems_parted before changed after).2.symm
  · have apart : part.name ≠ list.name := fun same =>
      own (Section.name_injective part (.clauses list) same)
    rw [part.problems_congr limits (.object one) (.object other)]
    rw [Value.given?, Value.given?, differ.others _ apart]

-- How the problems of a document hang together.
structure ChecksApart (limits : Limits) (members : List (String × Value)) : Prop where
  sections : problemsOf limits members =
    Section.all.flatMap fun part => problemsOf limits (only part.name members)
  starts : ∀ part : Section, ∀ problem ∈ problemsOf limits (only part.name members),
    ∃ rest, problem.path = .field part.name :: rest
  clauses : ∀ list : ClauseList, problemsOf limits (only list.name members) =
    list.reported ((Value.object members).given? list.name)
  alone : ∀ (list : ClauseList) (clauses : List Value) (i : Nat) (clause : Value),
    (Value.object members).given? list.name = some (.array clauses) → clauses[i]? = some clause →
      inside (list.place i) (problemsOf limits members) = list.problemsAt i clause
  indexed : ∀ (list : ClauseList) (i : Nat) (clause : Value),
    ∀ problem ∈ list.problemsAt i clause, problem.path.clauseIndex? = some i
  splits : ∀ problem ∈ problemsOf limits (only "splits" members),
    problem.path = [.field "splits"] ∨ ∃ (items : List Value) (i : Nat) (item : Value),
      (Value.object members).given? "splits" = some (.array items) ∧ items[i]? = some item ∧
        problem.path = [.field "splits", .index i] ∧ problem.path.clauseIndex? = some i ∧
          SplitFault item problem.cause

theorem problems_checked_apart (limits : Limits) (members : List (String × Value)) :
    ChecksApart limits members where
  sections := by
    rw [document_problems]
    exact List.flatMap_congr fun part _ => (part.only_problems limits members).symm
  starts part problem found := by
    rw [part.only_problems] at found
    exact part.problems_start limits _ problem found
  clauses list := (Section.clauses list).only_problems limits members
  alone list clauses i clause given held :=
    clause_problems limits members list clauses given i clause held
  indexed list i clause problem found := by
    obtain ⟨rest, path⟩ := list.problems_at_path i clause problem found
    rw [path]
    rfl
  splits problem found := by
    have same : problemsOf limits (only "splits" members) = _ :=
      Section.splits.only_problems limits members
    rw [same] at found
    rcases splits_stand _ problem found with whole | ⟨items, i, item, given, held, path, fault⟩
    · exact .inl whole
    · exact .inr ⟨items, i, item, given, held, path, by rw [path]; rfl, fault⟩

theorem clauses_reported_apart (limits : Limits) :
    (∀ members, ChecksApart limits members) ∧
    ∀ list before after clause changed one other,
      DifferInClause list before after clause changed one other →
        outside (list.place before.length) (problemsOf limits one) =
            outside (list.place before.length) (problemsOf limits other) ∧
          inside (list.place before.length) (problemsOf limits one) =
            list.problemsAt before.length clause ∧
          inside (list.place before.length) (problemsOf limits other) =
            list.problemsAt before.length changed := by
  refine ⟨problems_checked_apart limits, ?_⟩
  intro list before after clause changed one other differ
  have held (own : Value) : (before ++ own :: after)[before.length]? = some own := by
    rw [List.getElem?_append_right (Nat.le_refl _), Nat.sub_self]
    rfl
  exact ⟨others_keep_problems limits list before after clause changed one other differ,
    clause_problems limits one list _ differ.held _ clause (held clause),
    clause_problems limits other list _ differ.replaced _ changed (held changed)⟩

def columnsWith (second : Value) : List (String × Value) :=
  [("columns", .array [.string "rush_yards", second]), ("limit", .number (.integer 0))]

theorem second_column_apart :
    DifferInClause .columns [.string "rush_yards"] [] (.string "Rush Yards") .null
      (columnsWith (.string "Rush Yards")) (columnsWith .null) ∧
    outside (ClauseList.columns.place 1) (problemsOf .usual (columnsWith (.string "Rush Yards"))) =
      outside (ClauseList.columns.place 1) (problemsOf .usual (columnsWith .null)) ∧
    inside (ClauseList.columns.place 1) (problemsOf .usual (columnsWith (.string "Rush Yards"))) =
      ClauseList.columns.problemsAt 1 (.string "Rush Yards") ∧
    inside (ClauseList.columns.place 1) (problemsOf .usual (columnsWith .null)) =
      ClauseList.columns.problemsAt 1 .null ∧
    (problemsOf .usual (columnsWith .null)).map (·.path.text) = ["columns[1]", "limit"] := by
  have differ : DifferInClause .columns [.string "rush_yards"] [] (.string "Rush Yards") .null
      (columnsWith (.string "Rush Yards")) (columnsWith .null) := by
    refine ⟨rfl, rfl, fun name different => ?_⟩
    have apart : (name == "columns") = false := beq_eq_false_iff_ne.mpr different
    simp only [columnsWith, Value.get?, List.lookup_cons, apart]
  have laws := (clauses_reported_apart .usual).2 _ _ _ _ _ _ _ differ
  exact ⟨differ, laws.1, laws.2.1, laws.2.2, by decide +kernel⟩

end StatTable.TableState
