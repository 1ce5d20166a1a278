import StatTable.Proofs.Joins.Appearance
import StatTable.Proofs.Joins.Shared
import StatTable.Proofs.Params.Restriction
import StatTable.Proofs.Players.Once

set_option autoImplicit false

namespace StatTable

def Sql.Expr.conjuncts : Sql.Expr → List Sql.Expr
  | .binary .and left right => left.conjuncts ++ right.conjuncts
  | other => [other]

def ParamValue.IsSingle : ParamValue → Prop
  | .scalar _ => True
  | .list items => items ≠ [] ∧ ∃ s, ∀ item ∈ items, item = s
  | .range _ _ => False

namespace Plan

open Sql

-- The columns that tell the rows of a player apart.
def tellingColumns (relation : Relation) (marketType : Option String) : List String :=
  relation.yearColumn.toList ++ relation.weekColumn.toList ++ relation.params.map (·.column) ++
    relation.fixed.map (·.column) ++ (marketType.map fun _ => "market_type").toList

-- A group of rows that are read as they are is joined once, on one value of each column.
structure JoinsPinned (state : TableState) (plan : QueryPlan) (group : Group) (relation : Relation)
    (marketType : Option String) (planned : PlannedJoin) : Prop where
  once : plan.joins.filter (·.aliasName == group.aliasName) = [planned]
  reads : planned.join.table = ⟨relation.table, some group.aliasName⟩
  pinned : ∀ column ∈ tellingColumns relation marketType, HoldsSplit state.splits relation column ∨
    ∃ literal, Expr.eq (.field group.aliasName column) (.literal literal) ∈ planned.join.on.conjuncts

-- A use of rows as they are names several values of a column that holds no dimension.
def NamesSeveral (state : TableState) (spec : ColumnSpec) : Prop :=
  ∃ column relation marketType key own value, Catalog.lookup spec.id = some column ∧
    column.kind.source? = some (.direct relation marketType) ∧
      paramColumn? relation key = some own ∧ ¬ HoldsSplit state.splits relation own ∧
        spec.params.get? key = some value ∧ ¬ value.IsSingle

theorem conjuncts_fold (first : Expr) (rest : List Expr) :
    (rest.foldl Expr.and first).conjuncts = first.conjuncts ++ rest.flatMap Expr.conjuncts := by
  induction rest generalizing first with
  | nil => rw [List.foldl_nil, List.flatMap_nil, List.append_nil]
  | cons condition rest ih =>
      rw [List.foldl_cons, ih, Expr.and, Expr.conjuncts, List.flatMap_cons, List.append_assoc]

theorem mem_conjuncts (conditions : List Expr) (whole condition : Expr)
    (joined : Expr.conjunction conditions = some whole) (member : condition ∈ conditions)
    (own : condition.conjuncts = [condition]) : condition ∈ whole.conjuncts := by
  cases conditions with
  | nil => cases joined
  | cons first rest =>
      obtain rfl := Option.some.inj joined
      rw [conjuncts_fold]
      rcases List.mem_cons.mp member with rfl | later
      · rw [own]
        exact List.mem_append_left _ (List.mem_singleton_self _)
      · refine List.mem_append_right _ (List.mem_flatMap.mpr ⟨condition, later, ?_⟩)
        rw [own]
        exact List.mem_singleton_self _

theorem scalar_literal (s : Scalar) : ∃ literal, s.toExpr = .literal literal := by
  cases s <;> exact ⟨_, rfl⟩

theorem compared_condition (relation : Relation) (params : Params) (table column : String)
    (compared : ComparedOnce relation params column) : ∃ literal,
      Expr.eq (.field table column) (.literal literal) ∈
        paramConditions relation params table ++ fixedConditions relation table := by
  cases compared with
  | param key _ s read given =>
      obtain ⟨literal, written⟩ := scalar_literal s
      refine ⟨literal, List.mem_append_left _ (List.mem_filterMap.mpr
        ⟨(key, .scalar s), (mem_to_list _ _ _).mpr given, ?_⟩)⟩
      rw [read, ← written]
      rfl
  | fixed own member =>
      obtain ⟨literal, written⟩ := scalar_literal own.value
      exact ⟨literal, List.mem_append_right _
        (List.mem_map.mpr ⟨own, member, by rw [written]⟩)⟩

theorem mem_common_splits (splits : List Split) (relation : Relation) (split : Split) :
    split ∈ commonSplits (canonicalSplits splits) relation ↔
      split ∈ splits ∧ (relation.splitColumn split).isSome = true := by
  have listed : split ∈ Split.all := by cases split <;> decide
  simp [commonSplits, canonicalSplits, List.mem_filter, listed]

theorem common_holds (splits : List Split) (relation : Relation) (column : String)
    (holds : HoldsSplit (commonSplits (canonicalSplits splits) relation) relation column) :
    HoldsSplit splits relation column := by
  obtain ⟨split, common, held⟩ := holds
  exact ⟨split, ((mem_common_splits splits relation split).mp common).1, held⟩

section

variable (defaults : Defaults) (state : TableState) (bindings : Bindings) (plan : QueryPlan)
variable (compiled : Compiled state bindings plan) (uses : Uses defaults state bindings)

include uses

theorem placed_direct (group : Group) (placed : group ∈ bindings.table.groups) (relation : Relation)
    (marketType : Option String) (source : group.source = .direct relation marketType) :
    ∃ asked, resolve relation (commonSplits (canonicalSplits state.splits) relation) defaults asked =
        .ok group.params ∧
      requireSingleValues (commonSplits (canonicalSplits state.splits) relation) group.params =
        .ok group.params := by
  cases table_origin bindings group placed with
  | read use target used reads named same =>
      obtain ⟨spec, _, finds⟩ := use_finds defaults state bindings uses use used
      have own : target.source = .direct relation marketType :=
        (congrArg Target.source same).symm.trans source
      rw [show group.params = target.params from congrArg Target.params same]
      exact ⟨_, finds_direct _ _ _ _ _ target finds reads relation marketType own⟩
  | divides _ _ _ _ _ rate numerator _ _ _ _ _ _ same =>
      have own : group.source = .denominator rate numerator.aliasName := congrArg Target.source same
      rw [source] at own
      cases own

include compiled

theorem group_pinned (group : Group) (joined : group ∈ bindings.ordered) (relation : Relation)
    (marketType : Option String) (source : group.source = .direct relation marketType) :
    ∃ planned, JoinsPinned state plan group relation marketType planned := by
  have placed := ordered_placed bindings group joined
  have pinned := sources_pinned _ (placed_source defaults state bindings uses group placed
    (by rw [Group.isDenominator, source]))
  rw [source] at pinned
  obtain ⟨asked, resolved, required⟩ :=
    placed_direct defaults state bindings uses group placed relation marketType source
  obtain ⟨before, once⟩ := group_joined state bindings plan compiled group joined
  refine ⟨_, once, ?_, fun column telling => ?_⟩
  · rw [planJoin, joinTable, source]
  · have joins (literal : Literal) (listed : Expr.eq (.field group.aliasName column)
        (.literal literal) ∈ directConditions group relation marketType) :
        Expr.eq (.field group.aliasName column) (.literal literal) ∈
          (planJoin bindings.ordered before group).join.on.conjuncts := by
      refine mem_conjuncts (joinConditions bindings.ordered before group) _ _ rfl ?_ rfl
      rw [joinConditions, sourceConditions, source]
      exact List.mem_cons_of_mem _ (List.mem_append_left _ listed)
    rcases List.mem_append.mp telling with own | market
    · refine (column_compared relation _ defaults asked _ _ pinned resolved required column own).imp
        (common_holds state.splits relation column) fun compared => ?_
      obtain ⟨literal, listed⟩ :=
        compared_condition relation group.params group.aliasName column compared
      exact ⟨literal, joins literal (List.mem_append_left _ listed)⟩
    · cases marketType with
      | none => cases market
      | some type =>
          obtain rfl : column = "market_type" := by simpa using market
          exact .inr ⟨.string type, joins _ (List.mem_append_right _ (List.mem_singleton_self _))⟩

end

theorem shift_scalar_injective (delta : Int64) (one other shifted : Scalar)
    (first : ParamValue.shiftScalar? delta one = some shifted)
    (second : ParamValue.shiftScalar? delta other = some shifted) : one = other := by
  have moved (n : Int64) (m : Scalar)
      (shift : ParamValue.shiftScalar? delta (.integer n) = some m) :
      ∃ word, m = .integer word ∧ word.toInt = n.toInt + delta.toInt := by
    obtain ⟨word, added, rfl⟩ := Option.map_eq_some_iff.mp shift
    exact ⟨word, rfl, word_value _ word added⟩
  cases one with
  | integer n =>
      obtain ⟨word, rfl, value⟩ := moved n shifted first
      cases other with
      | integer m =>
          obtain ⟨word', same, value'⟩ := moved m _ second
          obtain rfl := Scalar.integer.inj same
          rw [Int64.toInt_inj.mp (show n.toInt = m.toInt by omega)]
      | _ => cases second
  | _ =>
      obtain rfl := Option.some.inj first
      cases other with
      | integer m =>
          obtain ⟨word, same, _⟩ := moved m _ second
          cases same
      | _ => exact (Option.some.inj second).symm

theorem shift_single (value : ParamValue) (delta : Int64) (s : Scalar)
    (shifted : value.shift? delta = some (.scalar s)) : value.IsSingle := by
  cases value with
  | scalar own => trivial
  | list items =>
      obtain ⟨moved, each, made⟩ := Option.map_eq_some_iff.mp shifted
      have only : Scalar.ascending moved = [s] := by
        rw [ParamValue.ofList] at made
        split at made
        · rename_i own ascends
          rw [ascends, ParamValue.scalar.inj made]
        · cases made
      have related := (map_m_related _ _ _).mp each
      have toOne : ∀ item ∈ items, ParamValue.shiftScalar? delta item = some s := by
        intro item member
        obtain ⟨m, listed, own⟩ := forall_left _ _ _ related item member
        rw [← mem_ascending, only, List.mem_singleton] at listed
        rw [own, listed]
      cases items with
      | nil =>
          cases related
          have listed := (mem_ascending [] s).mp (only ▸ List.mem_singleton_self s)
          cases listed
      | cons first rest =>
          exact ⟨List.cons_ne_nil first rest, first, fun item member => shift_scalar_injective delta
            item first s (toOne item member) (toOne first List.mem_cons_self)⟩
  | range min max =>
      obtain ⟨low, _, rest⟩ := Option.bind_eq_some_iff.mp shifted
      obtain ⟨high, _, made⟩ := Option.bind_eq_some_iff.mp rest
      cases made

theorem column_accepted (relation : Relation) (key : ParamKey) (column : String)
    (read : paramColumn? relation key = some column) :
    relation.accepts key = true ∧ key ≠ .yearOffset ∧ key ≠ .rateType := by
  have listed (found : (relation.params.find? (·.key == key)).map (·.column) = some column) :
      relation.params.any (·.key == key) = true := by
    obtain ⟨own, first, _⟩ := Option.map_eq_some_iff.mp found
    have named := List.find?_some first
    exact List.any_eq_true.mpr ⟨own, List.mem_of_find?_eq_some first, named⟩
  cases key with
  | year => exact ⟨by rw [Relation.accepts, show relation.yearColumn = _ from read]; rfl, by decide⟩
  | week => exact ⟨by rw [Relation.accepts, show relation.weekColumn = _ from read]; rfl, by decide⟩
  | yearOffset => cases read
  | rateType => cases read
  | _ => exact ⟨listed read, by decide⟩

section

variable (relation : Relation) (splits : List Split) (defaults : Defaults) (params resolved : Params)
variable (ok : resolve relation splits defaults params = .ok resolved)

include ok

theorem resolve_named (key : ParamKey) (value : ParamValue)
    (accepted : relation.accepts key = true) (offset : key ≠ .yearOffset)
    (given : params.get? key = some value) : ∃ held, resolved.get? key = some held ∧
      (held = value ∨ ∃ delta, value.shift? delta = some held) := by
  by_cases year : key = .year
  · subst year
    obtain ⟨amount, shifted, _, moved, held⟩ :=
      resolved_year relation splits defaults params accepted resolved value given ok
    obtain ⟨delta, _, shifts⟩ := Option.bind_eq_some_iff.mp moved
    exact ⟨shifted, held, .inr ⟨delta, shifts⟩⟩
  · obtain ⟨dated, datedOk, rfl⟩ := resolve_ok relation splits defaults params resolved ok
    have dates : dated.get? key = some value := by
      rw [with_year_other relation splits defaults _ dated datedOk key year offset,
        Params.filter_kept _ _ _ accepted, given]
    exact ⟨value, dated_kept relation splits defaults dated key value dates, .inl rfl⟩

end

theorem several_refused (defaults : Defaults) (limits : Limits) (state : TableState)
    (spec : ColumnSpec) (requested : spec ∈ state.requested) (several : NamesSeveral state spec) :
    ∃ error, compile defaults limits state = .error error := by
  cases ok : compile defaults limits state with
  | error error => exact ⟨error, rfl⟩
  | ok plan =>
      exfalso
      obtain ⟨column, relation, marketType, key, own, value, found, kind, read, unheld, given, more⟩ :=
        several
      obtain ⟨bindings, bound, _⟩ := compile_compiled defaults limits state plan ok
      have uses := bound_uses defaults state bindings bound
      obtain ⟨use, used, finds⟩ := forall_left _ _ _ (uses_found defaults state bindings uses) spec
        requested
      obtain rfl := Option.some.inj (found.symm.trans finds.asks.column)
      obtain ⟨target, reads⟩ : ∃ target, use.binding.target? = some target := by
        rw [← Option.ne_none_iff_exists']
        intro none
        obtain ⟨source, player⟩ := (target_none_iff _ _ _ _ finds.binds).mp none
        rw [player] at kind
        cases kind
      have source : target.source = .direct relation marketType :=
        Option.some.inj ((finds_kind _ _ _ _ _ target finds reads).symm.trans kind)
      obtain ⟨resolved, required⟩ :=
        finds_direct _ _ _ _ _ target finds reads relation marketType source
      obtain ⟨accepted, offset, rated⟩ := column_accepted relation key own read
      have named : use.request.params.get? key = some value := by
        rw [finds.asks.others, ← given]
        exact if_neg rated
      obtain ⟨held, kept, moves⟩ := resolve_named relation _ defaults _ _ resolved key value accepted
        offset named
      obtain ⟨s, rfl⟩ := single_values _ _ _ required key held
        (Bool.eq_false_iff.mpr fun split => unheld (common_holds state.splits relation own
          (split_key_holds relation _ key own split read))) kept
      rcases moves with rfl | ⟨delta, shift⟩
      · exact more trivial
      · exact more (shift_single value delta s shift)

theorem direct_joins_pinned (defaults : Defaults) (limits : Limits) (state : TableState) :
    (∀ plan bindings, compile defaults limits state = .ok plan →
      boundUses defaults state = .ok bindings → ∀ group ∈ bindings.ordered, ∀ relation marketType,
        group.source = .direct relation marketType →
          ∃ planned, JoinsPinned state plan group relation marketType planned) ∧
    ∀ spec ∈ state.requested, NamesSeveral state spec →
      ∃ error, compile defaults limits state = .error error := by
  refine ⟨fun plan bindings ok bound => ?_, several_refused defaults limits state⟩
  have compiled := compiled_of_bound defaults limits state bindings plan bound ok
  exact group_pinned defaults state bindings plan compiled (bound_uses defaults state bindings bound)

def readAsTheyAre : TableState :=
  { TableState.empty with
    columns := [⟨"fantasy_points", .ofList [(.year, .scalar (.integer 2024))]⟩,
      ⟨"projected_rush_yards", .empty⟩, ⟨"game_rushing_yards_line", .empty⟩]
    splits := [.week] }

def pointsOfTwoYears : TableState :=
  { TableState.empty with
    columns := [⟨"fantasy_points",
      .ofList [(.year, .list [.integer 2023, .integer 2024])]⟩] }

theorem points_name_several :
    NamesSeveral pointsOfTwoYears ⟨"fantasy_points",
      .ofList [(.year, .list [.integer 2023, .integer 2024])]⟩ := by
  refine ⟨_, Catalog.seasonlogs, none, .year, "year", _, rfl, rfl, rfl, ?_, rfl, ?_⟩
  · rintro ⟨split, listed, _⟩
    cases listed
  · rintro ⟨_, s, same⟩
    have earlier := same (.integer 2023) (by simp)
    have later := same (.integer 2024) (by simp)
    exact absurd (earlier.trans later.symm) (by decide)

theorem read_as_they_are_pinned :
    compile .standard .usual readAsTheyAre = .ok (planOf readAsTheyAre) ∧
    boundUses .standard readAsTheyAre = .ok (usesOf readAsTheyAre) ∧
    (usesOf readAsTheyAre).table.groups.map (·.source.kind) = ["direct", "direct", "direct"] ∧
    (∀ group ∈ (usesOf readAsTheyAre).ordered, ∀ relation marketType,
      group.source = .direct relation marketType → ∃ planned,
        JoinsPinned readAsTheyAre (planOf readAsTheyAre) group relation marketType planned) ∧
    ∃ error, compile .standard .usual pointsOfTwoYears = .error error := by
  have ok : compile .standard .usual readAsTheyAre = .ok (planOf readAsTheyAre) :=
    ok_of_is_ok _ _ (by decide +kernel)
  have bound : boundUses .standard readAsTheyAre = .ok (usesOf readAsTheyAre) :=
    ok_of_is_ok _ _ (by decide +kernel)
  exact ⟨ok, bound, by decide +kernel,
    (direct_joins_pinned .standard .usual readAsTheyAre).1 _ _ ok bound,
    (direct_joins_pinned .standard .usual pointsOfTwoYears).2 _ List.mem_cons_self
      points_name_several⟩

end Plan

end StatTable
