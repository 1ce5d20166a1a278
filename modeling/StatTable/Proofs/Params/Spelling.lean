import StatTable.Proofs.Joins.Shared
import StatTable.Proofs.Params.Defaults
import StatTable.Proofs.Statements.Foreign

set_option autoImplicit false

namespace StatTable

def Catalog.relations : List Relation := Catalog.columns.filterMap fun column => column.kind.relation?

namespace Plan

inductive SpelledOut (relation : Relation) (splits : List Split) (defaults : Defaults) :
    Params → Params → Prop where
  | none (params : Params) : SpelledOut relation splits defaults params params
  | after (params middle others : Params) : SpelledOut relation splits defaults params middle →
      SpelledOut relation splits defaults middle others →
        SpelledOut relation splits defaults params others
  | year (params : Params) : params.get? .year = .none → .year ∉ splits →
      params.get? .yearOffset ≠ some (.scalar (.integer Int64.minValue)) →
        SpelledOut relation splits defaults params
          (params.insert .year (.scalar (.integer defaults.year)))
  | week (params : Params) (week : Int64) : params.get? .week = .none → .week ∉ splits →
      defaultWeek defaults relation.weekDefault = some week →
        SpelledOut relation splits defaults params (params.insert .week (.scalar (.integer week)))
  | column (params : Params) (column : ParamColumn) (field : Defaults.Field) :
      column ∈ relation.params → column.default = some field →
      params.get? column.key = .none → SpelledOut relation splits defaults params
        (params.insert column.key (.scalar (defaults.get field)))
  | moved (params : Params) (year shifted : ParamValue) (offset : Int64) :
      params.get? .year = some year →
      params.get? .yearOffset = some (.scalar (.integer offset)) → .year ∉ splits →
      (negWord? offset).bind (fun delta => year.shift? delta) = some shifted →
        SpelledOut relation splits defaults params
          ((params.insert .year shifted).erase .yearOffset)

structure WellKeyed (relation : Relation) : Prop where
  yearly : relation.yearColumn.isSome = true
  distinct : (relation.params.map (·.key)).Nodup
  own : ∀ column ∈ relation.params, column.key ∉ [.year, .yearOffset, .week, .rateType]

theorem catalog_well_keyed (relation : Relation) (known : relation ∈ Catalog.relations) :
    WellKeyed relation := by
  have each : ∀ relation ∈ Catalog.relations, relation.yearColumn.isSome = true ∧
      (relation.params.map (·.key)).Nodup ∧
      ∀ column ∈ relation.params, column.key ∉ [.year, .yearOffset, .week, .rateType] := by
    decide +kernel
  obtain ⟨yearly, distinct, own⟩ := each relation known
  exact ⟨yearly, distinct, own⟩

theorem accepts_own (relation : Relation) (keyed : WellKeyed relation) (column : ParamColumn)
    (member : column ∈ relation.params) : relation.accepts column.key = true := by
  have others := keyed.own column member
  have listed : relation.params.any (·.key == column.key) = true :=
    List.any_eq_true.mpr ⟨column, member, beq_self_eq_true _⟩
  unfold Relation.accepts
  split <;> simp_all

section

variable (relation : Relation) (splits : List Split) (defaults : Defaults) (params : Params)
variable (keyed : WellKeyed relation)

include keyed

theorem resolve_year_spelled (absent : params.get? .year = none) (unsplit : .year ∉ splits)
    (movable : params.get? .yearOffset ≠ some (.scalar (.integer Int64.minValue))) :
    resolve relation splits defaults (params.insert .year (.scalar (.integer defaults.year))) =
      resolve relation splits defaults params := by
  have kept : relation.accepts .year = true := keyed.yearly
  have keptOffset : relation.accepts .yearOffset = true := keyed.yearly
  unfold resolve
  rw [Params.filter_insert _ _ _ _ kept, with_year_spelled relation splits defaults _ keyed.yearly
    (by rw [Params.filter_kept _ _ _ kept, absent]) unsplit
    (by rw [Params.filter_kept _ _ _ keptOffset]; exact movable)]

theorem resolve_moved (year shifted : ParamValue) (offset : Int64)
    (named : params.get? .year = some year)
    (given : params.get? .yearOffset = some (.scalar (.integer offset))) (unsplit : .year ∉ splits)
    (moved : (negWord? offset).bind (fun delta => year.shift? delta) = some shifted) :
    resolve relation splits defaults ((params.insert .year shifted).erase .yearOffset) =
      resolve relation splits defaults params := by
  have kept : relation.accepts .year = true := keyed.yearly
  have keptOffset : relation.accepts .yearOffset = true := keyed.yearly
  unfold resolve
  rw [Params.filter_erase, Params.filter_insert _ _ _ _ kept,
    with_year_moved relation splits defaults _ keyed.yearly year shifted offset
      (by rw [Params.filter_kept _ _ _ kept, named])
      (by rw [Params.filter_kept _ _ _ keptOffset, given]) unsplit moved]

omit keyed in
theorem resolve_insert (key : ParamKey) (value : ParamValue) (kept : relation.accepts key = true)
    (year : key ≠ .year) (offset : key ≠ .yearOffset)
    (same : ∀ dated : Params, dated.get? key = (params.filter relation.accepts).get? key →
      relation.params.foldl (withDefault defaults)
          (withWeek relation splits defaults (dated.insert key value)) =
        relation.params.foldl (withDefault defaults) (withWeek relation splits defaults dated)) :
    resolve relation splits defaults (params.insert key value) =
      resolve relation splits defaults params := by
  unfold resolve
  rw [Params.filter_insert _ _ _ _ kept, with_year_insert relation splits defaults _ key value year
    offset]
  cases read : withYear relation splits defaults (params.filter relation.accepts) with
  | error problem => rfl
  | ok dated =>
      have held := with_year_other relation splits defaults _ dated read key year offset
      exact congrArg requireSatisfiable (same dated held)

omit keyed in
theorem resolve_week_spelled (week : Int64) (absent : params.get? .week = none)
    (unsplit : .week ∉ splits) (usual : defaultWeek defaults relation.weekDefault = some week) :
    resolve relation splits defaults (params.insert .week (.scalar (.integer week))) =
      resolve relation splits defaults params := by
  by_cases weekly : relation.weekColumn.isSome = true
  · refine resolve_insert relation splits defaults params _ _ weekly (by decide) (by decide)
      fun dated held => ?_
    rw [with_week_spelled relation splits defaults dated week weekly
      (held.trans (by rw [Params.filter_kept _ _ _ weekly, absent])) unsplit usual]
  · unfold resolve
    rw [Params.filter_insert_dropped _ _ _ _ (Bool.eq_false_iff.mpr weekly)]

theorem resolve_column_spelled (column : ParamColumn) (field : Defaults.Field)
    (member : column ∈ relation.params) (named : column.default = some field)
    (absent : params.get? column.key = none) :
    resolve relation splits defaults (params.insert column.key (.scalar (defaults.get field))) =
      resolve relation splits defaults params := by
  have others := keyed.own column member
  simp only [List.mem_cons, List.not_mem_nil, or_false, not_or] at others
  obtain ⟨year, offset, week, _⟩ := others
  have kept := accepts_own relation keyed column member
  refine resolve_insert relation splits defaults params _ _ kept year offset fun dated held => ?_
  rw [with_week_insert relation splits defaults dated _ _ week]
  refine defaults_spelled defaults relation.params _ _ _ ?_
    (usual_of_mem defaults relation.params column field keyed.distinct member named)
  rw [with_week_other relation splits defaults dated _ week, held, Params.filter_kept _ _ _ kept,
    absent]

theorem resolve_spelled_out (others : Params)
    (spelled : SpelledOut relation splits defaults params others) :
    resolve relation splits defaults others = resolve relation splits defaults params := by
  induction spelled with
  | none params => rfl
  | after params middle others _ _ first second => exact second.trans first
  | year params absent unsplit movable =>
      exact resolve_year_spelled relation splits defaults params keyed absent unsplit movable
  | week params week absent unsplit usual =>
      exact resolve_week_spelled relation splits defaults params week absent unsplit usual
  | column params column field member named absent =>
      exact resolve_column_spelled relation splits defaults params keyed column field member named
        absent
  | moved params year shifted offset named given unsplit moved =>
      exact resolve_moved relation splits defaults params keyed year shifted offset named given
        unsplit moved

theorem resolved_year_moved (resolved : Params) (year : ParamValue) (offset : Int64)
    (named : params.get? .year = some year)
    (given : params.get? .yearOffset = some (.scalar (.integer offset)))
    (ok : resolve relation splits defaults params = .ok resolved) :
    ∃ shifted, (negWord? offset).bind (fun delta => year.shift? delta) = some shifted := by
  obtain ⟨amount, shifted, read, moved, _⟩ :=
    resolved_year relation splits defaults params keyed.yearly resolved year named ok
  rw [given] at read
  obtain rfl : offset = amount := Except.ok.inj read
  exact ⟨shifted, moved⟩

end

-- Two uses of a column are bound to one group under one alias: the statement joins it once and
-- aggregates it at most once. That it is joined at all takes aliases that tell groups apart.
structure SharesGroup (bindings : Bindings) (plan : QueryPlan) (place other : Nat) : Prop where
  binding : bindings.uses[place]?.map (·.binding) = bindings.uses[other]?.map (·.binding)
  target : ∃ target, bindings.uses[place]?.bind (·.binding.target?) = some target
  join : boundJoin? bindings plan place = boundJoin? bindings plan other
  joined : AliasesApart bindings.keys → (boundJoin? bindings plan place).isSome = true
  joins : (plan.joins.map (·.aliasName)).Nodup
  stages : (plan.stages.map (·.name)).Nodup

theorem bind_of_source (defaults : Defaults) (splits : List Split) (request : Request)
    (relation : Relation) (marketType : Option String) (column : String)
    (source : directSource? request.column.kind = some (relation, marketType, column)) :
    bind defaults splits request =
      (bindDirect defaults splits request relation marketType).map fun target =>
        .direct target column := by
  unfold bind
  cases kind : request.column.kind with
  | player _ | fact _ _ =>
      rw [kind] at source
      cases source
  | materialized own name | market own type name =>
      rw [kind] at source
      cases source
      dsimp only
      cases bindDirect defaults splits request _ _ <;> rfl

theorem binds_bind (defaults : Defaults) (splits : List Split) (request : Request)
    (binding : Binding) (binds : Binds defaults splits request binding) :
    bind defaults splits request = .ok binding := by
  cases binds with
  | player source kind =>
      unfold bind
      rw [kind]
  | direct relation marketType column params kind resolved single =>
      rw [bind_of_source defaults splits request relation marketType column kind]
      unfold bindDirect
      dsimp only
      rw [resolved]
      change Except.map _ (onColumn _ (requireSingleValues _ params) >>= _) = _
      rw [single]
      rfl
  | fact relation aggregate params kind resolved =>
      unfold bind
      rw [kind]
      dsimp only
      rw [resolved]
      rfl

theorem resolve_rate_erased (relation : Relation) (splits : List Split) (defaults : Defaults)
    (params : Params) : resolve relation splits defaults (params.erase .rateType) =
      resolve relation splits defaults params := by
  refine resolve_understood relation splits defaults _ _ fun key accepted => ?_
  have other : key ≠ .rateType := by
    rintro rfl
    cases accepted
  simp [Params.erase, other]

theorem finds_alike (defaults : Defaults) (splits : List Split) (id : String) (column : Column)
    (relation : Relation) (found : Catalog.lookup id = some column)
    (read : column.kind.relation? = some relation) (params others : Params)
    (same : resolve relation (commonSplits splits relation) defaults others =
      resolve relation (commonSplits splits relation) defaults params) (one other : Request)
    (binding further : Binding) (first : Finds defaults splits ⟨id, params⟩ one binding)
    (second : Finds defaults splits ⟨id, others⟩ other further) : binding = further := by
  obtain rfl := Option.some.inj (found.symm.trans first.asks.column)
  have columns := Option.some.inj (first.asks.column.symm.trans second.asks.column)
  have congr := bind_congr defaults splits one other columns fun relation' reads => by
    rw [read] at reads
    obtain rfl := Option.some.inj reads
    rw [first.asks.others, second.asks.others, resolve_rate_erased, resolve_rate_erased, same]
  rw [binds_bind _ _ _ _ first.binds, binds_bind _ _ _ _ second.binds] at congr
  exact Except.ok.inj congr

theorem finds_target (defaults : Defaults) (splits : List Split) (spec : ColumnSpec)
    (request : Request) (binding : Binding) (finds : Finds defaults splits spec request binding)
    (column : Column) (relation : Relation) (found : Catalog.lookup spec.id = some column)
    (read : column.kind.relation? = some relation) : ∃ target, binding.target? = some target := by
  obtain rfl := Option.some.inj (found.symm.trans finds.asks.column)
  refine Option.ne_none_iff_exists'.mp fun none => ?_
  obtain ⟨source, kind⟩ := (target_none_iff _ _ _ _ finds.binds).mp none
  rw [kind] at read
  cases read

theorem uses_share (defaults : Defaults) (limits : Limits) (state : TableState)
    (bindings : Bindings) (plan : QueryPlan) (compiled : compile defaults limits state = .ok plan)
    (bound : boundUses defaults state = .ok bindings) (id : String) (column : Column)
    (relation : Relation) (found : Catalog.lookup id = some column)
    (read : column.kind.relation? = some relation) (params others : Params)
    (same : let splits := commonSplits (canonicalSplits state.splits) relation
      resolve relation splits defaults others = resolve relation splits defaults params)
    (place other : Nat) (held : state.requested[place]? = some ⟨id, params⟩)
    (again : state.requested[other]? = some ⟨id, others⟩) :
    SharesGroup bindings plan place other := by
  have uses := bound_uses defaults state bindings bound
  have whole := compiled_of_bound defaults limits state bindings plan bound compiled
  obtain ⟨use, own, first⟩ := use_at defaults state bindings uses place _ held
  obtain ⟨further, ownFurther, second⟩ := use_at defaults state bindings uses other _ again
  have alike := finds_alike defaults _ id column relation found read params others same _ _ _ _
    first second
  obtain ⟨target, reads⟩ := finds_target _ _ _ _ _ first column relation found read
  refine ⟨?_, ⟨target, ?_⟩, ?_, fun apart => ?_, joins_alias_nodup state bindings plan whole,
    stage_names_distinct state bindings plan whole⟩
  · rw [own, ownFurther, Option.map_some, Option.map_some, alike]
  · rw [own]
    exact reads
  · rw [boundJoin?, boundJoin?, own, ownFurther, Option.bind_some, Option.bind_some, alike]
  · have needed : state.needAt? defaults place = some target.need := by
      rw [TableState.needAt?, held, Option.bind_some, TableState.needFor?,
        finds_need _ _ _ _ _ first, reads]
      rfl
    obtain ⟨count, _, joined, _⟩ :=
      need_bound defaults state bindings plan whole uses apart place _ needed
    rw [joined]
    rfl

-- Spelling out what a request means anyway changes neither what it resolves to nor the error there
-- is; nor does naming the year that an offset leads to, which there is whenever resolving succeeds.
-- In a statement, the one use of a column and the other share a group.
theorem defaults_spelled_out (relation : Relation) (known : relation ∈ Catalog.relations)
    (splits : List Split) (defaults : Defaults) (params : Params) :
    (∀ others, SpelledOut relation splits defaults params others →
      resolve relation splits defaults others = resolve relation splits defaults params) ∧
    (∀ year offset resolved, params.get? .year = some year →
      params.get? .yearOffset = some (.scalar (.integer offset)) → .year ∉ splits →
      resolve relation splits defaults params = .ok resolved →
        ∃ shifted, (negWord? offset).bind (fun delta => year.shift? delta) = some shifted ∧
          resolve relation splits defaults ((params.insert .year shifted).erase .yearOffset) =
            .ok resolved) ∧
    ∀ limits state bindings plan, compile defaults limits state = .ok plan →
      boundUses defaults state = .ok bindings →
      commonSplits (canonicalSplits state.splits) relation = splits →
      ∀ id column others place other, Catalog.lookup id = some column →
        column.kind.relation? = some relation → SpelledOut relation splits defaults params others →
        state.requested[place]? = some ⟨id, params⟩ →
        state.requested[other]? = some ⟨id, others⟩ → SharesGroup bindings plan place other := by
  have keyed := catalog_well_keyed relation known
  refine ⟨resolve_spelled_out relation splits defaults params keyed, ?_, ?_⟩
  · intro year offset resolved named given unsplit ok
    obtain ⟨shifted, moved⟩ :=
      resolved_year_moved relation splits defaults params keyed resolved year offset named given ok
    refine ⟨shifted, moved, ?_⟩
    rw [resolve_moved relation splits defaults params keyed year shifted offset named given unsplit
      moved, ok]
  · rintro limits state bindings plan compiled bound rfl id column others place other found read
      spelled held again
    have same := resolve_spelled_out relation _ defaults params keyed others spelled
    exact uses_share defaults limits state bindings plan compiled bound id column relation found
      read params others same place other held again

def spelledYards : Params :=
  (Params.empty.insert .year (.scalar (.integer 2025))).insert .seasonType (.scalar (.text "REG"))

def movedYards : Params :=
  (Params.empty.insert .year (.scalar (.integer 2026))).insert .yearOffset (.scalar (.integer 1))

def yardsTwiceState : TableState :=
  { TableState.empty with columns := [⟨"rush_yards", .empty⟩, ⟨"rush_yards", spelledYards⟩] }

def yardsTwiceUses : Bindings := (boundUses .standard yardsTwiceState).toOption.getD ⟨[], []⟩

def yardsTwicePlan : QueryPlan :=
  (compile .standard .usual yardsTwiceState).toOption.getD
    ⟨[], ⟨"", none⟩, [], [], [], [], [], 0, 0⟩

theorem yards_spelled_out : SpelledOut Catalog.rusherPlays [] .standard .empty spelledYards := by
  refine .after _ (Params.empty.insert .year (.scalar (.integer 2025))) _ ?_ ?_
  · exact .year _ rfl (by decide) (by decide)
  · exact .column _ seasonTypeColumn .seasonType (by decide) rfl rfl

theorem yards_twice_share :
    resolve Catalog.rusherPlays [] .standard spelledYards =
      resolve Catalog.rusherPlays [] .standard .empty ∧
    compile .standard .usual yardsTwiceState = .ok yardsTwicePlan ∧
    boundUses .standard yardsTwiceState = .ok yardsTwiceUses ∧
    SharesGroup yardsTwiceUses yardsTwicePlan 0 1 ∧
    ∃ resolved, resolve Catalog.rusherPlays [] .standard movedYards = .ok resolved ∧
      ∃ shifted, (ParamValue.scalar (.integer 2026)).shift? (-1) = some shifted ∧
        resolve Catalog.rusherPlays [] .standard
          ((movedYards.insert .year shifted).erase .yearOffset) = .ok resolved := by
  have known : Catalog.rusherPlays ∈ Catalog.relations := by decide +kernel
  have ok : compile .standard .usual yardsTwiceState = .ok yardsTwicePlan :=
    ok_of_is_ok _ _ (by decide +kernel)
  have bound : boundUses .standard yardsTwiceState = .ok yardsTwiceUses :=
    ok_of_is_ok _ _ (by decide +kernel)
  have twice := defaults_spelled_out Catalog.rusherPlays known [] .standard .empty
  have moved := defaults_spelled_out Catalog.rusherPlays known [] .standard movedYards
  have found : Catalog.lookup "rush_yards" = some
      ((Column.fact Catalog.rusherPlays "rush_yards" "Rush Yards" (.sum "rush_yds")).withRates
        Catalog.rushRates) := by rfl
  have shared := twice.2.2 .usual yardsTwiceState _ _ ok bound rfl "rush_yards" _ spelledYards 0 1
    found rfl yards_spelled_out rfl rfl
  have resolves : resolve Catalog.rusherPlays [] .standard movedYards =
      .ok ((resolve Catalog.rusherPlays [] .standard movedYards).toOption.getD .empty) :=
    ok_of_is_ok _ _ (by decide +kernel)
  exact ⟨twice.1 spelledYards yards_spelled_out, ok, bound, shared, _, resolves,
    moved.2.1 _ 1 _ rfl rfl (by decide) resolves⟩

end Plan

end StatTable
