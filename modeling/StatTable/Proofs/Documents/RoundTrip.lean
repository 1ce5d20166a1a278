import StatTable.Proofs.Documents.Reordered

set_option autoImplicit false

namespace StatTable

open Json (Value)

namespace Scalar

theorem of_binary_own (x : Binary64) :
    (∃ i, ofBinary64 x = .integer i) ∨ ofBinary64 x = .binary x := by
  rw [ofBinary64]
  split
  · split
    · exact .inl ⟨_, rfl⟩
    · exact .inr rfl
  · exact .inr rfl

theorem integer_written (i : Int64) : ofJson (toJson (.integer i)) = some (.integer i) := by
  rw [toJson, ofJson, ofNumber, Json.Number.toInt64?, word_own]

theorem binary_written (x : Binary64) (finite : x.isFinite = true)
    (own : ofBinary64 x = .binary x) : ofJson (toJson (.binary x)) = some (.binary x) := by
  change ofNumber (.binary x) = _
  rw [ofNumber, Json.Number.toInt64?]
  simp only [Json.Number.toBinary64, finite, if_true, own]

theorem written (value : Value) (s : Scalar) (read : ofJson value = some s) :
    ofJson s.toJson = some s := by
  cases s with
  | bool b => rfl
  | text content => rfl
  | integer i => exact integer_written i
  | binary x =>
      cases value with
      | number n =>
          rw [ofJson, ofNumber] at read
          split at read
          · cases read
          · split at read
            · rename_i finite
              have held := Option.some.inj read
              rcases of_binary_own n.toBinary64 with ⟨i, whole⟩ | own
              · rw [whole] at held
                cases held
              · obtain rfl := Scalar.binary.inj (own.symm.trans held)
                exact binary_written _ finite own
            · cases read
      | _ => cases read

theorem written_items (items : List Scalar) (each : ∀ s ∈ items, ofJson s.toJson = some s) :
    (items.map toJson).mapM ofJson = some items :=
  (map_m_related _ _ _).mpr
    (List.forall₂_map_left_iff.mpr (List.forall₂_same.mpr each))

theorem written_scalar (s : Scalar) : s.toJson.IsScalar := by
  cases s <;> trivial

theorem written_given (s : Scalar) : s.toJson.isNull = false := by
  cases s <;> rfl

end Scalar

namespace ParamValue

theorem bound_written (min max : Option Scalar)
    (each : ∀ bound, min = some bound ∨ max = some bound → Scalar.ofJson bound.toJson = some bound) :
    readBound "min" (toJson (.range min max)) = .ok min ∧
      readBound "max" (toJson (.range min max)) = .ok max := by
  have read (name : String) (bound : Option Scalar)
      (held : (toJson (.range min max)).get? name = some (boundJson bound))
      (own : ∀ s, bound = some s → Scalar.ofJson s.toJson = some s) :
      readBound name (toJson (.range min max)) = .ok bound := by
    rw [readBound, Value.given?, held, Option.filter_some]
    cases bound with
    | none => rfl
    | some s => simp [boundJson, Scalar.written_given, own s rfl]
  exact ⟨read "min" min rfl fun s same => each s (.inl same),
    read "max" max rfl fun s same => each s (.inr same)⟩

theorem bound_scalar (name : String) (value : Value) (s : Scalar)
    (ok : readBound name value = .ok (some s)) : Scalar.ofJson s.toJson = some s := by
  obtain ⟨-, held⟩ := (read_bound_ok name value (some s)).mp ok
  obtain ⟨member, _, read⟩ := Option.bind_eq_some_iff.mp held.symm
  exact Scalar.written member s read

theorem written (value : Value) (parameter : ParamValue) (ok : ofJson value = .ok parameter) :
    ofJson parameter.toJson = .ok parameter := by
  have single (s : Scalar) (own : Scalar.ofJson s.toJson = some s) :
      ofJson s.toJson = .ok (.scalar s) :=
    (read_scalar_ok _ s.written_scalar _).mpr ⟨s, own, rfl⟩
  cases value with
  | array items =>
      have canonical := of_json_canonical _ parameter ok
      obtain ⟨scalars, read, rfl⟩ := (read_list_ok items parameter).mp ok
      have each : ∀ s ∈ scalars, Scalar.ofJson s.toJson = some s := by
        intro s member
        obtain ⟨item, _, found⟩ := (map_m_mem _ items scalars read s).mp member
        exact Scalar.written item s found
      obtain ⟨held, shape, same⟩ := of_list_scalars scalars
      rcases shape with whole | ⟨s, only, rfl⟩
      · rw [whole] at canonical ⊢
        exact (read_list_ok _ _).mpr ⟨held, Scalar.written_items held fun s member =>
          each s ((same s).mp member), of_list_own held canonical⟩
      · rw [only]
        exact single s (each s ((same s).mp List.mem_cons_self))
  | object members =>
      obtain ⟨-, min, max, minOk, maxOk, bounded, rfl⟩ := (read_range_ok members parameter).mp ok
      obtain ⟨minAgain, maxAgain⟩ := bound_written min max (by
        rintro s (rfl | rfl)
        · exact bound_scalar _ _ s minOk
        · exact bound_scalar _ _ s maxOk)
      exact (read_range_ok _ _).mpr ⟨by simp, min, max, minAgain, maxAgain, bounded, rfl⟩
  | null => cases ok
  | _ =>
      obtain ⟨s, read, rfl⟩ := (read_scalar_ok _ (by trivial) parameter).mp ok
      exact single s (Scalar.written _ s read)

end ParamValue

namespace Params

def memberOf (entry : ParamKey × ParamValue) : String × Value := (entry.1.name, entry.2.toJson)

theorem written_names_distinct (params : Params) :
    (memberNames (params.toList.map memberOf)).Nodup := by
  have apart : ParamKey.all.Nodup := by decide
  rw [memberNames, List.map_map, List.Nodup, List.pairwise_map, Params.toList,
    List.pairwise_filterMap]
  refine apart.imp fun {key other} differ one made another others same => differ ?_
  obtain ⟨_, _, rfl⟩ := Option.map_eq_some_iff.mp made
  obtain ⟨_, _, rfl⟩ := Option.map_eq_some_iff.mp others
  exact key_name_injective key other same

theorem written (value : Value) (params : Params) (ok : ofJson value = .ok params) :
    ofJson params.toJson = .ok params := by
  have each (key : ParamKey) (held : ParamValue) (kept : params.get? key = some held) :
      ParamValue.ofJson held.toJson = .ok held := by
    cases value with
    | object members =>
        obtain ⟨given, _, read⟩ := of_json_given members params ok key held kept
        exact ParamValue.written given held read
    | _ => cases ok
  refine (of_json_distinct_ok _ params.written_names_distinct params).mpr ⟨?_, ?_⟩
  · intro member listed
    obtain ⟨⟨key, held⟩, own, rfl⟩ := List.mem_map.mp listed
    have kept := (Plan.mem_to_list params key held).mp own
    exact ⟨key, held, rfl, each key held kept, kept⟩
  · intro key held kept
    exact ⟨held.toJson, List.mem_map.mpr ⟨_, (Plan.mem_to_list params key held).mpr kept, rfl⟩,
      each key held kept⟩

end Params

namespace TableState

theorem operator_written (operator : FilterOperator) : Spells operator.text operator := by
  unfold Spells
  cases operator <;> decide +kernel

theorem count_written (count : UInt64) :
    countOfJson (.number (.integer count.toNat)) = some count := by
  have small : count.toNat < UInt64.size := count.toNat_lt_size
  rw [natural_count_ok count.toNat small]
  omega

-- Members are written in the order of their names. Names are literals: whether one precedes another
-- is decided, no lemma rewrites it.

theorem column_written (column : ColumnSpec) : columnJson column =
    .object [("column_id", .string column.id), ("params", column.params.toJson)] := by
  simp +decide only [columnJson, Value.ofMembers, Json.sortMembers, List.foldl, Json.insertMember,
    if_false]

theorem filter_written (clause : FilterClause) : filterJson clause =
    .object [("column_id", .string clause.id), ("operator", .string clause.operator.text),
      ("params", clause.params.toJson), ("value", operandJson clause.operand)] := by
  simp +decide only [filterJson, Value.ofMembers, Json.sortMembers, List.foldl, Json.insertMember,
    if_true, if_false]

theorem sort_written (clause : SortClause) : sortJson clause =
    .object [("column_id", .string clause.id),
      ("column_index", .number (.integer clause.occurrence.toNat)),
      ("desc", .bool clause.descending), ("params", clause.params.toJson)] := by
  simp +decide only [sortJson, Value.ofMembers, Json.sortMembers, List.foldl, Json.insertMember,
    if_false]

theorem state_written (state : TableState) : state.toJson =
    .object [("columns", .array (state.columns.map columnJson)), ("limit", limitJson state.limit),
      ("offset", .number (.integer state.offset.toNat)),
      ("prefix_columns", .array (state.leading.map columnJson)),
      ("sort", .array (state.sorts.map sortJson)),
      ("splits", .array (state.splits.map splitItem)),
      ("where", .array (state.filters.map filterJson))] := by
  simp +decide only [toJson, Value.ofMembers, Json.sortMembers, List.foldl, Json.insertMember,
    if_true, if_false]
  rfl

theorem reads_params_written (value : Value) (params : Params) (reads : ReadsParams value params) :
    Params.ofJson params.toJson = .ok params := by
  rcases reads with ⟨-, rfl⟩ | ⟨given, -, ok⟩
  · exact Params.written (.object []) .empty rfl
  · exact Params.written given params ok

theorem reference_written (value : Value) (column : ColumnSpec) (reads : ReadsColumn value column)
    (members : List (String × Value))
    (named : members.lookup "column_id" = some (.string column.id))
    (given : members.lookup "params" = some column.params.toJson) :
    ReadsColumn (.object members) column := by
  have valid : IsColumnId column.id := by cases reads <;> assumption
  have params : Params.ofJson column.params.toJson = .ok column.params := by
    cases reads with
    | short id _ => exact Params.written (.object []) .empty rfl
    | long _ _ _ _ params => exact reads_params_written _ _ params
  exact .long members column (.here _ _ _ ((Json.given_iff _ _ _).mpr ⟨named, nofun⟩)) valid
    (.inr ⟨_, (Json.given_iff _ _ _).mpr ⟨given, nofun⟩, params⟩)

theorem reads_column_written (value : Value) (column : ColumnSpec)
    (reads : ReadsColumn value column) : ReadsColumn (columnJson column) column := by
  rw [column_written]
  exact reference_written value column reads _ rfl rfl

theorem operand_written (shape : OperandShape) (value : Option Value) (operand : Option Operand)
    (reads : ReadsOperand shape value operand) :
    ReadsOperand shape ((some (operandJson operand)).filter (!·.isNull)) operand := by
  cases reads with
  | none => exact .none
  | scalar member s read =>
      rw [operandJson, Option.filter_some, s.written_given]
      exact .scalar _ s (Scalar.written member s read)
  | list items scalars some read =>
      have ascends := Scalar.ascending_ascends scalars
      have again := Scalar.written_items (Scalar.ascending scalars) fun s listed => by
        obtain ⟨item, _, found⟩ :=
          (map_m_mem _ _ scalars read s).mp ((mem_ascending scalars s).mp listed)
        exact Scalar.written item s found
      have own := ascending_some scalars (map_m_some _ _ scalars some read)
      have reads := ReadsOperand.list _ _ (by simpa using own) again
      rwa [Scalar.ascending_of_ascends _ ascends] at reads
  | pattern text => exact .pattern text

theorem reads_filter_written (value : Value) (clause : FilterClause)
    (reads : ReadsFilter value clause) : ReadsFilter (filterJson clause) clause := by
  rw [filter_written]
  exact {
    object := ⟨_, rfl⟩
    column := reference_written value ⟨clause.id, clause.params⟩ reads.column _ rfl rfl
    operator := ⟨_, (Json.given_iff _ _ _).mpr ⟨rfl, nofun⟩, operator_written clause.operator⟩
    operand := (read_shape_ok _ _ _).mpr
      (operand_written _ _ _ ((read_shape_ok _ _ _).mp reads.operand)) }

theorem reads_sort_written (value : Value) (clause : SortClause) (reads : ReadsSort value clause) :
    ReadsSort (sortJson clause) clause := by
  rw [sort_written]
  exact {
    object := ⟨_, rfl⟩
    column := reference_written value ⟨clause.id, clause.params⟩ reads.column _ rfl rfl
    occurrence := .inr ⟨_, .here _ _ _ rfl, count_written clause.occurrence⟩
    direction := .inr ⟨_, .here _ _ _ rfl, rfl⟩ }

theorem section_written {α : Type} (document written : Value) (name : String)
    (Rule : Value → α → Prop) (write : α → Value) (each : ∀ item a, Rule item a → Rule (write a) a)
    (results : List α)
    (reads : ∃ items, Lists document name items ∧ List.Forall₂ Rule items results)
    (held : written.get? name = some (.array (results.map write))) :
    ∃ items, Lists written name items ∧ List.Forall₂ Rule items results := by
  obtain ⟨items, -, related⟩ := reads
  refine ⟨_, .given _ ((Json.given_iff _ _ _).mpr ⟨held, nofun⟩),
    List.forall₂_map_left_iff.mpr (List.forall₂_same.mpr fun a listed => ?_)⟩
  obtain ⟨item, -, rule⟩ := forall_right _ _ _ related a listed
  exact each item a rule

theorem reads_written (limits : Limits) (document : Value) (state : TableState)
    (reads : Reads limits document state) : Reads limits state.toJson state := by
  rw [state_written]
  exact {
    object := ⟨_, rfl⟩
    leading := section_written _ _ _ _ _ reads_column_written _ reads.leading rfl
    columns := section_written _ _ _ _ _ reads_column_written _ reads.columns rfl
    filters := section_written _ _ _ _ _ reads_filter_written _ reads.filters rfl
    sorts := section_written _ _ _ _ _ reads_sort_written _ reads.sorts rfl
    splits := ⟨.given _ ((Json.given_iff _ _ _).mpr ⟨rfl, nofun⟩), reads.splits.2⟩
    offset := .inr ⟨_, (Json.given_iff _ _ _).mpr ⟨rfl, nofun⟩, count_written state.offset⟩
    limit := by
      rcases reads.limit with ⟨-, none⟩ | ⟨_, limit, -, -, positive, within, some⟩
      · rw [none]
        exact .inl ⟨rfl, rfl⟩
      · rw [some]
        exact .inr ⟨_, limit, rfl, count_written limit, positive, within, rfl⟩ }

-- Reading gives back a table state that has been read, in whichever order its members are sent.
theorem written_reads_back (limits : Limits) (document : Value) (state : TableState)
    (ok : ofJson limits document = .ok state) (again : Value)
    (sent : Reordered state.toJson again) : ofJson limits again = .ok state := by
  have reads := (of_json_reads limits document state).mp ok
  exact of_json_reordered limits state.toJson again sent state
    ((of_json_reads limits state.toJson state).mpr (reads_written limits document state reads))

def unpolishedDocument : Value :=
  .object [
    ("columns", .array [.string "player_name", .object [("id", .string "rush_yards"),
      ("params", .object [("year", .array [.number (.integer 2023)]),
        ("week", .object [("max", .null), ("min", .number (.binary (Binary64.ofInt 1)))])])]]),
    ("limit", .number (.binary (Binary64.ofInt 100))),
    ("sort", .array [.object [("column_id", .string "rush_yards"), ("desc", .string "DESC")]]),
    ("splits", .array [.string "week", .string "year"]),
    ("where", .array [.object [("column_id", .string "rush_yards"),
      ("operator", .string " is  null")]])]

theorem unpolished_document_reads_back :
    ∃ state, ofJson .usual unpolishedDocument = .ok state ∧ ofJson .usual state.toJson = .ok state ∧
      ∃ members, state.toJson = .object members ∧
        ofJson .usual (.object members.reverse) = .ok state := by
  have accepted : (ofJson .usual unpolishedDocument).isOk = true := by decide +kernel
  cases read : ofJson .usual unpolishedDocument with
  | error problems =>
      rw [read] at accepted
      cases accepted
  | ok state =>
      have back := written_reads_back .usual unpolishedDocument state read
      refine ⟨state, rfl, back _ (.same _), _, state_written state, back _ ?_⟩
      rw [state_written]
      exact Reordered.shuffled _ _ (by simp [memberNames]) (List.reverse_perm _).symm

end TableState

end StatTable
