import StatTable.Proofs.Documents.Exact
import StatTable.Proofs.Params.Meaning

set_option autoImplicit false

namespace StatTable

open Json (Value)

inductive Reordered : Value → Value → Prop where
  | same (value : Value) : Reordered value value
  | array (items others : List Value) :
      List.Forall₂ Reordered items others → Reordered (.array items) (.array others)
  | object (members others : List (String × Value)) : (memberNames members).Nodup →
      (memberNames members).Perm (memberNames others) →
      (∀ name value other, (name, value) ∈ members → (name, other) ∈ others →
        Reordered value other) → Reordered (.object members) (.object others)

theorem mem_member_names (members : List (String × Value)) (name : String) :
    name ∈ memberNames members ↔ ∃ value, (name, value) ∈ members := by
  simp [memberNames]

theorem Reordered.shuffled (members others : List (String × Value))
    (distinct : (memberNames members).Nodup) (same : members.Perm others) :
    Reordered (.object members) (.object others) := by
  refine .object members others distinct (same.map Prod.fst) fun name value other listed own => ?_
  have held := lookup_of_mem members name other distinct (same.mem_iff.mpr own)
  rw [lookup_of_mem members name value distinct listed] at held
  obtain rfl := Option.some.inj held
  exact .same value

theorem scalars_untouched {α : Type} (read : Value → α)
    (arrays : ∀ items others, read (.array items) = read (.array others))
    (objects : ∀ members others, read (.object members) = read (.object others))
    (value other : Value) (moved : Reordered value other) : read value = read other := by
  cases moved with
  | same => rfl
  | array items others _ => exact arrays items others
  | object members others _ _ _ => exact objects members others

theorem scalar_reordered (value other : Value) (moved : Reordered value other) :
    Scalar.ofJson value = Scalar.ofJson other :=
  scalars_untouched _ (fun _ _ => rfl) (fun _ _ => rfl) value other moved

theorem text_reordered (text : String) (other : Value) (moved : Reordered (.string text) other) :
    other = .string text := by
  cases moved
  rfl

theorem get_reordered (members others : List (String × Value)) (name : String)
    (moved : Reordered (.object members) (.object others)) :
    Option.Rel Reordered (members.lookup name) (others.lookup name) := by
  cases moved with
  | same =>
      cases members.lookup name with
      | none => exact .none
      | some value => exact .some (.same value)
  | object _ _ distinct names each =>
      have apart : (memberNames others).Nodup := names.nodup_iff.mp distinct
      cases held : members.lookup name with
      | some value =>
          have listed := mem_of_lookup members name value held
          obtain ⟨other, own⟩ := (mem_member_names others name).mp
            (names.mem_iff.mp ((mem_member_names members name).mpr ⟨value, listed⟩))
          rw [lookup_of_mem others name other apart own]
          exact .some (each name value other listed own)
      | none =>
          cases found : others.lookup name with
          | none => exact .none
          | some other =>
              have own := mem_of_lookup others name other found
              obtain ⟨value, listed⟩ := (mem_member_names members name).mp
                (names.mem_iff.mpr ((mem_member_names others name).mpr ⟨other, own⟩))
              rw [lookup_of_mem members name value distinct listed] at held
              cases held

theorem given_reordered (value other : Value) (name : String) (moved : Reordered value other) :
    Option.Rel Reordered (value.given? name) (other.given? name) := by
  have members : Option.Rel Reordered (value.get? name) (other.get? name) := by
    cases moved with
    | object members others distinct names each =>
        exact get_reordered members others name (.object members others distinct names each)
    | array items others _ => exact .none
    | same =>
        cases value.get? name with
        | none => exact .none
        | some member => exact .some (.same member)
  rw [Value.given?, Value.given?]
  cases held : value.get? name with
  | none =>
      rw [held] at members
      rw [related_none _ _ members]
      exact .none
  | some member =>
      rw [held] at members
      obtain ⟨another, found, own⟩ := related_some _ _ _ members
      have null := scalars_untouched Value.isNull (fun _ _ => rfl) (fun _ _ => rfl) _ _ own
      rw [found, Option.filter_some, Option.filter_some, null]
      split
      · exact .some own
      · exact .none

namespace ParamValue

theorem of_json_reordered (value other : Value) (moved : Reordered value other)
    (parameter : ParamValue) (ok : ofJson value = .ok parameter) :
    ofJson other = .ok parameter := by
  cases moved with
  | same => exact ok
  | array items others related =>
      have readings : items.map Scalar.ofJson = others.map Scalar.ofJson := by
        rw [← List.forall₂_eq_eq_eq, List.forall₂_map_left_iff, List.forall₂_map_right_iff]
        exact related.imp scalar_reordered
      exact (read_list_iff items others (fun reading => by rw [readings]) parameter).mp ok
  | object members others distinct names each =>
      have whole : Reordered (.object members) (.object others) :=
        .object members others distinct names each
      refine (read_range_iff_of_bounds members others ?_ (fun name => ?_) parameter).mp ok
      · exact forall_congr' fun name => by rw [names.mem_iff]
      · have given := given_reordered _ _ name whole
        rw [readBound, readBound]
        cases held : (Value.object members).given? name with
        | none =>
            rw [held] at given
            rw [related_none _ _ given]
        | some bound =>
            rw [held] at given
            obtain ⟨another, found, own⟩ := related_some _ _ _ given
            simp only [found, scalar_reordered _ _ own]

end ParamValue

theorem Params.of_json_reordered (value other : Value) (moved : Reordered value other)
    (params : Params) (ok : ofJson value = .ok params) : ofJson other = .ok params := by
  cases moved with
  | same => exact ok
  | array items others _ => cases ok
  | object members others distinct names each =>
      have apart : (memberNames others).Nodup := names.nodup_iff.mp distinct
      have across (name : String) : (∃ value, (name, value) ∈ members) ↔
          ∃ other, (name, other) ∈ others := by
        rw [← mem_member_names, ← mem_member_names, names.mem_iff]
      obtain ⟨listed, given⟩ := (of_json_distinct_ok members distinct params).mp ok
      refine (of_json_distinct_ok others apart params).mpr ⟨?_, ?_⟩
      · rintro ⟨name, other⟩ own
        obtain ⟨value, mine⟩ := (across name).mpr ⟨other, own⟩
        obtain ⟨key, held, named, found, kept⟩ := listed (name, value) mine
        exact ⟨key, held, named, ParamValue.of_json_reordered value other
          (each name value other mine own) held found, kept⟩
      · intro key held kept
        obtain ⟨value, mine, found⟩ := given key held kept
        obtain ⟨other, own⟩ := (across key.name).mp ⟨value, mine⟩
        exact ⟨other, own, ParamValue.of_json_reordered value other
          (each key.name value other mine own) held found⟩

namespace TableState

section

variable (value other : Value) (moved : Reordered value other)

include moved

theorem aliased_reordered (names : List String) :
    Option.Rel (fun one another => Reordered one.2 another.2) (aliased names value)
      (aliased names other) := by
  induction names with
  | nil => exact .none
  | cons name rest ih =>
      have given := given_reordered value other name moved
      rw [aliased, aliased, List.findSome?_cons, List.findSome?_cons]
      cases held : value.given? name with
      | none =>
          rw [held] at given
          rw [related_none _ _ given]
          exact ih
      | some member =>
          rw [held] at given
          obtain ⟨another, found, own⟩ := related_some _ _ _ given
          rw [found]
          exact .some own

theorem first_reordered (names : List String) (member : Value)
    (first : FirstGiven value names member) :
    ∃ another, FirstGiven other names another ∧ Reordered member another := by
  obtain ⟨name, found⟩ := (aliased_iff names value member).mp first
  have related := aliased_reordered value other moved names
  rw [found] at related
  obtain ⟨entry, again, own⟩ := related_some _ _ _ related
  exact ⟨entry.2, (aliased_iff names other _).mpr ⟨entry.1, again⟩, own⟩

theorem reads_first_reordered {α : Type} (names : List String) (read : Value → Option α)
    (usual a : α) (alike : ∀ one another, Reordered one another → read one = read another)
    (reads : ReadsFirst names read usual value a) : ReadsFirst names read usual other a := by
  rcases reads with ⟨none, rfl⟩ | ⟨member, first, found⟩
  · have related := aliased_reordered value other moved names
    rw [(none_given_iff names value).mpr none] at related
    exact .inl ⟨(none_given_iff names other).mp (related_none _ _ related), rfl⟩
  · obtain ⟨another, again, own⟩ := first_reordered value other moved names member first
    exact .inr ⟨another, again, (alike member another own).symm.trans found⟩

theorem given_none_reordered (name : String) (none : value.given? name = none) :
    other.given? name = .none :=
  related_none _ _ (none ▸ given_reordered value other name moved)

theorem given_some_reordered (name : String) (member : Value)
    (found : value.given? name = some member) :
    ∃ another, other.given? name = some another ∧ Reordered member another :=
  related_some _ _ _ (found ▸ given_reordered value other name moved)

theorem given_rule_reordered (name : String) (Rule : Value → Prop) (absent : Prop)
    (alike : ∀ one another, Reordered one another → Rule one → Rule another)
    (rule : (value.given? name = none ∧ absent) ∨
      ∃ member, value.given? name = some member ∧ Rule member) :
    (other.given? name = none ∧ absent) ∨
      ∃ member, other.given? name = some member ∧ Rule member := by
  rcases rule with ⟨none, holds⟩ | ⟨member, found, holds⟩
  · exact .inl ⟨given_none_reordered value other moved name none, holds⟩
  · obtain ⟨another, again, own⟩ := given_some_reordered value other moved name member found
    exact .inr ⟨another, again, alike member another own holds⟩

theorem object_reordered (object : ∃ members, value = .object members) :
    ∃ members, other = .object members := by
  obtain ⟨members, rfl⟩ := object
  cases moved with
  | same => exact ⟨members, rfl⟩
  | object _ others _ _ _ => exact ⟨others, rfl⟩

theorem reads_column_reordered (column : ColumnSpec) (reads : ReadsColumn value column) :
    ReadsColumn other column := by
  cases reads with
  | short id valid =>
      rw [text_reordered id other moved]
      exact .short id valid
  | long members _ first valid params =>
      obtain ⟨others, rfl⟩ := object_reordered _ other moved ⟨members, rfl⟩
      obtain ⟨another, again, own⟩ := first_reordered _ _ moved idNames _ first
      rw [text_reordered _ another own] at again
      exact .long others column again valid (given_rule_reordered _ _ moved "params" _ _
        (fun one another own => Params.of_json_reordered one another own column.params) params)

theorem lists_reordered (name : String) (items : List Value) (lists : Lists value name items) :
    ∃ others, Lists other name others ∧ List.Forall₂ Reordered items others := by
  cases lists with
  | absent none => exact ⟨[], .absent (given_none_reordered value other moved name none), .nil⟩
  | given _ found =>
      obtain ⟨another, again, own⟩ := given_some_reordered value other moved name _ found
      cases own with
      | same => exact ⟨items, .given items again, List.forall₂_same.mpr fun item _ => .same item⟩
      | array _ others related => exact ⟨others, .given others again, related⟩

theorem section_reordered {α : Type} (name : String) (Rule : Value → α → Prop)
    (alike : ∀ one another, Reordered one another → ∀ a, Rule one a → Rule another a)
    (results : List α)
    (reads : ∃ items, Lists value name items ∧ List.Forall₂ Rule items results) :
    ∃ items, Lists other name items ∧ List.Forall₂ Rule items results := by
  obtain ⟨items, lists, related⟩ := reads
  obtain ⟨others, again, own⟩ := lists_reordered value other moved name items lists
  refine ⟨others, again, ?_⟩
  clear lists again
  induction related generalizing others with
  | nil =>
      cases own
      exact .nil
  | cons first _ ih =>
      cases own with
      | cons head tail => exact .cons (alike _ _ head _ first) (ih _ tail)

end

theorem shape_reordered (shape : OperandShape) (value other : Option Value)
    (moved : Option.Rel Reordered value other) : readShape shape value = readShape shape other := by
  cases moved with
  | none => rfl
  | some own =>
      cases own with
      | same => rfl
      | object members others _ _ _ => cases shape <;> rfl
      | array items others related =>
          have readings : items.mapM Scalar.ofJson = others.mapM Scalar.ofJson := by
            induction related with
            | nil => rfl
            | cons first _ ih => rw [List.mapM_cons, List.mapM_cons, ih, scalar_reordered _ _ first]
          cases shape with
          | list =>
              cases related with
              | nil => rfl
              | cons _ _ => simp only [readShape, readings]
          | _ => rfl

theorem reads_filter_reordered (value other : Value) (moved : Reordered value other)
    (clause : FilterClause) (reads : ReadsFilter value clause) : ReadsFilter other clause := by
  obtain ⟨object, column, ⟨text, given, spells⟩, operand⟩ := reads
  obtain ⟨another, again, own⟩ := given_some_reordered value other moved "operator" _ given
  rw [text_reordered text another own] at again
  refine ⟨object_reordered value other moved object,
    reads_column_reordered value other moved _ column, ⟨text, again, spells⟩, ?_⟩
  rw [← shape_reordered _ _ _ (given_reordered value other "value" moved)]
  exact operand

theorem reads_sort_reordered (value other : Value) (moved : Reordered value other)
    (clause : SortClause) (reads : ReadsSort value clause) : ReadsSort other clause where
  object := object_reordered value other moved reads.object
  column := reads_column_reordered value other moved _ reads.column
  occurrence := reads_first_reordered value other moved _ _ _ _
    (scalars_untouched _ (fun _ _ => rfl) fun _ _ => rfl) reads.occurrence
  direction := reads_first_reordered value other moved _ _ _ _
    (scalars_untouched _ (fun _ _ => rfl) fun _ _ => rfl) reads.direction

theorem splits_reordered (splits : List Split) (others : List Value)
    (moved : List.Forall₂ Reordered (splits.map splitItem) others) :
    others = splits.map splitItem := by
  induction splits generalizing others with
  | nil =>
      cases moved
      rfl
  | cons split rest ih =>
      cases moved with
      | cons first further => rw [text_reordered _ _ first, ih _ further]; rfl

theorem reads_reordered (limits : Limits) (document other : Value)
    (moved : Reordered document other) (state : TableState) (reads : Reads limits document state) :
    Reads limits other state where
  object := object_reordered document other moved reads.object
  leading := section_reordered _ _ moved _ _ reads_column_reordered _ reads.leading
  columns := section_reordered _ _ moved _ _ reads_column_reordered _ reads.columns
  filters := section_reordered _ _ moved _ _ reads_filter_reordered _ reads.filters
  sorts := section_reordered _ _ moved _ _ reads_sort_reordered _ reads.sorts
  splits := by
    obtain ⟨others, lists, related⟩ := lists_reordered _ _ moved _ _ reads.splits.1
    exact ⟨splits_reordered _ _ related ▸ lists, reads.splits.2⟩
  offset := given_rule_reordered _ _ moved _ _ _ (fun one another own =>
    (scalars_untouched countOfJson (fun _ _ => rfl) (fun _ _ => rfl) one another own ▸ ·))
    reads.offset
  limit := by
    have rule := given_rule_reordered _ _ moved "limit" (fun member => ∃ limit,
      countOfJson member = some limit ∧ limit ≠ 0 ∧ ¬ limits.maximum < limit ∧
        state.limit = some limit) (state.limit = none) (fun one another own =>
      (scalars_untouched countOfJson (fun _ _ => rfl) (fun _ _ => rfl) one another own ▸ ·))
    simp only [← exists_and_left] at rule
    exact rule reads.limit

theorem of_json_reordered (limits : Limits) (document other : Value)
    (moved : Reordered document other) (state : TableState)
    (ok : ofJson limits document = .ok state) : ofJson limits other = .ok state :=
  (of_json_reads limits other state).mpr (reads_reordered limits document other moved state
    ((of_json_reads limits document state).mp ok))

end TableState

end StatTable
