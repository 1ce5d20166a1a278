import StatTable.Proofs.Documents.Schema
import StatTable.Proofs.Groups.KeyText
import StatTable.Proofs.Players.Clauses

set_option autoImplicit false

namespace StatTable

open Json (Value)

theorem mem_drop_repeats (scalars : List Scalar) (s : Scalar) :
    s ∈ Scalar.dropRepeats scalars ↔ s ∈ scalars := by
  fun_induction Scalar.dropRepeats scalars with
  | case1 => rfl
  | case2 a => rfl
  | case3 a rest ih =>
      rw [ih]
      simp
  | case4 a b rest differs ih => rw [List.mem_cons, ih, ← List.mem_cons]

theorem mem_ascending (scalars : List Scalar) (s : Scalar) :
    s ∈ Scalar.ascending scalars ↔ s ∈ scalars := by
  rw [Scalar.ascending, mem_drop_repeats, Scalar.sort, List.mem_mergeSort]

theorem scalars_iff (items : List Value) (standard : Json.ItemsStandard items) :
    (∃ scalars, items.mapM Scalar.ofJson = some scalars) ↔ ∀ item ∈ items, item.IsScalar := by
  rw [map_m_some_iff]
  exact forall₂_congr fun item listed =>
    Json.scalar_iff item ((Json.items_standard_iff items).mp standard item listed)

namespace ParamValue

theorem read_elements_ok (index : Nat) (items : List Value) (scalars : List Scalar) :
    readElements index items = .ok scalars ↔ items.mapM Scalar.ofJson = some scalars := by
  induction items generalizing index scalars with
  | nil => simp [readElements]
  | cons item rest ih =>
      rw [readElements, List.mapM_cons]
      cases read : Scalar.ofJson item with
      | none => simp
      | some s =>
          cases others : rest.mapM Scalar.ofJson with
          | none =>
              cases further : readElements (index + 1) rest with
              | ok found =>
                  have known := (ih (index + 1) found).mp further
                  rw [others] at known
                  cases known
              | error problem => simp [Except.map]
          | some found =>
              rw [(ih (index + 1) found).mpr others]
              simp [Except.map]

theorem of_list_scalars (scalars : List Scalar) : ∃ held,
    (ofList scalars = .list held ∨ ∃ s, ofList scalars = .scalar s ∧ held = [s]) ∧
      ∀ s, s ∈ held ↔ s ∈ scalars := by
  refine ⟨Scalar.ascending scalars, ?_, mem_ascending scalars⟩
  rw [ofList]
  split
  · rename_i s only
    exact .inr ⟨s, rfl, only⟩
  · exact .inl rfl

theorem read_bound_ok (name : String) (value : Value) (bound : Option Scalar) :
    readBound name value = .ok bound ↔
      TableState.Optionally value name (fun member => ∃ s, Scalar.ofJson member = some s) ∧
        bound = (value.given? name).bind Scalar.ofJson := by
  rw [readBound, TableState.Optionally]
  cases held : value.given? name with
  | none => simp [eq_comm]
  | some member =>
      cases read : Scalar.ofJson member with
      | none => simp [read]
      | some s => simp [read, eq_comm]

theorem bound_names (members : List (String × Value)) :
    members.find? (fun member => !isBoundName member.1) = none ↔
      ∀ member ∈ members, member.1 = "min" ∨ member.1 = "max" := by
  simp [List.find?_eq_none, isBoundName, or_iff_not_imp_left]

theorem read_range_ok (members : List (String × Value)) (value : ParamValue) :
    readRange members = .ok value ↔ (∀ member ∈ members, member.1 = "min" ∨ member.1 = "max") ∧
      ∃ min max, readBound "min" (.object members) = .ok min ∧
        readBound "max" (.object members) = .ok max ∧ (min.isSome ∨ max.isSome) ∧
          value = .range min max := by
  rw [readRange, ← bound_names]
  cases strange : members.find? fun member => !isBoundName member.1 with
  | some member => simp
  | none =>
      simp only [true_and, bind_ok]
      refine exists_congr fun min => ?_
      constructor
      · rintro ⟨minOk, max, maxOk, ok⟩
        refine ⟨max, minOk, maxOk, ?_⟩
        cases min <;> cases max <;> simp_all
      · rintro ⟨max, minOk, maxOk, given, rfl⟩
        refine ⟨minOk, max, maxOk, ?_⟩
        cases min <;> cases max <;> simp_all

theorem bound_given (members : List (String × Value))
    (names : ∀ member ∈ members, member.1 = "min" ∨ member.1 = "max") :
    (∃ name bound, Value.given? name (.object members) = some bound) ↔
      (∃ bound, Value.given? "min" (.object members) = some bound) ∨
        ∃ bound, Value.given? "max" (.object members) = some bound := by
  constructor
  · rintro ⟨name, bound, given⟩
    have held := ((Json.given_iff _ _ _).mp given).1
    cases names _ (mem_of_lookup members name bound held) with
    | inl same => exact .inl ⟨bound, same ▸ given⟩
    | inr same => exact .inr ⟨bound, same ▸ given⟩
  · rintro (⟨bound, given⟩ | ⟨bound, given⟩)
    · exact ⟨"min", bound, given⟩
    · exact ⟨"max", bound, given⟩

theorem optionally_scalar (value : Value) (standard : value.IsStandard) (name : String) :
    TableState.Optionally value name (fun member => ∃ s, Scalar.ofJson member = some s) ↔
      TableState.Optionally value name Value.IsScalar :=
  forall₂_congr fun member given =>
    Json.scalar_iff member (Json.standard_given value member name standard given)

theorem read_range_iff (members : List (String × Value))
    (standard : (Value.object members).IsStandard) :
    (∃ value, readRange members = .ok value) ↔ TableState.IsParameter (.object members) := by
  simp only [read_range_ok, read_bound_ok, optionally_scalar _ standard]
  constructor
  · rintro ⟨value, names, min, max, ⟨minRule, rfl⟩, ⟨maxRule, rfl⟩, given, -⟩
    refine .range members names minRule maxRule ((bound_given members names).mpr ?_)
    cases given with
    | inl some =>
        obtain ⟨bound, held, -⟩ := Option.bind_eq_some_iff.mp (Option.eq_some_of_isSome some)
        exact .inl ⟨bound, held⟩
    | inr some =>
        obtain ⟨bound, held, -⟩ := Option.bind_eq_some_iff.mp (Option.eq_some_of_isSome some)
        exact .inr ⟨bound, held⟩
  · intro rule
    cases rule with
    | single _ scalar => cases scalar
    | range _ names minRule maxRule given =>
        refine ⟨_, names, _, _, ⟨minRule, rfl⟩, ⟨maxRule, rfl⟩, ?_, rfl⟩
        have read (name : String) (rule : TableState.Optionally (.object members) name Value.IsScalar)
            (given : ∃ bound, Value.given? name (.object members) = some bound) :
            ((Value.given? name (.object members)).bind Scalar.ofJson).isSome = true := by
          obtain ⟨bound, held⟩ := given
          obtain ⟨s, found⟩ := (optionally_scalar _ standard name).mpr rule bound held
          rw [held, Option.bind_some, found]
          rfl
        cases (bound_given members names).mp given with
        | inl min => exact .inl (read "min" minRule min)
        | inr max => exact .inr (read "max" maxRule max)

theorem parameter_iff (value : Value) (standard : value.IsStandard) :
    (∃ parameter, ofJson value = .ok parameter) ↔ TableState.IsParameter value := by
  cases value with
  | array items =>
      rw [Value.IsStandard] at standard
      simp only [ofJson, map_ok, read_elements_ok]
      constructor
      · rintro ⟨_, scalars, read, -⟩
        exact .choice items ((scalars_iff items standard).mp ⟨scalars, read⟩)
      · intro rule
        cases rule with
        | single _ scalar => cases scalar
        | choice _ each =>
            obtain ⟨scalars, read⟩ := (scalars_iff items standard).mpr each
            exact ⟨_, scalars, read, rfl⟩
  | object members => exact read_range_iff members standard
  | null =>
      constructor
      · rintro ⟨_, ok⟩
        cases ok
      · intro rule
        cases rule with
        | single _ scalar => cases scalar
  | bool b => exact ⟨fun _ => .single _ trivial, fun _ => ⟨_, rfl⟩⟩
  | string s => exact ⟨fun _ => .single _ trivial, fun _ => ⟨_, rfl⟩⟩
  | number n =>
      rw [Value.IsStandard] at standard
      obtain ⟨s, read⟩ := Json.number_scalar n standard
      refine ⟨fun _ => .single _ trivial, fun _ => ⟨.scalar s, ?_⟩⟩
      simp only [ofJson, Scalar.ofJson, read]

theorem single_tells (value : Value) (parameter : ParamValue)
    (ok : (match Scalar.ofJson value with
      | some s => (.ok (.scalar s) : Except Problem ParamValue)
      | none => .error .shape) = .ok parameter) : TableState.TellsParameter value parameter := by
  split at ok
  · rename_i s read
    rw [← Except.ok.inj ok]
    exact .single value s read
  · cases ok

theorem of_json_tells (value : Value) (parameter : ParamValue) (ok : ofJson value = .ok parameter) :
    TableState.TellsParameter value parameter := by
  cases value with
  | array items =>
      obtain ⟨scalars, read, rfl⟩ := (map_ok _ _ _).mp ok
      obtain ⟨held, shape, same⟩ := of_list_scalars scalars
      refine .choice items _ held shape fun s => ?_
      rw [same, map_m_mem _ items scalars ((read_elements_ok 0 items scalars).mp read)]
  | object members =>
      obtain ⟨-, min, max, minOk, maxOk, -, rfl⟩ := (read_range_ok members parameter).mp ok
      rw [((read_bound_ok _ _ _).mp minOk).2, ((read_bound_ok _ _ _).mp maxOk).2]
      exact .range members
  | null => exact single_tells _ parameter ok
  | bool b => exact single_tells _ parameter ok
  | string s => exact single_tells _ parameter ok
  | number n => exact single_tells _ parameter ok

end ParamValue

theorem parameter_name_iff (name : String) :
    name ∈ TableState.parameterNames ↔ ∃ key : ParamKey, key.name = name := by
  constructor
  · intro listed
    have known : TableState.parameterNames = ParamKey.all.map ParamKey.name := by decide
    rw [known] at listed
    obtain ⟨key, -, same⟩ := List.mem_map.mp listed
    exact ⟨key, same⟩
  · rintro ⟨key, rfl⟩
    cases key <;> decide

theorem parse_key_ok (name : String) (key : ParamKey) :
    ParamKey.parse name = .ok key ↔ key.name = name := by
  rw [ParamKey.parse]
  constructor
  · intro ok
    split at ok
    · rename_i found hit
      have named := List.find?_some hit
      rw [← Except.ok.inj ok]
      exact beq_iff_eq.mp named
    · cases ok
  · rintro rfl
    cases key <;> rfl

namespace Params

theorem read_entry_ok (member : String × Value) (entry : ParamKey × ParamValue) :
    readEntry member = .ok entry ↔
      entry.1.name = member.1 ∧ ParamValue.ofJson member.2 = .ok entry.2 := by
  rw [readEntry, ← parse_key_ok]
  cases ParamKey.parse member.1 with
  | error unknown => simp
  | ok key =>
      cases ParamValue.ofJson member.2 with
      | error problem => simp
      | ok value => simp [Prod.ext_iff]

theorem entries_read {α : Type} (read : α → Except Problem (ParamKey × ParamValue)) (items : List α)
    (entries : List (ParamKey × ParamValue)) :
    (items.map read).filterMap problemOf = [] ∧
        (items.map read).filterMap (·.toOption) = entries ↔
      List.Forall₂ (fun item entry => read item = .ok entry) items entries := by
  induction items generalizing entries with
  | nil =>
      constructor
      · rintro ⟨-, rfl⟩
        exact .nil
      · intro related
        cases related
        exact ⟨rfl, rfl⟩
  | cons item rest ih =>
      rw [List.map_cons]
      cases first : read item with
      | error problem =>
          constructor
          · rintro ⟨none, -⟩
            cases none
          · intro related
            cases related with
            | cons ok _ =>
                rw [first] at ok
                cases ok
      | ok entry =>
          constructor
          · rintro ⟨none, rfl⟩
            exact .cons first ((ih _).mp ⟨none, rfl⟩)
          · intro related
            cases related with
            | cons ok others =>
                rw [first] at ok
                obtain ⟨none, rfl⟩ := (ih _).mpr others
                rw [← Except.ok.inj ok]
                exact ⟨none, rfl⟩

theorem of_json_ok (members : List (String × Value)) (params : Params) :
    ofJson (.object members) = .ok params ↔ ∃ entries,
      List.Forall₂ (fun member entry => readEntry member = .ok entry) members entries ∧
        params = ofList entries := by
  simp only [← entries_read, ofJson]
  split
  · rename_i none
    simp [none, eq_comm]
  · rename_i problems some
    constructor
    · intro ok
      cases ok
    · rintro ⟨entries, ⟨none, -⟩, -⟩
      exact absurd none some

theorem fold_get (entries : List (ParamKey × ParamValue)) (params : Params) (key : ParamKey)
    (value : ParamValue) (distinct : (entries.map Prod.fst).Nodup) :
    (entries.foldl (fun params entry => params.insert entry.1 entry.2) params).get? key = some value ↔
      (key, value) ∈ entries ∨ (∀ other, (key, other) ∉ entries) ∧ params.get? key = some value := by
  induction entries generalizing params with
  | nil => simp
  | cons entry rest ih =>
      obtain ⟨name, held⟩ := entry
      rw [List.map_cons, List.nodup_cons] at distinct
      rw [List.foldl_cons, ih _ distinct.2, insert]
      have fresh : ∀ other, (name, other) ∉ rest := fun other member =>
        distinct.1 (List.mem_map.mpr ⟨_, member, rfl⟩)
      by_cases same : key = name
      · subst same
        simp [fresh, eq_comm]
      · simp [same]

theorem of_list_get (entries : List (ParamKey × ParamValue)) (key : ParamKey) (value : ParamValue)
    (distinct : (entries.map Prod.fst).Nodup) :
    (ofList entries).get? key = some value ↔ (key, value) ∈ entries := by
  rw [ofList, fold_get entries empty key value distinct]
  simp [empty]

theorem entries_distinct (members : List (String × Value)) (entries : List (ParamKey × ParamValue))
    (related : List.Forall₂ (fun member entry => readEntry member = .ok entry) members entries)
    (apart : (members.map Prod.fst).Nodup) : (entries.map Prod.fst).Nodup := by
  have names : List.Forall₂ (· = ·) (members.map Prod.fst) (entries.map fun entry => entry.1.name) :=
    List.forall₂_map_left_iff.mpr (List.forall₂_map_right_iff.mpr
      (related.imp fun member entry read => ((read_entry_ok member entry).mp read).1.symm))
  rw [List.forall₂_eq_eq_eq] at names
  refine List.Nodup.of_map ParamKey.name ?_
  rw [List.map_map]
  exact names ▸ apart

theorem of_json_iff (value : Value) (standard : value.IsStandard) :
    (∃ params, ofJson value = .ok params) ↔ TableState.IsParameters value := by
  cases value with
  | object members =>
      rw [Value.IsStandard] at standard
      simp only [of_json_ok, TableState.IsParameters]
      constructor
      · rintro ⟨_, entries, related, -⟩ member listed
        obtain ⟨entry, -, read⟩ := forall_left _ _ _ related member listed
        obtain ⟨named, found⟩ := (read_entry_ok member entry).mp read
        exact ⟨(parameter_name_iff _).mpr ⟨_, named⟩, (ParamValue.parameter_iff _
          ((Json.members_standard_iff members).mp standard.2 member listed)).mp ⟨_, found⟩⟩
      · intro rules
        have each : ∀ member ∈ members, ∃ entry, readEntry member = .ok entry := by
          intro member listed
          obtain ⟨known, rule⟩ := rules member listed
          obtain ⟨key, named⟩ := (parameter_name_iff _).mp known
          obtain ⟨held, read⟩ := (ParamValue.parameter_iff _
            ((Json.members_standard_iff members).mp standard.2 member listed)).mpr rule
          exact ⟨(key, held), (read_entry_ok member _).mpr ⟨named, read⟩⟩
        obtain ⟨entries, related⟩ := forall_exists _ members each
        exact ⟨_, entries, related, rfl⟩
  | _ => simp [ofJson, TableState.IsParameters]

theorem of_json_tells (members : List (String × Value))
    (standard : (Value.object members).IsStandard) (params : Params)
    (ok : ofJson (.object members) = .ok params) :
    TableState.TellsParameters (some (.object members)) params := by
  obtain ⟨entries, related, rfl⟩ := (of_json_ok members params).mp ok
  rw [Value.IsStandard] at standard
  have distinct := entries_distinct members entries related standard.1
  intro key
  cases held : (ofList entries).get? key with
  | none =>
      refine .inl ⟨rfl, fun given listed => ?_⟩
      obtain ⟨entry, entryListed, read⟩ := forall_left _ _ _ related _ listed
      have own : entry.1 = key := key_name_injective _ _ ((read_entry_ok _ entry).mp read).1
      have found := (of_list_get entries key entry.2 distinct).mpr (own ▸ entryListed)
      rw [held] at found
      cases found
  | some value =>
      obtain ⟨⟨name, given⟩, listed, read⟩ :=
        forall_right _ _ _ related _ ((of_list_get entries key value distinct).mp held)
      obtain ⟨rfl, found⟩ := (read_entry_ok _ _).mp read
      exact .inr ⟨given, value, listed, rfl, ParamValue.of_json_tells given value found⟩

end Params

end StatTable
