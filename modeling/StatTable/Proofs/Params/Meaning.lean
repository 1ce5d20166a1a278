import StatTable.Proofs.Scalars.Order
import StatTable.Proofs.Words

set_option autoImplicit false

namespace StatTable

open Json (Value)

inductive SameNumber : Value → Value → Prop where
  | folded (x : Binary64) (n : Int) : x.toInt? = some n → -2 ^ 63 < n → n < 2 ^ 63 →
      SameNumber (.number (.binary x)) (.number (.integer n))

def memberNames (members : List (String × Value)) : List String := members.map Prod.fst

-- Spellings of the same value of a parameter.
inductive SameParameter : Value → Value → Prop where
  | refl (value : Value) : SameParameter value value
  | symm (value other : Value) : SameParameter value other → SameParameter other value
  | trans (value middle other : Value) : SameParameter value middle → SameParameter middle other →
      SameParameter value other
  | number (value other : Value) : SameNumber value other → SameParameter value other
  | item (before after : List Value) (value other : Value) : SameNumber value other →
      SameParameter (.array (before ++ value :: after)) (.array (before ++ other :: after))
  | order (items others : List Value) : items.Perm others →
      SameParameter (.array items) (.array others)
  | repetition (item : Value) (rest : List Value) :
      SameParameter (.array (item :: item :: rest)) (.array (item :: rest))
  | single (value : Value) : value.IsScalar → SameParameter (.array [value]) value
  | bound (before after : List (String × Value)) (name : String) (value other : Value) :
      SameNumber value other → SameParameter (.object (before ++ (name, value) :: after))
        (.object (before ++ (name, other) :: after))
  | bounds (members others : List (String × Value)) : (memberNames members).Nodup →
      members.Perm others → SameParameter (.object members) (.object others)
  | unbounded (name : String) (members : List (String × Value)) : name = "min" ∨ name = "max" →
      name ∉ memberNames members →
        SameParameter (.object ((name, .null) :: members)) (.object members)

inductive SameParameters : Value → Value → Prop where
  | refl (value : Value) : SameParameters value value
  | symm (value other : Value) : SameParameters value other → SameParameters other value
  | trans (value middle other : Value) : SameParameters value middle →
      SameParameters middle other → SameParameters value other
  | parameter (before after : List (String × Value)) (name : String) (value other : Value) :
      SameParameter value other → SameParameters (.object (before ++ (name, value) :: after))
        (.object (before ++ (name, other) :: after))
  | order (members others : List (String × Value)) : (memberNames members).Nodup →
      members.Perm others → SameParameters (.object members) (.object others)

theorem whole_finite (x : Binary64) (n : Int) (whole : x.toInt? = some n) : x.isFinite = true := by
  rw [Binary64.toInt?] at whole
  split at whole
  · rename_i parts
    exact (Bool.and_eq_true_iff.mp parts).1
  · cases whole

theorem same_number_read (value other : Value) (same : SameNumber value other) :
    Scalar.ofJson value = Scalar.ofJson other := by
  cases same with
  | folded x n whole low high =>
      have word : (Json.Number.integer n).toInt64? = some (Int64.ofInt n) := by
        rw [Json.Number.toInt64?, toWord?, if_pos (by omega)]
      have small : min n 9223372036854775807 = n := by omega
      simp only [Scalar.ofJson, Scalar.ofNumber, word]
      rw [show (Json.Number.binary x).toInt64? = none from rfl]
      simp only [Json.Number.toBinary64, whole_finite x n whole, if_true, Scalar.ofBinary64, whole]
      rw [if_pos (by omega), small]

theorem number_given (value other : Value) (same : SameNumber value other) :
    value.isNull = false ∧ other.isNull = false := by
  cases same
  exact ⟨rfl, rfl⟩

namespace ParamValue

theorem read_list_ok (items : List Value) (value : ParamValue) :
    ofJson (.array items) = .ok value ↔
      ∃ scalars, items.mapM Scalar.ofJson = some scalars ∧ ofList scalars = value := by
  simp only [ofJson, map_ok, read_elements_ok]

theorem of_list_congr (scalars others : List Scalar) (same : ∀ s, s ∈ scalars ↔ s ∈ others) :
    ofList scalars = ofList others := by
  rw [ofList, ofList, Scalar.ascending_congr scalars others same]

theorem of_list_single (s : Scalar) : ofList [s] = .scalar s := by
  rw [ofList, Scalar.ascending_of_ascends [s] (List.pairwise_singleton _ _)]

theorem read_list_congr (items others : List Value)
    (same : ∀ reading, reading ∈ items.map Scalar.ofJson ↔ reading ∈ others.map Scalar.ofJson)
    (value : ParamValue) (ok : ofJson (.array items) = .ok value) :
    ofJson (.array others) = .ok value := by
  obtain ⟨scalars, read, rfl⟩ := (read_list_ok items value).mp ok
  have each : ∀ item ∈ others, ∃ s, Scalar.ofJson item = some s := by
    intro item listed
    obtain ⟨own, ownListed, alike⟩ :=
      List.mem_map.mp ((same _).mpr (List.mem_map_of_mem (f := Scalar.ofJson) listed))
    obtain ⟨s, found⟩ := (map_m_some_iff _ _).mp ⟨scalars, read⟩ own ownListed
    exact ⟨s, alike.symm.trans found⟩
  obtain ⟨found, again⟩ := (map_m_some_iff _ _).mpr each
  refine (read_list_ok others _).mpr ⟨found, again, of_list_congr _ _ fun s => ?_⟩
  rw [map_m_mem _ _ _ read, map_m_mem _ _ _ again, ← List.mem_map, ← List.mem_map, same]

theorem read_list_iff (items others : List Value)
    (same : ∀ reading, reading ∈ items.map Scalar.ofJson ↔ reading ∈ others.map Scalar.ofJson)
    (value : ParamValue) : ofJson (.array items) = .ok value ↔ ofJson (.array others) = .ok value :=
  ⟨read_list_congr items others same value,
    read_list_congr others items (fun reading => (same reading).symm) value⟩

theorem read_scalar_ok (value : Value) (scalar : value.IsScalar) (parameter : ParamValue) :
    ofJson value = .ok parameter ↔ ∃ s, Scalar.ofJson value = some s ∧ .scalar s = parameter := by
  cases value with
  | null => cases scalar
  | array items => cases scalar
  | object members => cases scalar
  | _ =>
      simp only [ofJson]
      split
      · rename_i s read
        simp [read]
      · rename_i none
        simp [none]

theorem read_single (value : Value) (scalar : value.IsScalar) (parameter : ParamValue) :
    ofJson (.array [value]) = .ok parameter ↔ ofJson value = .ok parameter := by
  rw [read_list_ok, read_scalar_ok value scalar]
  simp only [map_m_related]
  constructor
  · rintro ⟨scalars, related, rfl⟩
    cases related with
    | cons read rest =>
        cases rest
        exact ⟨_, read, (of_list_single _).symm⟩
  · rintro ⟨s, read, rfl⟩
    exact ⟨[s], .cons read .nil, of_list_single s⟩

theorem read_bound_congr (value other : Value) (name : String)
    (same : value.given? name = other.given? name) :
    readBound name value = readBound name other := by
  rw [readBound, readBound, same]

def areBounds (members : List (String × Value)) : Prop :=
  ∀ name ∈ memberNames members, name = "min" ∨ name = "max"

theorem are_bounds_iff (members : List (String × Value)) :
    (∀ member ∈ members, member.1 = "min" ∨ member.1 = "max") ↔ areBounds members := by
  rw [areBounds, memberNames, List.forall_mem_map]

theorem read_range_iff_of_bounds (members others : List (String × Value))
    (names : areBounds members ↔ areBounds others)
    (bounds : ∀ name, readBound name (.object members) = readBound name (.object others))
    (value : ParamValue) :
    ofJson (.object members) = .ok value ↔ ofJson (.object others) = .ok value := by
  simp only [ofJson, read_range_ok, are_bounds_iff, bounds]
  exact and_congr_left fun _ => names

theorem read_bounds_perm (members others : List (String × Value))
    (distinct : (memberNames members).Nodup) (same : members.Perm others) (value : ParamValue) :
    ofJson (.object members) = .ok value ↔ ofJson (.object others) = .ok value := by
  refine read_range_iff_of_bounds members others ?_ (fun name => ?_) value
  · exact forall_congr' fun name => by rw [memberNames, (same.map Prod.fst).mem_iff, memberNames]
  · refine read_bound_congr _ _ name ?_
    rw [Value.given?, Value.given?, Value.get?, Value.get?, lookup_perm _ _ name distinct same]

theorem read_bound_replaced (before after : List (String × Value)) (own : String)
    (value other : Value) (same : SameNumber value other) (parameter : ParamValue) :
    ofJson (.object (before ++ (own, value) :: after)) = .ok parameter ↔
      ofJson (.object (before ++ (own, other) :: after)) = .ok parameter := by
  refine read_range_iff_of_bounds _ _ (by simp [areBounds, memberNames]) (fun name => ?_) parameter
  rcases lookup_replaced before after own name value other with alike | ⟨found, foundOther⟩
  · refine read_bound_congr _ _ name ?_
    rw [Value.given?, Value.given?, Value.get?, Value.get?, alike]
  · obtain ⟨given, givenOther⟩ := number_given value other same
    rw [readBound, readBound, Value.given?, Value.given?, Value.get?, Value.get?, found, foundOther]
    simp only [Option.filter_some, given, givenOther, Bool.not_false, if_true,
      same_number_read value other same]

theorem read_unbounded (name : String) (members : List (String × Value))
    (known : name = "min" ∨ name = "max") (absent : name ∉ memberNames members)
    (parameter : ParamValue) : ofJson (.object ((name, .null) :: members)) = .ok parameter ↔
      ofJson (.object members) = .ok parameter := by
  refine read_range_iff_of_bounds _ _ (by simp [areBounds, memberNames, known]) (fun other => ?_)
    parameter
  refine read_bound_congr _ _ other ?_
  rw [Value.given?, Value.given?, Value.get?, Value.get?, List.lookup_cons]
  by_cases own : other = name
  · have none : members.lookup name = none := by
      cases found : members.lookup name with
      | none => rfl
      | some value =>
          exact absurd (List.mem_map_of_mem (f := Prod.fst) (mem_of_lookup _ _ _ found)) absent
    rw [own, beq_self_eq_true, none]
    rfl
  · rw [beq_eq_false_iff_ne.mpr own]

theorem same_parameter_read (value other : Value) (same : SameParameter value other)
    (parameter : ParamValue) : ofJson value = .ok parameter ↔ ofJson other = .ok parameter := by
  induction same with
  | refl value => rfl
  | symm _ _ _ ih => exact ih.symm
  | trans _ _ _ _ _ first second => exact first.trans second
  | number value other same =>
      have read := same_number_read value other same
      cases same
      rw [read_scalar_ok _ (by trivial), read_scalar_ok _ (by trivial), read]
  | item before after value other same =>
      refine read_list_iff _ _ (fun reading => ?_) parameter
      rw [List.map_append, List.map_cons, same_number_read value other same, ← List.map_cons,
        ← List.map_append]
  | order items others same =>
      exact read_list_iff _ _ (fun reading => (same.map _).mem_iff) parameter
  | repetition item rest => exact read_list_iff _ _ (fun reading => by simp) parameter
  | single value scalar => exact read_single value scalar parameter
  | bound before after name value other same =>
      exact read_bound_replaced before after name value other same parameter
  | bounds members others distinct same =>
      exact read_bounds_perm members others distinct same parameter
  | unbounded name members known absent => exact read_unbounded name members known absent parameter

-- A list of values to choose from ascends and has none or several of them.
def IsCanonical : ParamValue → Prop
  | .list items => Scalar.IsAscending items ∧ items.length ≠ 1
  | .scalar _ | .range _ _ => True

theorem of_list_canonical (scalars : List Scalar) : (ofList scalars).IsCanonical := by
  have ascends := Scalar.ascending_ascends scalars
  rw [ofList]
  split
  · trivial
  · rename_i several
    refine ⟨ascends, fun one => ?_⟩
    obtain ⟨s, only⟩ := List.length_eq_one_iff.mp one
    exact several s only

theorem of_list_own (items : List Scalar) (canonical : (ParamValue.list items).IsCanonical) :
    ofList items = .list items := by
  rw [ofList, Scalar.ascending_of_ascends items canonical.1]
  split
  · rename_i s
    exact absurd rfl canonical.2
  · rfl

theorem of_json_canonical (value : Value) (parameter : ParamValue)
    (ok : ofJson value = .ok parameter) : parameter.IsCanonical := by
  cases value with
  | array items =>
      obtain ⟨scalars, _, rfl⟩ := (read_list_ok items parameter).mp ok
      exact of_list_canonical scalars
  | object members =>
      obtain ⟨_, min, max, _, _, _, rfl⟩ := (read_range_ok members parameter).mp ok
      trivial
  | null => cases ok
  | _ =>
      obtain ⟨s, _, rfl⟩ := (read_scalar_ok _ (by trivial) parameter).mp ok
      trivial

end ParamValue

namespace Params

theorem fold_mem (entries : List (ParamKey × ParamValue)) (params : Params) (key : ParamKey)
    (value : ParamValue) (held : (entries.foldl (fun params entry => params.insert entry.1 entry.2)
      params).get? key = some value) : (key, value) ∈ entries ∨ params.get? key = some value := by
  induction entries generalizing params with
  | nil => exact .inr held
  | cons entry rest ih =>
      rw [List.foldl_cons] at held
      rcases ih _ held with later | first
      · exact .inl (List.mem_cons_of_mem _ later)
      · by_cases own : key = entry.1
        · simp only [insert, if_pos own] at first
          rw [own, ← Option.some.inj first]
          exact .inl List.mem_cons_self
        · simp only [insert, if_neg own] at first
          exact .inr first

theorem of_json_given (members : List (String × Value)) (params : Params)
    (ok : ofJson (.object members) = .ok params) (key : ParamKey) (value : ParamValue)
    (held : params.get? key = some value) :
    ∃ given, (key.name, given) ∈ members ∧ ParamValue.ofJson given = .ok value := by
  obtain ⟨entries, related, rfl⟩ := (of_json_ok members params).mp ok
  rcases fold_mem entries empty key value held with listed | none
  · obtain ⟨⟨name, given⟩, member, read⟩ := forall_right _ _ _ related _ listed
    obtain ⟨rfl, found⟩ := (read_entry_ok _ _).mp read
    exact ⟨given, member, found⟩
  · cases none

theorem of_json_replaced (before after : List (String × Value)) (name : String)
    (value other : Value) (same : SameParameter value other) (params : Params)
    (ok : ofJson (.object (before ++ (name, value) :: after)) = .ok params) :
    ofJson (.object (before ++ (name, other) :: after)) = .ok params := by
  obtain ⟨entries, related, made⟩ := (of_json_ok _ params).mp ok
  refine (of_json_ok _ params).mpr ⟨entries, ?_, made⟩
  refine forall_replaced _ before after _ _ (fun entry read => ?_) entries related
  obtain ⟨named, found⟩ := (read_entry_ok _ entry).mp read
  exact (read_entry_ok _ entry).mpr
    ⟨named, (ParamValue.same_parameter_read value other same entry.2).mp found⟩

theorem of_json_distinct_ok (members : List (String × Value))
    (distinct : (memberNames members).Nodup) (params : Params) :
    ofJson (.object members) = .ok params ↔
      (∀ member ∈ members, ∃ key value, key.name = member.1 ∧
        ParamValue.ofJson member.2 = .ok value ∧ params.get? key = some value) ∧
      ∀ key value, params.get? key = some value →
        ∃ given, (key.name, given) ∈ members ∧ ParamValue.ofJson given = .ok value := by
  constructor
  · intro ok
    refine ⟨fun member listed => ?_, fun key value => of_json_given members params ok key value⟩
    obtain ⟨entries, related, rfl⟩ := (of_json_ok members params).mp ok
    obtain ⟨entry, entryListed, read⟩ := forall_left _ _ _ related member listed
    obtain ⟨named, found⟩ := (read_entry_ok member entry).mp read
    have apart := entries_distinct members entries related distinct
    exact ⟨entry.1, entry.2, named, found, (of_list_get entries _ _ apart).mpr entryListed⟩
  · rintro ⟨listed, given⟩
    have each : ∀ member ∈ members, ∃ entry, readEntry member = .ok entry := by
      intro member own
      obtain ⟨key, value, named, found, _⟩ := listed member own
      exact ⟨(key, value), (read_entry_ok member _).mpr ⟨named, found⟩⟩
    obtain ⟨entries, related⟩ := forall_exists _ members each
    have apart := entries_distinct members entries related distinct
    refine (of_json_ok members params).mpr ⟨entries, related, ?_⟩
    refine Params.ext fun key => Option.ext fun value => ?_
    rw [of_list_get entries key value apart]
    constructor
    · intro held
      obtain ⟨written, own, found⟩ := given key value held
      obtain ⟨entry, entryListed, read⟩ := forall_left _ _ _ related _ own
      have same : Except.ok entry = Except.ok (key, value) :=
        read.symm.trans ((read_entry_ok _ (key, value)).mpr ⟨rfl, found⟩)
      exact Except.ok.inj same ▸ entryListed
    · intro entryListed
      obtain ⟨member, own, read⟩ := forall_right _ _ _ related _ entryListed
      obtain ⟨other, held, named, found, kept⟩ := listed member own
      have same : Except.ok (key, value) = Except.ok (other, held) :=
        read.symm.trans ((read_entry_ok member (other, held)).mpr ⟨named, found⟩)
      obtain ⟨rfl, rfl⟩ := Prod.mk.inj (Except.ok.inj same)
      exact kept

theorem of_json_perm (members others : List (String × Value))
    (distinct : (memberNames members).Nodup) (same : members.Perm others) (params : Params) :
    ofJson (.object members) = .ok params ↔ ofJson (.object others) = .ok params := by
  have apart : (memberNames others).Nodup := (same.map Prod.fst).nodup_iff.mp distinct
  simp only [of_json_distinct_ok members distinct, of_json_distinct_ok others apart, same.mem_iff]

theorem same_read_alike (value other : Value) (same : SameParameters value other)
    (params : Params) : ofJson value = .ok params ↔ ofJson other = .ok params := by
  induction same with
  | refl value => rfl
  | symm _ _ _ ih => exact ih.symm
  | trans _ _ _ _ _ first second => exact first.trans second
  | parameter before after name value other same =>
      exact ⟨of_json_replaced before after name value other same params,
        of_json_replaced before after name other value (.symm _ _ same) params⟩
  | order members others distinct same =>
      exact of_json_perm members others distinct same params

def IsCanonical (params : Params) : Prop :=
  ∀ key value, params.get? key = some value → value.IsCanonical

theorem of_json_canonical (value : Value) (params : Params) (ok : ofJson value = .ok params) :
    params.IsCanonical := by
  cases value with
  | object members =>
      intro key held found
      obtain ⟨given, _, read⟩ := of_json_given members params ok key held found
      exact ParamValue.of_json_canonical given held read
  | _ => cases ok

theorem spellings_read_alike (value other : Value) (same : SameParameters value other)
    (params : Params) : (ofJson value = .ok params ↔ ofJson other = .ok params) ∧
      (ofJson value = .ok params → params.IsCanonical) :=
  ⟨same_read_alike value other same params, of_json_canonical value params⟩

-- {"week": [3, 1, 3.0], "year": 2023.0, "ydstogo": {"max": null, "min": 10}}
def looseSpelling : Value :=
  .object [("week", .array [.number (.integer 3), .number (.integer 1),
      .number (.binary (Binary64.ofInt 3))]),
    ("year", .number (.binary (Binary64.ofInt 2023))),
    ("ydstogo", .object [("max", .null), ("min", .number (.integer 10))])]

-- {"year": [2023], "week": [1, 3], "ydstogo": {"min": 10}}
def strictSpelling : Value :=
  .object [("year", .array [.number (.integer 2023)]),
    ("week", .array [.number (.integer 1), .number (.integer 3)]),
    ("ydstogo", .object [("min", .number (.integer 10))])]

theorem weeks_alike :
    SameParameter
      (.array [.number (.integer 3), .number (.integer 1), .number (.binary (Binary64.ofInt 3))])
      (.array [.number (.integer 1), .number (.integer 3)]) := by
  have folded : SameNumber (.number (.binary (Binary64.ofInt 3))) (.number (.integer 3)) :=
    .folded _ 3 (by decide +kernel) (by decide) (by decide)
  refine .trans _ _ _ (.item [.number (.integer 3), .number (.integer 1)] [] _ _ folded) ?_
  refine .trans _ _ _ (.order _ [.number (.integer 3), .number (.integer 3), .number (.integer 1)]
    (.cons _ (.swap _ _ []))) ?_
  exact .trans _ _ _ (.repetition _ _) (.order _ _ (.swap _ _ []))

theorem loose_same_strict : SameParameters looseSpelling strictSpelling := by
  have year : SameParameter (.number (.binary (Binary64.ofInt 2023)))
      (.array [.number (.integer 2023)]) :=
    .trans _ _ _ (.number _ _ (.folded _ 2023 (by decide +kernel) (by decide) (by decide)))
      (.symm _ _ (.single _ (by trivial)))
  have range : SameParameter (.object [("max", .null), ("min", .number (.integer 10))])
      (.object [("min", .number (.integer 10))]) :=
    .unbounded "max" _ (.inr rfl) (by decide)
  refine .trans _ _ _ (.parameter [] _ "week" _ _ weeks_alike) ?_
  refine .trans _ _ _ (.parameter [_] _ "year" _ _ year) ?_
  refine .trans _ _ _ (.parameter [_, _] [] "ydstogo" _ _ range) ?_
  exact .order _ _ (by decide) (.swap _ _ _)

theorem strict_spelling_read :
    ofJson strictSpelling = .ok (Params.ofList [
      (.year, .scalar (.integer 2023)), (.week, .list [.integer 1, .integer 3]),
      (.yardsToGo, .range (some (.integer 10)) none)]) := by
  have year :
      ParamValue.ofJson (.array [.number (.integer 2023)]) = .ok (.scalar (.integer 2023)) :=
    (ParamValue.read_single _ (by trivial) _).mpr rfl
  have ascends : Scalar.IsAscending [.integer 1, .integer 3] :=
    .cons (by decide) (List.pairwise_singleton _ _)
  have week : ParamValue.ofJson (.array [.number (.integer 1), .number (.integer 3)]) =
      .ok (.list [.integer 1, .integer 3]) :=
    (ParamValue.read_list_ok _ _).mpr ⟨[.integer 1, .integer 3], rfl, by
      rw [ParamValue.ofList, Scalar.ascending_of_ascends _ ascends]⟩
  exact (of_json_ok _ _).mpr ⟨_, .cons ((read_entry_ok _ (.year, _)).mpr ⟨rfl, year⟩)
    (.cons ((read_entry_ok _ (.week, _)).mpr ⟨rfl, week⟩)
      (.cons ((read_entry_ok _ (.yardsToGo, _)).mpr ⟨rfl, rfl⟩) .nil)), rfl⟩

theorem loose_spelling_read :
    ∃ params, ofJson looseSpelling = .ok params ∧ ofJson strictSpelling = .ok params ∧
      params.IsCanonical ∧ params.get? .week = some (.list [.integer 1, .integer 3]) := by
  have spelled := spellings_read_alike looseSpelling strictSpelling loose_same_strict
  have loose := (spelled _).1.mpr strict_spelling_read
  exact ⟨_, loose, strict_spelling_read, (spelled _).2 loose, by decide⟩

end Params

end StatTable
