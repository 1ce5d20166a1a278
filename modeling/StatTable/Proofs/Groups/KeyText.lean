import StatTable.Plan.GroupKey
import StatTable.Proofs.Binary64.Order
import StatTable.Proofs.Json.Text
import StatTable.Proofs.Params.Resolution

set_option autoImplicit false

namespace StatTable

namespace Scalar

def Alike (a b : Scalar) : Prop := a.compare b = .eq

def IsFinite : Scalar → Prop
  | .binary x => x.isFinite = true
  | .bool _ | .integer _ | .text _ => True

theorem alike_iff (a b : Scalar) : a.Alike b ↔ a = b := by
  constructor
  · intro same
    rw [Alike] at same
    cases a with
    | bool x =>
        cases b with
        | bool y => rw [Std.LawfulEqOrd.eq_of_compare same]
        | integer n => cases same
        | binary y => cases same
        | text t => cases same
    | integer m =>
        cases b with
        | bool y => cases same
        | integer n => rw [Int64.toInt_inj.mp (Int.compare_eq_eq.mp same)]
        | binary y =>
            have none := (Ordering.then_eq_eq.mp same).2
            cases none
        | text t => cases same
    | binary x =>
        cases b with
        | bool y => cases same
        | integer n =>
            have none := (Ordering.then_eq_eq.mp same).2
            cases none
        | binary y => rw [Binary64.compare_eq x y same]
        | text t => cases same
    | text s =>
        cases b with
        | bool y => cases same
        | integer n => cases same
        | binary y => cases same
        | text t => rw [Std.LawfulEqOrd.eq_of_compare same]
  · rintro rfl
    rw [Alike]
    cases a with
    | bool x => exact Std.ReflOrd.compare_self
    | integer m => exact Std.ReflOrd.compare_self
    | binary x => exact Std.ReflOrd.compare_self
    | text s => exact Std.ReflOrd.compare_self

theorem to_json_injective (a b : Scalar) (same : a.toJson = b.toJson) : a = b := by
  cases a with
  | bool x =>
      cases b with
      | bool y => rw [Json.Value.bool.inj same]
      | integer n => cases same
      | binary y => cases same
      | text t => cases same
  | integer m =>
      cases b with
      | bool y => cases same
      | integer n =>
          rw [Int64.toInt_inj.mp (Json.Number.integer.inj (Json.Value.number.inj same))]
      | binary y => cases same
      | text t => cases same
  | binary x =>
      cases b with
      | bool y => cases same
      | integer n => cases same
      | binary y => rw [Json.Number.binary.inj (Json.Value.number.inj same)]
      | text t => cases same
  | text s =>
      cases b with
      | bool y => cases same
      | integer n => cases same
      | binary y => cases same
      | text t => rw [Json.Value.string.inj same]

theorem json_finite (s : Scalar) (finite : s.IsFinite) : s.toJson.IsFinite := by
  cases s with
  | bool b => trivial
  | integer n => trivial
  | binary x => exact finite
  | text t => trivial

end Scalar

namespace ParamValue

def Alike : ParamValue → ParamValue → Prop
  | .scalar a, .scalar b => a.Alike b
  | .list items, .list others => List.Forall₂ Scalar.Alike items others
  | .range min max, .range low high => Option.Rel Scalar.Alike min low ∧ Option.Rel Scalar.Alike max high
  | _, _ => False

def IsFinite : ParamValue → Prop
  | .scalar s => s.IsFinite
  | .list items => ∀ s ∈ items, s.IsFinite
  | .range min max => (∀ s ∈ min, s.IsFinite) ∧ ∀ s ∈ max, s.IsFinite

theorem items_alike_iff (items others : List Scalar) :
    List.Forall₂ Scalar.Alike items others ↔ items = others := by
  have same : Scalar.Alike = Eq := funext₂ fun a b => propext (Scalar.alike_iff a b)
  rw [same, List.forall₂_eq_eq_eq]

theorem bounds_alike_iff (bound other : Option Scalar) :
    Option.Rel Scalar.Alike bound other ↔ bound = other := by
  constructor
  · intro alike
    cases alike with
    | none => rfl
    | some same => rw [(Scalar.alike_iff _ _).mp same]
  · rintro rfl
    cases bound with
    | none => exact .none
    | some s => exact .some ((Scalar.alike_iff s s).mpr rfl)

theorem alike_iff (a b : ParamValue) : a.Alike b ↔ a = b := by
  cases a with
  | scalar s =>
      cases b with
      | scalar t => exact (Scalar.alike_iff s t).trans ⟨congrArg _, ParamValue.scalar.inj⟩
      | list others => exact ⟨False.elim, fun same => nomatch same⟩
      | range low high => exact ⟨False.elim, fun same => nomatch same⟩
  | list items =>
      cases b with
      | scalar t => exact ⟨False.elim, fun same => nomatch same⟩
      | list others => exact (items_alike_iff items others).trans ⟨congrArg _, ParamValue.list.inj⟩
      | range low high => exact ⟨False.elim, fun same => nomatch same⟩
  | range min max =>
      cases b with
      | scalar t => exact ⟨False.elim, fun same => nomatch same⟩
      | list others => exact ⟨False.elim, fun same => nomatch same⟩
      | range low high =>
          rw [Alike, bounds_alike_iff, bounds_alike_iff, ParamValue.range.injEq]

theorem bound_json_injective (bound other : Option Scalar)
    (same : boundJson bound = boundJson other) : bound = other := by
  cases bound with
  | none =>
      cases other with
      | none => rfl
      | some t => cases t <;> cases same
  | some s =>
      cases other with
      | none => cases s <;> cases same
      | some t => rw [Scalar.to_json_injective s t same]

theorem scalar_shape (s : Scalar) :
    s.toJson.shape ≠ .array ∧ s.toJson.shape ≠ .object := by
  cases s with
  | bool b => exact ⟨nofun, nofun⟩
  | integer n => exact ⟨nofun, nofun⟩
  | binary x => exact ⟨nofun, nofun⟩
  | text t => exact ⟨nofun, nofun⟩

theorem to_json_injective (a b : ParamValue) (same : a.toJson = b.toJson) : a = b := by
  have shape := congrArg Json.Value.shape same
  cases a with
  | scalar s =>
      cases b with
      | scalar t => rw [Scalar.to_json_injective s t same]
      | list others => exact absurd shape (scalar_shape s).1
      | range low high => exact absurd shape (scalar_shape s).2
  | list items =>
      cases b with
      | scalar t => exact absurd shape.symm (scalar_shape t).1
      | list others =>
          have mapped := Json.Value.array.inj same
          rw [List.map_injective_iff.mpr Scalar.to_json_injective mapped]
      | range low high => cases shape
  | range min max =>
      cases b with
      | scalar t => exact absurd shape.symm (scalar_shape t).2
      | list others => cases shape
      | range low high =>
          have members := Json.Value.object.inj same
          injection members with first rest
          injection rest with second _
          rw [bound_json_injective min low (Prod.mk.inj first).2,
            bound_json_injective max high (Prod.mk.inj second).2]

theorem items_finite (items : List Scalar) (finite : ∀ s ∈ items, s.IsFinite) :
    Json.ItemsFinite (items.map Scalar.toJson) := by
  induction items with
  | nil => trivial
  | cons s rest ih =>
      exact ⟨s.json_finite (finite s List.mem_cons_self),
        ih fun t member => finite t (List.mem_cons_of_mem _ member)⟩

theorem bound_finite (bound : Option Scalar) (finite : ∀ s ∈ bound, s.IsFinite) :
    (boundJson bound).IsFinite := by
  cases bound with
  | none => trivial
  | some s => exact s.json_finite (finite s rfl)

theorem json_finite (value : ParamValue) (finite : value.IsFinite) : value.toJson.IsFinite := by
  cases value with
  | scalar s => exact s.json_finite finite
  | list items => exact items_finite items finite
  | range min max => exact ⟨bound_finite min finite.1, bound_finite max finite.2, trivial⟩

end ParamValue

theorem key_name_injective (key other : ParamKey) (same : key.name = other.name) : key = other := by
  have parsed : ∀ key : ParamKey, ParamKey.parse key.name = .ok key := by
    intro key
    cases key with
    | year => rfl
    | week => rfl
    | seasonType => rfl
    | yearOffset => rfl
    | scoringFormat => rfl
    | source => rfl
    | rateType => rfl
    | down => rfl
    | quarter => rfl
    | yardsToGo => rfl
  have read := parsed key
  rw [same, parsed other] at read
  exact (Except.ok.inj read).symm

namespace Params

def Alike (a b : Params) : Prop :=
  ∀ key, Option.Rel ParamValue.Alike (a.get? key) (b.get? key)

def IsFinite (params : Params) : Prop :=
  ∀ key value, params.get? key = some value → value.IsFinite

theorem values_alike_iff (value other : Option ParamValue) :
    Option.Rel ParamValue.Alike value other ↔ value = other := by
  constructor
  · intro alike
    cases alike with
    | none => rfl
    | some same => rw [(ParamValue.alike_iff _ _).mp same]
  · rintro rfl
    cases value with
    | none => exact .none
    | some v => exact .some ((ParamValue.alike_iff v v).mpr rfl)

theorem alike_iff (a b : Params) : a.Alike b ↔ a = b := by
  constructor
  · intro alike
    exact Params.ext fun key => (values_alike_iff _ _).mp (alike key)
  · rintro rfl key
    exact (values_alike_iff _ _).mpr rfl

theorem to_list_injective (a b : Params) (same : a.toList = b.toList) : a = b := by
  have held : ∀ key value, a.get? key = some value ↔ b.get? key = some value := by
    intro key value
    rw [← Plan.mem_to_list, ← Plan.mem_to_list, same]
  exact Params.ext fun key => Option.ext fun value => held key value

theorem to_json_injective (a b : Params) (same : a.toJson = b.toJson) : a = b := by
  have entries : Function.Injective fun entry : ParamKey × ParamValue =>
      (entry.1.name, entry.2.toJson) := by
    rintro ⟨key, value⟩ ⟨other, image⟩ equal
    obtain ⟨names, values⟩ := Prod.mk.inj equal
    rw [key_name_injective key other names, ParamValue.to_json_injective value image values]
  exact to_list_injective a b (List.map_injective_iff.mpr entries (Json.Value.object.inj same))

theorem members_finite (entries : List (ParamKey × ParamValue))
    (finite : ∀ entry ∈ entries, entry.2.IsFinite) :
    Json.MembersFinite (entries.map fun entry => (entry.1.name, entry.2.toJson)) := by
  induction entries with
  | nil => trivial
  | cons entry rest ih =>
      exact ⟨entry.2.json_finite (finite entry List.mem_cons_self),
        ih fun other member => finite other (List.mem_cons_of_mem _ member)⟩

theorem json_finite (params : Params) (finite : params.IsFinite) : params.toJson.IsFinite := by
  apply members_finite
  rintro ⟨key, value⟩ member
  exact finite key value ((Plan.mem_to_list params key value).mp member)

theorem empty_finite : empty.IsFinite := by
  intro key value given
  cases given

theorem insert_finite (params : Params) (key : ParamKey) (value : ParamValue)
    (finite : params.IsFinite) (valueFinite : value.IsFinite) :
    (params.insert key value).IsFinite := by
  intro other held given
  change (if other = key then some value else params.get? other) = some held at given
  by_cases same : other = key
  · rw [if_pos same] at given
    exact Option.some.inj given ▸ valueFinite
  · rw [if_neg same] at given
    exact finite other held given

end Params

namespace GroupKey

structure Alike (one other : GroupKey) : Prop where
  kind : one.kind = other.kind
  relation : one.relation = other.relation
  anchor : one.anchor = other.anchor
  params : one.params.Alike other.params

theorem to_json_injective (one other : GroupKey) (same : one.toJson = other.toJson) :
    one = other := by
  cases one with
  | mk kind relation params anchor =>
      cases other with
      | mk kind' relation' params' anchor' =>
          have members := Json.Value.object.inj same
          injection members with first rest
          injection rest with second rest
          injection rest with third tail
          have kinds := Json.Value.string.inj (Prod.mk.inj first).2
          have relations := Json.Value.string.inj (Prod.mk.inj second).2
          have allParams := Params.to_json_injective _ _ (Prod.mk.inj third).2
          have anchors : anchor = anchor' := by
            cases anchor with
            | none =>
                cases anchor' with
                | none => rfl
                | some bound => cases tail
            | some bound =>
                cases anchor' with
                | none => cases tail
                | some bound' =>
                    injection tail with fourth _
                    rw [Json.Value.string.inj (Prod.mk.inj fourth).2]
          dsimp only at kinds relations allParams
          rw [kinds, relations, allParams, anchors]

theorem json_finite (key : GroupKey) (finite : key.params.IsFinite) : key.toJson.IsFinite := by
  have params := key.params.json_finite finite
  cases key with
  | mk kind relation params anchor =>
      cases anchor with
      | none => exact ⟨trivial, trivial, params, trivial⟩
      | some bound => exact ⟨trivial, trivial, params, trivial, trivial⟩

theorem alike_iff (one other : GroupKey) : one.Alike other ↔ one = other := by
  constructor
  · rintro ⟨kind, relation, anchor, params⟩
    cases one with
    | mk =>
        cases other with
        | mk =>
            rw [Params.alike_iff] at params
            dsimp only at kind relation anchor params
            rw [kind, relation, anchor, params]
  · rintro rfl
    exact ⟨rfl, rfl, rfl, (Params.alike_iff _ _).mpr rfl⟩

theorem text_iff (one other : GroupKey) (oneFinite : one.params.IsFinite)
    (otherFinite : other.params.IsFinite) : one.text = other.text ↔ one.Alike other := by
  rw [alike_iff]
  constructor
  · intro same
    exact to_json_injective one other
      (Json.text_injective _ _ (one.json_finite oneFinite) (other.json_finite otherFinite) same)
  · rintro rfl
    rfl

-- Different texts whose hashes start with the same 16 digits.
def Collision (one other : GroupKey) : Prop :=
  one.text ≠ other.text ∧
    (Digest.sha256Hex one.text).take 16 = (Digest.sha256Hex other.text).take 16

theorem alias_digits (one other : GroupKey) (same : one.aliasName = other.aliasName) :
    (Digest.sha256Hex one.text).take 16 = (Digest.sha256Hex other.text).take 16 :=
  (List.cons.inj (String.ofList_injective same)).2

theorem text_identifies_group (one other : GroupKey) (oneFinite : one.params.IsFinite)
    (otherFinite : other.params.IsFinite) :
    (one.text = other.text ↔ one.kind = other.kind ∧ one.relation = other.relation ∧
      one.anchor = other.anchor ∧ one.params.Alike other.params) ∧
    (¬ one.Alike other → one.aliasName = other.aliasName → one.Collision other) := by
  have text := text_iff one other oneFinite otherFinite
  constructor
  · rw [text]
    constructor
    · intro alike
      exact ⟨alike.kind, alike.relation, alike.anchor, alike.params⟩
    · rintro ⟨kind, relation, anchor, params⟩
      exact ⟨kind, relation, anchor, params⟩
  · intro different same
    exact ⟨fun equal => different (text.mp equal), alias_digits one other same⟩

theorem number_and_text_apart :
    let half : Binary64 := Binary64.ofDecimal false 5 (-1)
    let number : GroupKey :=
      ⟨"fact", "plays_rusher", Params.empty.insert .down (.scalar (.binary half)), none⟩
    let text : GroupKey :=
      ⟨"fact", "plays_rusher", Params.empty.insert .down (.scalar (.text "0.5")), none⟩
    number.text ≠ text.text ∧ (number.aliasName = text.aliasName → number.Collision text) := by
  intro half number text
  have numberFinite : number.params.IsFinite :=
    Params.insert_finite _ _ _ Params.empty_finite (by decide +kernel : half.isFinite = true)
  have textFinite : text.params.IsFinite := Params.insert_finite _ _ _ Params.empty_finite trivial
  have identified := text_identifies_group number text numberFinite textFinite
  have different : ¬ number.params.Alike text.params := by
    intro alike
    have values := (Params.alike_iff _ _).mp alike
    have same := congrArg (fun params => params.get? .down) values
    cases same
  exact ⟨fun same => different (identified.1.mp same).2.2.2,
    identified.2 fun alike => different alike.params⟩

end GroupKey

end StatTable
