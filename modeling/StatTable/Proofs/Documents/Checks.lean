import StatTable.Proofs.Documents.Schema
import StatTable.Proofs.Players.Clauses

set_option autoImplicit false

namespace StatTable.TableState

open Json (Value)

namespace Checked

variable {α β : Type}

def Passes (part : Checked α) : Prop := ∃ a, part = .ok a

theorem passes_ok (a : α) : Passes (.ok a) := ⟨a, rfl⟩

theorem not_passes_error (problems : List Problem) : ¬ Passes (.error problems : Checked α) := by
  rintro ⟨a, same⟩
  cases same

theorem passes_map (part : Checked α) (f : α → β) : Passes (part.map f) ↔ Passes part := by
  cases part with
  | ok a => exact ⟨fun _ => passes_ok a, fun _ => passes_ok (f a)⟩
  | error problems =>
      exact ⟨fun passes => absurd passes (not_passes_error problems),
        fun passes => absurd passes (not_passes_error problems)⟩

theorem passes_both (first : Checked α) (second : Checked β) :
    Passes (both first second) ↔ Passes first ∧ Passes second := by
  constructor
  · rintro ⟨⟨a, b⟩, ok⟩
    obtain ⟨firstOk, secondOk⟩ := both_ok first second a b ok
    exact ⟨⟨a, firstOk⟩, ⟨b, secondOk⟩⟩
  · rintro ⟨⟨a, rfl⟩, ⟨b, rfl⟩⟩
    exact passes_ok (a, b)

theorem passes_bind (part : Checked α) (next : α → Checked β) :
    Passes (part >>= next) ↔ ∃ a, part = .ok a ∧ Passes (next a) := by
  constructor
  · rintro ⟨b, ok⟩
    obtain ⟨a, first, second⟩ := (bind_ok _ _ _).mp ok
    exact ⟨a, first, b, second⟩
  · rintro ⟨a, rfl, passes⟩
    exact passes

theorem passes_all (parts : List (Checked α)) : Passes (all parts) ↔ ∀ part ∈ parts, Passes part := by
  induction parts with
  | nil => exact ⟨fun _ part member => absurd member List.not_mem_nil, fun _ => passes_ok []⟩
  | cons part rest ih => rw [all, passes_map, passes_both, ih, List.forall_mem_cons]

theorem all_related {γ : Type} (read : γ → Checked α) (items : List γ) (results : List α)
    (ok : all (items.map read) = .ok results) :
    List.Forall₂ (fun item result => read item = .ok result) items results := by
  induction items generalizing results with
  | nil =>
      obtain rfl := Except.ok.inj ok
      exact .nil
  | cons item rest ih =>
      obtain ⟨⟨first, others⟩, together, rfl⟩ := (map_ok _ _ _).mp ok
      obtain ⟨firstOk, othersOk⟩ := both_ok _ _ _ _ together
      exact .cons firstOk (ih others othersOk)

end Checked

open Checked

def placedItems (name : String) (items : List Value) : List (Path × Value) :=
  items.zipIdx.map fun (item, i) => (Path.index [.field name] i, item)

theorem placed_items_values (name : String) (items : List Value) :
    (placedItems name items).map Prod.snd = items := by
  rw [placedItems, List.map_map]
  exact List.zipIdx_map_fst 0 items

theorem section_items_ok (document : Value) (name : String) (placed : List (Path × Value)) :
    sectionItems document name = .ok placed ↔
      ∃ items, Lists document name items ∧ placed = placedItems name items := by
  unfold sectionItems
  cases held : document.given? name with
  | none =>
      constructor
      · intro ok
        exact ⟨[], .absent held, (Except.ok.inj ok).symm⟩
      · rintro ⟨items, lists, rfl⟩
        cases lists with
        | absent _ => rfl
        | given _ found =>
            rw [held] at found
            cases found
  | some value =>
      cases value with
      | array values =>
          constructor
          · intro ok
            exact ⟨values, .given values held, (Except.ok.inj ok).symm⟩
          · rintro ⟨items, lists, rfl⟩
            cases lists with
            | absent none =>
                rw [held] at none
                cases none
            | given _ found =>
                rw [held] at found
                cases found
                rfl
      | _ =>
          constructor
          · intro ok
            cases ok
          · rintro ⟨items, lists, rfl⟩
            cases lists with
            | absent none =>
                rw [held] at none
                cases none
            | given _ found =>
                rw [held] at found
                cases found

theorem lists_standard (document : Value) (standard : document.IsStandard) (name : String)
    (items : List Value) (lists : Lists document name items) : ∀ item ∈ items, item.IsStandard := by
  intro item listed
  cases lists with
  | absent _ => cases listed
  | given _ found =>
      have array := Json.standard_given document _ name standard found
      rw [Value.IsStandard] at array
      exact (Json.items_standard_iff items).mp array item listed

section

variable {α : Type} (document : Value) (standard : document.IsStandard) (name : String)
variable (read : Path → Value → Checked α)

include standard

theorem section_passes (Rule : Value → Prop)
    (each : ∀ path item, item.IsStandard → (Passes (read path item) ↔ Rule item)) :
    Passes (readSection document name read) ↔
      ∃ items, Lists document name items ∧ ∀ item ∈ items, Rule item := by
  rw [readSection, passes_bind]
  constructor
  · rintro ⟨placed, found, passes⟩
    obtain ⟨items, lists, rfl⟩ := (section_items_ok document name placed).mp found
    refine ⟨items, lists, fun item listed => ?_⟩
    rw [← placed_items_values name items] at listed
    obtain ⟨⟨path, value⟩, member, rfl⟩ := List.mem_map.mp listed
    have passed := (passes_all _).mp passes (read path value) (List.mem_map.mpr ⟨_, member, rfl⟩)
    refine (each path value ?_).mp passed
    exact lists_standard document standard name items lists value
      (placed_items_values name items ▸ List.mem_map_of_mem member)
  · rintro ⟨items, lists, rules⟩
    refine ⟨_, (section_items_ok document name _).mpr ⟨items, lists, rfl⟩, (passes_all _).mpr ?_⟩
    intro part listed
    obtain ⟨⟨path, value⟩, member, rfl⟩ := List.mem_map.mp listed
    have own : value ∈ items := placed_items_values name items ▸ List.mem_map_of_mem member
    exact (each path value (lists_standard document standard name items lists value own)).mpr
      (rules value own)

theorem section_tells (Tells : Value → α → Prop)
    (each : ∀ path item a, item.IsStandard → read path item = .ok a → Tells item a)
    (results : List α) (ok : readSection document name read = .ok results) :
    ∃ items, Lists document name items ∧ List.Forall₂ Tells items results := by
  obtain ⟨placed, found, ok⟩ := (bind_ok _ _ _).mp ok
  obtain ⟨items, lists, rfl⟩ := (section_items_ok document name placed).mp found
  refine ⟨items, lists, ?_⟩
  have related := all_related (fun entry : Path × Value => read entry.1 entry.2) _ results ok
  have each_standard : ∀ entry ∈ placedItems name items, entry.2.IsStandard := fun entry member =>
    lists_standard document standard name items lists entry.2
      (placed_items_values name items ▸ List.mem_map_of_mem member)
  have told : List.Forall₂ Tells ((placedItems name items).map Prod.snd) results :=
    List.forall₂_map_left_iff.mpr
      (((List.forall₂_and_left _ _).mpr ⟨each_standard, related⟩).imp fun entry a both =>
        each entry.1 entry.2 a both.1 both.2)
  rwa [placed_items_values] at told

end

end StatTable.TableState
