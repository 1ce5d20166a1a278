import StatTable.Proofs.Binary64.Rounding
import StatTable.Proofs.Documents.Clauses

set_option autoImplicit false

namespace StatTable.TableState

open Json (Value)
open Checked

def IsWordCount (count : Nat) : Prop := count ≤ UInt64.size

theorem denotes_unique (value : Value) (i j : Int) (one : value.Denotes i) (other : value.Denotes j) :
    i = j := by
  cases value with
  | number n =>
      cases n with
      | integer n => exact one.symm.trans other
      | binary x => exact Option.some.inj (one.symm.trans other)
  | _ => cases one

theorem held_count_iff (n : Nat) (count : UInt64) :
    UInt64.ofNat (min n (UInt64.size - 1)) = count ↔ count.toNat = min n (UInt64.size - 1) := by
  have small : min n (UInt64.size - 1) < UInt64.size :=
    Nat.lt_of_le_of_lt (Nat.min_le_right _ _) (by decide)
  rw [← UInt64.toNat_inj, UInt64.toNat_ofNat_of_lt' small, eq_comm]

theorem binary_count_ok (x : Binary64) (count : UInt64) :
    countOfJson (.number (.binary x)) = some count ↔
      ∃ n : Nat, x.toInt? = some (n : Int) ∧ IsWordCount n ∧
        count.toNat = min n (UInt64.size - 1) := by
  simp only [countOfJson, Json.Number.toUInt64?, Json.Number.toBinary64, IsWordCount]
  cases x.toInt? with
  | none => simp
  | some i =>
      dsimp only
      split
      · rename_i bounds
        rw [Option.some.injEq, held_count_iff]
        constructor
        · intro held
          exact ⟨i.toNat, by rw [Int.toNat_of_nonneg bounds.1], by omega, held⟩
        · rintro ⟨n, same, -, held⟩
          rwa [Option.some.inj same, Int.toNat_natCast]
      · rename_i outside
        constructor
        · intro none
          cases none
        · rintro ⟨n, same, small, -⟩
          rw [Option.some.inj same] at outside
          exact absurd ⟨Int.natCast_nonneg n, Int.ofNat_le.mpr small⟩ outside

theorem natural_count_ok (n : Nat) (small : n < UInt64.size) (count : UInt64) :
    countOfJson (.number (.integer n)) = some count ↔ count.toNat = min n (UInt64.size - 1) := by
  have word : (Json.Number.integer (n : Int)).toUInt64? = some (UInt64.ofNat n) := by
    rw [Json.Number.toUInt64?, if_pos ⟨Int.natCast_nonneg n, Int.ofNat_lt.mpr small⟩,
      Int.toNat_natCast]
  have own : min n (UInt64.size - 1) = n := Nat.min_eq_left (Nat.le_pred_of_lt small)
  rw [countOfJson, word]
  change some (UInt64.ofNat n) = some count ↔ _
  rw [Option.some.injEq, ← held_count_iff, own]

theorem negative_count (i : Int) (negative : i < 0) : countOfJson (.number (.integer i)) = none := by
  have word : (Json.Number.integer i).toUInt64? = none :=
    if_neg fun bounds => absurd bounds.1 (Int.not_le.mpr negative)
  rw [countOfJson, word]
  cases read : (Json.Number.integer i).toBinary64.toInt? with
  | none => rfl
  | some whole =>
      have below := Binary64.of_int_negative i whole negative read
      exact if_neg fun bounds => absurd bounds.1 (Int.not_le.mpr below)

theorem integer_count_ok (i : Int) (standard : i < 2 ^ 64) (count : UInt64) :
    countOfJson (.number (.integer i)) = some count ↔
      ∃ n : Nat, i = n ∧ IsWordCount n ∧ count.toNat = min n (UInt64.size - 1) := by
  by_cases natural : 0 ≤ i
  · obtain ⟨n, rfl⟩ := Int.eq_ofNat_of_zero_le natural
    have bound : ((UInt64.size : Nat) : Int) = 2 ^ 64 := by norm_num [UInt64.size]
    have small : n < UInt64.size := Int.ofNat_lt.mp (bound ▸ standard)
    rw [natural_count_ok n small]
    constructor
    · intro held
      exact ⟨n, rfl, small.le, held⟩
    · rintro ⟨m, same, -, held⟩
      rwa [Int.ofNat.inj same]
  · rw [negative_count i (by omega)]
    constructor
    · intro none
      cases none
    · rintro ⟨n, rfl, -⟩
      exact absurd (Int.natCast_nonneg n) natural

theorem count_ok (value : Value) (standard : value.IsStandard) (count : UInt64) :
    countOfJson value = some count ↔
      ∃ n : Nat, value.Denotes n ∧ IsWordCount n ∧ count.toNat = min n (UInt64.size - 1) := by
  cases value with
  | number n =>
      cases n with
      | binary x => exact binary_count_ok x count
      | integer i =>
          rw [Value.IsStandard] at standard
          exact integer_count_ok i standard.2 count
  | _ => simp [countOfJson, Value.Denotes]

theorem count_some_iff (value : Value) (standard : value.IsStandard) :
    (∃ count, countOfJson value = some count) ↔ IsCount IsWordCount value := by
  simp only [count_ok value standard]
  constructor
  · rintro ⟨_, n, denotes, word, -⟩
    exact ⟨n, denotes, word⟩
  · rintro ⟨n, denotes, word⟩
    exact ⟨UInt64.ofNat (min n (UInt64.size - 1)), n, denotes, word, (held_count_iff n _).mp rfl⟩

theorem count_tells (value : Value) (standard : value.IsStandard) (count : UInt64)
    (ok : countOfJson value = some count) (n : Nat) (denotes : value.Denotes n)
    (small : n < UInt64.size) : count.toNat = n := by
  obtain ⟨m, same, -, held⟩ := (count_ok value standard count).mp ok
  obtain rfl := Int.ofNat.inj (denotes_unique value _ _ same denotes)
  rw [held]
  exact Nat.min_eq_left (Nat.le_pred_of_lt small)

theorem direction_ok (value : Value) (descending : Bool) :
    directionOfJson value = some descending ↔ Descends value descending := by
  cases value with
  | string s =>
      simp only [directionOfJson, Descends]
      generalize s.toLower = lower
      constructor
      · intro ok
        split at ok
        · rw [← Option.some.inj ok]
          simpa using ‹_›
        · split at ok
          · rw [← Option.some.inj ok]
            simpa using ‹_›
          · cases ok
      · intro listed
        cases descending with
        | true => rw [if_pos (by simpa using listed)]
        | false =>
            have other : ¬ (lower = "desc" ∨ lower = "true" ∨ lower = "1") := by
              rintro (rfl | rfl | rfl) <;> simp at listed
            rw [if_neg other, if_pos (by simpa using listed)]
  | number n =>
      cases n with
      | binary x => simp [directionOfJson, Descends]
      | integer i =>
          simp only [directionOfJson, Descends]
          split <;> cases descending <;> simp_all
  | _ => simp [directionOfJson, Descends]

theorem first_given_standard (names : List String) (value member : Value)
    (standard : value.IsStandard) (first : FirstGiven value names member) : member.IsStandard := by
  induction first with
  | here name _ member given => exact Json.standard_given value member name standard given
  | later _ _ _ _ _ ih => exact ih

theorem first_given_rule (names : List String) (value held : Value) (name : String)
    (found : aliased names value = some (name, held)) (Rule : Value → Prop) :
    (∀ member, FirstGiven value names member → Rule member) ↔ Rule held := by
  constructor
  · intro rule
    exact rule held ((aliased_iff names value held).mpr ⟨name, found⟩)
  · intro rule member first
    rwa [first_given_eq names value held member name found first]

theorem no_rule (names : List String) (value : Value) (found : aliased names value = none)
    (Rule : Value → Prop) : ∀ member, FirstGiven value names member → Rule member :=
  fun member first => absurd first ((none_given_iff names value).mp found member)

theorem read_occurrence_passes (path : Path) (value : Value) (standard : value.IsStandard) :
    Passes (readOccurrence path value) ↔
      ∀ member, FirstGiven value occurrenceNames member → IsCount IsWordCount member := by
  rw [readOccurrence]
  cases found : aliased ["column_index", "occurrence", "occurrence_index"] value with
  | none => exact iff_of_true (passes_ok 0) (no_rule occurrenceNames value found _)
  | some entry =>
      obtain ⟨name, member⟩ := entry
      have own := first_given_standard occurrenceNames value member standard
        ((aliased_iff _ _ _).mpr ⟨name, found⟩)
      rw [first_given_rule occurrenceNames value member name found, ← count_some_iff member own]
      dsimp only
      cases countOfJson member with
      | none => simp [refuse, not_passes_error]
      | some count => simp [passes_ok]

theorem read_direction_passes (path : Path) (value : Value) :
    Passes (readDirection path value) ↔
      ∀ member, FirstGiven value directionNames member → ∃ descending, Descends member descending := by
  rw [readDirection]
  cases found : aliased ["desc", "descending"] value with
  | none => exact iff_of_true (passes_ok false) (no_rule directionNames value found _)
  | some entry =>
      obtain ⟨name, member⟩ := entry
      rw [first_given_rule directionNames value member name found]
      simp only [← direction_ok]
      cases directionOfJson member with
      | none => simp [refuse, not_passes_error]
      | some descending => simp [passes_ok]

theorem read_sort_passes (path : Path) (value : Value) (standard : value.IsStandard) :
    Passes (readSort path value) ↔ IsSort IsWordCount value := by
  cases value with
  | object members =>
      rw [readSort, passes_map, passes_both, passes_both, read_column_passes path _ standard,
        read_occurrence_passes path _ standard, read_direction_passes, IsSort]
      exact (and_iff_right ⟨members, rfl⟩).symm
  | _ => simp [readSort, refuse, not_passes_error, IsSort]

theorem read_occurrence_tells (path : Path) (value : Value) (standard : value.IsStandard)
    (count : UInt64) (ok : readOccurrence path value = .ok count) :
    (∀ member (n : Nat), FirstGiven value occurrenceNames member → member.Denotes n →
        n < UInt64.size → count.toNat = n) ∧
      ((∀ member, ¬ FirstGiven value occurrenceNames member) → count = 0) := by
  rw [readOccurrence] at ok
  cases found : aliased ["column_index", "occurrence", "occurrence_index"] value with
  | none =>
      rw [found] at ok
      have none := (none_given_iff occurrenceNames value).mp found
      exact ⟨fun member _ first => absurd first (none member), fun _ => (Except.ok.inj ok).symm⟩
  | some entry =>
      obtain ⟨name, held⟩ := entry
      rw [found] at ok
      have first : FirstGiven value occurrenceNames held := (aliased_iff _ _ _).mpr ⟨name, found⟩
      refine ⟨fun member n other denotes small => ?_, fun none => absurd first (none held)⟩
      obtain rfl := first_given_eq occurrenceNames value held member name found other
      dsimp only at ok
      split at ok
      · rename_i read
        rw [← Except.ok.inj ok]
        exact count_tells member (first_given_standard _ value member standard first) _ read n
          denotes
          small
      · cases ok

theorem read_direction_tells (path : Path) (value : Value) (descending : Bool)
    (ok : readDirection path value = .ok descending) :
    (∀ member, FirstGiven value directionNames member → Descends member descending) ∧
      ((∀ member, ¬ FirstGiven value directionNames member) → descending = false) := by
  rw [readDirection] at ok
  cases found : aliased ["desc", "descending"] value with
  | none =>
      rw [found] at ok
      have none := (none_given_iff directionNames value).mp found
      exact ⟨fun member first => absurd first (none member), fun _ => (Except.ok.inj ok).symm⟩
  | some entry =>
      obtain ⟨name, held⟩ := entry
      rw [found] at ok
      have first : FirstGiven value directionNames held := (aliased_iff _ _ _).mpr ⟨name, found⟩
      refine ⟨fun member other => ?_, fun none => absurd first (none held)⟩
      obtain rfl := first_given_eq directionNames value held member name found other
      dsimp only at ok
      split at ok
      · rename_i read
        rw [← Except.ok.inj ok]
        exact (direction_ok member _).mp read
      · cases ok

theorem read_sort_tells (path : Path) (value : Value) (clause : SortClause)
    (standard : value.IsStandard) (ok : readSort path value = .ok clause) :
    TellsSort value clause := by
  cases value with
  | object members =>
      obtain ⟨⟨column, occurrence, descending⟩, together, rfl⟩ := (map_ok _ _ _).mp ok
      obtain ⟨columnOk, rest⟩ := both_ok _ _ _ _ together
      obtain ⟨occurrenceOk, directionOk⟩ := both_ok _ _ _ _ rest
      obtain ⟨counted, first⟩ := read_occurrence_tells path _ standard _ occurrenceOk
      obtain ⟨directed, ascending⟩ := read_direction_tells path _ _ directionOk
      exact ⟨read_column_tells path _ standard column columnOk, counted, first, directed, ascending⟩
  | _ => cases ok

end StatTable.TableState
