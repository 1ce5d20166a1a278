import StatTable.Proofs.Documents.Orders
import StatTable.Proofs.Json.Reading

set_option autoImplicit false

namespace StatTable.TableState

open Json (Value)
open Checked

theorem split_ok (item : Value) (split : Split) :
    splitOfJson item = .ok split ↔ item = splitItem split := by
  cases item with
  | string text =>
      simp only [splitOfJson, splitItem, Value.string.injEq]
      rw [Split.parse]
      constructor
      · intro ok
        split at ok
        · rename_i found read
          split at read
          · rename_i known hit
            have named := List.find?_some hit
            rw [← Except.ok.inj ok, ← Except.ok.inj read]
            exact (beq_iff_eq.mp named).symm
          · cases read
        · cases ok
      · rintro rfl
        cases split <;> rfl
  | _ => simp [splitOfJson, splitItem]

theorem collect_splits_ok (placed : List (Path × Value)) (done splits : List Split)
    (distinct : done.Nodup) : collectSplits done placed = (splits, []) ↔
      ∃ further, placed.map Prod.snd = further.map splitItem ∧ splits = done ++ further ∧
        splits.Nodup := by
  -- Reading goes on past a bad item; without one the items that are left name distinct splits that
  -- were not read before.
  induction placed generalizing done with
  | nil =>
      rw [collectSplits, Prod.mk.injEq]
      constructor
      · rintro ⟨rfl, -⟩
        exact ⟨[], rfl, (List.append_nil _).symm, distinct⟩
      · rintro ⟨further, none, rfl, -⟩
        rw [List.map_eq_nil_iff.mp none.symm, List.append_nil]
        exact ⟨rfl, rfl⟩
  | cons entry rest ih =>
      obtain ⟨path, item⟩ := entry
      rw [collectSplits, List.map_cons]
      have first (further : List Split) :
          item :: rest.map Prod.snd = further.map splitItem ↔ ∃ split others,
            further = split :: others ∧ splitOfJson item = .ok split ∧
              rest.map Prod.snd = others.map splitItem := by
        cases further <;> simp [split_ok]
      simp only [first]
      cases read : splitOfJson item with
      | error cause => simp
      | ok split =>
          dsimp only
          split
          · rename_i repeated
            constructor
            · intro ok
              cases (Prod.mk.inj ok).2
            · rintro ⟨_, ⟨other, others, rfl, same, -⟩, rfl, apart⟩
              rw [← Except.ok.inj same] at apart
              exact (List.disjoint_of_nodup_append apart repeated List.mem_cons_self).elim
          · rename_i fresh
            rw [ih (done ++ [split]) (List.nodup_append_comm.mp (distinct.cons fresh))]
            constructor
            · rintro ⟨others, same, rfl, apart⟩
              exact ⟨split :: others, ⟨split, others, rfl, rfl, same⟩, by simp, apart⟩
            · rintro ⟨_, ⟨other, others, rfl, own, same⟩, rfl, apart⟩
              obtain rfl := Except.ok.inj own
              exact ⟨others, same, by simp, apart⟩

theorem read_splits_ok (document : Value) (splits : List Split) :
    readSplits document = .ok splits ↔ Lists document "splits" (splits.map splitItem) ∧
      splits.Nodup ∧ (.week ∈ splits → .year ∈ splits) := by
  rw [readSplits, bind_ok]
  simp only [section_items_ok]
  constructor
  · rintro ⟨_, ⟨items, lists, rfl⟩, ok⟩
    cases read : collectSplits [] (placedItems "splits" items) with
    | mk found problems =>
        rw [read] at ok
        dsimp only at ok
        split at ok
        · rename_i none
          obtain ⟨rfl, whole⟩ := List.append_eq_nil_iff.mp none
          obtain rfl := Except.ok.inj ok
          obtain ⟨further, same, rfl, distinct⟩ :=
            (collect_splits_ok _ [] found List.nodup_nil).mp read
          rw [placed_items_values] at same
          refine ⟨same ▸ lists, distinct, fun week => ?_⟩
          by_contra orphan
          rw [if_pos ⟨week, orphan⟩] at whole
          cases whole
        · cases ok
  · rintro ⟨lists, distinct, together⟩
    refine ⟨_, ⟨_, lists, rfl⟩, ?_⟩
    have read := (collect_splits_ok (placedItems "splits" (splits.map splitItem)) [] splits
      List.nodup_nil).mpr ⟨splits, placed_items_values _ _, rfl, distinct⟩
    rw [read]
    dsimp only
    rw [if_neg fun orphan => orphan.2 (together orphan.1)]
    rfl

theorem read_offset_passes (document : Value) (standard : document.IsStandard) :
    Passes (readOffset document) ↔ Optionally document "offset" (IsCount IsWordCount) := by
  rw [readOffset, Optionally]
  cases held : document.given? "offset" with
  | none => simp [passes_ok]
  | some member =>
      have own := Json.standard_given document member "offset" standard held
      simp only [Option.some.injEq, forall_eq', ← count_some_iff member own]
      cases countOfJson member with
      | none => simp [refuse, not_passes_error]
      | some count => simp [passes_ok]

theorem read_offset_tells (document : Value) (standard : document.IsStandard) (offset : UInt64)
    (ok : readOffset document = .ok offset) :
    (∀ member (count : Nat), document.given? "offset" = some member → member.Denotes count →
        count < UInt64.size → offset.toNat = count) ∧
      (document.given? "offset" = none → offset = 0) := by
  rw [readOffset] at ok
  cases held : document.given? "offset" with
  | none =>
      rw [held] at ok
      simp [(Except.ok.inj ok).symm]
  | some member =>
      have own := Json.standard_given document member "offset" standard held
      rw [held] at ok
      dsimp only at ok
      split at ok
      · rename_i count read
        rw [← Except.ok.inj ok]
        refine ⟨fun other n same => ?_, fun none => by cases none⟩
        obtain rfl := Option.some.inj same
        exact count_tells member own count read n
      · cases ok

-- The limit that a word is too small for is read as the largest one that fits.
def LimitFits (limits : Limits) (document : Value) : Prop :=
  limits.maximum.toNat = UInt64.size - 1 →
    ∀ member, document.given? "limit" = some member → ¬ member.Denotes UInt64.size

def IsLimit (limits : Limits) : Value → Prop :=
  IsCount fun count => 1 ≤ count ∧ count ≤ limits.maximum.toNat

theorem limit_iff (limits : Limits) (member : Value) (standard : member.IsStandard)
    (fits : limits.maximum.toNat = UInt64.size - 1 → ¬ member.Denotes UInt64.size) :
    (∃ limit, countOfJson member = some limit ∧ limit ≠ 0 ∧ ¬ limits.maximum < limit) ↔
      IsLimit limits member := by
  have bound : limits.maximum.toNat < UInt64.size := limits.maximum.toNat_lt_size
  simp only [count_ok member standard]
  constructor
  · rintro ⟨limit, ⟨n, denotes, word, held⟩, positive, within⟩
    have nonzero : limit.toNat ≠ 0 := fun zero => positive (UInt64.toNat_inj.mp zero)
    have most : limit.toNat ≤ limits.maximum.toNat := Nat.le_of_not_lt within
    have word : n ≤ UInt64.size := word
    have small : n ≠ UInt64.size := by
      rintro rfl
      exact fits (by omega) denotes
    exact ⟨n, denotes, by omega, by omega⟩
  · rintro ⟨n, denotes, positive, within⟩
    have same : (UInt64.ofNat n).toNat = n := UInt64.toNat_ofNat_of_lt' (by omega)
    refine ⟨UInt64.ofNat n, ⟨n, denotes, (within.trans_lt bound).le, by omega⟩, fun zero => ?_, ?_⟩
    · rw [zero] at same
      exact absurd same.symm (Nat.ne_of_gt positive)
    · rw [UInt64.lt_iff_toNat_lt, same]
      exact Nat.not_lt.mpr within

theorem read_limit_passes (limits : Limits) (document : Value) (standard : document.IsStandard)
    (fits : LimitFits limits document) :
    Passes (readLimit limits document) ↔ Optionally document "limit" (IsLimit limits) := by
  rw [readLimit, Optionally]
  cases held : document.given? "limit" with
  | none => simp [passes_ok]
  | some member =>
      have own := Json.standard_given document member "limit" standard held
      simp only [Option.some.injEq, forall_eq']
      rw [← limit_iff limits member own fun largest => fits largest member held]
      cases countOfJson member with
      | none => simp [refuse, not_passes_error]
      | some limit =>
          simp only [Option.some.injEq, exists_eq_left']
          split
          · simp_all [refuse, not_passes_error]
          · split <;> simp_all [refuse, not_passes_error, passes_ok]

theorem read_limit_tells (limits : Limits) (document : Value) (standard : document.IsStandard)
    (limit : Option UInt64) (ok : readLimit limits document = .ok limit) :
    (∀ member (count : Nat), document.given? "limit" = some member → member.Denotes count →
        count < UInt64.size → limit.map UInt64.toNat = some count) ∧
      (document.given? "limit" = none → limit = none) := by
  rw [readLimit] at ok
  cases held : document.given? "limit" with
  | none =>
      rw [held] at ok
      simp [(Except.ok.inj ok).symm]
  | some member =>
      have own := Json.standard_given document member "limit" standard held
      refine ⟨fun other n same denotes small => ?_, fun none => by cases none⟩
      obtain rfl := Option.some.inj same
      rw [held] at ok
      dsimp only at ok
      split at ok
      · cases ok
      · rename_i count read
        split at ok
        · cases ok
        · split at ok
          · cases ok
          · rw [← Except.ok.inj ok, Option.map_some,
              count_tells member own count read n denotes small]

theorem of_json_accepts (limits : Limits) (document : Value) (standard : document.IsStandard)
    (fits : LimitFits limits document) :
    Passes (ofJson limits document) ↔ Conforms IsWordCount limits document := by
  cases document with
  | object members =>
      simp only [ofJson, passes_map, passes_both,
        section_passes _ standard _ _ _ fun path item own => read_column_passes path item own,
        section_passes _ standard _ _ _ fun path item own => read_filter_passes path item own,
        section_passes _ standard _ _ _ fun path item own => read_sort_passes path item own,
        read_offset_passes _ standard, read_limit_passes limits _ standard fits]
      have split : Passes (readSplits (.object members)) ↔ ∃ splits : List Split,
          Lists (.object members) "splits" (splits.map splitItem) ∧ splits.Nodup ∧
            (.week ∈ splits → .year ∈ splits) :=
        exists_congr fun splits => read_splits_ok _ splits
      rw [split]
      constructor
      · rintro ⟨leading, columns, filters, sorts, splits, offset, limit⟩
        exact ⟨⟨members, rfl⟩, leading, columns, filters, sorts, splits, offset, limit⟩
      · rintro ⟨-, leading, columns, filters, sorts, splits, offset, limit⟩
        exact ⟨leading, columns, filters, sorts, splits, offset, limit⟩
  | _ =>
      refine iff_of_false (not_passes_error _) fun conforms => ?_
      obtain ⟨_, same⟩ := conforms.object
      cases same

theorem text_accepted_iff (limits : Limits) (text : String) (document : Value)
    (read : Json.read text = some document) (fits : LimitFits limits document) :
    Passes (ofJson limits document) ↔ Conforms IsWordCount limits document :=
  of_json_accepts limits document (Json.read_standard text document read) fits

theorem of_json_tells (limits : Limits) (document : Value) (standard : document.IsStandard)
    (state : TableState) (ok : ofJson limits document = .ok state) : Tells document state := by
  cases document with
  | object members =>
      obtain ⟨⟨leading, columns, filters, sorts, splits, offset, limit⟩, parts, rfl⟩ :=
        (map_ok _ _ _).mp ok
      obtain ⟨leadingOk, parts⟩ := both_ok _ _ _ _ parts
      obtain ⟨columnsOk, parts⟩ := both_ok _ _ _ _ parts
      obtain ⟨filtersOk, parts⟩ := both_ok _ _ _ _ parts
      obtain ⟨sortsOk, parts⟩ := both_ok _ _ _ _ parts
      obtain ⟨splitsOk, parts⟩ := both_ok _ _ _ _ parts
      obtain ⟨offsetOk, limitOk⟩ := both_ok _ _ _ _ parts
      obtain ⟨counted, start⟩ := read_offset_tells _ standard offset offsetOk
      obtain ⟨bounded, unlimited⟩ := read_limit_tells limits _ standard limit limitOk
      exact {
        leading := section_tells _ standard _ _ _ (fun path item column own =>
          read_column_tells path item own column) leading leadingOk
        columns := section_tells _ standard _ _ _ (fun path item column own =>
          read_column_tells path item own column) columns columnsOk
        filters := section_tells _ standard _ _ _ read_filter_tells filters filtersOk
        sorts := section_tells _ standard _ _ _ read_sort_tells sorts sortsOk
        splits := ((read_splits_ok _ splits).mp splitsOk).1
        offset := counted
        start := start
        limit := bounded
        unlimited := unlimited }
  | _ => cases ok

-- No count is 2^64, which is read as the largest word although it is none.
structure CountsFit (limits : Limits) (document : Value) : Prop where
  occurrences : ∀ items, Lists document "sort" items → ∀ item ∈ items, ∀ member,
    FirstGiven item occurrenceNames member → ¬ member.Denotes UInt64.size
  offset : ∀ member, document.given? "offset" = some member → ¬ member.Denotes UInt64.size
  limit : LimitFits limits document

theorem count_fits (member : Value) (fits : ¬ member.Denotes UInt64.size) :
    IsCount IsWordCount member ↔ IsCount (· < UInt64.size) member := by
  refine exists_congr fun count => and_congr_right fun denotes => ?_
  rw [IsWordCount, Nat.le_iff_lt_or_eq, or_iff_left]
  rintro rfl
  exact fits denotes

theorem sort_fits (item : Value) (fits : ∀ member, FirstGiven item occurrenceNames member →
    ¬ member.Denotes UInt64.size) : IsSort IsWordCount item ↔ IsSort (· < UInt64.size) item := by
  have counts : (∀ member, FirstGiven item occurrenceNames member → IsCount IsWordCount member) ↔
      ∀ member, FirstGiven item occurrenceNames member → IsCount (· < UInt64.size) member :=
    forall₂_congr fun member given => count_fits member (fits member given)
  rw [IsSort, IsSort, counts]

theorem conforms_of (Allowed Other : Nat → Prop) (limits : Limits) (document : Value)
    (sorts : ∀ items, Lists document "sort" items → ∀ item ∈ items,
      IsSort Allowed item → IsSort Other item)
    (offset : Optionally document "offset" (IsCount Allowed) →
      Optionally document "offset" (IsCount Other))
    (conforms : Conforms Allowed limits document) : Conforms Other limits document where
  object := conforms.object
  leading := conforms.leading
  columns := conforms.columns
  filters := conforms.filters
  sorts := by
    obtain ⟨items, lists, each⟩ := conforms.sorts
    exact ⟨items, lists, fun item member => sorts items lists item member (each item member)⟩
  splits := conforms.splits
  offset := offset conforms.offset
  limit := conforms.limit

theorem conforms_fits (limits : Limits) (document : Value) (fits : CountsFit limits document) :
    Conforms IsWordCount limits document ↔ Conforms (· < UInt64.size) limits document := by
  have sorts (items : List Value) (lists : Lists document "sort" items) (item : Value)
      (member : item ∈ items) : IsSort IsWordCount item ↔ IsSort (· < UInt64.size) item :=
    sort_fits item (fits.occurrences items lists item member)
  have offset : Optionally document "offset" (IsCount IsWordCount) ↔
      Optionally document "offset" (IsCount (· < UInt64.size)) :=
    forall₂_congr fun member given => count_fits member (fits.offset member given)
  constructor
  · apply conforms_of _ _ limits document _ offset.mp
    exact fun items lists item member => (sorts items lists item member).mp
  · apply conforms_of _ _ limits document _ offset.mpr
    exact fun items lists item member => (sorts items lists item member).mpr

theorem of_json_follows_schema (limits : Limits) (document : Value)
    (standard : document.IsStandard) (fits : CountsFit limits document) :
    (Passes (ofJson limits document) ↔ Conforms (· < UInt64.size) limits document) ∧
      ∀ state, ofJson limits document = .ok state → Tells document state := by
  rw [← conforms_fits limits document fits]
  exact ⟨of_json_accepts limits document standard fits.limit,
    of_json_tells limits document standard⟩

def weeklyDocument : Value :=
  .object [
    ("columns", .array [.string "player_name", .object [("id", .string "rush_yards"),
      ("params", .object [("week", .object [("min", .number (.integer 1))])])]]),
    ("limit", .number (.integer 100)),
    ("offset", .null),
    ("sort", .array [.object [("column_id", .string "rush_yards"), ("desc", .string "DESC"),
      ("occurrence", .number (.integer 0))]]),
    ("splits", .array [.string "week", .string "year"]),
    ("where", .array [.object [("column_id", .string "rush_yards"),
      ("operator", .string " not  in"), ("value", .array [.number (.integer (-3))])]])]

theorem weekly_document_fits : CountsFit .usual weeklyDocument where
  occurrences := by
    intro items lists item listed member first
    cases lists with
    | absent none => cases none
    | given items held =>
        obtain rfl := Value.array.inj (Option.some.inj held)
        obtain rfl := List.mem_singleton.mp listed
        rw [first_given_eq occurrenceNames _ (.number (.integer 0)) member "occurrence" rfl first]
        exact (by decide : (0 : Int) ≠ (UInt64.size : Int))
  offset := fun member given => by cases given
  limit := fun largest => absurd largest (by decide)

theorem weekly_document_accepted : weeklyDocument.IsStandard ∧ CountsFit .usual weeklyDocument ∧
    Conforms (· < UInt64.size) .usual weeklyDocument ∧
      ∃ state, ofJson .usual weeklyDocument = .ok state ∧ Tells weeklyDocument state := by
  have standard : weeklyDocument.IsStandard := by
    simp [weeklyDocument, Value.IsStandard, Json.ItemsStandard, Json.MembersStandard,
      Json.Number.IsStandard]
  have whole := of_json_follows_schema .usual weeklyDocument standard weekly_document_fits
  have accepted : (ofJson .usual weeklyDocument).isOk = true := by decide +kernel
  cases read : ofJson .usual weeklyDocument with
  | error problems =>
      rw [read] at accepted
      cases accepted
  | ok state =>
      exact ⟨standard, weekly_document_fits, whole.1.mp ⟨state, read⟩, state, rfl, whole.2 state read⟩

def farDocument : Value :=
  .object [("offset", .number (.binary (Binary64.ofInt (10 ^ 20))))]

-- An offset that no word can hold is refused, although it is an integer.
theorem far_offset_refused : farDocument.IsStandard ∧
    Conforms (fun _ => True) .usual farDocument ∧ ¬ Passes (ofJson .usual farDocument) := by
  have offset : (Binary64.ofInt (10 ^ 20)).toInt? = some ((10 ^ 20 : Nat) : Int) := by decide +kernel
  have finite : (Binary64.ofInt (10 ^ 20)).isFinite = true := by decide +kernel
  have refused : (ofJson .usual farDocument).isOk = false := by decide +kernel
  have given : farDocument.given? "offset" = some (.number (.binary (Binary64.ofInt (10 ^ 20)))) := rfl
  have unlisted (name : String) (other : name ≠ "offset") : farDocument.given? name = none := by
    rw [farDocument, Value.given?, Value.get?, List.lookup_cons, beq_eq_false_iff_ne.mpr other]
    rfl
  refine ⟨by simpa [farDocument, Value.IsStandard, Json.MembersStandard,
      Json.Number.IsStandard] using finite,
    { object := ⟨_, rfl⟩
      leading := ⟨[], .absent (unlisted _ (by decide)), by simp⟩
      columns := ⟨[], .absent (unlisted _ (by decide)), by simp⟩
      filters := ⟨[], .absent (unlisted _ (by decide)), by simp⟩
      sorts := ⟨[], .absent (unlisted _ (by decide)), by simp⟩
      splits := ⟨[], .absent (unlisted _ (by decide)), List.nodup_nil, fun week => by cases week⟩
      offset := fun member found => ?_
      limit := fun member found => ?_ }, ?_⟩
  · obtain rfl := Option.some.inj (given.symm.trans found)
    exact ⟨10 ^ 20, offset, trivial⟩
  · rw [unlisted "limit" (by decide)] at found
    cases found
  · rintro ⟨state, ok⟩
    rw [ok] at refused
    cases refused

end StatTable.TableState
