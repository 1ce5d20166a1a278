import StatTable.Proofs.Joins.Matching
import StatTable.Proofs.Splits.Condition

set_option autoImplicit false

namespace StatTable.Plan

open Sql

structure Joinable (ordered : List Group) : Prop where
  distinct : Distinct ordered
  apart : ∀ group ∈ ordered, group.aliasName ≠ Catalog.playerTable
  columns : ∀ group ∈ ordered, ∀ split ∈ group.splits, ∃ column, group.splitColumn split = some column
  divides : ∀ group ∈ ordered, group.isDenominator = true →
    ∃ numerator ∈ ordered, numerator.isDenominator = false ∧ ∃ rate,
      group.source = .denominator rate numerator.aliasName ∧ group.splits = numerator.splits

def refsOf (groups : List Group) : List SplitRef :=
  (groups.filter (!·.isDenominator)).flatMap splitRefs

theorem extended_placed (groups : List Group) (chain : SplitChain) :
    (groups.foldl extendChain chain).placed = chain.placed ++ refsOf groups := by
  induction groups generalizing chain with
  | nil => simp [refsOf]
  | cons group rest ih =>
      rw [List.foldl_cons, ih]
      unfold extendChain refsOf
      cases divides : group.isDenominator with
      | true => simp [divides]
      | false => simp [divides, SplitChain.place, List.append_assoc]

theorem mem_split_refs (group : Group) (ref : SplitRef) : ref ∈ splitRefs group ↔
    ∃ split ∈ group.splits, ∃ column, group.splitColumn split = some column ∧
      ref = ⟨split, group.aliasName, column, group.yearOffset⟩ := by
  simp only [splitRefs, List.mem_filterMap, Option.map_eq_some_iff]
  exact ⟨fun ⟨split, carried, column, held, same⟩ => ⟨split, carried, column, held, same.symm⟩,
    fun ⟨split, carried, column, held, same⟩ => ⟨split, carried, column, held, same.symm⟩⟩

theorem split_ref_alias (group : Group) (ref : SplitRef) (own : ref ∈ splitRefs group) :
    ref.aliasName = group.aliasName := by
  obtain ⟨_, _, _, _, rfl⟩ := (mem_split_refs group ref).mp own
  rfl

theorem split_ref_unique (group : Group) (one other : SplitRef) (oneOwn : one ∈ splitRefs group)
    (otherOwn : other ∈ splitRefs group) (same : one.split = other.split) : one = other := by
  obtain ⟨split, _, column, held, rfl⟩ := (mem_split_refs group one).mp oneOwn
  obtain ⟨split', _, column', held', rfl⟩ := (mem_split_refs group other).mp otherOwn
  obtain rfl : split = split' := same
  rw [held] at held'
  rw [Option.some.inj held']

theorem mem_refs_of (groups : List Group) (ref : SplitRef) : ref ∈ refsOf groups ↔
    ∃ group ∈ groups, group.isDenominator = false ∧ ref ∈ splitRefs group := by
  simp only [refsOf, List.mem_flatMap, List.mem_filter, Bool.not_eq_true', and_assoc]

theorem ref_cell_other (scope : Scope) (aliasName : String) (row : Row) (ref : SplitRef)
    (other : ref.aliasName ≠ aliasName) : cell (scope.extend aliasName row) ref = cell scope ref := by
  rw [cell, Scope.extend_other _ _ _ _ other, cell]

theorem ref_cell_own (scope : Scope) (group : Group) (row : Row) (ref : SplitRef)
    (own : ref ∈ splitRefs group) : cell (scope.extend group.aliasName row) ref = row ref.column := by
  rw [cell, split_ref_alias group ref own, Scope.extend_self]

-- All groups with a row agree in each dimension.
def Agree (engine : Engine) (scope : Scope) (refs : List SplitRef) : Prop :=
  ∀ one ∈ refs, ∀ other ∈ refs, one.split = other.split → cell scope one ≠ .null →
    cell scope other ≠ .null → engine.equal (cell scope one) (cell scope other) = true

def Unshifted (refs : List SplitRef) : Prop := ∀ ref ∈ refs, ref.offset = 0

theorem resolved_cell (engine : Engine) (scope : Scope) (ref : SplitRef) (unshifted : ref.offset = 0) :
    ref.resolved.value engine [scope] = cell scope ref := by
  unfold SplitRef.resolved
  cases ref.split <;> simp [unshifted, cell]

theorem lagged_same (ref : SplitRef) (value : Expr) (unshifted : ref.offset = 0) :
    SplitChain.lagged ref value = value := by
  unfold SplitChain.lagged
  cases ref.split <;> simp [unshifted]

theorem mem_leading_unshifted (chain : SplitChain) (unshifted : Unshifted chain.placed)
    (split : Split) (ref : SplitRef) :
    ref ∈ chain.leading split ↔ ref ∈ chain.placed ∧ ref.split = split := by
  rw [mem_leading, List.mem_filter, beq_iff_eq]
  exact ⟨And.left, fun placed => ⟨placed, .inl (by simp [SplitRef.isAnchored, unshifted ref placed.1])⟩⟩

theorem mem_expected_cells (engine : Engine) (chain : SplitChain)
    (unshifted : Unshifted chain.placed) (scope : Scope) (own : SplitRef) (ownOffset : own.offset = 0)
    (x : Value) : x ∈ expected engine chain scope own ↔
      ∃ other ∈ chain.placed, other.split = own.split ∧ cell scope other = x := by
  rw [mem_expected]
  constructor
  · rintro ⟨other, leads, rfl⟩
    obtain ⟨placed, same⟩ := (mem_leading_unshifted chain unshifted _ other).mp leads
    rw [lagged_same own _ ownOffset, resolved_cell engine scope other (unshifted other placed)]
    exact ⟨other, placed, same, rfl⟩
  · rintro ⟨other, placed, same, rfl⟩
    refine ⟨other, (mem_leading_unshifted chain unshifted _ other).mpr ⟨placed, same⟩, ?_⟩
    rw [lagged_same own _ ownOffset, resolved_cell engine scope other (unshifted other placed)]

theorem first_given_mem (values rest : List Value) (present : ∃ x ∈ values, x ≠ .null) :
    Engine.firstGiven (values ++ rest) ∈ values ∧ Engine.firstGiven (values ++ rest) ≠ .null := by
  induction values with
  | nil => simp at present
  | cons x others ih =>
      rw [List.cons_append, Engine.firstGiven]
      by_cases missing : x = .null
      · rw [if_pos missing]
        have found := ih (by simpa [missing] using present)
        exact ⟨List.mem_cons_of_mem x found.1, found.2⟩
      · rw [if_neg missing]
        exact ⟨by simp, missing⟩

theorem condition_agrees (engine : Engine) (chain : SplitChain) (scope : Scope) (own : SplitRef)
    (unshifted : Unshifted chain.placed) (ownOffset : own.offset = 0)
    (agree : Agree engine scope chain.placed) (given : cell scope own ≠ .null)
    (satisfied : satisfies engine [scope] (chain.condition? own) = true) (other : SplitRef)
    (placed : other ∈ chain.placed) (same : other.split = own.split)
    (otherGiven : cell scope other ≠ .null) :
    engine.equal (cell scope own) (cell scope other) = true := by
  rw [condition_satisfied engine chain scope own given] at satisfied
  have present : ∃ x ∈ expected engine chain scope own, x ≠ .null := by
    refine ⟨cell scope other, ?_, otherGiven⟩
    exact (mem_expected_cells engine chain unshifted scope own ownOffset _).mpr
      ⟨other, placed, same, rfl⟩
  obtain ⟨member, found⟩ := first_given_mem _ [cell scope own] present
  obtain ⟨first, firstPlaced, firstSame, held⟩ :=
    (mem_expected_cells engine chain unshifted scope own ownOffset _).mp member
  rw [← held] at satisfied found
  exact engine.equal_trans _ _ _ satisfied
    (agree first firstPlaced other placed (firstSame.trans same.symm) found otherGiven)

section

variable (engine : Engine) (tables : Tables) (player : Row)

-- A group has at most one row for each combination of values of its dimensions.
structure Group.OffersOnce (group : Group) : Prop where
  given : ∀ row ∈ group.offered engine tables player, ∀ ref ∈ splitRefs group, row ref.column ≠ .null
  once : (group.offered engine tables player).Pairwise fun one other =>
    ∃ ref ∈ splitRefs group, engine.equal (one ref.column) (other ref.column) = false

instance (group : Group) : Decidable (group.OffersOnce engine tables player) :=
  decidable_of_iff
    ((∀ row ∈ group.offered engine tables player, ∀ ref ∈ splitRefs group, row ref.column ≠ .null) ∧
      (group.offered engine tables player).Pairwise fun one other =>
        ∃ ref ∈ splitRefs group, engine.equal (one ref.column) (other ref.column) = false)
    ⟨fun ⟨given, once⟩ => ⟨given, once⟩, fun ⟨given, once⟩ => ⟨given, once⟩⟩

-- A partial row of a player, to which some groups are still to be joined.
structure Partial (refs : List SplitRef) (rest : List Group) (scope : Scope) : Prop where
  player : scope Catalog.playerTable = player
  unjoined : ∀ group ∈ rest, scope group.aliasName = Row.missing
  agree : Agree engine scope refs

theorem mem_join_rows (ordered : List Group) (chain : SplitChain) (group : Group) (scope joined : Scope)
    (own : scope Catalog.playerTable = player) (apart : group.aliasName ≠ Catalog.playerTable)
    (member : joined ∈ (planJoin ordered chain group).join.rows engine tables scope) :
    ∃ row, joined = scope.extend group.aliasName row ∧ (row = Row.missing ∨
      row ∈ group.offered engine tables player ∧ tied engine ordered chain group scope row = true) := by
  unfold Join.rows at member
  rw [matching_eq engine tables player ordered chain group scope own apart] at member
  split at member
  · refine ⟨Row.missing, ?_, .inl rfl⟩
    rw [← join_table_name group]
    exact List.mem_singleton.mp member
  · obtain ⟨row, found, rfl⟩ := List.mem_map.mp member
    exact ⟨row, rfl, .inr (List.mem_filter.mp found)⟩

theorem join_rows_pairwise (R : Scope → Scope → Prop) (join : Join) (scope : Scope)
    (pairwise : (join.matching engine tables scope).Pairwise R) :
    (join.rows engine tables scope).Pairwise R := by
  unfold Join.rows
  split
  · exact List.pairwise_singleton R _
  · exact pairwise

end

end StatTable.Plan
