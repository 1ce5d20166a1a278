import StatTable.Catalog.Fantasy
import StatTable.Plan.Binding
import StatTable.Proofs.Splits.Condition
import StatTable.Proofs.Sql.Plain

set_option autoImplicit false

namespace StatTable.Plan

open Sql

-- By how much the results are ahead of the column.
def SplitRef.lag (ref : SplitRef) : Int :=
  match ref.split with
  | .year => ref.offset.toInt
  | .week => 0

def chainOf (groups : List Group) : SplitChain := groups.foldl .place .empty

def carrying (groups : List Group) (split : Split) : List SplitRef :=
  (groups.flatMap splitRefs).filter (·.split == split)

def Vacant (scope : Scope) (refs : List SplitRef) : Prop :=
  ∀ ref ∈ refs, cell scope ref = .null

-- Groups without an offset carry the dimension, but none of them has a row.
def Shadowed (scope : Scope) (refs : List SplitRef) : Prop :=
  (∃ ref ∈ refs, ref.isAnchored = true) ∧ Vacant scope (refs.filter (·.isAnchored))

theorem placed_after (groups : List Group) (chain : SplitChain) :
    (groups.foldl .place chain).placed = chain.placed ++ groups.flatMap splitRefs := by
  induction groups generalizing chain with
  | nil => simp
  | cons group rest ih =>
      rw [List.foldl_cons, ih, SplitChain.place, List.flatMap_cons, List.append_assoc]

section

variable (engine : Engine) (scope : Scope) (ref : SplitRef) (n : Int)

theorem resolved_value (held : cell scope ref = .integer n) :
    ref.resolved.value engine [scope] = .integer (n + ref.lag) := by
  unfold cell at held
  unfold SplitRef.resolved SplitRef.lag
  cases ref.split with
  | week => simp [held]
  | year =>
      by_cases anchored : ref.offset = 0
      · simp [anchored, held]
      · simp [anchored, held, Expr.integer, Expr.value, Engine.operate, Engine.computed,
          Literal.value, engine.plus_integers]

theorem resolved_missing (missing : cell scope ref = .null) :
    ref.resolved.value engine [scope] = .null := by
  unfold cell at missing
  unfold SplitRef.resolved
  cases ref.split with
  | week => simp [missing]
  | year =>
      by_cases anchored : ref.offset = 0
      · simp [anchored, missing]
      · simp [anchored, missing, Expr.value, Engine.operate, Engine.computed]

theorem lagged_value (value : Expr) (evaluated : value.value engine [scope] = .integer n) :
    (SplitChain.lagged ref value).value engine [scope] = .integer (n - ref.lag) := by
  unfold SplitChain.lagged SplitRef.lag
  cases ref.split with
  | week => simp [evaluated]
  | year =>
      by_cases anchored : ref.offset = 0
      · simp [anchored, evaluated]
      · simp [anchored, evaluated, Expr.integer, Expr.value, Engine.operate, Engine.computed,
          Literal.value, engine.minus_integers]

theorem lagged_missing (value : Expr) (evaluated : value.value engine [scope] = .null) :
    (SplitChain.lagged ref value).value engine [scope] = .null := by
  unfold SplitChain.lagged
  cases ref.split with
  | week => simp [evaluated]
  | year =>
      by_cases anchored : ref.offset = 0
      · simp [anchored, evaluated]
      · simp [anchored, evaluated, Expr.value, Engine.operate, Engine.computed]

end

theorem first_given_agreeing (values : List Value) (last shared : Value) (given : shared ≠ .null)
    (agree : ∀ x ∈ values, x = .null ∨ x = shared) (present : ∃ x ∈ values, x ≠ .null) :
    Engine.firstGiven (values ++ [last]) = shared := by
  induction values with
  | nil => simp at present
  | cons x rest ih =>
      rcases agree x (by simp) with missing | held
      · rw [List.cons_append, Engine.firstGiven, if_pos missing]
        refine ih (fun y member => agree y (by simp [member])) ?_
        simpa [missing] using present
      · rw [List.cons_append, Engine.firstGiven, held, if_neg given]

theorem first_given_missing (values : List Value) (last : Value) (given : last ≠ .null)
    (missing : ∀ x ∈ values, x = .null) : Engine.firstGiven (values ++ [last]) = last := by
  induction values with
  | nil => simp [Engine.firstGiven, given]
  | cons x rest ih =>
      rw [List.cons_append, Engine.firstGiven, if_pos (missing x (by simp))]
      exact ih fun y member => missing y (by simp [member])

theorem expected_value (engine : Engine) (scope : Scope) (ref other : SplitRef) (v : Int)
    (held : cell scope other = .integer (v - other.lag)) :
    (SplitChain.lagged ref other.resolved).value engine [scope] = .integer (v - ref.lag) := by
  have ahead := resolved_value engine scope other (v - other.lag) held
  rw [Int.sub_add_cancel] at ahead
  exact lagged_value engine scope ref v other.resolved ahead

theorem expected_missing (engine : Engine) (scope : Scope) (ref other : SplitRef)
    (missing : cell scope other = .null) :
    (SplitChain.lagged ref other.resolved).value engine [scope] = .null :=
  lagged_missing engine scope ref other.resolved (resolved_missing engine scope other missing)

theorem carrying_eq (groups : List Group) (split : Split) :
    (chainOf groups).placed.filter (·.split == split) = carrying groups split := by
  rw [chainOf, placed_after]
  rfl

theorem mem_leading_carrying (groups : List Group) (split : Split) (ref : SplitRef) :
    ref ∈ (chainOf groups).leading split ↔ ref ∈ carrying groups split ∧
      (ref.isAnchored = true ∨ ∀ other ∈ carrying groups split, other.isAnchored = false) := by
  rw [mem_leading, carrying_eq]

-- The groups that are asked have no row if no group has one, or if those with an offset have one
-- but are not asked.
theorem leading_vacant (groups : List Group) (scope : Scope) (split : Split) :
    Vacant scope ((chainOf groups).leading split) ↔
      Vacant scope (carrying groups split) ∨ Shadowed scope (carrying groups split) := by
  by_cases anchors : ∃ ref ∈ carrying groups split, ref.isAnchored = true
  · have asked : ∀ ref, ref ∈ (chainOf groups).leading split ↔
        ref ∈ (carrying groups split).filter (·.isAnchored) := by
      intro ref
      rw [mem_leading_carrying, List.mem_filter]
      refine and_congr_right fun _ => ⟨fun leads => leads.elim id fun unanchored => ?_, .inl⟩
      obtain ⟨anchor, member, anchored⟩ := anchors
      exact absurd anchored (by simp [unanchored anchor member])
    constructor
    · intro vacant
      exact .inr ⟨anchors, fun ref member => vacant ref ((asked ref).mpr member)⟩
    · rintro (vacant | ⟨_, vacant⟩) ref member
      · exact vacant ref ((mem_leading_carrying groups split ref).mp member).1
      · exact vacant ref ((asked ref).mp member)
  · have unanchored : ∀ other ∈ carrying groups split, other.isAnchored = false := by
      intro other member
      exact Bool.eq_false_iff.mpr fun anchored => anchors ⟨other, member, anchored⟩
    constructor
    · intro vacant
      exact .inl fun ref member =>
        vacant ref ((mem_leading_carrying groups split ref).mpr ⟨member, .inr unanchored⟩)
    · rintro (vacant | ⟨anchored, _⟩) ref member
      · exact vacant ref ((mem_leading_carrying groups split ref).mp member).1
      · exact absurd anchored anchors

section

variable (engine : Engine) (placed : List Group) (own : SplitRef) (scope : Scope)

theorem expected_open (given : cell scope own ≠ .null)
    (vacant : Vacant scope ((chainOf placed).leading own.split)) :
    Engine.firstGiven (expected engine (chainOf placed) scope own ++ [cell scope own]) =
      cell scope own := by
  refine first_given_missing _ _ given fun x member => ?_
  obtain ⟨other, leads, rfl⟩ := (mem_expected engine _ scope own x).mp member
  exact expected_missing engine scope own other (vacant other leads)

theorem expected_tied (v : Int) (taken : ¬ Vacant scope ((chainOf placed).leading own.split))
    (agree : ∀ ref ∈ carrying placed own.split,
      cell scope ref = .null ∨ cell scope ref = .integer (v - ref.lag)) :
    Engine.firstGiven (expected engine (chainOf placed) scope own ++ [cell scope own]) =
      .integer (v - own.lag) := by
  have agrees : ∀ other ∈ (chainOf placed).leading own.split,
      cell scope other = .null ∨ cell scope other = .integer (v - other.lag) :=
    fun other leads => agree other ((mem_leading_carrying placed own.split other).mp leads).1
  refine first_given_agreeing _ _ _ (by simp) (fun x member => ?_) ?_
  · obtain ⟨other, leads, rfl⟩ := (mem_expected engine _ scope own x).mp member
    rcases agrees other leads with missing | held
    · exact .inl (expected_missing engine scope own other missing)
    · exact .inr (expected_value engine scope own other v held)
  · unfold Vacant at taken
    push Not at taken
    obtain ⟨other, leads, given⟩ := taken
    have held := (agrees other leads).resolve_left given
    refine ⟨_, (mem_expected engine _ scope own _).mpr ⟨other, leads, rfl⟩, ?_⟩
    simp [expected_value engine scope own other v held]

end

-- The groups that have a row for the entity agree on the value v of the results. Then a row of a
-- further group is let through if it has that value, and any row is if no group has one for the
-- entity, or if those without an offset have none.
theorem correlation_accepts_iff (engine : Engine) (placed : List Group) (own : SplitRef)
    (scope : Scope) (n v : Int) (row : cell scope own = .integer n)
    (agree : ∀ ref ∈ carrying placed own.split,
      cell scope ref = .null ∨ cell scope ref = .integer (v - ref.lag)) :
    satisfies engine [scope] ((chainOf placed).condition? own) = true ↔
      n + own.lag = v ∨ Vacant scope (carrying placed own.split) ∨
        Shadowed scope (carrying placed own.split) := by
  have given : cell scope own ≠ .null := by simp [row]
  rw [condition_satisfied engine _ scope own given, ← leading_vacant]
  by_cases vacant : Vacant scope ((chainOf placed).leading own.split)
  · rw [expected_open engine placed own scope given vacant]
    exact ⟨fun _ => .inr vacant, fun _ => engine.equal_refl _ given⟩
  · rw [expected_tied engine placed own scope v vacant agree, row, engine.equal_integers]
    constructor
    · intro same
      exact .inl (by omega)
    · intro tied
      have resolved := tied.resolve_right vacant
      omega

def points (params : List (ParamKey × ParamValue)) : Group :=
  Target.group ⟨.direct Catalog.seasonlogs none, .ofList params, [.year]⟩ 0

def thisSeason : Group := points [(.scoringFormat, .scalar (.text "ppr"))]

def lastSeason : Group :=
  points [(.yearOffset, .scalar (.integer 1)), (.scoringFormat, .scalar (.text "std"))]

def rushing : Group :=
  Target.group ⟨.fact Catalog.rusherPlays, .ofList [(.seasonType, .scalar (.text "REG"))], [.year]⟩ 2

def rushingYear : SplitRef := ⟨.year, rushing.aliasName, "year", 0⟩

def twoSeasons : Scope :=
  ((Scope.single thisSeason.aliasName fun _ => .integer 2023).extend lastSeason.aliasName
    fun _ => .integer 2022).extend rushing.aliasName fun _ => .integer 2023

def gapYear : Scope :=
  (Scope.single lastSeason.aliasName fun _ => .integer 2022).extend rushing.aliasName
    fun _ => .integer 2020

theorem correlation_of_two_seasons :
    (cell twoSeasons rushingYear = .integer 2023 ∧
      ∀ ref ∈ carrying [thisSeason, lastSeason] .year,
        cell twoSeasons ref = .null ∨ cell twoSeasons ref = .integer (2023 - ref.lag)) ∧
    (satisfies .plain [twoSeasons] ((chainOf [thisSeason, lastSeason]).condition? rushingYear) = true ↔
      2023 + rushingYear.lag = 2023 ∨ Vacant twoSeasons (carrying [thisSeason, lastSeason] .year) ∨
        Shadowed twoSeasons (carrying [thisSeason, lastSeason] .year)) := by
  have row : cell twoSeasons rushingYear = .integer 2023 := by decide +kernel
  have agree : ∀ ref ∈ carrying [thisSeason, lastSeason] .year,
      cell twoSeasons ref = .null ∨ cell twoSeasons ref = .integer (2023 - ref.lag) := by
    decide +kernel
  exact ⟨⟨row, agree⟩, correlation_accepts_iff .plain [thisSeason, lastSeason] rushingYear
    twoSeasons 2023 2023 row agree⟩

-- The points of the season before say 2023, yet rushes of 2020 are let through.
theorem correlation_open_in_gap_year :
    splitRefs rushing = [rushingYear] ∧ cell gapYear rushingYear = .integer 2020 ∧
    (∃ ref ∈ carrying [thisSeason, lastSeason] .year, cell gapYear ref ≠ .null) ∧
    (∀ ref ∈ carrying [thisSeason, lastSeason] .year,
      cell gapYear ref = .null ∨ cell gapYear ref = .integer (2023 - ref.lag)) ∧
    ¬ (satisfies .plain [gapYear] ((chainOf [thisSeason, lastSeason]).condition? rushingYear) = true ↔
      2020 + rushingYear.lag = 2023) :=
  ⟨rfl, by decide +kernel⟩

end StatTable.Plan
