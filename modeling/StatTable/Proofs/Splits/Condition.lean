import StatTable.Plan.SplitChain
import StatTable.Proofs.Sql.Rows

set_option autoImplicit false

namespace StatTable.Plan

open Sql

def cell (scope : Scope) (ref : SplitRef) : Value := scope ref.aliasName ref.column

theorem mem_leading (chain : SplitChain) (split : Split) (ref : SplitRef) :
    ref ∈ chain.leading split ↔ ref ∈ chain.placed.filter (·.split == split) ∧
      (ref.isAnchored = true ∨
        ∀ other ∈ chain.placed.filter (·.split == split), other.isAnchored = false) := by
  unfold SplitChain.leading
  generalize chain.placed.filter (·.split == split) = refs
  dsimp only
  split
  · rename_i none
    have unanchored : ∀ other ∈ refs, other.isAnchored = false := by
      simpa only [List.filter_eq_nil_iff, Bool.not_eq_true] using none
    exact ⟨fun member => ⟨member, .inr unanchored⟩, fun member => member.1⟩
  · rename_i anchored
    rw [List.mem_filter]
    refine and_congr_right fun _ => ⟨.inl, fun leads => leads.elim id fun unanchored => ?_⟩
    exact absurd (List.filter_eq_nil_iff.mpr fun other member => by simp [unanchored other member])
      anchored

section

variable (engine : Engine) (chain : SplitChain) (scope : Scope) (ref : SplitRef)

-- What the groups joined before say about the dimension, the most recent one first.
def expected : List Value :=
  (chain.leading ref.split).reverse.map fun other =>
    (SplitChain.lagged ref other.resolved).value engine [scope]

theorem condition_satisfied (given : cell scope ref ≠ .null) :
    satisfies engine [scope] (chain.condition? ref) = true ↔
      engine.equal (cell scope ref)
        (Engine.firstGiven (expected engine chain scope ref ++ [cell scope ref])) = true := by
  unfold SplitChain.condition? expected
  cases (chain.leading ref.split).reverse with
  | nil => simp [satisfies, Engine.firstGiven, given, engine.equal_refl]
  | cons first rest =>
      simp only [satisfies, Option.all_some, Expr.eq_holds, Expr.coalesce_value, Expr.field_value,
        List.map_append, List.map_map, List.map_cons, List.map_nil, List.headD_cons]
      rfl

theorem mem_expected (x : Value) : x ∈ expected engine chain scope ref ↔
    ∃ other ∈ chain.leading ref.split,
      (SplitChain.lagged ref other.resolved).value engine [scope] = x := by
  simp [expected]

end

end StatTable.Plan
