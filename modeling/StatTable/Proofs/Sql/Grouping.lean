import StatTable.Proofs.Sql.Rows

set_option autoImplicit false

namespace StatTable.Sql

namespace Engine

variable (engine : Engine)

theorem same_refl (x : Value) : engine.same x x = true := by
  by_cases missing : x = .null
  · simp [same, missing]
  · rw [engine.same_of_given x x missing, engine.equal_refl x missing]

theorem same_symm (x y : Value) (same : engine.same x y = true) : engine.same y x = true := by
  unfold Engine.same at same ⊢
  rcases Bool.or_eq_true_iff.mp same with missing | equal
  · rw [Bool.and_comm, missing, Bool.true_or]
  · rw [engine.equal_symm x y equal, Bool.or_true]

theorem same_trans (x y z : Value) (first : engine.same x y = true)
    (second : engine.same y z = true) : engine.same x z = true := by
  by_cases missing : y = .null
  · have left : x = .null := by simpa [same, equal, missing] using first
    have right : z = .null := by simpa [same, equal, missing] using second
    rw [left, right]
    exact engine.same_refl .null
  · have back := engine.same_symm x y first
    rw [engine.same_of_given y _ missing] at back second
    have equal := engine.equal_trans x y z (engine.equal_symm y x back) second
    rwa [engine.same_of_given x z (engine.equal_given x z equal).1]

end Engine

namespace Query

variable (engine : Engine) (query : Query)

theorem alike_refl (scope : Scope) : query.alike engine scope scope = true :=
  List.all_eq_true.mpr fun _ _ => engine.same_refl _

theorem alike_symm (one other : Scope) (alike : query.alike engine one other = true) :
    query.alike engine other one = true :=
  List.all_eq_true.mpr fun key member =>
    engine.same_symm _ _ (List.all_eq_true.mp alike key member)

theorem alike_trans (one other third : Scope) (first : query.alike engine one other = true)
    (second : query.alike engine other third = true) : query.alike engine one third = true :=
  List.all_eq_true.mpr fun key member => engine.same_trans _ _ _
    (List.all_eq_true.mp first key member) (List.all_eq_true.mp second key member)

theorem not_alike (one other : Scope) (key : Expr) (listed : key ∈ query.groupBy)
    (given : key.value engine [one] ≠ .null)
    (different : engine.equal (key.value engine [one]) (key.value engine [other]) = false) :
    query.alike engine one other = false := by
  refine Bool.eq_false_iff.mpr fun alike => ?_
  have same := List.all_eq_true.mp alike key listed
  rw [engine.same_of_given _ _ given, different] at same
  exact absurd same (by simp)

theorem groups_apart (scopes : List Scope) (keyed : query.groupBy ≠ [])
    (apart : scopes.Pairwise fun one other => query.alike engine one other = false) :
    query.groups engine scopes = scopes.map fun scope => [scope] := by
  unfold groups
  rw [if_neg (by simpa using keyed), List.pwFilter_eq_self.mpr apart]
  exact List.map_congr_left fun scope member => filter_of_pairwise (query.alike engine) scopes
    (query.alike_refl engine) (query.alike_symm engine) apart scope member

theorem group_picked (table column : String) (keyed : query.groupBy = [.field table column])
    (scopes : List Scope) (x : Value) :
    ((query.groups engine scopes).filter fun group =>
      engine.equal ((Expr.field table column).value engine group) x) =
    if scopes.filter (fun scope => engine.equal (scope table column) x) = [] then []
    else [scopes.filter fun scope => engine.equal (scope table column) x] := by
  have alike : ∀ one other : Scope,
      query.alike engine one other = engine.same (one table column) (other table column) := by
    intro one other
    simp [Query.alike, keyed]
  have close : ∀ one other : Scope, engine.equal (one table column) x = true →
      query.alike engine one other = engine.equal (other table column) x := by
    intro one other hit
    rw [alike, engine.same_of_given _ _ (engine.equal_given _ _ hit).1, Bool.eq_iff_iff]
    exact ⟨fun equal => engine.equal_trans _ _ _ (engine.equal_symm _ _ equal) hit,
      fun again => engine.equal_trans _ _ _ hit (engine.equal_symm _ _ again)⟩
  rw [← class_picked (query.alike engine) scopes _ (query.alike_refl engine)
    (query.alike_trans engine) close]
  unfold groups
  rw [if_neg (by simp [keyed]), List.filter_map]
  refine congrArg _ (List.filter_congr fun head member => ?_)
  rw [Function.comp_apply, Expr.field_value]
  have own := List.mem_filter.mpr
    ⟨List.pwFilter_subset scopes member, query.alike_refl engine head⟩
  cases shared : scopes.filter (query.alike engine head) with
  | nil => simp [shared] at own
  | cons first rest =>
      have relates : query.alike engine head first = true :=
        (List.mem_filter.mp (shared ▸ List.mem_cons_self)).2
      rw [List.headD_cons, Bool.eq_iff_iff]
      constructor
      · intro hit
        rw [← close first head hit]
        exact query.alike_symm engine head first relates
      · intro hit
        rw [← close head first hit]
        exact relates

end Query

end StatTable.Sql
