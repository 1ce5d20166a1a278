import StatTable.Proofs.Sql.Narrowed

set_option autoImplicit false

namespace StatTable.Sql

def Join.outer (join : Join) : Join := { join with kind := .left }

def Join.name (join : Join) : String := join.table.scopeName

section

variable (engine : Engine) (tables : Tables)

theorem matching_other (join : Join) (scope joined : Scope) (table : String)
    (different : table ≠ join.name) (member : joined ∈ join.matching engine tables scope) :
    joined table = scope table := by
  obtain ⟨row, _, rfl⟩ := List.mem_map.mp (List.mem_filter.mp member).1
  exact Scope.extend_other _ _ _ _ different

theorem join_rows_other (join : Join) (scope joined : Scope) (table : String)
    (different : table ≠ join.name) (member : joined ∈ join.rows engine tables scope) :
    joined table = scope table := by
  rw [Join.rows] at member
  split at member
  · rw [List.mem_singleton.mp member]
    exact Scope.extend_other _ _ _ _ different
  · exact matching_other engine tables join scope joined table different member

theorem join_all_other (joins : List Join) (scope joined : Scope) (table : String)
    (absent : table ∉ joins.map Join.name) (member : joined ∈ joinAll engine tables joins [scope]) :
    joined table = scope table := by
  induction joins generalizing scope with
  | nil => rw [List.mem_singleton.mp member]
  | cons join rest ih =>
      rw [List.map_cons, List.mem_cons, not_or] at absent
      rw [join_all_cons, List.flatMap_singleton, join_all_flat_map] at member
      obtain ⟨next, first, later⟩ := List.mem_flatMap.mp member
      rw [ih next absent.2 later]
      exact join_rows_other engine tables join scope next table absent.1 first

end

section

variable (engine : Engine) (tables others : Tables) (seen : String → String → Bool)
variable (due : String → Row → Bool)

-- A join that finds, of the rows that its outer join finds, those in which what is due is true.
structure Deferrable (join : Join) : Prop where
  sees : join.on.Sees seen
  rows : tables join.table.table = ((others join.table.table).filter (due join.name)).map
    (Row.narrow (seen join.name))
  undue : join.kind = .left → ∀ row, due join.name row = true

section

variable (join : Join) (deferrable : Deferrable tables others seen due join) (scope : Scope)

include deferrable

theorem matching_narrow : join.matching engine tables (scope.narrow seen) =
    ((join.outer.matching engine others scope).filter fun joined =>
      due join.name (joined join.name)).map (Scope.narrow seen) := by
  have narrowed (row : Row) : (scope.narrow seen).extend join.name (row.narrow (seen join.name)) =
      (scope.extend join.name row).narrow seen := (Scope.narrow_extend seen scope _ row).symm
  rw [Join.matching, Join.matching, deferrable.rows, List.map_map, List.filter_map, List.filter_map,
    List.filter_map, List.filter_filter, List.map_map, List.filter_filter]
  refine (List.map_congr_left fun row _ => narrowed row).trans (congrArg _ ?_)
  refine List.filter_congr fun row _ => ?_
  have holds := holds_narrow engine seen (scope.extend join.name row) join.on deferrable.sees
  have own : (scope.extend join.name row) join.name = row := Scope.extend_self _ _ _
  rw [← narrowed row] at holds
  change (join.on.holds engine [(scope.narrow seen).extend join.name (row.narrow (seen join.name))] &&
    due join.name row) = (due join.name ((scope.extend join.name row) join.name) &&
      join.on.holds engine [scope.extend join.name row])
  rw [holds, own, Bool.and_comm]

theorem left_rows_narrow (left : join.kind = .left) : join.rows engine tables (scope.narrow seen) =
    (join.outer.rows engine others scope).map (Scope.narrow seen) := by
  have matching := matching_narrow engine tables others seen due join deferrable scope
  simp only [deferrable.undue left, List.filter_true] at matching
  rw [Join.rows, Join.rows, left, matching]
  cases join.outer.matching engine others scope with
  | nil =>
      have missing := Scope.narrow_extend seen scope join.name Row.missing
      rw [Scope.narrow_missing] at missing
      exact congrArg (fun joined => [joined]) missing.symm
  | cons first rest => rfl

end

theorem inner_rows (join : Join) (scope : Scope) (inner : join.kind = .inner) :
    join.rows engine tables scope = join.matching engine tables scope := by
  rw [Join.rows, inner]

theorem outer_rows_flat_map {α : Type} (join : Join) (scope : Scope) (of : Scope → List α)
    (missing : of (scope.extend join.name Row.missing) = []) :
    (join.outer.rows engine others scope).flatMap of =
      (join.outer.matching engine others scope).flatMap of := by
  rw [Join.rows]
  cases join.outer.matching engine others scope with
  | nil => rw [List.flatMap_nil]; exact (List.flatMap_singleton _ _).trans missing
  | cons first rest => rfl

variable (keep kept : Scope → Bool)

-- What is kept in the end rejects what a join drops.
def Rejects (joins : List Join) : Prop :=
  ∀ join ∈ joins, ∀ scope, kept scope = true →
    due join.name (scope join.name) = true ∧ (join.kind = .inner → scope join.name ≠ Row.missing)

theorem rejected_nil (joins : List Join) (scope : Scope) (join : Join)
    (rejects : Rejects due kept [join]) (fresh : join.name ∉ joins.map Join.name)
    (rejected : due join.name (scope join.name) = false ∨
      join.kind = .inner ∧ scope join.name = Row.missing) :
    (joinAll engine others joins [scope]).filter kept = [] := by
  refine List.filter_eq_nil_iff.mpr fun joined member keeps => ?_
  obtain ⟨passes, given⟩ := rejects join List.mem_cons_self joined keeps
  rw [join_all_other engine others joins scope joined join.name fresh member] at passes given
  rcases rejected with fails | ⟨inner, missing⟩
  · rw [fails] at passes
    exact absurd passes Bool.false_ne_true
  · exact given inner missing

theorem join_all_deferred (joins : List Join) (scope : Scope)
    (deferrable : ∀ join ∈ joins, Deferrable tables others seen due join)
    (distinct : (joins.map Join.name).Nodup) (rejects : Rejects due kept joins)
    (agrees : ∀ joined : Scope, (∀ join ∈ joins, due join.name (joined join.name) = true) →
      (∀ table, table ∉ joins.map Join.name → joined table = scope table) →
        kept joined = keep (joined.narrow seen)) :
    (joinAll engine tables joins [scope.narrow seen]).filter keep =
      ((joinAll engine others (joins.map Join.outer) [scope]).filter kept).map
        (Scope.narrow seen) := by
  -- On the joins that are left: the rows that one of them drops are rejected whatever is joined to
  -- them later, because later joins leave its row as it is.
  induction joins generalizing scope with
  | nil =>
      have agree := agrees scope (fun join member => absurd member List.not_mem_nil) fun _ _ => rfl
      rw [List.map_nil, join_all_nil, join_all_nil, List.filter_singleton, List.filter_singleton, agree]
      cases keep (scope.narrow seen) <;> rfl
  | cons join rest ih =>
      obtain ⟨fresh, restDistinct⟩ := List.nodup_cons.mp distinct
      have own := deferrable join List.mem_cons_self
      have names : (rest.map Join.outer).map Join.name = rest.map Join.name := by
        rw [List.map_map]
        rfl
      have later (joined : Scope) (passes : due join.name (joined join.name) = true)
          (others' : ∀ table, table ≠ join.name → joined table = scope table) :=
        ih joined (fun next member => deferrable next (List.mem_cons_of_mem _ member)) restDistinct
          (fun next member => rejects next (List.mem_cons_of_mem _ member))
          fun final restPasses unchanged => by
            refine agrees final ?_ fun table absent => ?_
            · intro next member
              rcases List.mem_cons.mp member with rfl | listed
              · rw [unchanged next.name fresh]
                exact passes
              · exact restPasses next listed
            · rw [List.map_cons, List.mem_cons, not_or] at absent
              rw [unchanged table absent.2, others' table absent.1]
      have dropped (joined : Scope) (rejected : due join.name (joined join.name) = false ∨
          join.kind = .inner ∧ joined join.name = Row.missing) :
          ((joinAll engine others (rest.map Join.outer) [joined]).filter kept).map
            (Scope.narrow seen) = [] := by
        rw [rejected_nil engine others due kept _ joined join
          (fun only member => rejects only (List.mem_singleton.mp member ▸ List.mem_cons_self))
          (names ▸ fresh) rejected, List.map_nil]
      rw [List.map_cons, join_all_cons, join_all_cons, List.flatMap_singleton, List.flatMap_singleton,
        join_all_flat_map engine tables rest, join_all_flat_map engine others (rest.map Join.outer),
        List.filter_flatMap, List.filter_flatMap, List.map_flatMap]
      cases kind : join.kind with
      | left =>
          rw [left_rows_narrow engine tables others seen due join own scope kind, List.flatMap_map]
          refine List.flatMap_congr fun joined member => ?_
          exact later joined (own.undue kind _) fun table different =>
            join_rows_other engine others join.outer scope joined table different member
      | inner =>
          have missing := dropped (scope.extend join.name Row.missing)
            (.inr ⟨kind, Scope.extend_self _ _ _⟩)
          rw [inner_rows engine tables join _ kind,
            matching_narrow engine tables others seen due join own scope, List.flatMap_map,
            outer_rows_flat_map engine others join scope _ missing]
          refine (flat_map_kept _ _ _ _ fun joined member => ?_).symm
          cases passes : due join.name (joined join.name) with
          | true =>
              exact (later joined passes fun table different =>
                matching_other engine others join.outer scope joined table different member).symm
          | false => exact dropped joined (.inl passes)

end

end StatTable.Sql
