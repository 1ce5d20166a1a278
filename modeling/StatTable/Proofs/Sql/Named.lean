import StatTable.Proofs.Sql.Rows

set_option autoImplicit false

namespace StatTable.Sql

namespace Query

def reads (query : Query) : List String :=
  query.source.toList.map (·.table) ++ query.joins.map (·.table.table)

def tableRows (engine : Engine) (tables : Tables) (query : Query) : List Row :=
  (query.bodyRows engine tables).map (Row.ofCells (query.selections.map (·.outputName)))

end Query

section

variable (engine : Engine) (tables others : Tables)

theorem join_all_congr (joins : List Join)
    (same : ∀ join ∈ joins, tables join.table.table = others join.table.table)
    (scopes : List Scope) : joinAll engine tables joins scopes = joinAll engine others joins scopes := by
  induction joins generalizing scopes with
  | nil => rfl
  | cons join rest ih =>
      have first : join.rows engine tables = join.rows engine others := by
        funext scope
        rw [Join.rows, Join.rows, Join.matching, Join.matching, same join (by simp)]
      rw [join_all_cons, join_all_cons, first]
      exact ih (fun later member => same later (by simp [member])) _

theorem body_rows_congr (query : Query) (same : ∀ table ∈ query.reads, tables table = others table) :
    query.bodyRows engine tables = query.bodyRows engine others := by
  have joined := join_all_congr engine tables others query.joins fun join member =>
    same _ (List.mem_append_right _ (List.mem_map_of_mem (f := (·.table.table)) member))
  have sources : sourceScopes tables query.source = sourceScopes others query.source := by
    cases named : query.source with
    | none => rfl
    | some ref => rw [sourceScopes, sourceScopes, same ref.table (by simp [Query.reads, named])]
  unfold Query.bodyRows Query.scopes
  rw [sources, joined]

end

variable (engine : Engine)

theorem with_tables_other (withs : List (String × Query)) (tables : Tables) (table : String)
    (absent : table ∉ withs.map (·.1)) : withTables engine tables withs table = tables table := by
  induction withs generalizing tables with
  | nil => rw [withTables]
  | cons first rest ih =>
      obtain ⟨name, query⟩ := first
      rw [List.map_cons, List.mem_cons, not_or] at absent
      rw [withTables, ih _ absent.2, Function.update_of_ne absent.1]

-- Queries that neither read each other nor name queries of their own.
def Independent (withs : List (String × Query)) : Prop :=
  ∀ one ∈ withs, one.2.withs = [] ∧ ∀ other ∈ withs, other.1 ∉ one.2.reads

theorem with_tables_named (withs : List (String × Query)) (tables : Tables)
    (distinct : (withs.map (·.1)).Nodup) (independent : Independent withs) (named : String × Query)
    (member : named ∈ withs) :
    withTables engine tables withs named.1 = named.2.tableRows engine tables := by
  induction withs generalizing tables with
  | nil => simp at member
  | cons first rest ih =>
      obtain ⟨name, query⟩ := first
      obtain ⟨fresh, restDistinct⟩ := List.nodup_cons.mp distinct
      obtain ⟨plain, _⟩ := independent (name, query) (by simp)
      have restIndependent : Independent rest := fun one oneMember =>
        have own := independent one (by simp [oneMember])
        ⟨own.1, fun other otherMember => own.2 other (by simp [otherMember])⟩
      rw [withTables]
      rcases List.mem_cons.mp member with rfl | later
      · rw [with_tables_other engine rest _ _ fresh, Function.update_self, rows_eq, plain, withTables]
        rfl
      · rw [ih _ restDistinct restIndependent later, Query.tableRows, Query.tableRows]
        refine congrArg _ (body_rows_congr engine _ _ named.2 fun table read => ?_)
        have other : table ≠ name := fun same =>
          (independent named member).2 (name, query) (by simp) (same ▸ read)
        rw [Function.update_of_ne other]

end StatTable.Sql
