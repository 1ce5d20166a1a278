import StatTable.Proofs.Sql.Evaluation

set_option autoImplicit false

namespace StatTable.Sql

mutual

def Expr.fields : Expr → List (String × String)
  | .column (some table) name => [(table, name)]
  | .column none _ | .literal _ | .star _ => []
  | .binary _ left right => left.fields ++ right.fields
  | .call _ _ arguments => fieldsOfEach arguments
  | .among _ value choices => value.fields ++ fieldsOfEach choices
  | .between _ value low high => value.fields ++ low.fields ++ high.fields
  | .isNull _ value => value.fields
  | .like _ _ value pattern => value.fields ++ pattern.fields
  | .paren inner => inner.fields

def fieldsOfEach : List Expr → List (String × String)
  | [] => []
  | expr :: rest => expr.fields ++ fieldsOfEach rest

end

def Expr.Within (expr : Expr) (Allowed : String → Prop) : Prop :=
  ∀ field ∈ expr.fields, Allowed field.1

theorem mem_fields_of_each (exprs : List Expr) (field : String × String) :
    field ∈ fieldsOfEach exprs ↔ ∃ expr ∈ exprs, field ∈ expr.fields := by
  induction exprs with
  | nil => simp [fieldsOfEach]
  | cons expr rest ih => simp [fieldsOfEach, ih]

namespace Expr

@[simp] theorem fields_field (table name : String) : (field table name).fields = [(table, name)] := by
  simp only [field, fields]

@[simp] theorem fields_eq (left right : Expr) : (eq left right).fields = left.fields ++ right.fields := by
  simp only [eq, fields]

@[simp] theorem fields_literal (literal : Literal) : (Expr.literal literal).fields = [] := by
  simp only [fields]

theorem mem_fields_coalesce (choices : List Expr) (field : String × String) :
    field ∈ (coalesce choices).fields ↔ ∃ choice ∈ choices, field ∈ choice.fields := by
  rw [coalesce, function, fields, mem_fields_of_each]

theorem fold_and_fields (first : Expr) (rest : List Expr) (field : String × String) :
    field ∈ (rest.foldl and first).fields ↔
      field ∈ first.fields ∨ ∃ condition ∈ rest, field ∈ condition.fields := by
  induction rest generalizing first with
  | nil => simp
  | cons condition rest ih =>
      rw [List.foldl_cons, ih, and, fields, List.mem_append, or_assoc]
      simp

theorem mem_fields_conjunction (conditions : List Expr) (joined : Expr)
    (conjoined : conjunction conditions = some joined) (field : String × String) :
    field ∈ joined.fields ↔ ∃ condition ∈ conditions, field ∈ condition.fields := by
  cases conditions with
  | nil => simp [conjunction] at conjoined
  | cons first rest =>
      rw [← Option.some.inj conjoined, fold_and_fields]
      simp

end Expr

section

variable (engine : Engine) (one other : Scope)

mutual

theorem value_congr (expr : Expr) (same : expr.Within fun table => one table = other table) :
    expr.value engine [one] = expr.value engine [other] := by
  unfold Expr.Within at same
  cases expr with
  | column table name =>
      cases table with
      | none => simp only [Expr.value]
      | some table =>
          have row : one table = other table := same (table, name) (by simp [Expr.fields])
          simp [Expr.value, row]
  | literal => simp only [Expr.value]
  | star => simp only [Expr.value]
  | binary operator left right =>
      simp only [Expr.fields, List.forall_mem_append] at same
      simp only [Expr.value, value_congr left same.1, value_congr right same.2]
  | call function distinct arguments =>
      simp only [Expr.fields] at same
      simp only [Expr.value, List.map_cons, List.map_nil, values_congr arguments same]
  | among negated value choices =>
      simp only [Expr.fields, List.forall_mem_append] at same
      simp only [Expr.value, value_congr value same.1, values_congr choices same.2]
  | between negated value low high =>
      simp only [Expr.fields, List.forall_mem_append] at same
      simp only [Expr.value, value_congr value same.1.1, value_congr low same.1.2,
        value_congr high same.2]
  | isNull negated value =>
      simp only [Expr.fields] at same
      simp only [Expr.value, value_congr value same]
  | like negated caseless value pattern =>
      simp only [Expr.fields, List.forall_mem_append] at same
      simp only [Expr.value, value_congr value same.1, value_congr pattern same.2]
  | paren inner =>
      simp only [Expr.fields] at same
      simp only [Expr.value, value_congr inner same]

theorem values_congr (exprs : List Expr)
    (same : ∀ field ∈ fieldsOfEach exprs, one field.1 = other field.1) :
    valuesOfEach engine [one] exprs = valuesOfEach engine [other] exprs := by
  cases exprs with
  | nil => simp only [valuesOfEach]
  | cons expr rest =>
      simp only [fieldsOfEach, List.forall_mem_append] at same
      simp only [valuesOfEach, value_congr expr same.1, values_congr rest same.2]

end

end

theorem holds_congr (engine : Engine) (one other : Scope) (condition : Expr)
    (same : condition.Within fun table => one table = other table) :
    condition.holds engine [one] = condition.holds engine [other] := by
  rw [Expr.holds, Expr.holds, value_congr engine one other condition same]

end StatTable.Sql
