import StatTable.Plan.Basic

set_option autoImplicit false

namespace StatTable.QueryPlan

def selection (output : Output) : Sql.Selection := ⟨output.expr, some output.name⟩

-- An offset of zero is left out.
def page (plan : QueryPlan) : Sql.Page :=
  ⟨some plan.limit, if plan.offset = 0 then none else some plan.offset⟩

def query (plan : QueryPlan) : Sql.Query where
  withs := plan.stages.map fun stage => (stage.name, stage.query)
  selections := plan.outputs.map selection
  source := some plan.base
  joins := plan.joins.map (·.join)
  filter := Sql.Expr.conjunction plan.filters
  groupBy := plan.groupBy
  having := none
  orderBy := plan.orderBy
  page := some plan.page

end StatTable.QueryPlan
