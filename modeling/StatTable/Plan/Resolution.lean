import StatTable.Catalog.Relation
import StatTable.Plan.Problem

set_option autoImplicit false

namespace StatTable.Plan

def readOffset : Option ParamValue → Except ParamProblem Int64
  | none => .ok 0
  | some value =>
      match value.toInt64? with
      | some offset => .ok offset
      | none => .error (.invalid .yearOffset .offsetNotInteger)

-- The year of a request: the one it names, moved back by the offset, or else, if the results are
-- not split by year, that many years before the default year.
def resolveYear (year : Option ParamValue) (offset : Int64) (isSplit : Bool)
    (defaults : Defaults) : Except ParamProblem (Option ParamValue) :=
  let outOfRange : ParamProblem := .invalid .yearOffset (.yearOutOfRange offset)
  match year with
  | some year =>
      match (negWord? offset).bind fun delta => year.shift? delta with
      | some shifted => .ok (some shifted)
      | none => .error outOfRange
  | none =>
      if isSplit then .ok none
      else
        match subWords? defaults.year offset with
        | some year => .ok (some (.scalar (.integer year)))
        | none => .error outOfRange

def setParam (params : Params) (key : ParamKey) : Option ParamValue → Params
  | some value => params.insert key value
  | none => params.erase key

def keptOffset (offset : Int64) (isSplit : Bool) : Option ParamValue :=
  if isSplit && offset != 0 then some (.scalar (.integer offset)) else none

def withYear (relation : Relation) (splits : List Split) (defaults : Defaults) (params : Params) :
    Except ParamProblem Params :=
  if relation.yearColumn.isNone then .ok params
  else do
    let isSplit := splits.contains .year
    let offset ← readOffset (params.get? .yearOffset)
    let year ← resolveYear (params.get? .year) offset isSplit defaults
    return setParam (setParam params .year year) .yearOffset (keptOffset offset isSplit)

def defaultWeek (defaults : Defaults) : WeekDefault → Option Int64
  | .allWeeks => none
  | .fixed week => some week
  | .current => some defaults.week

def withWeek (relation : Relation) (splits : List Split) (defaults : Defaults) (params : Params) :
    Params :=
  if relation.weekColumn.isSome && !params.contains .week && !splits.contains .week then
    match defaultWeek defaults relation.weekDefault with
    | some week => params.insert .week (.scalar (.integer week))
    | none => params
  else params

def withDefault (defaults : Defaults) (params : Params) (column : ParamColumn) : Params :=
  match column.default with
  | some field =>
      if params.contains column.key then params
      else params.insert column.key (.scalar (defaults.get field))
  | none => params

def requireSatisfiable (params : Params) : Except ParamProblem Params :=
  let unsatisfiable := params.toList.findSome? fun entry =>
    entry.2.unsatisfiable?.map fun reason => ParamProblem.unsatisfiable entry.1 reason
  match unsatisfiable with
  | some problem => .error problem
  | none => .ok params

def resolve (relation : Relation) (splits : List Split) (defaults : Defaults) (params : Params) :
    Except ParamProblem Params := do
  let dated ← withYear relation splits defaults (params.filter relation.accepts)
  let scheduled := withWeek relation splits defaults dated
  requireSatisfiable (relation.params.foldl (withDefault defaults) scheduled)

def isSplitKey (splits : List Split) : ParamKey → Bool
  | .year => splits.contains .year
  | .week => splits.contains .week
  | _ => false

def requireSingleValues (splits : List Split) (params : Params) : Except ParamProblem Params :=
  let ambiguous := params.toList.find? fun entry =>
    !isSplitKey splits entry.1 && entry.2.toScalar?.isNone
  match ambiguous with
  | some entry => .error (.ambiguous entry.1)
  | none => .ok params

end StatTable.Plan
