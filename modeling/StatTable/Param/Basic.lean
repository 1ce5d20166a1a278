import StatTable.Param.Key
import StatTable.Param.Value

set_option autoImplicit false

namespace StatTable

structure Params where
  get? : ParamKey → Option ParamValue

namespace Params

@[ext]
theorem ext {a b : Params} (same : ∀ key, a.get? key = b.get? key) : a = b := by
  cases a
  cases b
  congr
  exact funext same

def empty : Params := ⟨fun _ => none⟩

def insert (params : Params) (key : ParamKey) (value : ParamValue) : Params :=
  ⟨fun k => if k = key then some value else params.get? k⟩

def erase (params : Params) (key : ParamKey) : Params :=
  ⟨fun k => if k = key then none else params.get? k⟩

def filter (params : Params) (keep : ParamKey → Bool) : Params :=
  ⟨fun k => if keep k then params.get? k else none⟩

def contains (params : Params) (key : ParamKey) : Bool := (params.get? key).isSome

def keys (params : Params) : List ParamKey := ParamKey.all.filter params.contains

def toList (params : Params) : List (ParamKey × ParamValue) :=
  ParamKey.all.filterMap fun key => (params.get? key).map fun value => (key, value)

def isEmpty (params : Params) : Bool := params.keys.isEmpty

def ofList (entries : List (ParamKey × ParamValue)) : Params :=
  entries.foldl (fun params entry => params.insert entry.1 entry.2) empty

inductive Problem where
  | notAnObject
  | unknownKey (unknown : ParamKey.Unknown)
  | badValue (key : String) (problem : ParamValue.Problem)

def Problem.key : Problem → String
  | .notAnObject => ""
  | .unknownKey unknown => unknown.text
  | .badValue key _ => key

def Problem.message : Problem → String
  | .notAnObject => "params must be an object"
  | .unknownKey unknown => unknown.message
  | .badValue _ problem => problem.message

def readEntry (member : String × Json.Value) : Except Problem (ParamKey × ParamValue) :=
  match ParamKey.parse member.1 with
  | .error unknown => .error (.unknownKey unknown)
  | .ok key =>
      match ParamValue.ofJson member.2 with
      | .error problem => .error (.badValue member.1 problem)
      | .ok value => .ok (key, value)

def problemOf (result : Except Problem (ParamKey × ParamValue)) : Option Problem :=
  match result with
  | .error problem => some problem
  | .ok _ => none

def ofJson : Json.Value → Except (List Problem) Params
  | .object members =>
      let results := members.map readEntry
      match results.filterMap problemOf with
      | [] => .ok (ofList (results.filterMap (·.toOption)))
      | problems => .error problems
  | _ => .error [.notAnObject]

def toJson (params : Params) : Json.Value :=
  .object (params.toList.map fun entry => (entry.1.name, entry.2.toJson))

end Params

end StatTable
