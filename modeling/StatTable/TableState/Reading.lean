import StatTable.TableState.Problem

/-
Reading a table state from a document. Every problem of the document is reported: the parts are
checked on their own, and the problems of all of them are put together in the order of the parts.
-/

set_option autoImplicit false

namespace StatTable.TableState

abbrev Checked (α : Type) : Type := Except (List Problem) α

namespace Checked

variable {α β : Type}

def problems : Checked α → List Problem
  | .ok _ => []
  | .error problems => problems

def refuse (path : Path) (cause : Cause) : Checked α := .error [⟨path, cause⟩]

def both : Checked α → Checked β → Checked (α × β)
  | .ok a, .ok b => .ok (a, b)
  | a, b => .error (a.problems ++ b.problems)

def all : List (Checked α) → Checked (List α)
  | [] => .ok []
  | part :: rest => (both part (all rest)).map fun (a, as) => a :: as

end Checked

def sectionItems (document : Json.Value) (name : String) :
    Checked (List (Path × Json.Value)) :=
  let path : Path := [.field name]
  match document.given? name with
  | none => .ok []
  | some (.array items) => .ok (items.zipIdx.map fun (item, i) => (path.index i, item))
  | some _ => .refuse path .notAnArray

def readSection {α : Type} (document : Json.Value) (name : String)
    (read : Path → Json.Value → Checked α) : Checked (List α) := do
  let items ← sectionItems document name
  Checked.all (items.map fun (path, item) => read path item)

def aliased (names : List String) (value : Json.Value) : Option (String × Json.Value) :=
  names.findSome? fun name => (value.given? name).map fun member => (name, member)

def isLower (c : Char) : Bool := 'a' ≤ c && c ≤ 'z'

def isIdChar (c : Char) : Bool := isLower c || ('0' ≤ c && c ≤ '9') || c == '_'

def isId : List Char → Bool
  | [] => false
  | c :: rest => isLower c && rest.all isIdChar

def readId (path : Path) : Json.Value → Checked String
  | .string id =>
      if isId id.toList then .ok id
      else if id = "" then .refuse path .idEmpty
      else .refuse path (.idNotSnakeCase id)
  | _ => .refuse path .idNotText

def paramsPath (path : Path) (key : String) : Path :=
  if key = "" then path.field "params" else (path.field "params").field key

def readParams (path : Path) (value : Json.Value) : Checked Params :=
  match value.given? "params" with
  | none => .ok .empty
  | some params =>
      match Params.ofJson params with
      | .ok params => .ok params
      | .error problems =>
          .error (problems.map fun problem => ⟨paramsPath path problem.key, .params problem⟩)

def readIdMember (path : Path) (value : Json.Value) : Checked String :=
  match aliased ["column_id", "id"] value with
  | some (name, id) => readId (path.field name) id
  | none => .refuse (path.field "column_id") .idMissing

def readColumn (path : Path) : Json.Value → Checked ColumnSpec
  | .string id => (readId path (.string id)).map fun id => ⟨id, .empty⟩
  | .object members =>
      let value := Json.Value.object members
      (Checked.both (readIdMember path value) (readParams path value)).map fun (id, params) =>
        ⟨id, params⟩
  | _ => .refuse path .notAColumn

def readOperator (path : Path) (value : Json.Value) : Checked FilterOperator :=
  let path := path.field "operator"
  match value.get? "operator" with
  | none => .refuse path .operatorMissing
  | some (.string text) =>
      match FilterOperator.parse text with
      | .ok operator => .ok operator
      | .error unknown => .refuse path (.operatorUnknown unknown)
  | some _ => .refuse path .operatorNotText

def readShape (shape : OperandShape) (value : Option Json.Value) :
    Except OperandFault (Option Operand) :=
  match shape, value with
  | .none, none => .ok none
  | .none, some _ => .error .unwanted
  | _, none => .error .missing
  | .list, some (.array []) => .error .emptyList
  | .list, some (.array items) =>
      match items.mapM Scalar.ofJson with
      | some scalars => .ok (some (.list (Scalar.ascending scalars)))
      | none => .error .notScalars
  | .list, some _ => .error .notAList
  | .pattern, some (.string s) => .ok (some (.scalar (.text s)))
  | .pattern, some _ => .error .notAPattern
  | .scalar, some value =>
      match Scalar.ofJson value with
      | some s => .ok (some (.scalar s))
      | none => .error .notAScalar

def readOperand (path : Path) (operator : FilterOperator) (value : Json.Value) :
    Checked (Option Operand) :=
  match readShape operator.shape (value.given? "value") with
  | .ok operand => .ok operand
  | .error fault => .refuse (path.field "value") (.operand operator fault)

-- An operator and its value; without an operator the value cannot be checked.
def readComparison (path : Path) (value : Json.Value) :
    Checked (FilterOperator × Option Operand) := do
  let operator ← readOperator path value
  let operand ← readOperand path operator value
  return (operator, operand)

def readFilter (path : Path) : Json.Value → Checked FilterClause
  | .object members =>
      let value := Json.Value.object members
      (Checked.both (readColumn path value) (readComparison path value)).map
        fun (column, operator, operand) => ⟨column.id, operator, operand, column.params⟩
  | _ => .refuse path .filterNotAnObject

def countOfJson : Json.Value → Option UInt64
  | .number n =>
      match n.toUInt64? with
      | some count => some count
      | none =>
          match n.toBinary64.toInt? with
          | some i =>
              if 0 ≤ i ∧ i ≤ UInt64.size then some (UInt64.ofNat (min i.toNat (UInt64.size - 1)))
              else none
          | none => none
  | _ => none

def readOccurrence (path : Path) (value : Json.Value) : Checked UInt64 :=
  match aliased ["column_index", "occurrence", "occurrence_index"] value with
  | none => .ok 0
  | some (name, member) =>
      match countOfJson member with
      | some count => .ok count
      | none => .refuse (path.field name) .occurrence

def directionOfJson : Json.Value → Option Bool
  | .bool b => some b
  | .number (.integer 0) => some false
  | .number (.integer 1) => some true
  | .string s =>
      let lower := s.toLower
      if lower = "desc" ∨ lower = "true" ∨ lower = "1" then some true
      else if lower = "asc" ∨ lower = "false" ∨ lower = "0" then some false
      else none
  | _ => none

def readDirection (path : Path) (value : Json.Value) : Checked Bool :=
  match aliased ["desc", "descending"] value with
  | none => .ok false
  | some (name, member) =>
      match directionOfJson member with
      | some descending => .ok descending
      | none => .refuse (path.field name) .direction

def readSort (path : Path) : Json.Value → Checked SortClause
  | .object members =>
      let value := Json.Value.object members
      (Checked.both (readColumn path value)
        (Checked.both (readOccurrence path value) (readDirection path value))).map
        fun (column, occurrence, descending) => ⟨column.id, occurrence, descending, column.params⟩
  | _ => .refuse path .sortNotAnObject

def splitOfJson : Json.Value → Except Cause Split
  | .string s =>
      match Split.parse s with
      | .ok split => .ok split
      | .error unknown => .error (.splitUnknown unknown)
  | _ => .error .splitNotText

def collectSplits : List Split → List (Path × Json.Value) → List Split × List Problem
  | done, [] => (done, [])
  | done, (path, item) :: rest =>
      match splitOfJson item with
      | .error cause =>
          let (splits, problems) := collectSplits done rest
          (splits, ⟨path, cause⟩ :: problems)
      | .ok split =>
          if split ∈ done then
            let (splits, problems) := collectSplits done rest
            (splits, ⟨path, .splitRepeated split⟩ :: problems)
          else collectSplits (done ++ [split]) rest

def readSplits (document : Json.Value) : Checked (List Split) := do
  let items ← sectionItems document "splits"
  let (splits, problems) := collectSplits [] items
  let orphan : List Problem :=
    if .week ∈ splits ∧ .year ∉ splits then [⟨[.field "splits"], .weekWithoutYear⟩] else []
  match problems ++ orphan with
  | [] => .ok splits
  | problems => .error problems

def readOffset (document : Json.Value) : Checked UInt64 :=
  match document.given? "offset" with
  | none => .ok 0
  | some value =>
      match countOfJson value with
      | some offset => .ok offset
      | none => .refuse [.field "offset"] .offset

def readLimit (limits : Limits) (document : Json.Value) : Checked (Option UInt64) :=
  let path : Path := [.field "limit"]
  match document.given? "limit" with
  | none => .ok none
  | some value =>
      match countOfJson value with
      | none => .refuse path .limit
      | some limit =>
          if limit = 0 then .refuse path .limitZero
          else if limits.maximum < limit then .refuse path (.limitTooLarge limit limits.maximum)
          else .ok (some limit)

def ofJson (limits : Limits) : Json.Value → Checked TableState
  | .object members =>
      let document := Json.Value.object members
      (Checked.both (readSection document "prefix_columns" readColumn)
        (Checked.both (readSection document "columns" readColumn)
        (Checked.both (readSection document "where" readFilter)
        (Checked.both (readSection document "sort" readSort)
        (Checked.both (readSplits document)
        (Checked.both (readOffset document) (readLimit limits document))))))).map
        fun (leading, columns, filters, sorts, splits, offset, limit) =>
          ⟨leading, columns, filters, sorts, splits, offset, limit⟩
  | _ => .refuse [] .notAnObject

end StatTable.TableState
