import StatTable.Json.Basic

set_option autoImplicit false

namespace StatTable

structure Rows where
  columns : List String
  rows : List (List Json.Value)

namespace Rows

def size (rows : Rows) : Nat := rows.rows.length

def isEmpty (rows : Rows) : Bool := rows.rows.isEmpty

-- Each row as an object. Cells without a name and names without a cell are left out; of several
-- cells of one name the last one stays.
def toMaps (rows : Rows) : List Json.Value :=
  rows.rows.map fun row => .ofMembers (rows.columns.zip row)

def column? (rows : Rows) (name : String) : Option (List Json.Value) := do
  let index ← rows.columns.findIdx? (· == name)
  rows.rows.mapM fun row => row[index]?

end Rows

end StatTable
