import StatTable.Binary64.Rounding
import StatTable.Word

set_option autoImplicit false

namespace StatTable.Json

inductive Number where
  | integer (n : Int)
  | binary (x : Binary64)
deriving DecidableEq

inductive Value where
  | null
  | bool (b : Bool)
  | number (n : Number)
  | string (s : String)
  | array (items : List Value)
  | object (members : List (String × Value))

def insertMember (name : String) (value : Value) : List (String × Value) → List (String × Value)
  | [] => [(name, value)]
  | (other, old) :: rest =>
      if name < other then (name, value) :: (other, old) :: rest
      else if name = other then (name, value) :: rest
      else (other, old) :: insertMember name value rest

def sortMembers (members : List (String × Value)) : List (String × Value) :=
  members.foldl (fun sorted member => insertMember member.1 member.2 sorted) []

def Value.ofMembers (members : List (String × Value)) : Value :=
  .object (sortMembers members)

def Value.isNull : Value → Bool
  | .null => true
  | _ => false

def Value.get? (name : String) : Value → Option Value
  | .object members => members.lookup name
  | _ => none

-- The member of a name, unless it is absent or null.
def Value.given? (name : String) (value : Value) : Option Value :=
  (value.get? name).filter (!·.isNull)

def Number.toBinary64 : Number → Binary64
  | .integer n => Binary64.ofInt n
  | .binary x => x

def Number.toInt64? : Number → Option Int64
  | .integer n => toWord? n
  | .binary _ => none

def Number.toUInt64? : Number → Option UInt64
  | .integer n => if 0 ≤ n ∧ n < UInt64.size then some (UInt64.ofNat n.toNat) else none
  | .binary _ => none

end StatTable.Json
