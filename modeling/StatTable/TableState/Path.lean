import StatTable.Text.Decimal

set_option autoImplicit false

namespace StatTable

inductive Segment where
  | field (name : String)
  | index (i : Nat)
deriving DecidableEq

abbrev Path : Type := List Segment

namespace Path

def field (path : Path) (name : String) : Path := path ++ [.field name]

def index (path : Path) (i : Nat) : Path := path ++ [.index i]

def clauseIndex? : Path → Option Nat
  | [] => none
  | .index i :: _ => some i
  | .field _ :: rest => clauseIndex? rest

def segmentText : Segment → String
  | .field name => "." ++ name
  | .index i => "[" ++ Text.decimal i ++ "]"

-- The text of a path: a dot before each field but a leading one, and each index in brackets. The
-- empty path, which leads to the document itself, is a dollar sign.
def text : Path → String
  | [] => "$"
  | .field name :: rest => name ++ String.join (rest.map segmentText)
  | path => String.join (path.map segmentText)

end Path

end StatTable
