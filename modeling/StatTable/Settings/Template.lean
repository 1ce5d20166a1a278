import StatTable.Text.Alphanumeric

set_option autoImplicit false

namespace StatTable

inductive TemplatePart where
  | literal (c : Char)
  | variable (name : List Char)
deriving DecidableEq

abbrev Template : Type := List TemplatePart

namespace Template

def isNameChar (c : Char) : Bool := Text.isAlphanumeric c || c == '_'

def part : List Char → TemplatePart
  | [] => .literal '$'
  | name => .variable name

def ofChars : List Char → Template
  | [] => []
  | '$' :: '\x7b' :: rest =>
      part (rest.takeWhile (· != '\x7d')) :: ofChars ((rest.dropWhile (· != '\x7d')).drop 1)
  | '$' :: rest => part (rest.takeWhile isNameChar) :: ofChars (rest.dropWhile isNameChar)
  | c :: rest => .literal c :: ofChars rest
termination_by cs => cs.length
decreasing_by
  all_goals
    have braced := (List.dropWhile_suffix (l := rest) (· != '\x7d')).length_le
    have bare := (List.dropWhile_suffix (l := rest) isNameChar).length_le
    simp only [List.length_cons, List.length_drop]
    omega

def parse (text : String) : Template := ofChars text.toList

def names (template : Template) : List String :=
  template.filterMap fun part =>
    match part with
    | .literal _ => none
    | .variable name => some (String.ofList name)

def fillPart (values : String → Option String) : TemplatePart → Except String (List Char)
  | .literal c => .ok [c]
  | .variable name =>
      match values (String.ofList name) with
      | some value => .ok value.toList
      | none => .error (String.ofList name)

-- The text with the values of the variables put in as they are; the first name that has no value is
-- an error.
def fill (values : String → Option String) (template : Template) : Except String String := do
  let pieces ← template.mapM (fillPart values)
  return String.ofList pieces.flatten

end Template

end StatTable
