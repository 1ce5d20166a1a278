import StatTable.Text.Quoted

set_option autoImplicit false

namespace StatTable.Sql

inductive Dialect where
  | postgres
  | sqlite
deriving DecidableEq, Inhabited

namespace Dialect

def name : Dialect → String
  | .postgres => "postgres"
  | .sqlite => "sqlite"

def quotedName : Dialect → String → String
  | .postgres, name => Text.quoted '"' name
  | .sqlite, name => Text.quoted '"' name

def quotedString : Dialect → String → String
  | .postgres, s => Text.quoted '\'' s
  | .sqlite, s => Text.quoted '\'' s

def boolText : Dialect → Bool → String
  | .postgres, true => "true"
  | .postgres, false => "false"
  | .sqlite, true => "1"
  | .sqlite, false => "0"

def caselessLike : Dialect → String
  | .postgres => "ILIKE"
  | .sqlite => "LIKE"

def placesNulls : Dialect → Bool
  | .postgres => true
  | .sqlite => true

theorem quoted_name (dialect : Dialect) (name : String) :
    dialect.quotedName name = Text.quoted '"' name := by
  cases dialect <;> rfl

theorem quoted_string (dialect : Dialect) (s : String) :
    dialect.quotedString s = Text.quoted '\'' s := by
  cases dialect <;> rfl

structure Unknown where
  text : String

def Unknown.message (unknown : Unknown) : String :=
  "unknown SQL dialect '" ++ unknown.text ++ "' (expected 'postgres' or 'sqlite')"

def parse (text : String) : Except Unknown Dialect :=
  let lower := text.toLower
  if lower = "postgres" ∨ lower = "postgresql" ∨ lower = "pg" then .ok .postgres
  else if lower = "sqlite" ∨ lower = "sqlite3" then .ok .sqlite
  else .error ⟨text⟩

end Dialect

end StatTable.Sql
