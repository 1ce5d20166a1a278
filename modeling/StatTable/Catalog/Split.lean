set_option autoImplicit false

namespace StatTable

inductive Split where
  | year
  | week
deriving DecidableEq

namespace Split

def all : List Split := [year, week]

def name : Split → String
  | year => "year"
  | week => "week"

def rank : Split → Nat
  | year => 0
  | week => 1

structure Unknown where
  text : String

def Unknown.message (unknown : Unknown) : String :=
  "unknown split '" ++ unknown.text ++ "' (expected 'year' or 'week')"

def parse (text : String) : Except Unknown Split :=
  match all.find? (·.name == text) with
  | some split => .ok split
  | none => .error ⟨text⟩

end Split

end StatTable
