import StatTable.Binary64.Basic

set_option autoImplicit false

namespace StatTable.Toml

inductive Origin where
  | braces
  | header
  | dottedKey
  | innerHeader
deriving DecidableEq

inductive Value where
  | string (s : String)
  | integer (n : Int)
  | float (x : Option Binary64)
  | bool (b : Bool)
  | dateTime
  | array (items : List Value)
  | table (origin : Origin) (members : List (String × Value))
  | tables (elements : List (List (String × Value)))

abbrev Members : Type := List (String × Value)

mutual

def Value.fits : Value → Bool
  | .integer n =>
      decide (-170141183460469231731687303715884105728 ≤ n) &&
        decide (n < 340282366920938463463374607431768211456)
  | .float x => x.isSome
  | .array items => allFit items
  | .table _ members => membersFit members
  | .tables elements => elementsFit elements
  | .string _ | .bool _ | .dateTime => true

def allFit : List Value → Bool
  | [] => true
  | item :: rest => item.fits && allFit rest

def membersFit : List (String × Value) → Bool
  | [] => true
  | (_, value) :: rest => value.fits && membersFit rest

def elementsFit : List (List (String × Value)) → Bool
  | [] => true
  | members :: rest => membersFit members && elementsFit rest

end

namespace Members

def replace (key : String) (value : Value) (members : Members) : Members :=
  members.map fun member => if member.1 = key then (key, value) else member

def add (key : String) (value : Value) (members : Members) : Option Members :=
  if (members.lookup key).isNone then some (members ++ [(key, value)]) else none

def changeLast (change : Members → Option Members) : List Members → Option (List Members)
  | [] => none
  | [last] => (change last).map ([·])
  | element :: rest => (changeLast change rest).map (element :: ·)

-- Gives a value to a key, which dots divide into the names of tables. A table that has a header
-- takes no dotted keys from elsewhere.
def assign (value : Value) : List String → Members → Option Members
  | [], _ => none
  | [key], members => members.add key value
  | key :: next :: rest, members =>
      let inner := assign value (next :: rest)
      match members.lookup key with
      | none => (inner []).bind fun made => members.add key (.table .dottedKey made)
      | some (.table .dottedKey old) =>
          (inner old).map fun made => members.replace key (.table .dottedKey made)
      | some (.table .innerHeader old) =>
          if rest = [] then none
          else (inner old).map fun made => members.replace key (.table .innerHeader made)
      | some (.tables elements) =>
          if rest = [] then none
          else (changeLast inner elements).map fun made => members.replace key (.tables made)
      | some _ => none

def within (change : Members → Option Members) : List String → Members → Option Members
  | [], members => change members
  | key :: rest, members =>
      let inner := within change rest
      match members.lookup key with
      | none => (inner []).bind fun made => members.add key (.table .innerHeader made)
      | some (.table .braces _) => none
      | some (.table origin old) =>
          (inner old).map fun made => members.replace key (.table origin made)
      | some (.tables elements) =>
          (changeLast inner elements).map fun made => members.replace key (.tables made)
      | some _ => none

def openTable (key : String) (members : Members) : Option Members :=
  match members.lookup key with
  | none => members.add key (.table .header [])
  | some (.table .innerHeader old) => some (members.replace key (.table .header old))
  | some _ => none

def openElement (key : String) (members : Members) : Option Members :=
  match members.lookup key with
  | none => members.add key (.tables [[]])
  | some (.tables elements) => some (members.replace key (.tables (elements ++ [[]])))
  | some _ => none

end Members

end StatTable.Toml
