import StatTable.Json.Basic
import StatTable.Binary64.Layout
import StatTable.Text.Decimal

set_option autoImplicit false

namespace StatTable.Json

def hexChars (n : Nat) : List Char := Nat.toDigits 16 n

def escapeChar (c : Char) : List Char :=
  if c = '"' then ['\\', '"']
  else if c = '\\' then ['\\', '\\']
  else if c = '\n' then ['\\', 'n']
  else if c = '\r' then ['\\', 'r']
  else if c = '\t' then ['\\', 't']
  else if c = '\x08' then ['\\', 'b']
  else if c = '\x0c' then ['\\', 'f']
  else if c.toNat < 0x10 then ['\\', 'u', '0', '0', '0'] ++ hexChars c.toNat
  else if c.toNat < 0x20 then ['\\', 'u', '0', '0'] ++ hexChars c.toNat
  else [c]

def quote (s : String) : List Char :=
  '"' :: s.toList.flatMap escapeChar ++ ['"']

def Number.chars : Number → List Char
  | .integer n => Text.decimalChars n
  | .binary x => (x.text .json).toList

mutual

def Value.chars : Value → List Char
  | .null => "null".toList
  | .bool b => (if b then "true" else "false").toList
  | .number n => n.chars
  | .string s => quote s
  | .array items => '[' :: itemChars items ++ [']']
  | .object members => '\x7b' :: memberChars members ++ ['\x7d']

def itemChars : List Value → List Char
  | [] => []
  | [item] => item.chars
  | item :: rest => item.chars ++ ',' :: itemChars rest

def memberChars : List (String × Value) → List Char
  | [] => []
  | [(name, value)] => quote name ++ ':' :: value.chars
  | (name, value) :: rest => quote name ++ ':' :: value.chars ++ ',' :: memberChars rest

end

def Value.text (value : Value) : String := String.ofList value.chars

def newline (depth : Nat) : List Char := '\n' :: List.replicate (2 * depth) ' '

mutual

def Value.prettyChars (depth : Nat) : Value → List Char
  | .array [] => ['[', ']']
  | .object [] => ['\x7b', '\x7d']
  | .array items => '[' :: prettyItems (depth + 1) items ++ newline depth ++ [']']
  | .object members =>
      '\x7b' :: prettyMembers (depth + 1) members ++ newline depth ++ ['\x7d']
  | .null => Value.null.chars
  | .bool b => (Value.bool b).chars
  | .number n => n.chars
  | .string s => quote s

def prettyItems (depth : Nat) : List Value → List Char
  | [] => []
  | [item] => newline depth ++ item.prettyChars depth
  | item :: rest => newline depth ++ item.prettyChars depth ++ ',' :: prettyItems depth rest

def prettyMembers (depth : Nat) : List (String × Value) → List Char
  | [] => []
  | [(name, value)] => newline depth ++ quote name ++ ':' :: ' ' :: value.prettyChars depth
  | (name, value) :: rest =>
      newline depth ++ quote name ++ ':' :: ' ' :: value.prettyChars depth ++
        ',' :: prettyMembers depth rest

end

def Value.pretty (value : Value) : String := String.ofList (value.prettyChars 0)

end StatTable.Json
