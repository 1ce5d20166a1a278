import StatTable.Json.Token

set_option autoImplicit false

namespace StatTable.Json

-- An open array, an open object between members, or an open object whose next member has a name
-- already. What an open one holds so far is listed backwards.
inductive Frame where
  | array (items : List Value)
  | object (members : List (String × Value))
  | member (members : List (String × Value)) (name : String)

inductive Expect where
  | value
  | valueOrClose
  | name
  | nameOrClose
  | colon
  | separator
  | finish (value : Value)

structure Reading where
  stack : List Frame
  expect : Expect

def maxDepth : Nat := 127

def Reading.start : Reading := ⟨[], .value⟩

def Reading.complete (value : Value) : List Frame → Option Reading
  | [] => some ⟨[], .finish value⟩
  | .array items :: stack => some ⟨.array (value :: items) :: stack, .separator⟩
  | .member members name :: stack => some ⟨.object ((name, value) :: members) :: stack, .separator⟩
  | .object _ :: _ => none

def Reading.openFrame (frame : Frame) (expect : Expect) (stack : List Frame) : Option Reading :=
  if stack.length < maxDepth then some ⟨frame :: stack, expect⟩ else none

def Reading.takeValue (stack : List Frame) : Token → Option Reading
  | .null => complete .null stack
  | .bool b => complete (.bool b) stack
  | .number n => complete (.number n) stack
  | .string s => complete (.string s) stack
  | .openBracket => openFrame (.array []) .valueOrClose stack
  | .openBrace => openFrame (.object []) .nameOrClose stack
  | _ => none

def Reading.takeName : List Frame → Token → Option Reading
  | .object members :: stack, .string name => some ⟨.member members name :: stack, .colon⟩
  | _, _ => none

def Reading.close : List Frame → Token → Option Reading
  | .array items :: stack, .closeBracket => complete (.array items.reverse) stack
  | .object members :: stack, .closeBrace => complete (Value.ofMembers members.reverse) stack
  | _, _ => none

def Reading.next (reading : Reading) (token : Token) : Option Reading :=
  match reading.expect, token with
  | .value, token => takeValue reading.stack token
  | .valueOrClose, .closeBracket => close reading.stack .closeBracket
  | .valueOrClose, token => takeValue reading.stack token
  | .name, token => takeName reading.stack token
  | .nameOrClose, .closeBrace => close reading.stack .closeBrace
  | .nameOrClose, token => takeName reading.stack token
  | .colon, .colon => some ⟨reading.stack, .value⟩
  | .separator, .comma =>
      match reading.stack with
      | .array _ :: _ => some ⟨reading.stack, .value⟩
      | _ => some ⟨reading.stack, .name⟩
  | .separator, token => close reading.stack token
  | _, _ => none

def Reading.result? (reading : Reading) : Option Value :=
  match reading.expect with
  | .finish value => some value
  | _ => none

def read (text : String) : Option Value := do
  let tokens ← tokens text.toList
  let reading ← tokens.foldlM Reading.next Reading.start
  reading.result?

end StatTable.Json
