import StatTable.Toml.Lexeme

/-
Reading TOML documents. A path has at most 80 names, and at most 80 arrays and tables may stand in
one another. Every step of a reader takes at least one character, so that the length of the text
bounds how many steps there are; the readers count down from it.
-/

set_option autoImplicit false

namespace StatTable.Toml

def depthLimit : Nat := 80

mutual

def readValue : Nat → Nat → List Char → Option (Value × List Char)
  | 0, _, _ => none
  | bound + 1, room, cs =>
      match cs with
      | '[' :: rest =>
          match room with
          | 0 => none
          | room + 1 => (readItems bound room rest).map fun (items, rest) => (.array items, rest)
      | '\x7b' :: rest =>
          match room with
          | 0 => none
          | room + 1 =>
              (readMembers bound room [] rest).map fun (members, rest) =>
                (.table .braces members, rest)
      | cs =>
          if cs.head? = some '"' ∨ cs.head? = some '\'' then
            (readString cs).map fun (s, rest) => (.string (String.ofList s), rest)
          else (word? (takeWord cs).1).map fun value => (value, (takeWord cs).2)

def readItems : Nat → Nat → List Char → Option (List Value × List Char)
  | 0, _, _ => none
  | bound + 1, room, cs => do
      match ← skipFiller false cs with
      | ']' :: rest => return ([], rest)
      | rest =>
          let (item, rest) ← readValue bound room rest
          match ← skipFiller false rest with
          | ',' :: rest =>
              let (items, rest) ← readItems bound room rest
              return (item :: items, rest)
          | ']' :: rest => return ([item], rest)
          | _ => none

def readMembers : Nat → Nat → Members → List Char → Option (Members × List Char)
  | 0, _, _, _ => none
  | bound + 1, room, members, cs => do
      match ← skipFiller false cs with
      | '\x7d' :: rest => return (members, rest)
      | rest =>
          let (path, rest) ← readPath depthLimit rest
          match ← skipFiller false rest with
          | '=' :: rest =>
              let (value, rest) ← readValue bound room (← skipFiller false rest)
              let members ← members.assign value path
              match ← skipFiller false rest with
              | ',' :: rest => readMembers bound room members rest
              | '\x7d' :: rest => return (members, rest)
              | _ => none
          | _ => none

end

inductive Statement where
  | header (path : List String)
  | element (path : List String)
  | assignment (path : List String) (value : Value)

def readStatement (bound : Nat) (cs : List Char) : Option (Statement × List Char) := do
  match cs with
  | '[' :: '[' :: rest =>
      match ← readPath depthLimit rest with
      | (path, ']' :: ']' :: rest) => return (.element path, rest)
      | _ => none
  | '[' :: rest =>
      match ← readPath depthLimit rest with
      | (path, ']' :: rest) => return (.header path, rest)
      | _ => none
  | cs =>
      match ← readPath depthLimit cs with
      | (path, '=' :: rest) =>
          let (value, rest) ← readValue bound depthLimit (skipSpaces rest)
          return (.assignment path value, rest)
      | _ => none

def readStatements : Nat → List Char → Option (List Statement)
  | 0, _ => none
  | bound + 1, cs => do
      match ← skipFiller false cs with
      | [] => return []
      | cs =>
          let (statement, rest) ← readStatement bound cs
          if endsLine rest then return statement :: (← readStatements bound rest) else none

structure Document where
  members : Members
  current : List String

namespace Document

def openAt (opening : String → Members → Option Members) (document : Document)
    (path : List String) : Option Document := do
  let key ← path.getLast?
  let members ← document.members.within (opening key) path.dropLast
  return ⟨members, path⟩

def step (document : Document) : Statement → Option Document
  | .header path => openAt Members.openTable document path
  | .element path => openAt Members.openElement document path
  | .assignment path value =>
      (document.members.within (·.assign value path) document.current).map fun members =>
        ⟨members, document.current⟩

end Document

def dropMark : List Char → List Char
  | '\ufeff' :: rest => rest
  | cs => cs

def read (text : String) : Option Members := do
  let cs := dropMark text.toList
  let statements ← readStatements (cs.length + 1) cs
  let document ← statements.foldlM Document.step ⟨[], []⟩
  return document.members

end StatTable.Toml
