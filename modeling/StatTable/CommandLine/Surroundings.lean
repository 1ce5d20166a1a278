import StatTable.FileTree
import StatTable.Store.Basic

set_option autoImplicit false

namespace StatTable.CommandLine

structure Surroundings (m : Type → Type) where
  readFile : String → m (Except FileProblem String)
  readVariable : String → m (Option String)
  -- Opens the database in a file. What is missing of the file and the directories around it is
  -- made.
  openDatabase : String → m (Except OpenProblem Unit)

def isUnnamedDatabase (path : String) : Bool := path = "" || path = ":memory:"

def databasePathLimit : Nat := 504

def zeroPosition? (path : String) : Option Nat :=
  if path.toList.contains '\x00' then
    some (String.ofList (path.toList.takeWhile (· ≠ '\x00'))).utf8ByteSize
  else none

def openAt (tree : FileTree) (path : String) (place : Place) : Except OpenProblem Unit :=
  match tree.entry? place with
  | some .directory => .error (.file path)
  | _ =>
      if databasePathLimit < ("/" ++ String.intercalate "/" place).utf8ByteSize then
        .error (.file path)
      else .ok ()

def openIn (tree : FileTree) (path : String) : Except OpenProblem Unit := do
  let made ← (tree.makeDirectories (directoryAround path)).mapError .directory
  if isUnnamedDatabase path then .ok ()
  else
    match zeroPosition? path with
    | some position => .error (.zeroInPath position)
    | none =>
        match made.follow (made.start path) ((pathNames path).filter (· ≠ ".")) with
        | .ok place => openAt made path place
        | .error _ => .error (.file path)

def Surroundings.ofTree (tree : FileTree) (values : List (String × String)) : Surroundings Id :=
  ⟨tree.read, fun name => values.lookup name, openIn tree⟩

end StatTable.CommandLine
