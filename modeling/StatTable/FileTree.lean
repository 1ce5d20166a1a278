set_option autoImplicit false

namespace StatTable

inductive FileProblem where
  | missing
  | directory
  | notDirectory
  | occupied
  | nameTooLong
  | zeroInPath
  | notText
  | other (reason : String)

def FileProblem.message : FileProblem → String
  | .missing => "No such file or directory (os error 2)"
  | .directory => "Is a directory (os error 21)"
  | .notDirectory => "Not a directory (os error 20)"
  | .occupied => "File exists (os error 17)"
  | .nameTooLong => "File name too long (os error 36)"
  | .zeroInPath => "file name contained an unexpected NUL byte"
  | .notText => "stream did not contain valid UTF-8"
  | .other reason => reason

def pathNames (path : String) : List String :=
  let names := (path.toList.splitOnP (· == '/')).map String.ofList
  match names.getLast? with
  | some "" => names.dropLast.filter (· ≠ "") ++ ["."]
  | _ => names.filter (· ≠ "")

def isAbsolute (path : String) : Bool := path.toList.head? = some '/'

def directoryAround (path : String) : String :=
  (if isAbsolute path then "/" else "") ++
    String.intercalate "/" ((pathNames path).filter (· ≠ ".")).dropLast

abbrev Place := List String

inductive Entry where
  | file (text : Except FileProblem String)
  | directory
  | link (target : Place)

structure FileTree where
  here : Place
  -- What stands where. The directories around an entry need no entries of their own.
  entries : List (Place × Entry)

namespace FileTree

def nameLimit : Nat := 255

def pathLimit : Nat := 4095

def start (tree : FileTree) (path : String) : Place := if isAbsolute path then [] else tree.here

def addFile (tree : FileTree) (path text : String) : FileTree :=
  let place := tree.start path ++ (pathNames path).filter (· ≠ ".")
  { tree with entries := tree.entries ++ [(place, .file (.ok text))] }

def entry? (tree : FileTree) (place : Place) : Option Entry :=
  match tree.entries.lookup place with
  | some entry => some entry
  | none =>
      if place.isPrefixOf tree.here || tree.entries.any (fun entry => place.isPrefixOf entry.1)
      then some .directory
      else none

def step (tree : FileTree) (place : Place) (name : String) : Place :=
  if name = "." then place
  else if name = ".." then place.dropLast
  else
    let next := place ++ [name]
    match tree.entries.lookup next with
    | some (.link target) => target
    | _ => next

def follow (tree : FileTree) : Place → List String → Except FileProblem Place
  | place, [] => .ok place
  | place, name :: rest =>
      match tree.entry? place with
      | none => .error .missing
      | some (.file _) => .error .notDirectory
      | some _ =>
          if nameLimit < name.utf8ByteSize then .error .nameTooLong
          else tree.follow (tree.step place name) rest

def find (tree : FileTree) (path : String) : Except FileProblem Place :=
  if path = "" then .error .missing
  else if path.toList.contains '\x00' then .error .zeroInPath
  else if pathLimit < path.utf8ByteSize then .error .nameTooLong
  else tree.follow (tree.start path) (pathNames path)

def read (tree : FileTree) (path : String) : Except FileProblem String := do
  match tree.entry? (← tree.find path) with
  | some (.file text) => text
  | some .directory => .error .directory
  | _ => .error .missing

def addDirectory (tree : FileTree) (place : Place) : Except FileProblem FileTree :=
  match tree.entry? place with
  | none => .ok { tree with entries := tree.entries ++ [(place, .directory)] }
  | some (.file _) => .error .occupied
  | some _ => .ok tree

-- The tree with the directory that names lead to from a place, the last name first. Where the
-- directory around it is missing, that one is made before it.
def makeFrom (tree : FileTree) (place : Place) : List String → Except FileProblem FileTree
  | [] => .ok tree
  | name :: around =>
      let names := (name :: around).reverse
      match tree.follow place names with
      | .ok found => tree.addDirectory found
      | .error .missing => do
          let made ← tree.makeFrom place around
          made.addDirectory (← made.follow place names)
      | .error problem => .error problem

def makeDirectories (tree : FileTree) (path : String) : Except FileProblem FileTree :=
  if path.toList.contains '\x00' then .error .zeroInPath
  else if pathLimit < path.utf8ByteSize then .error .nameTooLong
  else tree.makeFrom (tree.start path) (pathNames path).reverse

end FileTree

end StatTable
