import StatTable.CommandLine.Basic

set_option autoImplicit false

namespace StatTable.CommandLine

def fileProblem : IO.Error → FileProblem
  | .noFileOrDirectory .. => .missing
  | .alreadyExists .. => .occupied
  | .inappropriateType _ 21 _ => .directory
  | .inappropriateType .. => .notDirectory
  | .invalidArgument (some _) .. => .nameTooLong
  | error => .other (toString error)

def readDisk (path : String) : IO (Except FileProblem String) := do
  try
    match String.fromUTF8? (← IO.FS.readBinFile path) with
    | some text => return .ok text
    | none => return .error .notText
  catch error =>
    return .error (fileProblem error)

def makeDirectory (path : String) : IO (Except FileProblem Unit) := do
  try
    IO.FS.createDir path
    return .ok ()
  catch error =>
    match ← readDisk path with
    | .error .directory => return .ok ()
    | _ => return .error (fileProblem error)

def makeFrom (start : String) : List String → IO (Except FileProblem Unit)
  | [] => return .ok ()
  | name :: around => do
      let path := start ++ String.intercalate "/" (name :: around).reverse
      match ← makeDirectory path with
      | .error .missing =>
          match ← makeFrom start around with
          | .ok () => makeDirectory path
          | .error problem => return .error problem
      | made => return made

def openDisk (path : String) : IO (Except OpenProblem Unit) := do
  if isUnnamedDatabase path then return .ok ()
  let directory := directoryAround path
  if (zeroPosition? directory).isSome then return .error (.directory .zeroInPath)
  let start := if isAbsolute path then "/" else ""
  match ← makeFrom start (pathNames directory).reverse with
  | .error problem => return .error (.directory problem)
  | .ok () =>
      match zeroPosition? path with
      | some position => return .error (.zeroInPath position)
      | none =>
          try
            let names := (pathNames path).filter (· ≠ ".")
            let _ ← IO.FS.Handle.mk (start ++ String.intercalate "/" names) .append
            return .ok ()
          catch _ =>
            return .error (.file path)

def ofProcess : Surroundings IO := ⟨readDisk, fun name => IO.getEnv name, openDisk⟩

end StatTable.CommandLine

def main (arguments : List String) : IO UInt32 := do
  match ← StatTable.CommandLine.run StatTable.CommandLine.ofProcess arguments with
  | .ok text =>
      IO.print text
      return 0
  | .error fault =>
      IO.eprint fault.message
      return fault.code
