import StatTable.Sql.Dialect

set_option autoImplicit false

namespace StatTable.CommandLine

inductive OutputForm where
  | sql
  | verbose
  | plan
deriving DecidableEq

inductive Command where
  | compile (file : String) (dialect : Option Sql.Dialect) (form : OutputForm)
  | run (file : String) (database : Option String)
  | validate (file : String)
  | columns (kind : Option String)

structure Invocation where
  configFile : Option String
  command : Command

inductive Flag where
  | config
  | dialect
  | output
  | database
  | kind
deriving DecidableEq

def Flag.long : Flag → String
  | .config => "config"
  | .dialect => "dialect"
  | .output => "output"
  | .database => "db"
  | .kind => "kind"

def Flag.short? : Flag → Option Char
  | .config => some 'c'
  | .dialect => some 'd'
  | .output => some 'o'
  | .database => none
  | .kind => some 'k'

inductive Level where
  | top
  | compile
  | run
  | validate
  | columns
deriving DecidableEq

inductive Ending where
  | usage
  | help (topic : Option Level) (isLong : Bool)
  | version
deriving DecidableEq

namespace Level

def flags : Level → List Flag
  | top => [.config]
  | compile => [.config, .dialect, .output]
  | run => [.config, .database]
  | validate => [.config]
  | columns => [.config, .kind]

def ofName : String → Option Level
  | "compile" => some compile
  | "run" => some run
  | "validate" => some validate
  | "columns" => some columns
  | _ => none

def takesFile : Level → Bool
  | top | columns => false
  | compile | run | validate => true

end Level

structure Given where
  options : List (Flag × String)
  file : Option String

def Given.none : Given := ⟨[], Option.none⟩

def Given.get? (given : Given) (flag : Flag) : Option String := given.options.lookup flag

def readDialect : String → Option Sql.Dialect
  | "postgres" => some .postgres
  | "sqlite" => some .sqlite
  | _ => none

def readForm : String → Option OutputForm
  | "sql" => some .sql
  | "verbose" => some .verbose
  | "plan" => some .plan
  | _ => none

def accepts : Flag → String → Bool
  | .config, value | .database, value => value ≠ ""
  | .dialect, value => (readDialect value).isSome
  | .output, value => (readForm value).isSome
  | .kind, _ => true

def Given.addOption (given : Given) (flag : Flag) (value : String) : Except Ending Given :=
  if (given.get? flag).isNone && accepts flag value then
    .ok { given with options := given.options ++ [(flag, value)] }
  else .error .usage

def Given.addFile (given : Given) (level : Level) (file : String) : Except Ending Given :=
  if level.takesFile && given.file.isNone && file ≠ "" then .ok { given with file := some file }
  else .error .usage

inductive Argument where
  | separator
  | long (name : String) (value : Option String)
  | short (letter : Char) (value : Option String)
  | plain (text : String)

def attached : List Char → Option String
  | [] => none
  | '=' :: value => some (String.ofList value)
  | value => some (String.ofList value)

def Argument.of (text : String) : Argument :=
  match text.toList with
  | ['-', '-'] => .separator
  | '-' :: '-' :: rest =>
      .long (String.ofList (rest.takeWhile (· != '='))) (attached (rest.dropWhile (· != '=')))
  | '-' :: letter :: rest => .short letter (attached rest)
  | _ => .plain text

inductive Wish where
  | separator
  | plain (text : String)
  | flag (flag : Flag) (value : Option String)
  | ending (ending : Ending)

def wishOf (flag : Option Flag) (value : Option String) : Wish :=
  match flag with
  | some flag => .flag flag value
  | none => .ending .usage

def longWish (level : Level) (name : String) (value : Option String) : Wish :=
  match name, value with
  | "help", none => .ending (.help (some level) true)
  | "version", none => .ending (if level = .top then .version else .usage)
  | name, value => wishOf (level.flags.find? (·.long == name)) value

def shortWish (level : Level) (letter : Char) (value : Option String) : Wish :=
  match letter with
  | 'h' => .ending (.help (some level) false)
  | 'V' => .ending (if level = .top then .version else .usage)
  | letter => wishOf (level.flags.find? (·.short? == some letter)) value

def Argument.wish (level : Level) : Argument → Wish
  | .separator => .separator
  | .plain text => .plain text
  | .long name value => longWish level name value
  | .short letter value => shortWish level letter value

def readFiles (level : Level) : Given → List String → Except Ending Given
  | given, [] => .ok given
  | given, file :: rest => do readFiles level (← given.addFile level file) rest

-- What stops reading at a level: the end of the arguments, or, before the command, a word that is
-- no option, with what follows it.
abbrev Stopped : Type := Given × Option (String × List String)

def readLevel (level : Level) : Given → List String → Except Ending Stopped
  | given, [] => .ok (given, none)
  | given, text :: rest =>
      match (Argument.of text).wish level, rest with
      | .separator, rest => (readFiles level given rest).map fun given => (given, none)
      | .plain word, rest =>
          if level = .top then .ok (given, some (word, rest))
          else do readLevel level (← given.addFile level word) rest
      | .flag flag (some value), rest => do readLevel level (← given.addOption flag value) rest
      | .flag flag none, value :: rest =>
          match Argument.of value with
          | .plain value => do readLevel level (← given.addOption flag value) rest
          | _ => .error .usage
      | .flag _ none, [] => .error .usage
      | .ending ending, _ => .error ending

def commandOf (level : Level) (given : Given) : Except Ending Command :=
  match level, given.file with
  | .compile, some file =>
      .ok (.compile file ((given.get? .dialect).bind readDialect)
        (((given.get? .output).bind readForm).getD .sql))
  | .run, some file => .ok (.run file (given.get? .database))
  | .validate, some file => .ok (.validate file)
  | .columns, _ => .ok (.columns (given.get? .kind))
  | _, _ => .error .usage

def helpEnding : List String → Ending
  | [] => .help (some .top) true
  | [name] =>
      if name = "help" then .help none true
      else if (Level.ofName name).isSome then .help (Level.ofName name) true
      else .usage
  | _ => .usage

def Invocation.parse (arguments : List String) : Except Ending Invocation := do
  match ← readLevel .top .none arguments with
  | (_, none) => throw .usage
  | (outer, some (name, rest)) =>
      if name = "help" then throw (helpEnding rest)
      else
        match Level.ofName name with
        | none => throw .usage
        | some level =>
            let (given, _) ← readLevel level .none rest
            let command ← commandOf level given
            return ⟨(given.get? .config).or (outer.get? .config), command⟩

end StatTable.CommandLine
