import StatTable.CommandLine.Arguments

set_option autoImplicit false

namespace StatTable.CommandLine

def Flag.valueName : Flag → String
  | .config => "CONFIG"
  | .dialect => "DIALECT"
  | .output => "OUTPUT"
  | .database => "DB"
  | .kind => "KIND"

def Flag.help : Flag → String
  | .config =>
      "Settings file (defaults to STATLINE_CONFIG, ./statline.toml, then the user config dir)"
  | .dialect => "SQL dialect to generate (defaults to the configured dialect)"
  | .output => "Output format"
  | .database => "Database file (defaults to the configured storage path)"
  | .kind => "Only list columns of this kind"

def Flag.standard? : Flag → Option String
  | .output => some "sql"
  | _ => none

def Flag.choices : Flag → List (String × Option String)
  | .dialect => [("postgres", none), ("sqlite", none)]
  | .output =>
      [("sql", some "Output SQL only"),
        ("verbose", some "Output SQL with a header describing the result columns"),
        ("plan", some "Output an outline of the query plan as JSON")]
  | _ => []

def Flag.describesChoices (flag : Flag) : Bool := flag.choices.any (·.2.isSome)

namespace Level

def commands : List Level := [compile, run, validate, columns]

def name : Level → String
  | top => "statline"
  | compile => "compile"
  | run => "run"
  | validate => "validate"
  | columns => "columns"

def about : Level → String
  | top => "statline - Compile player table states to SQL"
  | compile => "Compile a table state to SQL"
  | run => "Execute a table state against a SQLite database"
  | validate => "Validate a table state without compiling it"
  | columns => "List registered column identifiers"

def usage : Level → String
  | top => "Usage: statline [OPTIONS] <COMMAND>"
  | level =>
      "Usage: statline " ++ level.name ++ " [OPTIONS]" ++ (if level.takesFile then " <FILE>" else "")

def hasLongHelp (level : Level) : Bool := level.flags.any Flag.describesChoices

end Level

namespace Help

structure Item where
  form : String
  text : String
  remarks : List String
  choices : List (String × String)

def width : Nat := 100

def spaces (n : Nat) : String := String.ofList (List.replicate n ' ')

def padded (n : Nat) (s : String) : String := s ++ spaces (n - s.length)

def longest (texts : List String) : Nat := (texts.map String.length).foldl max 0

def addWord (room : Nat) : List String → String → List String
  | [], word => [word]
  | line :: before, word =>
      if room < line.length + 1 + word.length then word :: line :: before
      else (line ++ " " ++ word) :: before

def lines (room : Nat) (text : String) : List String :=
  (((text.toList.splitOnP (· == ' ')).map String.ofList).foldl (addWord room) []).reverse

def wrapped (indent : Nat) (text : String) : String :=
  String.intercalate ("\n" ++ spaces indent) (lines (width - indent) text)

def Item.short (column : Nat) (item : Item) : String :=
  "  " ++ padded column item.form ++ "  " ++
    wrapped (column + 4) (String.intercalate " " (item.text :: item.remarks))

def deep : Nat := 10

def choiceLines (choices : List (String × String)) : String :=
  let column := longest (choices.map (·.1))
  String.join (choices.map fun (value, text) =>
    "\n" ++ spaces deep ++ "- " ++
      wrapped (deep + 2) (value ++ ": " ++ spaces (column - value.length) ++ text))

def Item.long (item : Item) : String :=
  let remarks :=
    if item.remarks.isEmpty then ""
    else
      "\n" ++ spaces deep ++ "\n" ++ spaces deep ++
        String.intercalate ("\n" ++ spaces deep) (item.remarks.map (wrapped deep))
  let choices :=
    if item.choices.isEmpty then ""
    else "\n\n" ++ spaces deep ++ "Possible values:" ++ choiceLines item.choices
  "  " ++ item.form ++ "\n" ++ spaces deep ++ wrapped deep item.text ++ remarks ++ choices

def part (isLong : Bool) (heading : String) (items : List Item) : List String :=
  if items.isEmpty then []
  else
    let texts :=
      if isLong then String.intercalate "\n\n" (items.map Item.long)
      else String.intercalate "\n" (items.map (Item.short (longest (items.map (·.form)))))
    [heading ++ ":\n" ++ texts ++ "\n"]

def plain (form text : String) : Item := ⟨form, text, [], []⟩

def formOf (flag : Flag) : String :=
  (match flag.short? with
    | some letter => "-" ++ String.singleton letter ++ ", "
    | none => "    ") ++
    "--" ++ flag.long ++ " <" ++ flag.valueName ++ ">"

def Item.ofFlag (isLong : Bool) (flag : Flag) : Item :=
  let standard := (flag.standard?.map fun value => "[default: " ++ value ++ "]").toList
  if isLong && flag.describesChoices then
    ⟨formOf flag, flag.help, standard, flag.choices.map fun (value, text) => (value, text.getD "")⟩
  else
    let names := String.intercalate ", " (flag.choices.map (·.1))
    let choices := if flag.choices.isEmpty then [] else ["[possible values: " ++ names ++ "]"]
    ⟨formOf flag, flag.help, standard ++ choices, []⟩

def helpText (level : Level) (isLong : Bool) : String :=
  if level.hasLongHelp then
    if isLong then "Print help (see a summary with '-h')" else "Print help (see more with '--help')"
  else "Print help"

def helpAbout : String := "Print this message or the help of the given subcommand(s)"

def commandItems : List Item :=
  Level.commands.map (fun level => plain level.name level.about) ++ [plain "help" helpAbout]

def ofLevel (level : Level) (isLong : Bool) : String :=
  let isLong := isLong && level.hasLongHelp
  let files := if level.takesFile then [plain "<FILE>" "Path to the table-state JSON file"] else []
  let version := if level = .top then [plain "-V, --version" "Print version"] else []
  let options :=
    level.flags.map (Item.ofFlag isLong) ++ [plain "-h, --help" (helpText level isLong)] ++ version
  let parts :=
    part false "Commands" (if level = .top then commandItems else []) ++
      part isLong "Arguments" files ++ part isLong "Options" options
  level.about ++ "\n\n" ++ level.usage ++ "\n\n" ++ String.intercalate "\n" parts

def ofHelp : String :=
  helpAbout ++ "\n\nUsage: statline help [COMMAND]...\n\n" ++
    String.join (part false "Arguments"
      [plain "[COMMAND]..." "Print help for the subcommand(s)"])

end Help

end StatTable.CommandLine
