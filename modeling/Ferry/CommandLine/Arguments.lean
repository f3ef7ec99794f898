import Ferry.Text.Numeral

set_option autoImplicit false

/-! # Arguments of the program

Options come first, then the name of a command, then options of the command. An option has its
value behind it or behind an equals sign; it may be given once. Arguments are read from left to
right, and the first that is no part of a usable whole decides what is reported. -/

namespace Ferry.CommandLine

/-- Changes to the configuration for one run. -/
structure Overrides where
  sourceSchema : Option String
  targetSchema : Option String
  batchSize : Option Nat
deriving DecidableEq, Inhabited, Repr

/-- A command. -/
inductive Command
  | run (overrides : Overrides) (dryRun : Bool)
  | compare
  | validate
  | healthCheck
deriving DecidableEq, Inhabited, Repr

/-- The options in front of a command. -/
structure Options where
  /-- The path of the configuration. -/
  config : String
  /-- Whether the result is written as a document. -/
  outputJson : Bool
deriving DecidableEq, Inhabited, Repr

/-- What the arguments ask for. -/
inductive Invocation
  | perform (options : Options) (command : Command)
  | version
  | help
deriving DecidableEq, Inhabited, Repr

/-- Why the arguments cannot be used. -/
inductive UsageIssue
  | unknown (argument : String)
  | repeated (option : String)
  | valueMissing (option : String)
  | valueRefused (option value : String)
  | valueUnexpected (option : String)
  | commandMissing
deriving DecidableEq, Inhabited, Repr

/-- The wording of an issue. -/
def UsageIssue.message : UsageIssue → String
  | .unknown a => s!"unexpected argument '{a}' found"
  | .repeated o => s!"the argument '{o}' cannot be used multiple times"
  | .valueMissing o => s!"a value is required for '{o}' but none was supplied"
  | .valueRefused o v => s!"invalid value '{v}' for '{o}'"
  | .valueUnexpected o => s!"no value is expected for '{o}'"
  | .commandMissing => "a command is required"

/-! ## Options one by one -/

/-- What an option takes. -/
inductive OptionKind
  | flag
  /-- Any text. -/
  | text
  /-- Any text but an empty one. -/
  | path
  /-- A whole number of 64 bits. -/
  | number
deriving DecidableEq, Repr

/-- The options that stand in one place, by name. -/
abbrev OptionTable := List (String × OptionKind)

/-- The options in front of a command. -/
def globalOptions : OptionTable :=
  [("--config", .path), ("--output-json", .flag), ("--log-format", .text), ("--verbosity", .text),
   ("--shutdown-timeout", .number)]

/-- The options of the command that runs a migration. -/
def runOptions : OptionTable :=
  [("--source-schema", .text), ("--target-schema", .text), ("--batch-size", .number),
   ("--dry-run", .flag)]

/-- A whole number of 64 bits without a minus sign. -/
def number? (s : String) : Option Nat :=
  if s.toList.head? = some '-' then none
  else ((Text.integer? s.toList).filter Text.inUInt64).map Int.toNat

/-- Whether an option takes a value. -/
def OptionKind.accepts (k : OptionKind) (value : String) : Bool :=
  match k with
  | .flag => false
  | .text => true
  | .path => !value.isEmpty
  | .number => (number? value).isSome

/-- Whether an argument looks like an option; a hyphen alone does not. -/
def looksLikeOption (a : String) : Bool :=
  match a.toList with
  | '-' :: _ :: _ => true
  | _ => false

/-- An option as it is written: its name, and its value if that stands behind an equals sign. -/
structure Written where
  name : String
  value : Option String

/-- Take a long option apart. -/
def Written.ofLong (a : String) : Written :=
  let cs := a.toList
  match cs.dropWhile (· ≠ '=') with
  | _ :: value => ⟨String.ofList (cs.takeWhile (· ≠ '=')), some (String.ofList value)⟩
  | [] => ⟨a, none⟩

/-- Take a short option apart: its value may follow at once. -/
def Written.ofShort (letter : Char) (rest : List Char) : Written :=
  let name := if letter = 'c' then "--config" else String.ofList ['-', letter]
  match rest with
  | [] => ⟨name, none⟩
  | '=' :: value => ⟨name, some (String.ofList value)⟩
  | value => ⟨name, some (String.ofList value)⟩

/-- The options that were given, with the text of each value. -/
abbrev Given := List (String × String)

/-- Add an option with its value. -/
def addOption (name : String) (kind : OptionKind) (value : String) (given : Given) :
    Except UsageIssue Given :=
  if given.any (fun g => g.1 == name) then .error (.repeated name)
  else if kind.accepts value || kind == .flag then .ok ((name, value) :: given)
  else .error (.valueRefused name value)

/-- Read an option of a table, with the value that follows if it needs one. The outcome is the
    options so far and the arguments behind. -/
def readOption (table : OptionTable) (w : Written) (rest : List String) (given : Given) :
    Except UsageIssue (Given × List String) :=
  match table.find? (fun o => o.1 == w.name) with
  | none => .error (.unknown w.name)
  | some (name, .flag) =>
    match w.value with
    | some _ => .error (.valueUnexpected name)
    | none => (addOption name .flag "" given).map (·, rest)
  | some (name, kind) =>
    match w.value, rest with
    | some value, rest => (addOption name kind value given).map (·, rest)
    | none, value :: rest =>
      if looksLikeOption value then .error (.valueMissing name)
      else (addOption name kind value given).map (·, rest)
    | none, [] => .error (.valueMissing name)

/-- The value of an option. -/
def Given.value? (given : Given) (name : String) : Option String :=
  (given.find? (fun g => g.1 == name)).map (·.2)

/-! ## Commands -/

/-- What the arguments behind a command come to: its options, or a request for help. -/
inductive CommandOptions
  | given (options : Given)
  | help

/-- Read the arguments behind a command. At most `fuel` of them are read. -/
def readCommandOptions (table : OptionTable) :
    Nat → Given → List String → Except UsageIssue CommandOptions
  | 0, given, _ => .ok (.given given)
  | fuel + 1, given, args =>
    match args with
    | [] => .ok (.given given)
    | "--" :: rest =>
      match rest with
      | [] => .ok (.given given)
      | a :: _ => .error (.unknown a)
    | "--help" :: _ | "-h" :: _ => .ok .help
    | a :: rest =>
      if ['-', '-'].isPrefixOf a.toList then do
        let (given, rest) ← readOption table (Written.ofLong a) rest given
        readCommandOptions table fuel given rest
      else .error (.unknown a)

/-- The command of a name and its options. -/
def commandOf (name : String) (given : Given) : Command :=
  if name = "run" then
    .run
      ⟨given.value? "--source-schema", given.value? "--target-schema",
        (given.value? "--batch-size").bind number?⟩
      (given.value? "--dry-run").isSome
  else if name = "compare" then .compare
  else if name = "validate" then .validate
  else .healthCheck

/-- The names of the commands, with the options of each. -/
def commandTables : List (String × OptionTable) :=
  [("run", runOptions), ("compare", []), ("validate", []), ("health-check", [])]

/-- Read the arguments from the name of a command on. -/
def readCommand (given : Given) (name : String) (args : List String) :
    Except UsageIssue Invocation := do
  match commandTables.find? (fun c => c.1 == name) with
  | none => throw (.unknown name)
  | some (_, table) =>
    match ← readCommandOptions table (args.length + 1) [] args with
    | .help => return .help
    | .given options =>
      return .perform
        ⟨(given.value? "--config").getD "config.yaml", (given.value? "--output-json").isSome⟩
        (commandOf name options)

/-- Read a request for help about commands. -/
def readHelp : List String → Except UsageIssue Invocation
  | [] => .ok .help
  | name :: rest =>
    if rest.isEmpty && (commandTables.any (fun c => c.1 == name) || name = "help") then .ok .help
    else .error (.unknown name)

/-- Read the arguments in front of a command and the command. At most `fuel` of the former are
    read. -/
def readGlobal : Nat → Given → List String → Except UsageIssue Invocation
  | 0, _, _ => .error .commandMissing
  | fuel + 1, given, args =>
    match args with
    | [] => .error .commandMissing
    | "--version" :: _ => .ok .version
    | "--help" :: _ => .ok .help
    | "help" :: rest => readHelp rest
    | a :: rest =>
      match a.toList with
      | ['-', '-'] => .error (match rest with
        | [] => .commandMissing
        | b :: _ => .unknown b)
      | '-' :: '-' :: _ => do
        let (given, rest) ← readOption globalOptions (Written.ofLong a) rest given
        readGlobal fuel given rest
      | '-' :: letter :: more =>
        if letter = 'V' then .ok .version
        else if letter = 'h' then .ok .help
        else do
          let (given, rest) ← readOption globalOptions (Written.ofShort letter more) rest given
          readGlobal fuel given rest
      | _ => readCommand given a rest

/-- Read the arguments of the program. -/
def parse (args : List String) : Except UsageIssue Invocation :=
  readGlobal (args.length + 1) [] args

end Ferry.CommandLine
