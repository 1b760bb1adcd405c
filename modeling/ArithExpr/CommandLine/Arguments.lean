/-!
# Arguments of the command line

The first argument names a command, and the arguments after it are its expression and
its options, in any order.  An option is written `--name value`, `--name=value`,
`-n value`, `-nvalue` or `-n=value`, and at most once.  What starts with a dash and is
not a dash alone is taken for an option, unless `--` came before: all that follows `--`
is taken as it is.
-/

namespace ArithExpr

/-- What is asked for on the command line. -/
inductive Command where
  /-- Write an expression in a format, the configured one if none is given. -/
  | process (expression : String) (format config : Option String)
  /-- Say whether an expression keeps the rules. -/
  | check (expression : String) (config : Option String)
  /-- List the formats. -/
  | listFormats
  deriving DecidableEq

namespace CommandLine

/-- Why arguments give no command. -/
inductive Stop where
  /-- They cannot be understood. -/
  | misuse
  /-- They ask for help. -/
  | help
  /-- They ask for the version. -/
  | version
  deriving DecidableEq

/-- The options that take a value. -/
inductive ValueOption where
  | format
  | config
  deriving DecidableEq

namespace ValueOption

/-- The long name of an option. -/
def name : ValueOption → String
  | .format => "format"
  | .config => "config"

/-- The short name of an option. -/
def letter : ValueOption → Char
  | .format => 'f'
  | .config => 'c'

/-- The options of a command with a long name. -/
def withName? (known : List ValueOption) (name : List Char) : Option ValueOption :=
  known.find? fun opt => opt.name.toList = name

/-- The options of a command with a short name. -/
def withLetter? (known : List ValueOption) (letter : Char) : Option ValueOption :=
  known.find? fun opt => opt.letter = letter

end ValueOption

/-- What the arguments read so far have given. -/
structure Given where
  expression : Option String
  format : Option String
  config : Option String

namespace Given

/-- Nothing has been given. -/
def nothing : Given :=
  ⟨none, none, none⟩

/-- The expression is given, for the first time. -/
def addExpression (given : Given) (expression : String) : Except Stop Given :=
  match given.expression with
  | none => .ok { given with expression := some expression }
  | some _ => .error .misuse

/-- An option is given, for the first time. -/
def addOption (given : Given) (opt : ValueOption) (value : String) : Except Stop Given :=
  match opt, given.format, given.config with
  | .format, none, _ => .ok { given with format := some value }
  | .config, _, none => .ok { given with config := some value }
  | _, _, _ => .error .misuse

end Given

/-- An argument by its form. -/
inductive Form where
  /-- Neither an option nor the mark that ends the options. -/
  | plain
  /-- The mark that ends the options. -/
  | mark
  /-- A long name, with a value if one is attached. -/
  | long (name : List Char) (attached : Option String)
  /-- A short name and what is attached to it. -/
  | short (letter : Char) (attached : List Char)

/-- The form of an argument. -/
def Form.ofArgument (argument : String) : Form :=
  match argument.toList with
  | ['-', '-'] => .mark
  | '-' :: '-' :: rest =>
    match rest.dropWhile (· ≠ '=') with
    | [] => .long rest none
    | _ :: value => .long (rest.takeWhile (· ≠ '=')) (some (String.ofList value))
  | '-' :: letter :: rest => .short letter rest
  | _ => .plain

/-- Whether an argument can be the value of an option in front of it. -/
def isValue (argument : String) : Bool :=
  match Form.ofArgument argument with
  | .plain => true
  | _ => false

/-- The value attached to a short name, without an equals sign in front. -/
def attachedValue? : List Char → Option String
  | [] => none
  | '=' :: rest => some (String.ofList rest)
  | rest => some (String.ofList rest)

/-- The name, and what is attached to it, of an argument that is an option of a command. -/
def optionOf? (known : List ValueOption) : Form → Option (ValueOption × Option String)
  | .long name attached => (ValueOption.withName? known name).map fun opt => (opt, attached)
  | .short letter rest =>
    (ValueOption.withLetter? known letter).map fun opt => (opt, attachedValue? rest)
  | _ => none

/-- Whether an option asks for help. -/
def asksForHelp : Form → Bool
  | .long name attached => name = "help".toList && attached.isNone
  | .short letter _ => letter = 'h'
  | _ => false

/-- Read the arguments of a command that takes an expression and the given options. -/
def readArguments (known : List ValueOption) (given : Given) : List String → Except Stop Given
  | [] => .ok given
  | argument :: rest =>
    match Form.ofArgument argument with
    | .plain => do readArguments known (← given.addExpression argument) rest
    | .mark => rest.foldlM Given.addExpression given
    | form =>
      match optionOf? known form, rest with
      | some (opt, some value), rest => do readArguments known (← given.addOption opt value) rest
      | some (opt, none), value :: rest =>
        if isValue value then do readArguments known (← given.addOption opt value) rest
        else .error .misuse
      | some (_, none), [] => .error .misuse
      | none, _ => .error (if asksForHelp form then .help else .misuse)

/-- The expression, which must have been given. -/
def Given.theExpression (given : Given) : Except Stop String :=
  match given.expression with
  | some expression => .ok expression
  | none => .error .misuse

end CommandLine

open CommandLine in
/-- The command that arguments give. -/
def Command.ofArguments (arguments : List String) : Except Stop Command :=
  match arguments with
  | "process" :: rest => do
    let given ← readArguments [.format, .config] .nothing rest
    return .process (← given.theExpression) given.format given.config
  | "check" :: rest => do
    let given ← readArguments [.config] .nothing rest
    return .check (← given.theExpression) given.config
  | "list-formats" :: rest =>
    match rest with
    | [] => .ok .listFormats
    | ["--"] => .ok .listFormats
    | first :: _ => .error (if asksForHelp (.ofArgument first) then .help else .misuse)
  | ["help"] | ["help", "process"] | ["help", "check"] | ["help", "list-formats"]
  | ["help", "help"] => .error .help
  | first :: _ =>
    match Form.ofArgument first with
    | .long name none => .error (if name = "version".toList then .version
        else if name = "help".toList then .help else .misuse)
    | .short letter _ => .error (if letter = 'V' then .version
        else if letter = 'h' then .help else .misuse)
    | _ => .error .misuse
  | [] => .error .misuse

end ArithExpr
