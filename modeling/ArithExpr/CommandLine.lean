import ArithExpr.CommandLine.Arguments
import ArithExpr.Processing
import ArithExpr.Settings.Loader

/-!
# The command line

A run is a function of the arguments and of the files that can be read: it gives the
exit code and what is written to the two outputs.  The exit code is 0 for an answer, 1
for an expression or settings that were turned away, and 2 for arguments that cannot be
understood.
-/

namespace ArithExpr.CommandLine

open Settings (Files Loader LoadError)

/-- What a run leaves behind. -/
structure Outcome where
  exit : Nat
  stdout : String
  stderr : String
  deriving DecidableEq

namespace Outcome

/-- An answer. -/
def answer (text : String) : Outcome :=
  ⟨0, text, ""⟩

/-- The input was turned away. -/
def refusal (text : String) : Outcome :=
  ⟨1, "", text⟩

end Outcome

/-- A text as a line. -/
def asLine (text : String) : String :=
  text ++ "\n"

/-- A text as a line, unless it ends one already. -/
def endingLine (text : String) : String :=
  if text.toList.getLast? = some '\n' then text else asLine text

/-- The name and version of the program. -/
def versionLine : String :=
  "calc 0.1.0\n"

/-- How the program is used. -/
def usage : String :=
  "A tool for inspecting how arithmetic expressions are checked and parsed\n\n" ++
  "Usage:\n" ++
  "  calc process <expression> [--format <format>] [--config <file>]\n" ++
  "  calc check <expression> [--config <file>]\n" ++
  "  calc list-formats\n"

/-- The settings with a configuration file over them, if one is named. -/
def settings (files : Files) (config : Option String) : Except LoadError Settings :=
  match config with
  | none => Loader.start.load files
  | some name => (Loader.start.withFile name).load files

/-- Go on with the settings, if they can be loaded. -/
def withSettings (files : Files) (config : Option String) (use : Settings → Outcome) : Outcome :=
  match settings files config with
  | .ok loaded => use loaded
  | .error error => .refusal (asLine ("Error loading configuration: " ++ error.message))

/-- Write an expression in a format. -/
def process (loaded : Settings) (format expression : String) : Outcome :=
  match Request.ofText format with
  | .error error =>
    .refusal <| asLine ("Error: " ++ error.message) ++
      asLine ("Available formats: " ++ ", ".intercalate Request.availableTexts)
  | .ok request =>
    match (Processing.run loaded request expression).value with
    | .ok output => .answer (endingLine output)
    | .error error => .refusal (asLine ("Error: " ++ error.message))

/-- Say whether an expression keeps the rules. -/
def check (loaded : Settings) (expression : String) : Outcome :=
  match (Processing.check loaded expression).value with
  | .error error => .refusal (asLine ("Error: " ++ error.message))
  | .ok report =>
    if report.valid then .answer (asLine "valid")
    else .refusal <| String.join <|
      report.findings.map fun finding => asLine ("invalid: " ++ finding.message)

/-- The list of formats. -/
def formatList : String :=
  asLine "Available formats:\n" ++
    String.join (Request.availableTexts.map fun text => asLine ("  " ++ text))

/-- Carry out a command. -/
def execute (files : Files) : Command → Outcome
  | .process expression format config =>
    withSettings files config fun loaded => process loaded (format.getD loaded.format) expression
  | .check expression config =>
    withSettings files config fun loaded => check loaded expression
  | .listFormats => .answer formatList

/-- A run with the given arguments. -/
def run (files : Files) (arguments : List String) : Outcome :=
  match Command.ofArguments arguments with
  | .ok command => execute files command
  | .error .version => .answer versionLine
  | .error .help => .answer usage
  | .error .misuse => ⟨2, "", usage⟩

/-- The files that a run may look at. -/
def candidates (arguments : List String) : List String :=
  let config := match Command.ofArguments arguments with
    | .ok (.process _ _ config) => config
    | .ok (.check _ config) => config
    | _ => none
  match config with
  | none => []
  | some name => [Settings.shortName name, Settings.shortName name ++ ".toml"]

end ArithExpr.CommandLine
