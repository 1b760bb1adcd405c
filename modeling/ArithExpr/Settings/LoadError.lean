import ArithExpr.Settings.Value
import ArithExpr.Tree.Parse

/-!
# Why settings cannot be loaded
-/

namespace ArithExpr.Settings

/-- The sections that settings are divided into. -/
inductive Section where
  | messages
  | parser
  | output
  deriving DecidableEq

namespace Section

/-- The name of a section. -/
def name : Section → String
  | .messages => "messages"
  | .parser => "parser"
  | .output => "output"

/-- The names in a section, in the order in which an array gives them values. -/
def fieldNames : Section → List String
  | .messages =>
    ["left_paren_shortage", "right_paren_shortage", "operator_invalid", "dot_invalid"]
  | .parser => ["max_depth"]
  | .output => ["format"]

/-- What a message calls a section. -/
def description : Section → String
  | .messages => "struct MessageTable"
  | .parser => "struct ParserConfig"
  | .output => "struct OutputConfig"

/-- What a message calls the values of a section that is given as an array. -/
def extent (s : Section) : String :=
  s.description ++ " with " ++
    (if s.fieldNames.length = 1 then "1 element"
     else toString s.fieldNames.length ++ " elements")

end Section

/-- What a setting is read as. -/
inductive Expected where
  | text
  | integer
  /-- An integer of 64 bits without a sign. -/
  | natural
  deriving DecidableEq

/-- The wording of what a setting is read as. -/
def Expected.description : Expected → String
  | .text => "a string"
  | .integer => "an integer"
  | .natural => "an unsigned 64 bit or less integer"

/-- Why settings cannot be loaded. -/
inductive LoadError where
  /-- The text that should say where a value goes is no path. -/
  | noPath (text : String)
  /-- A file that must be there is not. -/
  | missingFile (name : String)
  /-- A file is there and holds no document. -/
  | faultyFile (name : String)
  /-- A section is neither a table nor an array. -/
  | noSection (s : Section) (found : Scalar)
  /-- A section is an array with too few items. -/
  | tooShort (s : Section) (length : Nat)
  /-- A name is missing. -/
  | missingField (name : String)
  /-- A setting cannot be read as what it should be. -/
  | wrongType (found : Value) (expected : Expected) (place : String)
  /-- The nesting to accept is beyond what can be asked for. -/
  | tooDeep (depth : Nat)

/-- The wording of a failure. -/
def LoadError.message : LoadError → String
  | .noPath text => "'" ++ text ++ "' is no path to a setting"
  | .missingFile name => "configuration file \"" ++ name ++ "\" not found"
  | .faultyFile name => "no valid document in " ++ name
  | .noSection s found =>
    "invalid type: " ++ found.describe (fun _ => "integer") ++ ", expected " ++ s.description
  | .tooShort s length =>
    "invalid length " ++ toString length ++ ", expected " ++ s.extent
  | .missingField name => "missing field `" ++ name ++ "`"
  | .wrongType found expected place =>
    "invalid type: " ++ found.describe ++ ", expected " ++ expected.description ++
      " for key `" ++ place ++ "`" ++
      (match found.origin? with
        | some file => " in " ++ file
        | none => "")
  | .tooDeep depth =>
    "parser.max_depth " ++ toString depth ++ " exceeds the ceiling of " ++
      toString Tree.maxDepthCeiling

end ArithExpr.Settings
