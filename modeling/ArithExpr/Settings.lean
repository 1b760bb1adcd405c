import ArithExpr.Tree.Parse
import ArithExpr.Validity

/-!
# Settings

The settings hold the wording of each structural fault, the nesting that is
accepted, and the format of output when none is asked for.
-/

namespace ArithExpr

/-- The wording of each structural fault. -/
structure Messages where
  leftParenShortage : String
  rightParenShortage : String
  operatorInvalid : String
  dotInvalid : String
  deriving DecidableEq

/-- The wording of a fault. -/
def Messages.wording (messages : Messages) : Fault → String
  | .leftParenShortage => messages.leftParenShortage
  | .rightParenShortage => messages.rightParenShortage
  | .operatorInvalid => messages.operatorInvalid
  | .dotInvalid => messages.dotInvalid

/-- Everything that can be set. -/
structure Settings where
  messages : Messages
  maxDepth : Nat
  format : String
  deriving DecidableEq

/-- The document of the settings that hold where nothing else is set. -/
def Settings.builtInText : String :=
  "# Built-in defaults for calc-parser. User files passed to the loader are layered on top.\n" ++
    "\n" ++
    "[messages]\n" ++
    "left_paren_shortage = \"'(' is missing\"\n" ++
    "right_paren_shortage = \"')' is missing\"\n" ++
    "operator_invalid = \"operators follow each other in an invalid way\"\n" ++
    "dot_invalid = \"'.' must be surrounded by numbers\"\n" ++
    "\n" ++
    "[parser]\n" ++
    "# Deepest parenthesis nesting the parser accepts before giving up.\n" ++
    "max_depth = 256\n" ++
    "\n" ++
    "[output]\n" ++
    "format = \"ast-treeviz\"\n"

/-- The settings that hold where nothing else is set. -/
def Settings.builtIn : Settings where
  messages :=
    { leftParenShortage := Fault.leftParenShortage.message
      rightParenShortage := Fault.rightParenShortage.message
      operatorInvalid := Fault.operatorInvalid.message
      dotInvalid := Fault.dotInvalid.message }
  maxDepth := Tree.defaultMaxDepth
  format := "ast-treeviz"

end ArithExpr
