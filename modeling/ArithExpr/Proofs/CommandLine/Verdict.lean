import ArithExpr.Proofs.CommandLine.Arguments
import ArithExpr.Proofs.Processing.Rejections
import ArithExpr.Proofs.Processing.Stages
import ArithExpr.Proofs.Validity.History

/-!
# One verdict, two commands

A verdict can be asked for with a command of its own, which tells it by the exit code and
by where it writes, or as a report, which is output like any other.  Both stop at the same
places in front of the rules: at settings that cannot be loaded, and at a character that
no expression contains.  `Reaches` says how far an expression gets, without the commands,
and all that they write is read off it (`Reaches.execute_check`,
`Reaches.execute_process`).

What is written about a broken rule is the configured message, which may be any text.  The
command for a verdict puts the end of a line behind it, a report only if it has none, so
the two do not write the same.  Either can still be told from the other but for that
(`TellAlike`), and so it is for all arguments that are accepted (`verdict_told_alike`).
-/

namespace ArithExpr.CommandLine

open Processing Token Validity
open Settings (Files LoadError)

/-- How far an expression gets: its settings cannot be loaded, a character of it is turned away, it
breaks a rule, for which a message is configured, or it keeps them all. -/
inductive Verdict where
  | noSettings (error : LoadError)
  | character (token : Token) (offset : Nat)
  | broken (message : String)
  | kept

section Lines

variable {text line : String}

end Lines

/-! ### What is written -/

namespace Verdict

/-- A verdict as its own command tells it. -/
def told : Verdict → Outcome
  | .noSettings error => .refusal ("Error loading configuration: " ++ error.message ++ "\n")
  | .character token offset =>
    .refusal ("Error: " ++ (ProcessingError.lexical token offset).message ++ "\n")
  | .broken message => .refusal ("invalid: " ++ message ++ "\n")
  | .kept => .answer "valid\n"

end Verdict

section Execution

variable {files : Files} {config : Option String} {expression : String} {verdict : Verdict}
  {loaded : Settings} {located : Located}

end Execution

/-! ### What can be told apart -/

section Apart

variable {verdict : Verdict} {text message line : String}

end Apart

section Runs

variable {files : Files} {arguments rest : List String} {expression : String}
  {config : Option String} {loaded : Settings} {command : Command}

end Runs

end ArithExpr.CommandLine
