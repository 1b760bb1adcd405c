import ArithExpr.Number.Numeral
import ArithExpr.Token
import ArithExpr.Tree

/-!
# Trees from tokens

A stream is read once from the left.  A `(` opens a group, a `)` closes the
innermost one, an operator is a node, and a number is a literal; `number point
number` is one literal.  No other token has a place in a tree.  Groups may be
nested up to a limit.

The reader's state holds the runs of all groups that are open.  Beside the tree or
the failure, it gives the groups opened and closed on the way.
-/

namespace ArithExpr

/-- Why no tree could be built. -/
inductive ParseError where
  /-- The `)` at `index` closes nothing, or a group is open at the end, where `index` is the length
  of the stream. -/
  | malformedGrouping (index : Nat)
  /-- Groups are nested beyond the limit. -/
  | nestingTooDeep (limit : Nat)
  /-- The token at `index` has no place in a tree. -/
  | unexpectedToken (index : Nat) (kind : Token.Kind)
  deriving DecidableEq

namespace ParseError

/-- The wording of a failure. -/
def message : ParseError → String
  | .malformedGrouping index => "Malformed grouping at token " ++ toString index
  | .nestingTooDeep limit => "Parentheses nested deeper than " ++ toString limit ++ " levels"
  | .unexpectedToken index kind =>
    "Unexpected " ++ kind.label ++ " token at " ++ toString index

end ParseError

namespace Tree

/-- The nesting accepted when nothing else is asked for. -/
def defaultMaxDepth : Nat :=
  256

/-- The greatest nesting that can be asked for. -/
def maxDepthCeiling : Nat :=
  1024

/-- A requested limit, held to the ceiling. -/
def clampDepth (limit : Nat) : Nat :=
  min limit maxDepthCeiling

/-- A parenthesis taken by the reader: its index, and how many groups enclose what is inside it,
its own group included. -/
inductive Bracket where
  | opened (index depth : Nat)
  | closed (index depth : Nat)
  deriving DecidableEq

/-- The line that records a parenthesis. -/
def Bracket.note : Bracket → String
  | .opened index depth =>
    "open group at token " ++ toString index ++ " (depth " ++ toString depth ++ ")"
  | .closed index depth =>
    "close group at token " ++ toString index ++ " (depth " ++ toString depth ++ ")"

/-- The result of reading a stream and the parenthesis taken on the way. -/
structure Reading where
  result : Except ParseError Tree
  brackets : List Bracket

/-- The reader between two tokens. -/
structure State where
  /-- The index of the next token. -/
  index : Nat
  /-- The nodes of the innermost open run, latest first. -/
  nodes : List Node
  /-- The runs around it, innermost first, each with its latest node first. -/
  enclosing : List (List Node)
  /-- The parentheses taken, latest first. -/
  brackets : List Bracket

namespace State

/-- Nothing has been read. -/
def start : State :=
  ⟨0, [], [], []⟩

/-- How many groups are open. -/
def depth (state : State) : Nat :=
  state.enclosing.length

/-- Go over `count` tokens that make up one node. -/
def add (state : State) (count : Nat) (node : Node) : State :=
  { state with index := state.index + count, nodes := node :: state.nodes }

/-- Go over a `(`. -/
def openGroup (state : State) : State :=
  ⟨state.index + 1, [], state.nodes :: state.enclosing,
    .opened state.index (state.depth + 1) :: state.brackets⟩

/-- Go over a `)` that closes a group inside the run `outer`, around which are the runs `rest`. -/
def closeGroup (state : State) (outer : List Node) (rest : List (List Node)) : State :=
  ⟨state.index + 1, .group state.nodes.reverse :: outer, rest,
    .closed state.index state.depth :: state.brackets⟩

/-- End the work. -/
def finish (state : State) (result : Except ParseError Tree) : Reading :=
  ⟨result, state.brackets.reverse⟩

end State

/-- The operator that a kind of token is. -/
def operatorOf? : Token.Kind → Option Operator
  | .multiply => some .multiply
  | .divide => some .divide
  | .plus => some .plus
  | .minus => some .minus
  | _ => none

/-- Read on from a state. -/
def readFrom (limit : Nat) (state : State) : List Token → Reading
  | [] =>
    state.finish <|
      if state.enclosing.isEmpty then .ok ⟨state.nodes.reverse⟩
      else .error (.malformedGrouping state.index)
  | ⟨.number, whole⟩ :: ⟨.point, _⟩ :: ⟨.number, fraction⟩ :: rest =>
    match Numeral.double? (whole.toList ++ '.' :: fraction.toList) with
    | some value => readFrom limit (state.add 3 (.literal value)) rest
    | none => state.finish (.error (.unexpectedToken state.index .number))
  | ⟨.number, whole⟩ :: rest =>
    match Numeral.double? whole.toList with
    | some value => readFrom limit (state.add 1 (.literal value)) rest
    | none => state.finish (.error (.unexpectedToken state.index .number))
  | ⟨.leftParen, _⟩ :: rest =>
    if state.depth = limit then state.finish (.error (.nestingTooDeep limit))
    else readFrom limit state.openGroup rest
  | ⟨.rightParen, _⟩ :: rest =>
    match state.enclosing with
    | [] => state.finish (.error (.malformedGrouping state.index))
    | outer :: around => readFrom limit (state.closeGroup outer around) rest
  | ⟨kind, _⟩ :: rest =>
    match operatorOf? kind with
    | some op => readFrom limit (state.add 1 (.operator op)) rest
    | none => state.finish (.error (.unexpectedToken state.index kind))

/-- Read a stream up to its end marker, with groups nested up to a limit. -/
def read (limit : Nat) (tokens : List Token) : Reading :=
  readFrom limit State.start (Token.beforeEnd tokens)

/-- The tree of a stream, with groups nested up to a limit. -/
def ofTokens (limit : Nat) (tokens : List Token) : Except ParseError Tree :=
  (read limit tokens).result

end Tree

end ArithExpr
