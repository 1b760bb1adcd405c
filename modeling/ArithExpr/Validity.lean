import ArithExpr.Token

/-!
# Structural rules on token streams

A stream is *valid* when it keeps three rules, which are tried in this order:

* `checkParens`: read from the left, no `)` comes without an open `(`, and none is
  left open at the end;
* `checkOperators`: an operator is followed by something that is not `+`, `*` or
  `/`, and if that is `-`, a number follows it;
* `checkPoints`: a decimal point that is neither first nor last has a number on
  both sides.

A rule stops at the first place that breaks it and answers with a `Rejection`,
which says what stands there.  The kind of fault that a user is told about, and
the line that goes into the log, are read off the rejection.
-/

namespace ArithExpr

/-- The kinds of structural fault. -/
inductive Fault where
  /-- A `)` with no open `(` to close. -/
  | leftParenShortage
  /-- A `(` still open at the end. -/
  | rightParenShortage
  /-- Operators in a row that the grammar does not allow, or an operator at the end. -/
  | operatorInvalid
  /-- A decimal point without a number on each side. -/
  | dotInvalid
  deriving DecidableEq

namespace Fault

/-- Every kind of fault, in the order in which they are listed to users. -/
def all : List Fault :=
  [.leftParenShortage, .rightParenShortage, .operatorInvalid, .dotInvalid]

/-- The name of a fault in written documents. -/
def tag : Fault → String
  | .leftParenShortage => "left-paren-shortage"
  | .rightParenShortage => "right-paren-shortage"
  | .operatorInvalid => "operator-invalid"
  | .dotInvalid => "dot-invalid"

/-- The wording of a fault that no settings have replaced. -/
def message : Fault → String
  | .leftParenShortage => "'(' is missing"
  | .rightParenShortage => "')' is missing"
  | .operatorInvalid => "operators follow each other in an invalid way"
  | .dotInvalid => "'.' must be surrounded by numbers"

end Fault

namespace Validity

/-- Why a stream was rejected, and where: indices count tokens from zero. -/
inductive Rejection where
  /-- The `)` at `index` closes nothing. -/
  | unmatchedClose (index : Nat)
  /-- `count` groups are open at the end. -/
  | unclosed (count : Nat)
  /-- The operator at `index` is the last token. -/
  | endsOnOperator (index : Nat)
  /-- The operator at `index` is followed by `next`, one of `+`, `*` and `/`. -/
  | operatorAfterOperator (index : Nat) (next : Token)
  /-- The operator at `index` is followed by a `-`, which is the last token. -/
  | endsOnMinus (index : Nat)
  /-- Behind an operator and a `-`, the token `found` at `index` is no number. -/
  | minusWithoutNumber (index : Nat) (found : Token)
  /-- The decimal point at `index` lacks a number on some side. -/
  | strayPoint (index : Nat)
  deriving DecidableEq

namespace Rejection

/-- The kind of fault that a rejection is an instance of. -/
def fault : Rejection → Fault
  | .unmatchedClose _ => .leftParenShortage
  | .unclosed _ => .rightParenShortage
  | .endsOnOperator _ | .operatorAfterOperator _ _ | .endsOnMinus _ | .minusWithoutNumber _ _ =>
    .operatorInvalid
  | .strayPoint _ => .dotInvalid

/-- The line that records a rejection. -/
def note : Rejection → String
  | .unmatchedClose index => "unmatched ')' at token " ++ toString index
  | .unclosed count => toString count ++ " unclosed '(' at end of stream"
  | .endsOnOperator index => "stream ends on operator at token " ++ toString index
  | .operatorAfterOperator index next =>
    "operator '" ++ next.literal ++ "' follows operator at token " ++ toString index
  | .endsOnMinus index => "stream ends on '-' after operator at token " ++ toString index
  | .minusWithoutNumber index found =>
    "'-' after operator is followed by '" ++ found.literal ++ "' at token " ++ toString index
  | .strayPoint index => "'.' without surrounding numbers at token " ++ toString index

end Rejection

/-- Balance of the parentheses of a stream whose first token has the given index, when `depth`
groups are open in front of it. -/
def parensFrom (index depth : Nat) : List Token → Except Rejection Unit
  | [] => if depth = 0 then .ok () else .error (.unclosed depth)
  | token :: rest =>
    match token.kind with
    | .leftParen => parensFrom (index + 1) (depth + 1) rest
    | .rightParen =>
      match depth with
      | 0 => .error (.unmatchedClose index)
      | outer + 1 => parensFrom (index + 1) outer rest
    | _ => parensFrom (index + 1) depth rest

/-- Every parenthesis has its partner. -/
def checkParens (tokens : List Token) : Except Rejection Unit :=
  parensFrom 0 0 tokens

/-- The operator rule on a stream whose first token has the given index.  What stands behind an
operator, and the number behind `-`, are passed over: neither can break the rule again. -/
def operatorsFrom (index : Nat) : List Token → Except Rejection Unit
  | [] => .ok ()
  | [token] => if token.kind.isOperator then .error (.endsOnOperator index) else .ok ()
  | token :: next :: rest =>
    if !token.kind.isOperator then operatorsFrom (index + 1) (next :: rest)
    else if next.kind.isNormalOperator then .error (.operatorAfterOperator index next)
    else if next.kind = .minus then
      match rest with
      | [] => .error (.endsOnMinus index)
      | operand :: rest =>
        if operand.kind.isNumber then operatorsFrom (index + 3) rest
        else .error (.minusWithoutNumber (index + 2) operand)
    else operatorsFrom (index + 2) rest

/-- Behind an operator stands something that is not `+`, `*` or `/`; if it is `-`, a number comes
next.  What stands in front of an operator is not looked at. -/
def checkOperators (tokens : List Token) : Except Rejection Unit :=
  operatorsFrom 0 tokens

/-- The rule on points, for a stream whose second token has the given index.  The number behind a
good point is passed over as a place to look at. -/
def pointsFrom (index : Nat) : List Token → Except Rejection Unit
  | before :: token :: after :: rest =>
    if token.kind = .point then
      if before.kind.isNumber && after.kind.isNumber then pointsFrom (index + 2) (after :: rest)
      else .error (.strayPoint index)
    else pointsFrom (index + 1) (token :: after :: rest)
  | _ => .ok ()

/-- A decimal point strictly inside the stream has a number on each side. -/
def checkPoints (tokens : List Token) : Except Rejection Unit :=
  pointsFrom 1 tokens

/-- The three rules in order, on the part of the stream in front of its end marker. -/
def check (tokens : List Token) : Except Rejection Unit := do
  let tokens := Token.beforeEnd tokens
  checkParens tokens
  checkOperators tokens
  checkPoints tokens

end Validity

end ArithExpr
