/-!
# Tokens

An expression is read as a sequence of tokens.  A token is a kind together with
the text it was written as; the rules on token streams and the shape of the tree
look at kinds only, and the text matters where a number is read or a token is
shown.

A stream may carry an explicit end marker.  Nothing after the first one belongs
to the expression, and `Token.beforeEnd` is the part that does.
-/

namespace ArithExpr

namespace Token

/-- The lexical categories of an expression. -/
inductive Kind where
  /-- The end marker of a stream. -/
  | endOfStream
  | leftParen
  | rightParen
  | multiply
  | divide
  | plus
  | minus
  /-- A run of decimal digits; a decimal point is a token of its own. -/
  | number
  | point
  /-- A printable character that no expression contains. -/
  | unknown
  /-- A control character or one outside ASCII. -/
  | illegal
  deriving DecidableEq

namespace Kind

/-- Every kind, in the order of declaration. -/
def all : List Kind :=
  [.endOfStream, .leftParen, .rightParen, .multiply, .divide, .plus, .minus, .number, .point,
    .unknown, .illegal]

/-- The name of a kind in messages. -/
def label : Kind → String
  | .endOfStream => "end-of-stream"
  | .leftParen => "left-paren"
  | .rightParen => "right-paren"
  | .multiply => "multiply"
  | .divide => "divide"
  | .plus => "plus"
  | .minus => "minus"
  | .number => "number"
  | .point => "decimal-point"
  | .unknown => "unknown"
  | .illegal => "illegal"

/-- The name of a kind in written documents: its label, but for two shorter names. -/
def tag : Kind → String
  | .endOfStream => "eof"
  | .point => "dot"
  | kind => kind.label

/-- The kind that a label names. -/
def ofLabel? (name : String) : Option Kind :=
  all.find? fun kind => kind.label = name

/-- `+`, `*` and `/`; minus stands apart because it also negates. -/
def isNormalOperator : Kind → Bool
  | .plus | .multiply | .divide => true
  | _ => false

/-- Any of the four arithmetic operators. -/
def isOperator (kind : Kind) : Bool :=
  kind.isNormalOperator || kind = .minus

/-- A run of digits. -/
def isNumber (kind : Kind) : Bool :=
  kind = .number

/-- The kinds that the grammar of expressions has no place for. -/
def isLexicalError : Kind → Bool
  | .unknown | .illegal => true
  | _ => false

/-- The operator table: the seven symbols of the grammar, and `unknown` for any other character. -/
def ofSymbol (c : Char) : Kind :=
  match c with
  | '(' => .leftParen
  | ')' => .rightParen
  | '+' => .plus
  | '-' => .minus
  | '*' => .multiply
  | '/' => .divide
  | '.' => .point
  | _ => .unknown

theorem isOperator_of_isNormalOperator {kind : Kind} (h : kind.isNormalOperator = true) :
    kind.isOperator = true := by
  simp [isOperator, h]

/-- A label names its kind and no other. -/
@[simp] theorem ofLabel?_label (kind : Kind) : ofLabel? kind.label = some kind := by
  cases kind <;> decide

end Kind

end Token

/-- A kind together with the text that was read as it. -/
structure Token where
  kind : Token.Kind
  literal : String
  deriving DecidableEq

namespace Token

/-- The end marker, written as nothing. -/
def endOfStream : Token :=
  ⟨.endOfStream, ""⟩

/-- The part of a stream in front of its first end marker, and all of it if there is none. -/
def beforeEnd (tokens : List Token) : List Token :=
  tokens.takeWhile fun token => token.kind ≠ .endOfStream

/-- The literals of a stream with one space between neighbours. -/
def spaced (tokens : List Token) : String :=
  " ".intercalate (tokens.map literal)

/-- The literals of a stream one after the other. -/
def joined (tokens : List Token) : String :=
  String.join (tokens.map literal)

@[simp] theorem beforeEnd_nil : beforeEnd [] = [] := rfl

/-- Cutting a stream at its end marker a second time changes nothing. -/
theorem beforeEnd_beforeEnd (tokens : List Token) :
    beforeEnd (beforeEnd tokens) = beforeEnd tokens := by
  induction tokens with
  | nil => rfl
  | cons token rest ih =>
    by_cases h : token.kind = .endOfStream
    · simp [beforeEnd, h]
    · simpa [beforeEnd, h] using ih

/-- No end marker is left in front of the first one. -/
theorem kind_ne_endOfStream_of_mem {tokens : List Token} {token : Token}
    (h : token ∈ beforeEnd tokens) : token.kind ≠ .endOfStream := by
  induction tokens with
  | nil => simp [beforeEnd] at h
  | cons first rest ih =>
    by_cases hf : first.kind = .endOfStream
    · simp [beforeEnd, hf] at h
    · simp only [beforeEnd, List.takeWhile_cons, hf, ne_eq, not_false_eq_true, decide_true,
        ↓reduceIte, List.mem_cons] at h
      rcases h with rfl | h
      · exact hf
      · exact ih h

end Token

end ArithExpr
