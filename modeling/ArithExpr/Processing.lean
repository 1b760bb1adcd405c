import ArithExpr.Document.Json
import ArithExpr.Document.Yaml
import ArithExpr.Log
import ArithExpr.Request
import ArithExpr.Settings
import ArithExpr.Token.Scan
import ArithExpr.Tree.Document
import ArithExpr.Tree.Drawing
import ArithExpr.Tree.Text

/-!
# From source to output

A source is taken through the stages one after the other.  Its tokens can be shown
whatever they are; before the rules are tried, a source with a character that no
expression contains is turned away, and a tree is built only from tokens that keep
the rules.  Each stage turns away with an error of its own, so the error tells how
far the source came.
-/

namespace ArithExpr

/-- A fault together with the wording that the settings give it. -/
structure Finding where
  fault : Fault
  message : String
  deriving DecidableEq

/-- The verdict of the rules: what was found, and nothing for valid tokens. -/
structure Report where
  findings : List Finding
  deriving DecidableEq

namespace Report

/-- Whether nothing was found. -/
def valid (report : Report) : Bool :=
  report.findings.isEmpty

/-- The report on the outcome of the rules. -/
def ofVerdict (messages : Messages) : Except Validity.Rejection Unit → Report
  | .ok () => ⟨[]⟩
  | .error rejection => ⟨[⟨rejection.fault, messages.wording rejection.fault⟩]⟩

/-- A report as text, with a line for each finding. -/
def text (report : Report) : String :=
  if report.valid then "valid"
  else "\n".intercalate (report.findings.map fun finding => "invalid: " ++ finding.message)

/-- A report as a document. -/
def document (report : Report) : Document :=
  .mapping
    [("valid", .boolean report.valid),
      ("errors", .sequence (report.findings.map fun finding =>
        .mapping [("kind", .text finding.fault.tag), ("message", .text finding.message)]))]

end Report

/-- Why a source gave no output. -/
inductive ProcessingError where
  /-- The text that should say what to write is no request. -/
  | request (error : RequestError)
  /-- The requested format does not apply to the requested stage. -/
  | noSuchRendering (format : Format)
  /-- A character that no expression contains, as the token it became and the byte it starts at. -/
  | lexical (token : Token) (offset : Nat)
  /-- The tokens break a rule. -/
  | invalid (findings : List Finding)
  /-- The tokens keep the rules but make up no tree. -/
  | parse (error : ParseError)
  deriving DecidableEq

/-- What a text that is no request is refused for. -/
def RequestError.subject : RequestError → String
  | .noDash text => text
  | .unknownStage name => name
  | .unknownFormat name => name
  | .drawingWithoutTree => "Format 'treeviz' only works with ast stage"

/-- The wording of a refused request. -/
def RequestError.message : RequestError → String
  | .noDash text => "Invalid format: " ++ text
  | .unknownStage name => "Invalid stage: " ++ name
  | error => "Invalid format type: " ++ error.subject

/-- The wording of a format that cannot write a document. -/
def Format.refusal (format : Format) : String :=
  format.name.capitalize ++ " is not a serialization format"

/-- The wording of an error. -/
def ProcessingError.message : ProcessingError → String
  | .request error => error.message
  | .noSuchRendering format => "Invalid format type: " ++ format.refusal
  | .lexical token offset =>
    token.kind.label ++ " character '" ++ token.literal ++ "' at offset " ++ toString offset
  | .invalid findings =>
    "Invalid expression: " ++ "; ".intercalate (findings.map Finding.message)
  | .parse error => "Parse error: " ++ error.message

namespace Processing

/-- The line that records a token that no expression contains. -/
def rejectionNote (located : Token.Located) : String :=
  "rejecting " ++ located.token.kind.label ++ " token '" ++ located.token.literal ++ "' at " ++
    toString located.start ++ ".." ++ toString located.stop

/-- The tokens of a source that consists of characters of expressions only. -/
def lex (source : String) : Logged (Except ProcessingError (List Token)) :=
  let found := Token.scanLocated source
  match found.find? fun located => located.token.kind.isLexicalError with
  | some located =>
    ⟨.error (.lexical located.token located.start), [Log.debug (rejectionNote located)]⟩
  | none => .silent (.ok (found.map Token.Located.token))

/-- The verdict of the rules on a stream, with the line that records a rejection. -/
def judge (tokens : List Token) : Logged (Except Validity.Rejection Unit) :=
  match Validity.check tokens with
  | .ok () => .silent (.ok ())
  | .error rejection => ⟨.error rejection, [Log.debug rejection.note]⟩

/-- Read a stream, with the lines that record its parentheses. -/
def readTree (limit : Nat) (tokens : List Token) : Logged (Except ParseError Tree) :=
  let reading := Tree.read limit tokens
  ⟨reading.result, reading.brackets.map fun bracket => Log.trace bracket.note⟩

/-- The report on a source. -/
def check (settings : Settings) (source : String) : Logged (Except ProcessingError Report) :=
  (lex source).andThen fun tokens =>
    (judge tokens).map fun verdict => .ok (Report.ofVerdict settings.messages verdict)

/-- The tree of a source. -/
def parse (settings : Settings) (source : String) : Logged (Except ProcessingError Tree) :=
  (lex source).andThen fun tokens =>
    Logged.andThen
      ((judge tokens).map fun verdict =>
        let report := Report.ofVerdict settings.messages verdict
        if report.valid then .ok () else .error (.invalid report.findings))
      fun _ => (readTree (Tree.clampDepth settings.maxDepth) tokens).map (Except.mapError .parse)

/-- A document in a format that writes documents. -/
def writeDocument (format : Format) (document : Document) : Except ProcessingError String :=
  match format with
  | .json => .ok document.prettyJson
  | .yaml => .ok document.yaml
  | .simple | .treeviz => .error (.noSuchRendering format)

/-- A stream in a format. -/
def writeTokens (format : Format) (tokens : List Token) : Except ProcessingError String :=
  match format with
  | .simple => .ok (Token.spaced tokens)
  | format => writeDocument format (Token.documentOfAll tokens)

/-- A report in a format. -/
def writeReport (format : Format) (report : Report) : Except ProcessingError String :=
  match format with
  | .simple => .ok report.text
  | format => writeDocument format report.document

/-- A tree in a format. -/
def writeTree (format : Format) (tree : Tree) : Except ProcessingError String :=
  match format with
  | .simple => .ok tree.text
  | .treeviz => .ok tree.drawing
  | format => writeDocument format tree.document

/-- The output that a request asks for. -/
def run (settings : Settings) (request : Request) (source : String) :
    Logged (Except ProcessingError String) :=
  match request.stage with
  | .token => .silent (writeTokens request.format (Token.scan source))
  | .check =>
    (check settings source).andThen fun report => .silent (writeReport request.format report)
  | .ast => (parse settings source).andThen fun tree => .silent (writeTree request.format tree)

end Processing

end ArithExpr
