/-!
# Requests for output

A request names how far an expression is taken, its *stage*, and how the result is
written, its *format*.  As text it is the two names joined by a dash.  A drawing
needs a tree, so it can be asked for at the last stage only.
-/

namespace ArithExpr

/-- How far an expression is taken: to its tokens, to the verdict on them, or to its tree. -/
inductive Stage where
  | token
  | check
  | ast
  deriving DecidableEq

/-- How a result is written. -/
inductive Format where
  | simple
  | json
  | yaml
  | treeviz
  deriving DecidableEq

namespace Stage

/-- The name of a stage. -/
def name : Stage → String
  | .token => "token"
  | .check => "check"
  | .ast => "ast"

/-- The stage with a name. -/
def ofName? (name : String) : Option Stage :=
  [token, check, ast].find? fun stage => stage.name = name

end Stage

namespace Format

/-- The name of a format. -/
def name : Format → String
  | .simple => "simple"
  | .json => "json"
  | .yaml => "yaml"
  | .treeviz => "treeviz"

/-- The format with a name. -/
def ofName? (name : String) : Option Format :=
  [simple, json, yaml, treeviz].find? fun format => format.name = name

end Format

/-- A stage and a format.  Not every pair can be answered: see `Request.available`. -/
structure Request where
  stage : Stage
  format : Format
  deriving DecidableEq

/-- Why a text is no request. -/
inductive RequestError where
  /-- The text has no dash. -/
  | noDash (text : String)
  /-- What stands in front of the first dash is no stage. -/
  | unknownStage (name : String)
  /-- What stands behind the first dash is no format. -/
  | unknownFormat (name : String)
  /-- A drawing is asked for at a stage that has no tree. -/
  | drawingWithoutTree
  deriving DecidableEq

namespace Request

/-- A request as text. -/
def text (request : Request) : String :=
  request.stage.name ++ "-" ++ request.format.name

/-- The requests that can be answered, in the order in which they are listed to users. -/
def available : List Request :=
  [⟨.token, .simple⟩, ⟨.token, .json⟩, ⟨.token, .yaml⟩,
    ⟨.check, .simple⟩, ⟨.check, .json⟩, ⟨.check, .yaml⟩,
    ⟨.ast, .simple⟩, ⟨.ast, .json⟩, ⟨.ast, .yaml⟩, ⟨.ast, .treeviz⟩]

/-- The texts of the requests that can be answered. -/
def availableTexts : List String :=
  available.map text

/-- The request that a text stands for; the text is divided at its first dash. -/
def ofText (text : String) : Except RequestError Request :=
  let cs := text.toList
  let stageName := String.ofList (cs.takeWhile (· ≠ '-'))
  match cs.dropWhile (· ≠ '-') with
  | [] => .error (.noDash text)
  | _ :: rest =>
    match Stage.ofName? stageName with
    | none => .error (.unknownStage stageName)
    | some stage =>
      match Format.ofName? (String.ofList rest) with
      | none => .error (.unknownFormat (String.ofList rest))
      | some format =>
        if format = .treeviz && stage ≠ .ast then .error .drawingWithoutTree
        else .ok ⟨stage, format⟩

end Request

end ArithExpr
