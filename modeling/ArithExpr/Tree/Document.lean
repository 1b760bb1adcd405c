import ArithExpr.Document
import ArithExpr.Tree.Parse
import ArithExpr.Tree.Path
import ArithExpr.Validity

/-!
# Tokens, faults, trees and paths as documents

A token is a mapping of its kind and its literal.  A node is a value tagged with
its form, and a group is a mapping with its nodes under the key `children`, as is
the whole tree.
-/

namespace ArithExpr

namespace Token

/-- A token as a document. -/
def document (token : Token) : Document :=
  .mapping [("kind", .text token.kind.tag), ("literal", .text token.literal)]

/-- A stream as a document. -/
def documentOfAll (tokens : List Token) : Document :=
  .sequence (tokens.map document)

end Token

namespace Node

mutual

/-- A node as a document. -/
def document : Node → Document
  | .literal value => .tagged "Literal" (.double value)
  | .operator op => .tagged (Node.operator op).form (.text op.symbol)
  | .group children => .tagged "Group" (.mapping [("children", .sequence (documents children))])

/-- A run of nodes as documents. -/
def documents : List Node → List Document
  | [] => []
  | node :: rest => node.document :: documents rest

end

end Node

/-- A tree as a document. -/
def Tree.document (tree : Tree) : Document :=
  .mapping [("children", .sequence (Node.documents tree.children))]

/-- A path as a document. -/
def Path.document (path : Path) : Document :=
  .sequence (path.map .natural)

/-- A failure to build a tree as a document. -/
def ParseError.document : ParseError → Document
  | .malformedGrouping index => .tagged "MalformedGrouping" (.mapping [("index", .natural index)])
  | .nestingTooDeep limit => .tagged "NestingTooDeep" (.mapping [("limit", .natural limit)])
  | .unexpectedToken index kind =>
    .tagged "UnexpectedToken" (.mapping [("index", .natural index), ("kind", .text kind.tag)])

end ArithExpr
