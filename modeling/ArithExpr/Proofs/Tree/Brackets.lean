import ArithExpr.Processing
import ArithExpr.Proofs.Tree.Offence
import Mathlib.Data.List.Forall2

/-!
# Parentheses on record

Beside its result a reading leaves a line for each parenthesis that was taken.  The lines
are the structure of what was read.  `LineAt` says what the line of a parenthesis is from
the place at which it stands; a reading writes those in front of the place at which it
stops, one after the other (`log_readTree`).

When a tree comes out, the lines are its outline: `Outlines` goes through nodes and lines
together and finds, for each group, the two lines that enclose the lines of its inside.
In the middle of a reading some groups are open, and `Pending` says that what stands
behind the lines of their `(` outlines the open runs.
-/

namespace ArithExpr

namespace Node

mutual

/-- How many groups there are in a node, itself included. -/
def groups : Node → Nat
  | .group children => groupsOfAll children + 1
  | _ => 0

/-- How many groups there are in a run. -/
def groupsOfAll : List Node → Nat
  | [] => 0
  | node :: rest => node.groups + groupsOfAll rest

end

end Node

namespace Tree

open Token

/-- How many groups there are in a tree. -/
def groups (tree : Tree) : Nat :=
  Node.groupsOfAll tree.children

/-! ### Lines by places -/

/-- The line of a `(`. -/
def openingLine (place depth : Nat) : Log.Entry :=
  Log.trace ("open group at token " ++ toString place ++ " (depth " ++ toString depth ++ ")")

/-- The line of a `)`. -/
def closingLine (place depth : Nat) : Log.Entry :=
  Log.trace ("close group at token " ++ toString place ++ " (depth " ++ toString depth ++ ")")

/-- The line of the parenthesis at a place.  A `(` is one level deeper than what stands in front of
it, and a `)` is as deep. -/
inductive LineAt (tokens : List Token) (place : Nat) : Log.Entry → Prop
  | opening {depth : Nat} (hkind : KindAt tokens place .leftParen)
      (hdepth : nesting tokens place = depth) :
      LineAt tokens place (openingLine place (depth + 1))
  | closing {depth : Nat} (hkind : KindAt tokens place .rightParen)
      (hdepth : nesting tokens place = depth) : LineAt tokens place (closingLine place depth)

/-- A parenthesis stands at a place. -/
def ParenAt (tokens : List Token) (place : Nat) : Prop :=
  KindAt tokens place .leftParen ∨ KindAt tokens place .rightParen

instance (tokens : List Token) (place : Nat) : Decidable (ParenAt tokens place) :=
  inferInstanceAs (Decidable (_ ∨ _))

/-- The places of the parentheses among the first `count` tokens, in ascending order. -/
def parenPlaces (tokens : List Token) (count : Nat) : List Nat :=
  (List.range count).filter fun place => ParenAt tokens place

/-- The lines are those of the parentheses among the first `count` tokens, one for each and in their
order. -/
def Records (tokens : List Token) (count : Nat) (lines : List Log.Entry) : Prop :=
  List.Forall₂ (LineAt tokens) (parenPlaces tokens count) lines

section Records

variable {tokens : List Token} {place : Nat} {lines : List Log.Entry} {line : Log.Entry}

/-- A parenthesis adds its line. -/
lemma Records.succ (h : Records tokens place lines) (hline : LineAt tokens place line) :
    Records tokens (place + 1) (lines ++ [line]) := by
  have hparen : ParenAt tokens place := by
    cases hline with
    | opening hkind => exact Or.inl hkind
    | closing hkind => exact Or.inr hkind
  have hplaces : parenPlaces tokens (place + 1) = parenPlaces tokens place ++ [place] := by
    simp [parenPlaces, List.range_succ, hparen]
  rw [Records, hplaces]
  exact List.rel_append h (.cons hline .nil)

end Records

/-! ### Outlines -/

/-- Lines are those of the groups in a run of nodes, with `depth` groups around the run. -/
inductive Outlines : Nat → List Node → List Log.Entry → Prop
  | empty {depth : Nat} : Outlines depth [] []
  | literal {depth : Nat} {value : Double} {nodes : List Node} {lines : List Log.Entry}
      (hrest : Outlines depth nodes lines) : Outlines depth (.literal value :: nodes) lines
  | operator {depth : Nat} {op : Operator} {nodes : List Node} {lines : List Log.Entry}
      (hrest : Outlines depth nodes lines) : Outlines depth (.operator op :: nodes) lines
  | group {depth start stop : Nat} {children nodes : List Node} {inner rest : List Log.Entry}
      (hinner : Outlines (depth + 1) children inner) (hrest : Outlines depth nodes rest) :
      Outlines depth (.group children :: nodes)
        (openingLine start (depth + 1) :: (inner ++ closingLine stop (depth + 1) :: rest))

section Outlines

variable {depth : Nat} {nodes more : List Node} {lines lines' : List Log.Entry}

/-- Runs side by side are outlined by their lines side by side. -/
lemma Outlines.append (h : Outlines depth nodes lines) (h' : Outlines depth more lines') :
    Outlines depth (nodes ++ more) (lines ++ lines') := by
  induction h with
  | empty => exact h'
  | literal _ ih => exact .literal (ih h')
  | operator _ ih => exact .operator (ih h')
  | group hinner _ _ ih =>
    rw [List.cons_append, List.cons_append, List.append_assoc, List.cons_append]
    exact .group hinner (ih h')

end Outlines

/-! ### The lines of the reader -/

/-- The line of a parenthesis that the reader has taken. -/
def Bracket.line (bracket : Bracket) : Log.Entry :=
  Log.trace bracket.note

/-- The lines of a reader that has some groups open.  What stands behind the line of a group that is
open outlines the run inside, as far as it goes; runs have their latest node first. -/
inductive Pending : List Node → List (List Node) → List Log.Entry → Prop
  | root {nodes : List Node} {lines : List Log.Entry}
      (houtline : Outlines 0 nodes.reverse lines) : Pending nodes [] lines
  | inside {nodes outer : List Node} {around : List (List Node)} {front inner : List Log.Entry}
      {start : Nat} (hfront : Pending outer around front)
      (hinner : Outlines (around.length + 1) nodes.reverse inner) :
      Pending nodes (outer :: around) (front ++ openingLine start (around.length + 1) :: inner)

/-- The lines of the parentheses that the reader has taken are those of the tokens it has gone over,
and they outline the runs it has open. -/
structure State.OnRecord (tokens : List Token) (state : State) : Prop where
  records : Records tokens state.index (state.brackets.reverse.map Bracket.line)
  pending : Pending state.nodes state.enclosing (state.brackets.reverse.map Bracket.line)

section Reader

variable {limit : Nat} {tokens : List Token} {state state' : State}
  {nodes more outer : List Node} {enclosing around : List (List Node)}
  {lines lines' : List Log.Entry} {reading : Reading}

/-- Nodes that come to the innermost open run bring their outline. -/
lemma Pending.append (h : Pending nodes enclosing lines)
    (hmore : Outlines enclosing.length more lines') :
    Pending (more.reverse ++ nodes) enclosing (lines ++ lines') := by
  cases h with
  | root houtline =>
    apply Pending.root
    rw [List.reverse_append, List.reverse_reverse]
    exact houtline.append hmore
  | inside hfront hinner =>
    rw [List.append_assoc, List.cons_append]
    apply Pending.inside hfront
    rw [List.reverse_append, List.reverse_reverse]
    exact hinner.append hmore

/-- Going over a node keeps the record, if none of its tokens is a parenthesis. -/
lemma State.OnRecord.add (h : state.OnRecord tokens) {count : Nat} {node : Node}
    (hrecords : Records tokens (state.index + count) (state.brackets.reverse.map Bracket.line))
    (houtline : Outlines state.enclosing.length [node] []) :
    (state.add count node).OnRecord tokens where
  records := hrecords
  pending := by
    have hpending := h.pending.append houtline
    rwa [List.append_nil] at hpending

end Reader

end Tree

namespace Processing

open Token ArithExpr.Tree

/-- The `)` that closes nothing has no line. -/
example :
    (readTree 1 [⟨.leftParen, "("⟩, ⟨.rightParen, ")"⟩, ⟨.rightParen, ")"⟩]).log =
      [openingLine 0 1, closingLine 1 1] := rfl

end Processing

end ArithExpr
