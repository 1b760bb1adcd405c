import ArithExpr.Proofs.Token.Places
import ArithExpr.Tree.Parse
import Mathlib.Tactic.Common

/-!
# The reader step by step

The reader goes over one literal, operator or parenthesis at a time, and it stops where
none of them can be gone over.  `State.Step` lists what it can go over and `State.Halt`
where it stops and with which result; every reading is a row of steps with a halt at its
end (`reads_readFrom`).

So an invariant of the reader asks for one lemma on steps, and what its results mean is
read off the halts, under the invariant.
-/

namespace ArithExpr.Tree

open Token

/-- The reader goes over the next literal, operator or parenthesis of a stream, from one state to
another. -/
inductive State.Step (limit : Nat) (tokens : List Token) (state : State) : State → Prop
  | whole {whole : String} {value : Double} {rest : List Token}
      (hdrop : tokens.drop state.index = ⟨.number, whole⟩ :: rest)
      (hrest : ∀ point fraction rest',
        rest = ⟨.point, point⟩ :: ⟨.number, fraction⟩ :: rest' → False)
      (hvalue : Numeral.double? whole.toList = some value) :
      Step limit tokens state (state.add 1 (.literal value))
  | decimal {whole point fraction : String} {value : Double} {rest : List Token}
      (hdrop : tokens.drop state.index =
        ⟨.number, whole⟩ :: ⟨.point, point⟩ :: ⟨.number, fraction⟩ :: rest)
      (hvalue : Numeral.double? (whole.toList ++ '.' :: fraction.toList) = some value) :
      Step limit tokens state (state.add 3 (.literal value))
  | operator {token : Token} {op : Operator} {rest : List Token}
      (hdrop : tokens.drop state.index = token :: rest) (hop : operatorOf? token.kind = some op) :
      Step limit tokens state (state.add 1 (.operator op))
  | opening {text : String} {rest : List Token}
      (hdrop : tokens.drop state.index = ⟨.leftParen, text⟩ :: rest)
      (hlimit : state.depth ≠ limit) : Step limit tokens state state.openGroup
  | closing {text : String} {rest : List Token} {outer : List Node} {around : List (List Node)}
      (hdrop : tokens.drop state.index = ⟨.rightParen, text⟩ :: rest)
      (henclosing : state.enclosing = outer :: around) :
      Step limit tokens state (state.closeGroup outer around)

/-- The reader stops in a state, with this result. -/
inductive State.Halt (limit : Nat) (tokens : List Token) (state : State) :
    Except ParseError Tree → Prop
  | complete (hdrop : tokens.drop state.index = []) (hclosed : state.enclosing = []) :
      Halt limit tokens state (.ok ⟨state.nodes.reverse⟩)
  | unclosed (hdrop : tokens.drop state.index = []) (hopen : state.enclosing ≠ []) :
      Halt limit tokens state (.error (.malformedGrouping state.index))
  | noWhole {whole : String} {rest : List Token}
      (hdrop : tokens.drop state.index = ⟨.number, whole⟩ :: rest)
      (hrest : ∀ point fraction rest',
        rest = ⟨.point, point⟩ :: ⟨.number, fraction⟩ :: rest' → False)
      (hvalue : Numeral.double? whole.toList = none) :
      Halt limit tokens state (.error (.unexpectedToken state.index .number))
  | noDecimal {whole point fraction : String} {rest : List Token}
      (hdrop : tokens.drop state.index =
        ⟨.number, whole⟩ :: ⟨.point, point⟩ :: ⟨.number, fraction⟩ :: rest)
      (hvalue : Numeral.double? (whole.toList ++ '.' :: fraction.toList) = none) :
      Halt limit tokens state (.error (.unexpectedToken state.index .number))
  | tooDeep {text : String} {rest : List Token}
      (hdrop : tokens.drop state.index = ⟨.leftParen, text⟩ :: rest)
      (hlimit : state.depth = limit) :
      Halt limit tokens state (.error (.nestingTooDeep limit))
  | unmatched {text : String} {rest : List Token}
      (hdrop : tokens.drop state.index = ⟨.rightParen, text⟩ :: rest)
      (hclosed : state.enclosing = []) :
      Halt limit tokens state (.error (.malformedGrouping state.index))
  | noNode {kind : Kind} {text : String} {rest : List Token}
      (hdrop : tokens.drop state.index = ⟨kind, text⟩ :: rest)
      (hkind : kind ∉ [Kind.number, .leftParen, .rightParen]) (hop : operatorOf? kind = none) :
      Halt limit tokens state (.error (.unexpectedToken state.index kind))

/-- A reading from a state: steps, as many as can be taken, and the halt behind them. -/
inductive State.Reads (limit : Nat) (tokens : List Token) : State → Reading → Prop
  | halt {state : State} {result : Except ParseError Tree}
      (hhalt : state.Halt limit tokens result) : Reads limit tokens state (state.finish result)
  | step {state state' : State} {reading : Reading} (hstep : state.Step limit tokens state')
      (hreads : Reads limit tokens state' reading) : Reads limit tokens state reading

variable {limit : Nat} {tokens rest : List Token} {state : State}

/-- The reader takes steps until it halts. -/
theorem reads_readFrom (hdrop : tokens.drop state.index = rest) :
    state.Reads limit tokens (readFrom limit state rest) := by
  fun_induction readFrom limit state rest with
  | case1 state =>
    cases henclosing : state.enclosing with
    | nil => exact .halt (.complete hdrop henclosing)
    | cons outer around =>
      apply State.Reads.halt
      apply State.Halt.unclosed hdrop
      rw [henclosing]
      exact List.cons_ne_nil outer around
  | case2 state whole point fraction rest value hvalue ih =>
    apply State.Reads.step (.decimal hdrop hvalue)
    exact ih (drop_succ_of_drop (drop_succ_of_drop (drop_succ_of_drop hdrop)))
  | case3 state whole point fraction rest hvalue => exact .halt (.noDecimal hdrop hvalue)
  | case4 state whole rest hrest value hvalue ih =>
    exact .step (.whole hdrop hrest hvalue) (ih (drop_succ_of_drop hdrop))
  | case5 state whole rest hrest hvalue => exact .halt (.noWhole hdrop hrest hvalue)
  | case6 state text rest hlimit => exact .halt (.tooDeep hdrop hlimit)
  | case7 state text rest hlimit ih =>
    exact .step (.opening hdrop hlimit) (ih (drop_succ_of_drop hdrop))
  | case8 state text rest henclosing => exact .halt (.unmatched hdrop henclosing)
  | case9 state text rest outer around henclosing ih =>
    exact .step (.closing hdrop henclosing) (ih (drop_succ_of_drop hdrop))
  | case10 state kind text rest hdecimal hnumber hopen hclose op hop ih =>
    exact .step (.operator hdrop hop) (ih (drop_succ_of_drop hdrop))
  | case11 state kind text rest hdecimal hnumber hopen hclose hop =>
    have hkind : kind ∉ [Kind.number, .leftParen, .rightParen] := by
      simpa using ⟨hnumber, hopen, hclose⟩
    exact .halt (.noNode hdrop hkind hop)

end ArithExpr.Tree
