/-!
# Log entries

Reading an expression leaves a record beside its result: what was rejected and
where, and which groups were opened and closed.  The record is data, returned
with the value, so that a caller decides whether to show it.
-/

namespace ArithExpr

namespace Log

/-- How much detail an entry belongs to: `debug` names rejections, `trace` the steps of a parse. -/
inductive Level where
  | debug
  | trace
  deriving DecidableEq

/-- One line of the record. -/
structure Entry where
  level : Level
  text : String
  deriving DecidableEq

/-- An entry that names a rejection. -/
def debug (text : String) : Entry :=
  ⟨.debug, text⟩

/-- An entry that names a step. -/
def trace (text : String) : Entry :=
  ⟨.trace, text⟩

/-- The entries that are shown when detail up to `level` is asked for. -/
def upTo (level : Level) (entries : List Entry) : List Entry :=
  match level with
  | .trace => entries
  | .debug => entries.filter fun entry => entry.level = .debug

/-- An entry as a line: its level and its text. -/
def Entry.line (entry : Entry) : String :=
  match entry.level with
  | .debug => "DEBUG " ++ entry.text
  | .trace => "TRACE " ++ entry.text

end Log

/-- A value with the record of how it came about. -/
structure Logged (α : Type) where
  value : α
  log : List Log.Entry

namespace Logged

/-- A value that leaves no record. -/
def silent {α : Type} (value : α) : Logged α :=
  ⟨value, []⟩

/-- The same record beside another value. -/
def map {α β : Type} (f : α → β) (x : Logged α) : Logged β :=
  ⟨f x.value, x.log⟩

/-- Go on with a success, keeping its record in front; a failure ends the work with its record. -/
def andThen {ε α β : Type} (x : Logged (Except ε α)) (next : α → Logged (Except ε β)) :
    Logged (Except ε β) :=
  match x.value with
  | .error e => ⟨.error e, x.log⟩
  | .ok a => ⟨(next a).value, x.log ++ (next a).log⟩

@[simp] theorem andThen_error {ε α β : Type} (e : ε) (log : List Log.Entry)
    (next : α → Logged (Except ε β)) :
    andThen ⟨.error e, log⟩ next = ⟨.error e, log⟩ := rfl

@[simp] theorem andThen_ok {ε α β : Type} (a : α) (log : List Log.Entry)
    (next : α → Logged (Except ε β)) :
    andThen ⟨.ok a, log⟩ next = ⟨(next a).value, log ++ (next a).log⟩ := rfl

/-- Going on succeeds when there is a success to go on with and what comes next succeeds. -/
theorem value_andThen_eq_ok_iff {ε α β : Type} {x : Logged (Except ε α)}
    {next : α → Logged (Except ε β)} {b : β} :
    (x.andThen next).value = .ok b ↔ ∃ a, x.value = .ok a ∧ (next a).value = .ok b := by
  obtain ⟨value, log⟩ := x
  cases value <;> simp

end Logged

end ArithExpr
