import ArithExpr.Toml.Value

/-!
# Tables under construction

A table can be written in several pieces: by a header of its own, by longer headers
that pass through it, and by keys of several parts.  Which pieces may follow which
depends on how the table came about, so while a document is read each table carries
its `Origin`.  A piece that may not follow, and a name that is given twice, make the
document faulty.
-/

namespace ArithExpr.Toml

/-- How a table came about. -/
inductive Origin where
  /-- Under a header or between braces: its content is written in this one place. -/
  | written
  /-- A longer header passes through it: a header of its own may still come. -/
  | passed
  /-- A key of several parts passes through it: more such keys may add to it. -/
  | dotted
  deriving DecidableEq

/-- What a name stands for in a table under construction. -/
inductive Item where
  | value (v : Value)
  | table (origin : Origin) (entries : List (String × Item))
  /-- An array of tables: those that are complete, latest first, and the last, which can still
  grow. -/
  | tables (complete : List Value) (last : List (String × Item))

/-- The names of a table under construction and what each stands for. -/
abbrev Entries : Type :=
  List (String × Item)

mutual

/-- The value that an item comes to. -/
def Item.finished : Item → Value
  | .value v => v
  | .table _ entries => .table (Entries.finished entries)
  | .tables complete last => .array (.table (Entries.finished last) :: complete).reverse

/-- The table that entries come to. -/
def Entries.finished : List (String × Item) → List (String × Value)
  | [] => []
  | (name, item) :: rest => (name, item.finished) :: Entries.finished rest

end

namespace Entries

/-- Change what a name stands for, or give it something to stand for. -/
def alter (name : String) (change : Option Item → Option Item) : Entries → Option Entries
  | [] => (change none).map fun item => [(name, item)]
  | (other, item) :: rest =>
    if other = name then (change (some item)).map fun item => (other, item) :: rest
    else (alter name change rest).map ((other, item) :: ·)

/-- Change the table at the end of a path.  A table that is missing on the way comes about as
`step`; an array of tables leads to its last table.  A dotted path may not pass through a table
that is written elsewhere. -/
def alterTable (step : Origin) (change : Origin → Entries → Option Entries) :
    List String → Origin → Entries → Option Entries
  | [], origin, entries => change origin entries
  | name :: path, _, entries =>
    entries.alter name fun
      | none => (alterTable step change path step []).map (.table step)
      | some (.value _) => none
      | some (.table origin inner) =>
        if step = .dotted && origin = .written then none
        else (alterTable step change path origin inner).map (.table origin)
      | some (.tables complete last) =>
        (alterTable step change path .written last).map (.tables complete)

/-- Give a new name a value. -/
def addValue (name : String) (value : Value) (entries : Entries) : Option Entries :=
  entries.alter name fun
    | none => some (.value value)
    | some _ => none

/-- Add a value under a key: the last part names the value, and the parts in front of it a table,
which comes about by such keys alone. -/
def addKey (path : List String) (name : String) (value : Value) (entries : Entries) :
    Option Entries :=
  alterTable .dotted
    (fun origin inner =>
      if path.isEmpty || origin = .dotted then inner.addValue name value else none)
    path .written entries

/-- Add values under keys, one after the other. -/
def addKeys (pairs : List (List String × Value)) (entries : Entries) : Option Entries :=
  pairs.foldlM
    (fun entries (key, value) =>
      match key.getLast? with
      | some name => entries.addKey key.dropLast name value
      | none => none)
    entries

/-- Give a name something to stand for, as the last of the names. -/
def putLast (name : String) (item : Item) (entries : Entries) : Entries :=
  entries.filter (fun (other, _) => other ≠ name) ++ [(name, item)]

/-- Add a table under a header, with the values that follow it.  It becomes the last in its table,
also if longer headers have passed through it before. -/
def addTable (path : List String) (name : String) (pairs : List (List String × Value))
    (entries : Entries) : Option Entries :=
  let fill (content inner : Entries) : Option Entries :=
    (content.addKeys pairs).map fun content => inner.putLast name (.table .written content)
  alterTable .passed
    (fun _ inner =>
      match inner.lookup name with
      | none => fill [] inner
      | some (.table .passed content) => fill content inner
      | some _ => none)
    path .written entries

/-- Add a table to an array of tables, with the values that follow its header. -/
def addElement (path : List String) (name : String) (pairs : List (List String × Value))
    (entries : Entries) : Option Entries :=
  let fill (complete : List Value) := (addKeys pairs []).map (Item.tables complete)
  alterTable .passed
    (fun _ inner => inner.alter name fun
      | none => fill []
      | some (.tables complete last) => fill (.table (Entries.finished last) :: complete)
      | some _ => none)
    path .written entries

end Entries

end ArithExpr.Toml
