import ArithExpr.Number.Layout
import ArithExpr.Number.Word
import ArithExpr.Text.Quoted
import ArithExpr.Toml.Value

/-!
# Values of settings before they are typed

Settings come from several places and are merged before anyone asks for their types.
The merged whole is a value: a scalar, an array or a table of named values.  Names in
tables are in lower case.  A value that was read from a file remembers the file, so
that a fault found later can point to it; a table that was merged has no single origin.
-/

namespace ArithExpr.Settings

/-- A value without parts; `absent` stands where nothing was given. -/
inductive Scalar where
  | absent
  | boolean (b : Bool)
  | integer (n : Int)
  | float (d : Double)
  | text (s : String)

/-- A value, with the file it was read from. -/
inductive Value where
  | scalar (origin : Option String) (content : Scalar)
  | array (origin : Option String) (items : List Value)
  | table (origin : Option String) (entries : List (String × Value))

namespace Value

/-- The value of a place that nothing was given for. -/
def absent : Value :=
  .scalar none .absent

/-- A table without entries. -/
def emptyTable : Value :=
  .table none []

/-- The file that a value was read from. -/
def origin? : Value → Option String
  | .scalar origin _ | .array origin _ | .table origin _ => origin

/-- The value under a name, if the value is a table and has the name. -/
def field? (name : String) : Value → Option Value
  | .table _ entries => entries.lookup name
  | _ => none

/-! ### Values from documents -/

mutual

/-- The value that a document has in some place. -/
def ofToml (file : String) : Toml.Value → Value
  | .text s => .scalar (some file) (.text s)
  | .integer n => .scalar (some file) (.integer n)
  | .float d => .scalar (some file) (.float d)
  | .boolean b => .scalar (some file) (.boolean b)
  | .date s => .scalar (some file) (.text s)
  | .array items => .array (some file) (ofTomlItems file items)
  | .table entries => .table (some file) (ofTomlTable file entries)

/-- The values of the items of an array. -/
def ofTomlItems (file : String) : List Toml.Value → List Value
  | [] => []
  | item :: rest => ofToml file item :: ofTomlItems file rest

/-- The values of the entries of a table. -/
def ofTomlTable (file : String) : List (String × Toml.Value) → List (String × Value)
  | [] => []
  | (name, item) :: rest => (name, ofToml file item) :: ofTomlTable file rest

end

/-! ### Merging -/

/-- A name as it stands in a table: in lower case. -/
def foldCase (name : String) : String :=
  String.ofList (name.toList.map Char.toLower)

/-- Give a name in a list of entries a value, in the place of the one it has. -/
def assign (name : String) (value : Value) : List (String × Value) → List (String × Value)
  | [] => [(name, value)]
  | (other, old) :: rest =>
    if other = name then (name, value) :: rest else (other, old) :: assign name value rest

/-- The name has the value, and every other name has what it had. -/
theorem lookup_assign (name other : String) (value : Value) (entries : List (String × Value)) :
    (assign name value entries).lookup other =
      if other = name then some value else entries.lookup other := by
  induction entries with
  | nil => by_cases h : other = name <;> simp [assign, h]
  | cons entry rest ih =>
    obtain ⟨first, old⟩ := entry
    by_cases hf : first = name
    · subst hf
      by_cases h : other = first
      · simp [assign, h]
      · have hb : (other == first) = false := by simpa using h
        simp [assign, List.lookup_cons, h, hb]
    · by_cases h : other = first
      · subst h
        simp [assign, hf]
      · have hb : (other == first) = false := by simpa using h
        simp [assign, hf, List.lookup_cons, hb, ih]

/-- Give a name a value.  What is no table gives way to one. -/
def assignField (target : Value) (name : String) (value : Value) : Value :=
  match target with
  | .table origin entries => .table origin (assign name value entries)
  | _ => .table none [(name, value)]

/-- The name has the value, and every other name of a table has what it had. -/
theorem field?_assignField (name other : String) (value target : Value) :
    (target.assignField name value).field? other =
      if other = name then some value else target.field? other := by
  cases target with
  | table origin entries => exact lookup_assign name other value entries
  | scalar | array =>
    by_cases h : other = name
    · simp [assignField, field?, h]
    · have hb : (other == name) = false := by simpa using h
      simp [assignField, field?, List.lookup_cons, h, hb]

mutual

/-- Put a value under a name.  A table is merged into what stands there, entry by entry; anything
else takes its place. -/
def setField (target : Value) (name : String) : (incoming : Value) → Value
  | .table _ entries =>
    target.assignField (foldCase name)
      (mergeEntries ((target.field? (foldCase name)).getD emptyTable) entries)
  | .scalar origin content => target.assignField (foldCase name) (.scalar origin content)
  | .array origin items => target.assignField (foldCase name) (.array origin items)

/-- Put entries into a value one after the other. -/
def mergeEntries (target : Value) : List (String × Value) → Value
  | [] => target
  | (name, incoming) :: rest => mergeEntries (setField target name incoming) rest

end

/-! ### Values in messages -/

/-- A number in a message, with a point even if it is whole. -/
def pointed : Layout :=
  { Layout.plain with keepsPoint := true }

/-- The word for an integer in a message: it is held in 64 bits if they are enough. -/
def integerNoun (n : Int) : String :=
  if Word.fitsSigned n || Word.fitsUnsigned n then "64-bit integer" else "128-bit integer"

end Value

/-- A scalar in a message; `integerNoun` is the word for an integer. -/
def Scalar.describe (integerNoun : Int → String) : Scalar → String
  | .absent => "unit value"
  | .boolean b => "boolean `" ++ toString b ++ "`"
  | .integer n => integerNoun n ++ " `" ++ toString n ++ "`"
  | .float d => "floating point `" ++ Value.pointed.write d ++ "`"
  | .text s => "string " ++ Text.quoted s

/-- A value in a message. -/
def Value.describe : Value → String
  | .scalar _ content => content.describe integerNoun
  | .array _ _ => "sequence"
  | .table _ _ => "map"

end ArithExpr.Settings
