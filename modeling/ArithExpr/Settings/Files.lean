/-!
# Files that settings are read from

A file is named by a path: the names of the folders that lead to it from the one at
hand, and its own name, with slashes between them.  `.` is the folder that is reached,
`..` the one around it.  Only a folder that exists can be passed through, also on the
way out of it.

The name of a file with settings may lack its end `.toml`.
-/

namespace ArithExpr.Settings

/-- What a file system holds: the content of the file with a name, if there is one. -/
abbrev Files : Type :=
  String → Option String

/-- The parts of a path, without those that mean the folder they stand in. -/
def pathParts (name : String) : List String :=
  (name.toList.splitOn '/').filterMap fun part =>
    if part.isEmpty || part = ['.'] then none else some (String.ofList part)

/-- Whether a path starts at the root of all folders. -/
def isAbsolute (name : String) : Bool :=
  name.toList.head? = some '/'

/-- A path in its shortest form. -/
def shortName (name : String) : String :=
  let path := "/".intercalate (pathParts name)
  if isAbsolute name then "/" ++ path else path

/-- Whether a path can only be one of a folder. -/
def namesFolder (name : String) : Bool :=
  match name.toList.reverse with
  | '.' :: '/' :: _ => true
  | '/' :: _ => true
  | _ => false

namespace Files

/-- Where the parts of a path lead from a place.  A place is the list of the names that lead to it,
the innermost first; what lies around the folder at hand is not known. -/
def follow (isFolder : List String → Bool) : (place : List String) → List String →
    Option (List String)
  | place, [] => some place
  | place, part :: rest =>
    if !isFolder place then none
    else if part ≠ ".." then follow isFolder (part :: place) rest
    else match place with
      | [] => none
      | _ :: around => follow isFolder around rest

/-- The file system with the given paths and contents, seen from the folder at hand. -/
def ofList (held : List (String × String)) : Files := fun name =>
  let held := held.map fun (path, content) => ((pathParts path).reverse, content)
  let isFolder (place : List String) : Bool :=
    place.isEmpty || held.any fun (path, _) => place.isSuffixOf path && place ≠ path
  if isAbsolute name then none
  else (follow isFolder [] (pathParts name)).bind fun place => held.lookup place

/-- The file that a path stands for, with its shortest path and its content: the one of that path,
or else the one with `.toml` behind it. -/
def find? (files : Files) (name : String) : Option (String × String) :=
  let content? (path : String) := (files path).map fun content => (path, content)
  let short := shortName name
  match (pathParts name).getLast? with
  | none => none
  | some last =>
    let exact := if namesFolder name then none else content? short
    exact <|> if last = ".." then none else content? (short ++ ".toml")

end Files

end ArithExpr.Settings
