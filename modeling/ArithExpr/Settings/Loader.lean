import ArithExpr.Settings.Files
import ArithExpr.Settings.KeyPath
import ArithExpr.Settings.Typed
import ArithExpr.Toml.Document

/-!
# Loading settings

Settings are put together from layers: the built-in ones, then files in the order in
which they were added, then single values in the order in which they were set.  Later
layers go over earlier ones name by name.  A value set beats every file, wherever it
came in the order of calls, and only what is left at the end is checked.
-/

namespace ArithExpr.Settings

/-- A file to read settings from; a file that is not required may be missing. -/
structure FileLayer where
  name : String
  isRequired : Bool

/-- What settings are to be put together from. -/
structure Loader where
  files : List FileLayer
  overrides : List (KeyPath × Value)

namespace Loader

/-- Nothing but the built-in settings. -/
def start : Loader :=
  ⟨[], []⟩

/-- Add a file that must be there. -/
def withFile (loader : Loader) (name : String) : Loader :=
  { loader with files := loader.files ++ [⟨name, true⟩] }

/-- Add a file that may be missing. -/
def withOptionalFile (loader : Loader) (name : String) : Loader :=
  { loader with files := loader.files ++ [⟨name, false⟩] }

/-- Set one value; what does not read as a path is refused at once. -/
def withValue (loader : Loader) (path : String) (value : Value) : Except LoadError Loader :=
  match KeyPath.ofText? path with
  | some steps => .ok { loader with overrides := loader.overrides ++ [(steps, value)] }
  | none => .error (.noPath path)

/-- Put the entries of a document over a value.  A name that reads as a path is one. -/
def overlay (file : String) (document : Toml.Table) (target : Value) : Value :=
  document.foldl
    (fun target (name, content) =>
      (Value.ofToml file content).putAt ((KeyPath.ofText? name).getD [.field name]) target)
    target

/-- Put a file over a value. -/
def addFile (files : Files) (target : Value) (layer : FileLayer) : Except LoadError Value :=
  match files.find? layer.name with
  | none => if layer.isRequired then .error (.missingFile layer.name) else .ok target
  | some (file, content) =>
    match Toml.read? content with
    | some document => .ok (overlay file document target)
    | none => .error (.faultyFile file)

/-- All layers merged. -/
def merged (loader : Loader) (files : Files) : Except LoadError Value := do
  let value ← loader.files.foldlM (addFile files) Settings.builtIn.toValue
  return loader.overrides.foldl (fun target (path, incoming) => incoming.putAt path target) value

/-- The settings that all layers come to. -/
def load (loader : Loader) (files : Files) : Except LoadError Settings := do
  let settings ← Settings.ofValue (← loader.merged files)
  if Tree.maxDepthCeiling < settings.maxDepth then throw (.tooDeep settings.maxDepth)
  return settings

end Loader

end ArithExpr.Settings
