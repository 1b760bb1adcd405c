import ArithExpr.Proofs.Settings.Places
import Mathlib.Data.List.Induction

/-!
# The last writer of a setting

Settings are put together by calls on a loader, in any order and any number.  What one
more call comes to is said once (`Layered.step`): a file goes over the files before it,
a single value over everything.  So after any calls a setting is what the last single
value made it, or else the last file that says anything about it, or else what is built
in (`resolved`), and only that is compared with the ceiling (`load_after`).
-/

namespace ArithExpr.Settings

/-- A call on a loader. -/
inductive Call where
  | file (name : String)
  | optionalFile (name : String)
  | value (path : String) (incoming : Value)

/-- What the file with a name, if there is one, gives a setting. -/
def Files.gives? (files : Files) (name : String) (setting : Setting) : Option Scalar :=
  (files.find? name).bind fun found => (Toml.read? found.2).bind (given? setting)

namespace Call

/-- What a call makes of a loader. -/
def apply (loader : Loader) : Call → Except LoadError Loader
  | .file name => .ok (loader.withFile name)
  | .optionalFile name => .ok (loader.withOptionalFile name)
  | .value path incoming => loader.withValue path incoming

/-- What the file that a call names, if there is one, gives a setting. -/
def fileGives? (files : Files) (setting : Setting) : Call → Option Scalar
  | .file name | .optionalFile name => files.gives? name setting
  | .value _ _ => none

/-- What a call itself gives a setting. -/
def valueGives? (setting : Setting) : Call → Option Scalar
  | .value path incoming => if path = setting.key then incoming.content? else none
  | .file _ | .optionalFile _ => none

/-- The text of a file holds a plain document. -/
def HasPlain (text : String) : Prop :=
  ∃ document ∈ Toml.read? text, Settings.Plain document

instance : DecidablePred HasPlain :=
  fun _ => inferInstanceAs (Decidable (∃ _ ∈ _, _))

/-- A file that must be there is, every file that is there is plain, and a single value is one of
the right type for a setting. -/
def Plain (files : Files) : Call → Prop
  | .file name => ∃ found ∈ files.find? name, HasPlain found.2
  | .optionalFile name => ∀ found ∈ files.find? name, HasPlain found.2
  | .value path incoming =>
    ∃ setting : Setting, path = setting.key ∧ ∃ content ∈ incoming.content?, setting.takes content

instance (files : Files) : DecidablePred (Plain files)
  | .file name => inferInstanceAs (Decidable (∃ found ∈ files.find? name, HasPlain found.2))
  | .optionalFile name => inferInstanceAs (Decidable (∀ found ∈ files.find? name, HasPlain found.2))
  | .value path incoming =>
    inferInstanceAs <| Decidable <| ∃ setting : Setting, path = setting.key ∧
      ∃ content ∈ incoming.content?, setting.takes content

/-- A file that must be there and is plain is plain as one that may be missing. -/
lemma Plain.optionalFile {files : Files} {name : String} (h : (file name).Plain files) :
    (optionalFile name).Plain files := by
  obtain ⟨found, hfound, htext⟩ := h
  intro other hother
  obtain rfl := Option.some.inj (hfound.symm.trans hother)
  exact htext

end Call

/-- The loader after some calls. -/
def Loader.after (calls : List Call) : Except LoadError Loader :=
  calls.foldlM Call.apply .start

/-- What a setting is after some calls. -/
def resolved (files : Files) (calls : List Call) (setting : Setting) : Scalar :=
  ((lastSome? (Call.valueGives? setting) calls).or
    (lastSome? (Call.fileGives? files setting) calls)).getD (builtIn.get setting)

/-! ### One call more -/

/-- A single value is put over what is there. -/
def putOver (target : Value) (change : KeyPath × Value) : Value :=
  change.2.putAt change.1 target

/-- What a loader holds after some calls: its files come to a value that has what the last of them
gives, and its single values change what the last of them gives. -/
structure Layered (files : Files) (calls : List Call) (loader : Loader) : Prop where
  files : ∃ value, loader.files.foldlM (Loader.addFile files) builtIn.toValue = .ok value ∧
    ∀ setting, value.held? setting =
      (lastSome? (Call.fileGives? files setting) calls).or (some (builtIn.get setting))
  values : ∀ value setting, (loader.overrides.foldl putOver value).held? setting =
    (lastSome? (Call.valueGives? setting) calls).or (value.held? setting)

section Runs

variable {files : Files} {calls : List Call} {loader : Loader}

/-- A loader starts with what is built in. -/
lemma layered_start (files : Files) : Layered files [] .start where
  files := ⟨builtIn.toValue, rfl, held?_toValue builtIn⟩
  values := fun _ _ => rfl

/-- A layer that can be added gives the settings what its file gives them, and leaves the others
alone. -/
lemma exists_addFile {layer : FileLayer}
    (hrequired : layer.isRequired = true → files.find? layer.name ≠ none)
    (hplain : ∀ found ∈ files.find? layer.name, Call.HasPlain found.2) (target : Value) :
    ∃ value, Loader.addFile files target layer = .ok value ∧
      ∀ setting, value.held? setting =
        (files.gives? layer.name setting).or (target.held? setting) := by
  unfold Loader.addFile Files.gives?
  cases hfound : files.find? layer.name with
  | none => exact ⟨target, if_neg fun h => hrequired h hfound, fun _ => rfl⟩
  | some found =>
    obtain ⟨document, hread, hdocument⟩ := hplain found hfound
    refine ⟨Loader.overlay found.1 document target, ?_, fun setting => ?_⟩
    · simp only [Option.mem_def.mp hread]
    · rw [Option.bind_some, hread, Option.bind_some, held?_overlay hdocument]

/-- A layer more goes over all files before it. -/
lemma Layered.addFile (h : Layered files calls loader) {call : Call} {layer : FileLayer}
    (hrequired : layer.isRequired = true → files.find? layer.name ≠ none)
    (hplain : ∀ found ∈ files.find? layer.name, Call.HasPlain found.2)
    (hfile : ∀ setting, call.fileGives? files setting = files.gives? layer.name setting)
    (hvalue : ∀ setting, call.valueGives? setting = none) :
    Layered files (calls ++ [call]) { loader with files := loader.files ++ [layer] } where
  files := by
    obtain ⟨value, hvalue, hheld⟩ := h.files
    obtain ⟨next, hnext, hover⟩ := exists_addFile hrequired hplain value
    refine ⟨next, ?_, fun setting => ?_⟩
    · rw [List.foldlM_append, hvalue, ok_bind, List.foldlM_cons, hnext, ok_bind, List.foldlM_nil]
      rfl
    · rw [hover, hheld, lastSome?_concat, hfile, Option.or_assoc]
  values := fun value setting => by
    rw [lastSome?_concat, hvalue, Option.none_or]
    exact h.values value setting

/-- One call more comes to one layer more. -/
lemma Layered.step (h : Layered files calls loader) {call : Call} (hplain : call.Plain files) :
    ∃ next, call.apply loader = .ok next ∧ Layered files (calls ++ [call]) next := by
  cases call with
  | file name =>
    refine ⟨_, rfl, h.addFile (fun _ hnone => ?_) hplain.optionalFile (fun _ => rfl) fun _ => rfl⟩
    obtain ⟨found, hfound, -⟩ := hplain
    exact absurd (hfound.symm.trans hnone) (Option.some_ne_none found)
  | optionalFile name =>
    exact ⟨_, rfl, h.addFile nofun hplain (fun _ => rfl) fun _ => rfl⟩
  | value path incoming =>
    obtain ⟨written, rfl, content, hcontent, -⟩ := hplain
    refine ⟨{ loader with overrides := loader.overrides ++ [(written.path, incoming)] }, ?_, ?_, ?_⟩
    · simp only [Call.apply, Loader.withValue, Setting.ofText?_key]
    · obtain ⟨value, hvalue, hheld⟩ := h.files
      refine ⟨value, hvalue, fun setting => ?_⟩
      rw [hheld, lastSome?_concat, Call.fileGives?, Option.none_or]
    · intro value setting
      rw [List.foldl_append, List.foldl_cons, List.foldl_nil, putOver, lastSome?_concat,
        Call.valueGives?, Value.held?_putAt _ hcontent, h.values]
      by_cases hsame : setting = written
      · rw [if_pos hsame, if_pos (congrArg Setting.key hsame.symm), hcontent, Option.some_or,
          Option.some_or]
      · rw [if_neg hsame, if_neg fun hkey => hsame (Setting.key_injective hkey).symm,
          Option.none_or]

/-- Plain calls are all answered, and come to their layers. -/
lemma layered_after (hplain : ∀ call ∈ calls, call.Plain files) :
    ∃ loader, Loader.after calls = .ok loader ∧ Layered files calls loader := by
  induction calls using List.reverseRecOn with
  | nil => exact ⟨.start, rfl, layered_start files⟩
  | append_singleton calls call ih =>
    obtain ⟨loader, hafter, hlayered⟩ :=
      ih fun earlier h => hplain earlier (List.mem_append_left _ h)
    obtain ⟨next, happly, hnext⟩ :=
      hlayered.step (hplain call (List.mem_append_right _ List.mem_cons_self))
    refine ⟨next, ?_, hnext⟩
    unfold Loader.after at hafter ⊢
    rw [List.foldlM_append, hafter, ok_bind, List.foldlM_cons, happly, ok_bind, List.foldlM_nil]
    rfl

/-- What plain files give a setting is of the right type. -/
lemma takes_of_gives? {name : String} {setting : Setting} {content : Scalar}
    (hplain : ∀ found ∈ files.find? name, Call.HasPlain found.2)
    (h : files.gives? name setting = some content) : setting.takes content := by
  obtain ⟨found, hfound, hgiven⟩ := Option.bind_eq_some_iff.mp h
  obtain ⟨document, hread, hdocument⟩ := hplain found hfound
  rw [Option.mem_def.mp hread] at hgiven
  exact takes_of_given? hdocument hgiven

/-- What a plain call gives a setting is of the right type. -/
lemma Call.takes_of_plain {call : Call} {setting : Setting} {content : Scalar}
    (hplain : call.Plain files)
    (h : call.valueGives? setting = some content ∨ call.fileGives? files setting = some content) :
    setting.takes content := by
  cases call with
  | file name =>
    obtain h | h := h
    · cases h
    · exact takes_of_gives? hplain.optionalFile h
  | optionalFile name =>
    obtain h | h := h
    · cases h
    · exact takes_of_gives? hplain h
  | value path incoming =>
    obtain h | h := h
    · obtain ⟨hpath, hcontent⟩ := Option.ite_none_right_eq_some.mp h
      obtain ⟨written, hkey, content', hcontent', htakes⟩ := hplain
      obtain rfl := Setting.key_injective (hpath.symm.trans hkey)
      obtain rfl := Option.some.inj (hcontent.symm.trans hcontent')
      exact htakes
    · cases h

/-- What plain calls come to is of the right type. -/
lemma takes_resolved (hplain : ∀ call ∈ calls, call.Plain files) (setting : Setting) :
    setting.takes (resolved files calls setting) := by
  unfold resolved
  cases hvalue : lastSome? (Call.valueGives? setting) calls with
  | some content =>
    obtain ⟨call, hcall, hgives⟩ := exists_of_lastSome?_eq_some hvalue
    exact Call.takes_of_plain (hplain call hcall) (.inl hgives)
  | none =>
    cases hfile : lastSome? (Call.fileGives? files setting) calls with
    | some content =>
      obtain ⟨call, hcall, hgives⟩ := exists_of_lastSome?_eq_some hfile
      exact Call.takes_of_plain (hplain call hcall) (.inr hgives)
    | none => exact takes_builtIn setting

lemma load_eq {value : Value} {settings : Settings} (hmerged : loader.merged files = .ok value)
    (hvalue : ofValue value = .ok settings) :
    loader.load files =
      if Tree.maxDepthCeiling < settings.maxDepth then .error (.tooDeep settings.maxDepth)
      else .ok settings := by
  unfold Loader.load
  rw [hmerged, ok_bind, hvalue, ok_bind]
  split <;> rfl

/-- No loader comes to settings with a nesting beyond the ceiling. -/
lemma maxDepth_le_of_load {settings : Settings} (h : loader.load files = .ok settings) :
    settings.maxDepth ≤ Tree.maxDepthCeiling := by
  obtain ⟨value, hmerged, hread⟩ := bind_eq_ok_iff.mp h
  obtain ⟨typed, hvalue, -⟩ := bind_eq_ok_iff.mp hread
  rw [load_eq hmerged hvalue] at h
  obtain hdeep | hdepth := Nat.lt_or_ge Tree.maxDepthCeiling typed.maxDepth
  · rw [if_pos hdeep] at h
    cases h
  · rw [if_neg (Nat.not_lt.mpr hdepth)] at h
    obtain rfl := Except.ok.inj h
    exact hdepth

/-- What all layers come to has what the calls come to. -/
lemma Layered.merged (h : Layered files calls loader) :
    ∃ value, loader.merged files = .ok value ∧
      ∀ setting, value.held? setting = some (resolved files calls setting) := by
  obtain ⟨value, hvalue, hheld⟩ := h.files
  refine ⟨loader.overrides.foldl putOver value, ?_, fun setting => ?_⟩
  · unfold Loader.merged
    rw [hvalue]
    rfl
  · rw [h.values, hheld, resolved, ← Option.or_assoc, Option.or_some]

end Runs

/-- Calls on a loader, in any order: files that hold nothing but settings of the right types, and
single values of the right types.  They come to settings in which each is what the last single value
made it, or else what the last file that says anything about it says, or else what is built in.  If
their nesting is within the ceiling these settings are loaded, however deep other layers wanted to
go, and otherwise the answer names the nesting.  Whatever the calls, nothing is loaded with a
nesting beyond the ceiling. -/
theorem load_after (files : Files) (calls : List Call) :
    ((∀ call ∈ calls, call.Plain files) → ∃ loader settings, Loader.after calls = .ok loader ∧
      (∀ setting, settings.get setting = resolved files calls setting) ∧
      (settings.maxDepth ≤ 1024 → loader.load files = .ok settings) ∧
      (1024 < settings.maxDepth → loader.load files = .error (.tooDeep settings.maxDepth) ∧
        (LoadError.tooDeep settings.maxDepth).message =
          "parser.max_depth " ++ toString settings.maxDepth ++ " exceeds the ceiling of 1024")) ∧
    ∀ loader settings, Loader.after calls = .ok loader → loader.load files = .ok settings →
      settings.maxDepth ≤ 1024 := by
  refine ⟨fun hplain => ?_, fun loader settings _ hload => maxDepth_le_of_load hload⟩
  obtain ⟨loader, hafter, hlayered⟩ := layered_after hplain
  obtain ⟨value, hmerged, hheld⟩ := hlayered.merged
  obtain ⟨settings, hvalue, hget⟩ := ofValue_of_held? hheld (takes_resolved hplain)
  have hload := load_eq hmerged hvalue
  refine ⟨loader, settings, hafter, hget, fun hdepth => ?_, fun hdeep => ⟨?_, ?_⟩⟩
  · have hallowed : ¬ Tree.maxDepthCeiling < settings.maxDepth := Nat.not_lt.mpr hdepth
    rw [hload, if_neg hallowed]
  · have hrefused : Tree.maxDepthCeiling < settings.maxDepth := hdeep
    rw [hload, if_pos hrefused]
  · have hceiling : " exceeds the ceiling of " ++ toString Tree.maxDepthCeiling =
        " exceeds the ceiling of 1024" := by decide +kernel
    unfold LoadError.message
    dsimp only
    rw [String.append_assoc, hceiling]

/-- A single value counts although files come after it, and the last value for a setting counts.  A
file that wants to go too deep does no harm then, a missing one that may be missing does none, and
what a later file leaves out stays as it was. -/
theorem load_after_mixed :
    let files := Files.ofList
      [("deep.toml", "[parser]\nmax_depth = 5000\n[messages]\ndot_invalid = 'stray point'\n"),
        ("late.toml", "output.format = 'ast-json'\n")]
    let calls : List Call :=
      [.value "parser.max_depth" (.scalar none (.integer 3)), .file "deep.toml",
        .value "output.format" (.scalar none (.text "ast-yaml")), .optionalFile "missing.toml",
        .value "parser.max_depth" (.scalar none (.integer 1024)), .optionalFile "late"]
    let expected : Settings :=
      { messages := { builtIn.messages with dotInvalid := "stray point" }
        maxDepth := 1024
        format := "ast-yaml" }
    ∃ loader, Loader.after calls = .ok loader ∧ loader.load files = .ok expected := by
  intro files calls expected
  have hplain : ∀ call ∈ calls, call.Plain files := by decide +kernel
  obtain ⟨hcome, -⟩ := load_after files calls
  obtain ⟨loader, settings, hafter, hget, hload, -⟩ := hcome hplain
  have hresolved : settings.get = expected.get := by
    funext setting
    rw [hget]
    cases setting <;> decide +kernel
  obtain rfl := get_injective hresolved
  exact ⟨loader, hafter, hload (by decide)⟩

end ArithExpr.Settings
