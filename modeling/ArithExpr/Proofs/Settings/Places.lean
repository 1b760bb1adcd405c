import ArithExpr.Proofs.Results
import ArithExpr.Settings.Loader
import Mathlib.Logic.Function.Basic

/-!
# The places of settings

A setting has its place in a value: a name in the section that it belongs to.  Putting
something into a value changes what stands at some places and leaves the others alone:
a single value changes one place (`held?_putAt`), a document those that it gives
something (`held?_overlay`), the last assignment counting.  Nothing else matters to the
typed settings (`ofValue_of_held?`), so that the document of the built-in settings comes
to these over any value (`ofValue_overlay_builtInText`).
-/

namespace ArithExpr.Settings

/-- The settings. -/
inductive Setting where
  | leftParenShortage
  | rightParenShortage
  | operatorInvalid
  | dotInvalid
  | maxDepth
  | format
  deriving DecidableEq

deriving instance DecidableEq for Scalar

namespace Section

/-- Every section. -/
def all : List Section :=
  [.messages, .parser, .output]

lemma mem_all (part : Section) : part ∈ all := by
  cases part <;> decide

/-- Whether some section has a property is seen by trying every one. -/
instance (p : Section → Prop) [DecidablePred p] : Decidable (∃ part, p part) :=
  decidable_of_iff (∃ part ∈ all, p part) (by simp only [mem_all, true_and])

lemma name_injective : Function.Injective name := by
  intro part other h
  cases part <;> cases other <;> first | rfl | exact absurd h (by decide)

/-- The names of sections are in lower case. -/
lemma foldCase_name (part : Section) : Value.foldCase part.name = part.name := by
  cases part <;> decide +kernel

/-- The name of a section is the path to it. -/
lemma ofText?_name (part : Section) : KeyPath.ofText? part.name = some [.field part.name] := by
  cases part <;> decide +kernel

end Section

namespace Setting

/-- Every setting. -/
def all : List Setting :=
  [.leftParenShortage, .rightParenShortage, .operatorInvalid, .dotInvalid, .maxDepth, .format]

/-- The section of a setting. -/
def part : Setting → Section
  | .leftParenShortage | .rightParenShortage | .operatorInvalid | .dotInvalid => .messages
  | .maxDepth => .parser
  | .format => .output

/-- The name of a setting in its section. -/
def name : Setting → String
  | .leftParenShortage => "left_paren_shortage"
  | .rightParenShortage => "right_paren_shortage"
  | .operatorInvalid => "operator_invalid"
  | .dotInvalid => "dot_invalid"
  | .maxDepth => "max_depth"
  | .format => "format"

/-- The text that leads to a setting. -/
def key (setting : Setting) : String :=
  setting.part.name ++ "." ++ setting.name

/-- The path that leads to a setting. -/
def path (setting : Setting) : KeyPath :=
  [.field setting.part.name, .field setting.name]

/-- A setting takes scalars of one type: natural numbers of 64 bits if it is the nesting, texts if
it is any other. -/
def takes : Setting → Scalar → Bool
  | .maxDepth, .integer n => 0 ≤ n && n ≤ 0xFFFFFFFFFFFFFFFF
  | .maxDepth, _ => false
  | _, .text _ => true
  | _, _ => false

lemma mem_all (setting : Setting) : setting ∈ all := by
  cases setting <;> decide

/-- Whether some setting has a property is seen by trying every one. -/
instance (p : Setting → Prop) [DecidablePred p] : Decidable (∃ setting, p setting) :=
  decidable_of_iff (∃ setting ∈ all, p setting) (by simp only [mem_all, true_and])

/-- No two settings have the same name, though they be in different sections. -/
lemma name_injective : Function.Injective name := by
  intro setting other h
  cases setting <;> cases other <;> first | rfl | exact absurd h (by decide)

/-- The names of settings are in lower case. -/
lemma foldCase_name (setting : Setting) : Value.foldCase setting.name = setting.name := by
  cases setting <;> decide +kernel

/-- A key reads as the path to its setting. -/
lemma ofText?_key (setting : Setting) : KeyPath.ofText? setting.key = some setting.path := by
  cases setting <;> decide +kernel

/-- No two settings have the same key. -/
lemma key_injective : Function.Injective key := by
  intro setting other h
  have hpath : setting.path = other.path := by
    rw [← Option.some_inj, ← ofText?_key, ← ofText?_key, h]
  have hname : setting.name = other.name := by
    simp only [path, List.cons.injEq, Step.field.injEq, and_true] at hpath
    exact hpath.2
  exact name_injective hname

end Setting

/-! ### What stands at a place -/

namespace Value

/-- The scalar that a value is, if it is one. -/
def content? : Value → Option Scalar
  | .scalar _ content => some content
  | _ => none

/-- The scalar under a name. -/
def scalar? (name : String) (value : Value) : Option Scalar :=
  (value.field? name).bind content?

/-- The scalar at the place of a setting. -/
def held? (setting : Setting) (value : Value) : Option Scalar :=
  (value.field? setting.part.name).bind (scalar? setting.name)

section Writing

variable (target : Value)

/-- A name that is given a scalar has it, and every other name has what it had. -/
lemma scalar?_assignField (name other : String) (origin : Option String) (content : Scalar) :
    (target.assignField name (.scalar origin content)).scalar? other =
      if other = name then some content else target.scalar? other := by
  unfold scalar?
  rw [field?_assignField]
  split <;> rfl

/-- The settings of a section that is given anew are found in it, and the others where they
were. -/
lemma held?_assignField (part : Section) (incoming : Value) (setting : Setting) :
    (target.assignField part.name incoming).held? setting =
      if setting.part = part then incoming.scalar? setting.name else target.held? setting := by
  unfold held?
  rw [field?_assignField]
  by_cases h : setting.part = part
  · rw [if_pos h, if_pos (congrArg Section.name h), Option.bind_some]
  · rw [if_neg h, if_neg fun hname => h (Section.name_injective hname)]

/-- What is found in a section, or in something without names if there is no section. -/
lemma scalar?_getD (part : Section) {fallback : Value} (setting : Setting)
    (hpart : setting.part = part) (h : fallback.scalar? setting.name = none) :
    ((target.field? part.name).getD fallback).scalar? setting.name = target.held? setting := by
  unfold held?
  rw [hpart]
  cases target.field? part.name with
  | none => exact h
  | some incoming => rfl

/-- A scalar that is put at the place of a setting stands there, and nothing else changes. -/
lemma held?_putAt {incoming : Value} {content : Scalar}
    (hcontent : incoming.content? = some content) (setting other : Setting) :
    (incoming.putAt setting.path target).held? other =
      if other = setting then some content else target.held? other := by
  cases incoming with
  | array | table => cases hcontent
  | scalar origin =>
    obtain rfl := Option.some.inj hcontent
    simp only [Setting.path, putAt, setField, Section.foldCase_name, Setting.foldCase_name]
    rw [held?_assignField, scalar?_assignField]
    by_cases hpart : other.part = setting.part
    · by_cases h : other = setting
      · rw [if_pos hpart, if_pos (congrArg Setting.name h), if_pos h]
      · rw [if_pos hpart, if_neg fun hname => h (Setting.name_injective hname), if_neg h]
        exact scalar?_getD target _ other hpart rfl
    · rw [if_neg hpart, if_neg fun h => hpart (congrArg Setting.part h)]

end Writing

end Value

/-! ### What a document gives -/

/-- The last thing that is found in the items of a list. -/
def lastSome? {α β : Type} (find? : α → Option β) (items : List α) : Option β :=
  items.reverse.findSome? find?

section Last

variable {α β : Type} {find? : α → Option β}

lemma lastSome?_cons (item : α) (items : List α) :
    lastSome? find? (item :: items) = (lastSome? find? items).or (find? item) := by
  simp [lastSome?, List.findSome?_append]

lemma lastSome?_concat (items : List α) (item : α) :
    lastSome? find? (items ++ [item]) = (find? item).or (lastSome? find? items) := by
  rw [lastSome?, List.reverse_concat, List.findSome?_cons, ← lastSome?]
  cases find? item <;> rfl

lemma exists_of_lastSome?_eq_some {items : List α} {found : β}
    (h : lastSome? find? items = some found) : ∃ item ∈ items, find? item = some found := by
  obtain ⟨item, hitem, hfound⟩ := List.exists_of_findSome?_eq_some h
  exact ⟨item, List.mem_reverse.mp hitem, hfound⟩

/-- If every item either gives a place something or leaves it alone, then all of them in turn leave
there what the last of them gives. -/
lemma foldl_lastSome? {σ : Type} {step : σ → α → σ} {probe : σ → Option β} {items : List α}
    (h : ∀ item ∈ items, ∀ target, probe (step target item) = (find? item).or (probe target))
    (target : σ) :
    probe (items.foldl step target) = (lastSome? find? items).or (probe target) := by
  induction items generalizing target with
  | nil => rfl
  | cons item rest ih =>
    obtain ⟨hitem, hrest⟩ := List.forall_mem_cons.mp h
    rw [List.foldl_cons, ih hrest, hitem, lastSome?_cons, Option.or_assoc]

end Last

/-- The text or the integer that a value of a document is, if it is one. -/
def Scalar.ofToml? : Toml.Value → Option Scalar
  | .text s => some (.text s)
  | .integer n => some (.integer n)
  | _ => none

/-- The entries of a table of a document. -/
def entries? : Toml.Value → Option Toml.Table
  | .table entries => some entries
  | _ => none

/-- What the entries of a section give a name. -/
def givenTo? (name : String) (entries : Toml.Table) : Option Scalar :=
  lastSome? (fun entry => if entry.1 = name then Scalar.ofToml? entry.2 else none) entries

/-- What a document gives a setting: under a name, what comes last counts. -/
def given? (setting : Setting) (document : Toml.Table) : Option Scalar :=
  lastSome?
    (fun entry =>
      if entry.1 = setting.part.name then (entries? entry.2).bind (givenTo? setting.name) else none)
    document

/-- An entry of a section gives one of its settings a scalar of the type that it takes. -/
def PlainIn (part : Section) (entry : String × Toml.Value) : Prop :=
  ∃ setting : Setting, setting.part = part ∧ entry.1 = setting.name ∧
    ∃ content ∈ Scalar.ofToml? entry.2, setting.takes content

/-- A document holds nothing but sections as tables, and they nothing but their settings. -/
def Plain (document : Toml.Table) : Prop :=
  ∀ entry ∈ document, ∃ part : Section, entry.1 = part.name ∧
    ∃ entries ∈ entries? entry.2, ∀ inner ∈ entries, PlainIn part inner

instance (part : Section) : DecidablePred (PlainIn part) :=
  fun _ => inferInstanceAs (Decidable (∃ _ : Setting, _))

instance : DecidablePred Plain :=
  fun _ => inferInstanceAs (Decidable (∀ _ ∈ _, _))

section Documents

variable {part : Section} {entries : Toml.Table} {document : Toml.Table}

lemma ofToml_of_ofToml? {file : String} {item : Toml.Value} {content : Scalar}
    (h : Scalar.ofToml? item = some content) :
    Value.ofToml file item = .scalar (some file) content := by
  cases item <;> simp only [Scalar.ofToml?, Option.some.injEq, reduceCtorEq] at h <;> subst h <;>
    rw [Value.ofToml]

lemma ofToml_of_entries? {file : String} {item : Toml.Value} (h : entries? item = some entries) :
    Value.ofToml file item = .table (some file) (Value.ofTomlTable file entries) := by
  cases item <;> simp only [entries?, Option.some.injEq, reduceCtorEq] at h
  subst h
  rw [Value.ofToml]

lemma ofTomlTable_eq_map (file : String) (entries : Toml.Table) :
    Value.ofTomlTable file entries = entries.map fun entry => (entry.1, .ofToml file entry.2) := by
  induction entries with
  | nil => rfl
  | cons entry rest ih => rw [Value.ofTomlTable, ih, List.map_cons]

lemma mergeEntries_eq_foldl (target : Value) (entries : List (String × Value)) :
    target.mergeEntries entries =
      entries.foldl (fun target entry => target.setField entry.1 entry.2) target := by
  induction entries generalizing target with
  | nil => rfl
  | cons entry rest ih => rw [Value.mergeEntries, ih, List.foldl_cons]

/-- Entries of a section that are merged into a value give its names what they give them, and leave
the other names alone. -/
lemma scalar?_mergeEntries (hplain : ∀ entry ∈ entries, PlainIn part entry) (file : String)
    (target : Value) (name : String) :
    (target.mergeEntries (Value.ofTomlTable file entries)).scalar? name =
      (givenTo? name entries).or (target.scalar? name) := by
  rw [mergeEntries_eq_foldl, ofTomlTable_eq_map, List.foldl_map]
  refine foldl_lastSome? (fun entry hentry target => ?_) target
  obtain ⟨setting, -, hname, content, hcontent, -⟩ := hplain entry hentry
  rw [ofToml_of_ofToml? hcontent, Value.setField, hname, Setting.foldCase_name,
    Value.scalar?_assignField]
  by_cases h : name = setting.name
  · rw [if_pos h, if_pos h.symm, Option.mem_def.mp hcontent, Option.some_or]
  · rw [if_neg h, if_neg (Ne.symm h), Option.none_or]

/-- A document that is put over a value gives the settings what it gives them, and leaves the others
alone. -/
lemma held?_overlay (hplain : Plain document) (file : String) (target : Value)
    (setting : Setting) :
    (Loader.overlay file document target).held? setting =
      (given? setting document).or (target.held? setting) := by
  refine foldl_lastSome? (fun entry hentry target => ?_) target
  obtain ⟨part, hname, entries, hentries, hinner⟩ := hplain entry hentry
  dsimp only
  rw [hname, Section.ofText?_name, Option.getD_some, ofToml_of_entries? hentries, Value.putAt,
    Value.setField, Section.foldCase_name, Value.held?_assignField, hentries, Option.bind_some]
  by_cases h : setting.part = part
  · rw [if_pos h, if_pos (congrArg Section.name h.symm), scalar?_mergeEntries hinner,
      Value.scalar?_getD target part setting h rfl]
  · rw [if_neg h, if_neg fun hsame => h (Section.name_injective hsame).symm, Option.none_or]

/-- What a plain document gives a setting is of the right type. -/
lemma takes_of_given? {setting : Setting} {content : Scalar} (hplain : Plain document)
    (h : given? setting document = some content) : setting.takes content := by
  obtain ⟨entry, hentry, hgiven⟩ := exists_of_lastSome?_eq_some h
  obtain ⟨_, -, entries, hentries, hinner⟩ := hplain entry hentry
  obtain ⟨-, hgiven⟩ := Option.ite_none_right_eq_some.mp hgiven
  rw [hentries, Option.bind_some] at hgiven
  obtain ⟨inner, hmem, hgiven⟩ := exists_of_lastSome?_eq_some hgiven
  obtain ⟨hname, hcontent⟩ := Option.ite_none_right_eq_some.mp hgiven
  obtain ⟨other, -, hother, content', hcontent', htakes⟩ := hinner inner hmem
  obtain rfl := Setting.name_injective (hname.symm.trans hother)
  obtain rfl := Option.some.inj (hcontent.symm.trans hcontent')
  exact htakes

end Documents

/-! ### What the typed settings are -/

/-- What a setting is. -/
def get (settings : Settings) : Setting → Scalar
  | .leftParenShortage => .text settings.messages.leftParenShortage
  | .rightParenShortage => .text settings.messages.rightParenShortage
  | .operatorInvalid => .text settings.messages.operatorInvalid
  | .dotInvalid => .text settings.messages.dotInvalid
  | .maxDepth => .integer settings.maxDepth
  | .format => .text settings.format

/-- Settings are nothing more than what each of them is. -/
lemma get_injective : Function.Injective get := by
  intro settings other h
  obtain ⟨⟨left, right, operator, dot⟩, depth, format⟩ := settings
  obtain ⟨⟨left', right', operator', dot'⟩, depth', format'⟩ := other
  obtain rfl := Scalar.text.inj (congrFun h .leftParenShortage)
  obtain rfl := Scalar.text.inj (congrFun h .rightParenShortage)
  obtain rfl := Scalar.text.inj (congrFun h .operatorInvalid)
  obtain rfl := Scalar.text.inj (congrFun h .dotInvalid)
  obtain rfl := Int.ofNat.inj (Scalar.integer.inj (congrFun h .maxDepth))
  obtain rfl := Scalar.text.inj (congrFun h .format)
  rfl

lemma held?_toValue (settings : Settings) (setting : Setting) :
    settings.toValue.held? setting = some (settings.get setting) := by
  cases setting <;> rfl

/-- What is built in is of the right type. -/
lemma takes_builtIn (setting : Setting) : setting.takes (builtIn.get setting) := by
  cases setting <;> decide

section Typed

variable {value : Value} {name : String} {setting : Setting} {content : Scalar}

/-- A setting that is found is found in a section. -/
lemma exists_section_of_held? (h : value.held? setting = some content) :
    ∃ found, value.field? setting.part.name = some found ∧
      found.scalar? setting.name = some content :=
  Option.bind_eq_some_iff.mp h

/-- What is found under a name of a section is what is read there. -/
lemma read?_of_scalar? {α : Type} (h : value.scalar? name = some content) (part : Section)
    (read : String → Value → Except LoadError α) :
    ∃ origin, part.read? read value name =
      (read (part.name ++ "." ++ name) (.scalar origin content)).map some := by
  obtain ⟨found, hfield, hcontent⟩ := Option.bind_eq_some_iff.mp h
  cases value with
  | scalar | array => cases hfield
  | table _ entries =>
    cases found with
    | array | table => cases hcontent
    | scalar origin =>
      obtain rfl := Option.some.inj hcontent
      refine ⟨origin, ?_⟩
      unfold Value.field? at hfield
      unfold Section.read?
      simp only [hfield]

lemma read?_text {s : String} (h : value.scalar? name = some (.text s)) (part : Section) :
    part.read? Value.asText value name = .ok (some s) := by
  obtain ⟨origin, hread⟩ := read?_of_scalar? h part Value.asText
  exact hread

lemma natural_integer {n : Nat} (hfits : n ≤ Word.greatest) :
    Scalar.natural (.integer n) = .ok n := by
  have hunsigned : Word.fitsUnsigned n = true := by simp [Word.fitsUnsigned, hfits]
  rw [Scalar.natural, if_pos hunsigned, Int.toNat_natCast]

lemma read?_natural {n : Nat} (h : value.scalar? name = some (.integer n))
    (hfits : n ≤ Word.greatest) (part : Section) :
    part.read? Value.asNatural value name = .ok (some n) := by
  obtain ⟨origin, hread⟩ := read?_of_scalar? h part Value.asNatural
  rw [hread, Value.asNatural, natural_integer hfits]
  rfl

lemma exists_text_of_takes (h : setting.takes content) (hne : setting ≠ .maxDepth) :
    ∃ s, content = .text s := by
  cases setting with
  | maxDepth => exact absurd rfl hne
  | _ =>
    cases content with
    | text s => exact ⟨s, rfl⟩
    | _ => cases h

lemma exists_natural_of_takes (h : Setting.maxDepth.takes content) :
    ∃ n : Nat, content = .integer n ∧ n ≤ Word.greatest := by
  cases content with
  | integer n =>
    simp only [Setting.takes, Bool.and_eq_true, decide_eq_true_eq] at h
    obtain ⟨count, rfl⟩ := Int.eq_ofNat_of_zero_le h.1
    refine ⟨count, rfl, ?_⟩
    unfold Word.greatest
    omega
  | _ => cases h

lemma messages_of_scalar? {left right operator dot : String}
    (hleft : value.scalar? "left_paren_shortage" = some (.text left))
    (hright : value.scalar? "right_paren_shortage" = some (.text right))
    (hoperator : value.scalar? "operator_invalid" = some (.text operator))
    (hdot : value.scalar? "dot_invalid" = some (.text dot)) :
    Messages.ofValue value = .ok ⟨left, right, operator, dot⟩ := by
  unfold Messages.ofValue
  simp only [read?_text hleft, read?_text hright, read?_text hoperator, read?_text hdot, ok_bind,
    required]
  rfl

/-- A value that has a scalar of the right type for every setting is read as settings with these
scalars. -/
lemma ofValue_of_held? {held : Setting → Scalar}
    (hheld : ∀ setting, value.held? setting = some (held setting))
    (htakes : ∀ setting : Setting, setting.takes (held setting)) :
    ∃ settings, ofValue value = .ok settings ∧ ∀ setting, settings.get setting = held setting := by
  obtain ⟨left, hleft⟩ := exists_text_of_takes (htakes .leftParenShortage) nofun
  obtain ⟨right, hright⟩ := exists_text_of_takes (htakes .rightParenShortage) nofun
  obtain ⟨operator, hoperator⟩ := exists_text_of_takes (htakes .operatorInvalid) nofun
  obtain ⟨dot, hdot⟩ := exists_text_of_takes (htakes .dotInvalid) nofun
  obtain ⟨depth, hdepth, hfits⟩ := exists_natural_of_takes (htakes .maxDepth)
  obtain ⟨format, hformat⟩ := exists_text_of_takes (htakes .format) nofun
  refine ⟨⟨⟨left, right, operator, dot⟩, depth, format⟩, ?_, ?_⟩
  · obtain ⟨messages, hmessages, -⟩ := exists_section_of_held? (hheld .leftParenShortage)
    obtain ⟨parser, hparser, hdepthAt⟩ := exists_section_of_held? (hheld .maxDepth)
    obtain ⟨output, houtput, hformatAt⟩ := exists_section_of_held? (hheld .format)
    -- The four messages are found in one section.
    have hmessage (setting : Setting) (hpart : setting.part = .messages) :
        messages.scalar? setting.name = some (held setting) := by
      obtain ⟨found, hfound, hat⟩ := exists_section_of_held? (hheld setting)
      rw [hpart] at hfound
      obtain rfl := Option.some.inj (hmessages.symm.trans hfound)
      exact hat
    have hread : Messages.ofValue messages = .ok ⟨left, right, operator, dot⟩ :=
      messages_of_scalar? (hleft ▸ hmessage .leftParenShortage rfl)
        (hright ▸ hmessage .rightParenShortage rfl) (hoperator ▸ hmessage .operatorInvalid rfl)
        (hdot ▸ hmessage .dotInvalid rfl)
    have hdepthRead := read?_natural (hdepth ▸ hdepthAt) hfits .parser
    have hformatRead := read?_text (hformat ▸ hformatAt) .output
    simp only [Setting.part, Section.name] at hmessages hparser houtput
    simp only [Setting.name] at hdepthRead hformatRead
    unfold ofValue
    simp only [hmessages, hparser, houtput, required, ok_bind, hread, hdepthRead, hformatRead]
    rfl
  · intro setting
    cases setting with
    | leftParenShortage => exact hleft.symm
    | rightParenShortage => exact hright.symm
    | operatorInvalid => exact hoperator.symm
    | dotInvalid => exact hdot.symm
    | maxDepth => exact hdepth.symm
    | format => exact hformat.symm

end Typed

/-- The document of the built-in settings, put over any value, comes to these settings. -/
theorem ofValue_overlay_builtInText (file : String) (target : Value) :
    ∃ document, Toml.read? builtInText = some document ∧
      ofValue (Loader.overlay file document target) = .ok builtIn := by
  have hdocument : ∃ document ∈ Toml.read? builtInText, Plain document ∧
      ∀ setting ∈ Setting.all, given? setting document = some (builtIn.get setting) := by
    -- Line by line, the text is soon written out as characters; as a whole it would take long.
    unfold Toml.read? builtInText
    simp only [String.toList_append, String.reduceToList]
    decide +kernel
  obtain ⟨document, hread, hplain, hgiven⟩ := hdocument
  have hheld (setting : Setting) :
      (Loader.overlay file document target).held? setting = some (builtIn.get setting) := by
    rw [held?_overlay hplain, hgiven setting (Setting.mem_all setting), Option.some_or]
  obtain ⟨settings, hvalue, hget⟩ := ofValue_of_held? hheld takes_builtIn
  obtain rfl := get_injective (funext hget)
  exact ⟨document, hread, hvalue⟩

end ArithExpr.Settings
