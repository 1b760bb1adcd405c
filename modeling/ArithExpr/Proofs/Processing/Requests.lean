import ArithExpr.Proofs.Processing.Stages

/-!
# Requests and what can be written

The pairs of a stage and a format that can be answered are given four times: as a list,
by the names in a text, by the check on drawings, and by the writers of each stage.
All four say the same.  A text is a request exactly if it is one of those listed, any
other text is refused for the first part of it that is wrong (`Refused`), and what is
requested is also written: a run ends without output only for what is wrong with its
source (`AboutSource`), and at the first stage it never does
(`requests_are_answered`).
-/

namespace ArithExpr

namespace Request

/-- A text is refused with an error and its wording. -/
inductive Refused : String → RequestError → String → Prop
  | noDash {text : String} (hdash : '-' ∉ text.toList) :
      Refused text (.noDash text) ("Invalid format: " ++ text)
  | unknownStage {front back : String} (hdash : '-' ∉ front.toList)
      (hstage : front ∉ ["token", "check", "ast"]) :
      Refused (front ++ "-" ++ back) (.unknownStage front) ("Invalid stage: " ++ front)
  | unknownFormat {front back : String} (hstage : front ∈ ["token", "check", "ast"])
      (hformat : back ∉ ["simple", "json", "yaml", "treeviz"]) :
      Refused (front ++ "-" ++ back) (.unknownFormat back) ("Invalid format type: " ++ back)
  | drawingWithoutTree {front : String} (hstage : front ∈ ["token", "check"]) :
      Refused (front ++ "-treeviz") .drawingWithoutTree
        "Invalid format type: Format 'treeviz' only works with ast stage"

/-! ### Names -/

/-- The request for a stage and a format by their names. -/
def ofNames (front back : String) : Except RequestError Request :=
  match Stage.ofName? front with
  | none => .error (.unknownStage front)
  | some stage =>
    match Format.ofName? back with
    | none => .error (.unknownFormat back)
    | some format =>
      if format = .treeviz && stage ≠ .ast then .error .drawingWithoutTree
      else .ok ⟨stage, format⟩

section Names

variable {front back : String}

/-- A text is one of the names that are given, or it is none of them. -/
lemma named_or_not {α : Type} (all : List α) (name : α → String) (text : String) :
    (∃ a, name a = text) ∨ text ∉ all.map name := by
  by_cases hname : text ∈ all.map name
  · obtain ⟨a, -, ha⟩ := List.mem_map.mp hname
    exact Or.inl ⟨a, ha⟩
  · exact Or.inr hname

/-- Nothing is found by a text that is none of the names. -/
lemma find?_name_eq_none {α : Type} {all : List α} {name : α → String} {text : String}
    (h : text ∉ all.map name) : (all.find? fun a => name a = text) = none := by
  rw [List.find?_eq_none]
  intro a ha hname
  exact h (List.mem_map.mpr ⟨a, ha, of_decide_eq_true hname⟩)

/-- The names of stages are these three. -/
lemma stage_name_mem (stage : Stage) : stage.name ∈ ["token", "check", "ast"] := by
  cases stage <;> decide

/-- Where no stage is named, nothing else counts. -/
lemma ofNames_of_no_stage (h : front ∉ ["token", "check", "ast"]) :
    ofNames front back = .error (.unknownStage front) := by
  have hnone : Stage.ofName? front = none := find?_name_eq_none h
  rw [ofNames, hnone]

/-- Behind the name of a stage there must be that of a format. -/
lemma ofNames_of_no_format (stage : Stage) (h : back ∉ ["simple", "json", "yaml", "treeviz"]) :
    ofNames stage.name back = .error (.unknownFormat back) := by
  have hstage : Stage.ofName? stage.name = some stage := by cases stage <;> rfl
  have hnone : Format.ofName? back = none := find?_name_eq_none h
  rw [ofNames, hstage]
  simp only [hnone]

/-- The check on drawings refuses the pairs that are not listed. -/
lemma ofNames_names (stage : Stage) (format : Format) : ofNames stage.name format.name =
    if ⟨stage, format⟩ ∈ available then .ok ⟨stage, format⟩ else .error .drawingWithoutTree := by
  cases stage <;> cases format <;> rfl

/-- The only pairs that are not listed are drawings without a tree. -/
lemma names_of_not_available {stage : Stage} {format : Format}
    (h : ⟨stage, format⟩ ∉ available) :
    stage.name ∈ ["token", "check"] ∧ format.name = "treeviz" := by
  revert h
  cases stage <;> cases format <;> decide

end Names

/-! ### Texts -/

section Texts

variable {text front back : String}

/-- A text without a dash is refused as a whole. -/
lemma ofText_of_no_dash (h : '-' ∉ text.toList) : ofText text = .error (.noDash text) := by
  have hdrop : text.toList.dropWhile (· ≠ '-') = [] := by
    rw [List.dropWhile_eq_nil_iff]
    intro c hc
    exact decide_eq_true (fun hdash => h (hdash ▸ hc))
  rw [ofText]
  simp only [hdrop]

/-- A text is divided at its first dash. -/
lemma ofText_of_dash (h : '-' ∉ front.toList) :
    ofText (front ++ "-" ++ back) = ofNames front back := by
  have hfront : ∀ c ∈ front.toList, decide (c ≠ '-') = true := by
    intro c hc
    exact decide_eq_true (fun hdash => h (hdash ▸ hc))
  have hlist : (front ++ "-" ++ back).toList = front.toList ++ '-' :: back.toList := by simp
  have htake : (front ++ "-" ++ back).toList.takeWhile (· ≠ '-') = front.toList := by
    rw [hlist, List.takeWhile_append_of_pos hfront]
    simp
  have hdrop : (front ++ "-" ++ back).toList.dropWhile (· ≠ '-') = '-' :: back.toList := by
    rw [hlist, List.dropWhile_append_of_pos hfront]
    simp
  rw [ofText]
  simp only [htake, hdrop, String.ofList_toList]
  rfl

/-- Every text has a first dash or none. -/
lemma dash_cases (text : String) : '-' ∉ text.toList ∨
    ∃ front back : String, '-' ∉ front.toList ∧ text = front ++ "-" ++ back := by
  by_cases hdash : '-' ∈ text.toList
  · obtain ⟨front, back, htext, hfront⟩ := List.eq_append_cons_of_mem hdash
    refine Or.inr ⟨String.ofList front, String.ofList back, by rwa [String.toList_ofList], ?_⟩
    apply String.toList_injective
    simpa using htext
  · exact Or.inl hdash

/-- The names of stages have no dash. -/
lemma dash_notMem_of_mem (h : front ∈ ["token", "check", "ast"]) : '-' ∉ front.toList := by
  simp only [List.mem_cons, List.not_mem_nil, or_false] at h
  rcases h with rfl | rfl | rfl <;> decide

/-- The text of a stage and a format is divided between the two. -/
lemma ofText_names (stage : Stage) (format : Format) : ofText (stage.name ++ "-" ++ format.name) =
    if ⟨stage, format⟩ ∈ available then .ok ⟨stage, format⟩ else .error .drawingWithoutTree := by
  rw [ofText_of_dash (dash_notMem_of_mem (stage_name_mem stage)), ofNames_names]

/-- A request that can be answered is read back from its text. -/
theorem ofText_text {request : Request} (h : request ∈ available) :
    ofText request.text = .ok request := by
  rw [text, ofText_names, if_pos h]

/-- A text that is refused is no request. -/
theorem ofText_of_refused {error : RequestError} {message : String}
    (h : Refused text error message) : ofText text = .error error ∧ message = error.message := by
  cases h with
  | noDash hdash => exact ⟨ofText_of_no_dash hdash, rfl⟩
  | unknownStage hdash hstage =>
    rw [ofText_of_dash hdash]
    exact ⟨ofNames_of_no_stage hstage, rfl⟩
  | @unknownFormat front back hstage hformat =>
    obtain ⟨stage, rfl⟩ :=
      (named_or_not [Stage.token, .check, .ast] Stage.name front).resolve_right
        (not_not_intro hstage)
    rw [ofText_of_dash (dash_notMem_of_mem hstage)]
    exact ⟨ofNames_of_no_format stage hformat, rfl⟩
  | drawingWithoutTree hstage =>
    simp only [List.mem_cons, List.not_mem_nil, or_false] at hstage
    rcases hstage with rfl | rfl
    · exact ⟨ofText_names .token .treeviz, rfl⟩
    · exact ⟨ofText_names .check .treeviz, rfl⟩

/-- Every text is one of those listed, or it is refused. -/
theorem available_or_refused (text : String) :
    (∃ request ∈ available, request.text = text) ∨ ∃ error message, Refused text error message := by
  rcases dash_cases text with hdash | ⟨front, back, hdash, rfl⟩
  · exact Or.inr ⟨_, _, .noDash hdash⟩
  · rcases named_or_not [Stage.token, .check, .ast] Stage.name front with ⟨stage, rfl⟩ | hstage
    · rcases named_or_not [Format.simple, .json, .yaml, .treeviz] Format.name back with
        ⟨format, rfl⟩ | hformat
      · by_cases havailable : ⟨stage, format⟩ ∈ available
        · exact Or.inl ⟨⟨stage, format⟩, havailable, rfl⟩
        · obtain ⟨htoken, hdrawing⟩ := names_of_not_available havailable
          rw [hdrawing, String.append_assoc]
          exact Or.inr ⟨_, _, .drawingWithoutTree htoken⟩
      · exact Or.inr ⟨_, _, .unknownFormat (stage_name_mem stage) hformat⟩
    · exact Or.inr ⟨_, _, .unknownStage hdash hstage⟩

/-- The texts of requests are those listed. -/
theorem ofText_eq_ok_iff {request : Request} :
    ofText text = .ok request ↔ request ∈ available ∧ request.text = text := by
  constructor
  · intro hread
    rcases available_or_refused text with ⟨listed, hlisted, rfl⟩ | ⟨error, message, hrefused⟩
    · rw [ofText_text hlisted] at hread
      obtain rfl := Except.ok.inj hread
      exact ⟨hlisted, rfl⟩
    · rw [(ofText_of_refused hrefused).1] at hread
      cases hread
  · rintro ⟨havailable, rfl⟩
    exact ofText_text havailable

/-- A text that is no request has the error that it is refused with. -/
theorem ofText_eq_error_iff {error : RequestError} :
    ofText text = .error error ↔ Refused text error error.message := by
  constructor
  · intro hread
    rcases available_or_refused text with ⟨listed, hlisted, rfl⟩ | ⟨found, message, hrefused⟩
    · rw [ofText_text hlisted] at hread
      cases hread
    · obtain ⟨hfound, rfl⟩ := ofText_of_refused hrefused
      rw [hfound] at hread
      obtain rfl := Except.error.inj hread
      exact hrefused
  · intro hrefused
    exact (ofText_of_refused hrefused).1

end Texts

end Request

namespace Processing

open Token ArithExpr.Tree

/-- An error that is about a source, and not about what is requested. -/
inductive AboutSource : ProcessingError → Prop
  | lexical (token : Token) (offset : Nat) : AboutSource (.lexical token offset)
  | invalid (findings : List Finding) : AboutSource (.invalid findings)
  | parse (error : ParseError) : AboutSource (.parse error)

/-- A result is missing only for what is wrong with a source. -/
def FailsOnSource {α : Type} (result : Except ProcessingError α) : Prop :=
  ∀ error, result = .error error → AboutSource error

section Answers

variable {α β : Type}

/-- A result that is there is not missing. -/
lemma failsOnSource_ok (value : α) : FailsOnSource (.ok value) := by
  intro error herror
  cases herror

/-- Work in two steps fails only where one of them does. -/
lemma FailsOnSource.bind {first : Except ProcessingError α}
    {next : α → Except ProcessingError β} (hfirst : FailsOnSource first)
    (hnext : ∀ value, FailsOnSource (next value)) : FailsOnSource (first.bind next) := by
  cases first with
  | error error =>
    intro found hfound
    obtain rfl := Except.error.inj hfound
    exact hfirst error rfl
  | ok value => exact hnext value

variable (settings : Settings) (source : String)

/-- Characters are turned away for what they are. -/
lemma failsOnSource_lex : FailsOnSource (lex source).value := by
  intro error herror
  obtain ⟨token, offset, rfl⟩ := exists_lexical_of_value_lex herror
  exact .lexical token offset

/-- There is a report unless characters are turned away. -/
lemma failsOnSource_check : FailsOnSource (check settings source).value := by
  rw [value_check]
  exact (failsOnSource_lex source).bind fun tokens => failsOnSource_ok _

/-- There is a tree unless the source is rejected or cannot be read. -/
lemma failsOnSource_parse : FailsOnSource (parse settings source).value := by
  rw [value_parse]
  refine (failsOnSource_lex source).bind fun tokens => ?_
  dsimp only
  split
  · cases ofTokens (clampDepth settings.maxDepth) tokens with
    | error error =>
      rintro _ ⟨⟩
      exact .parse error
    | ok tree => exact failsOnSource_ok tree
  · rintro _ ⟨⟩
    exact .invalid _

variable {format : Format}

/-- Tokens are written in the formats that are listed with their stage. -/
lemma exists_writeTokens (h : ⟨.token, format⟩ ∈ Request.available) (tokens : List Token) :
    ∃ output, writeTokens format tokens = .ok output := by
  cases format with
  | simple | json | yaml => exact ⟨_, rfl⟩
  | treeviz => exact absurd h (by decide)

/-- Reports are written in the formats that are listed with their stage. -/
lemma exists_writeReport (h : ⟨.check, format⟩ ∈ Request.available) (report : Report) :
    ∃ output, writeReport format report = .ok output := by
  cases format with
  | simple | json | yaml => exact ⟨_, rfl⟩
  | treeviz => exact absurd h (by decide)

/-- Trees are written in every format. -/
lemma exists_writeTree (format : Format) (tree : Tree) :
    ∃ output, writeTree format tree = .ok output := by
  cases format <;> exact ⟨_, rfl⟩

/-- The tokens of any source are written. -/
lemma exists_run_token (h : ⟨.token, format⟩ ∈ Request.available) :
    ∃ output, (run settings ⟨.token, format⟩ source).value = .ok output :=
  exists_writeTokens h (scan source)

/-- What is requested is written, unless the source is at fault. -/
theorem failsOnSource_run {request : Request} (h : request ∈ Request.available) :
    FailsOnSource (run settings request source).value := by
  obtain ⟨stage, format⟩ := request
  cases stage with
  | token =>
    obtain ⟨output, houtput⟩ := exists_run_token settings source h
    rw [houtput]
    exact failsOnSource_ok output
  | check =>
    rw [run, Logged.value_andThen]
    refine (failsOnSource_check settings source).bind fun report => ?_
    obtain ⟨output, houtput⟩ := exists_writeReport h report
    rw [Logged.silent, houtput]
    exact failsOnSource_ok output
  | ast =>
    rw [run, Logged.value_andThen]
    refine (failsOnSource_parse settings source).bind fun tree => ?_
    obtain ⟨output, houtput⟩ := exists_writeTree format tree
    rw [Logged.silent, houtput]
    exact failsOnSource_ok output

end Answers

/-- A text is a request exactly if it is one of those listed, and then it stands for the request
that it is the text of.  Such a request is answered unless the source is at fault, and at the first
stage it always is.  Any other text is refused with the error on its first wrong part. -/
theorem requests_are_answered (text : String) :
    ((∃ request, Request.ofText text = .ok request) ↔ text ∈ Request.availableTexts) ∧
    (∀ request, Request.ofText text = .ok request →
      request.text = text ∧ request ∈ Request.available ∧
      ∀ (settings : Settings) (source : String),
        (∀ error, (run settings request source).value = .error error → AboutSource error) ∧
        (request.stage = .token → ∃ output, (run settings request source).value = .ok output)) ∧
    ∀ error, Request.ofText text = .error error ↔ Request.Refused text error error.message := by
  refine ⟨?_, ?_, fun error => Request.ofText_eq_error_iff⟩
  · rw [Request.availableTexts, List.mem_map]
    exact exists_congr fun request => Request.ofText_eq_ok_iff
  · intro request hread
    obtain ⟨havailable, htext⟩ := Request.ofText_eq_ok_iff.mp hread
    refine ⟨htext, havailable, fun settings source => ⟨?_, ?_⟩⟩
    · exact failsOnSource_run settings source havailable
    · intro htoken
      obtain ⟨stage, format⟩ := request
      obtain rfl : stage = .token := htoken
      exact exists_run_token settings source havailable

/-- What stands behind the first dash is taken whole, further dashes included. -/
example : (Request.ofText "ast-json-").map Request.text = .error (.unknownFormat "json-") := by
  decide

end Processing

end ArithExpr
