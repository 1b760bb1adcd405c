import ArithExpr.Proofs.Processing.Language

/-!
# One source, two stages

The report on a source and its tree come from two runs over the same characters and
tokens.  `value_check` and `value_parse` say what each run does after the characters
have been let pass; from there on everything is decided by the verdict of the rules.

A source that gets as far as the reader has kept the rules, holds no foreign character
and has digit runs for numbers.  So of all the errors of the reader only two can be
seen in the end: the nesting limit, and a point at an edge or right behind a decimal.
-/

namespace ArithExpr

/-- Going on is the bind of results, whatever the records are. -/
lemma Logged.value_andThen {ε α β : Type} (x : Logged (Except ε α))
    (next : α → Logged (Except ε β)) :
    (x.andThen next).value = x.value.bind fun a => (next a).value := by
  obtain ⟨value, log⟩ := x
  cases value <;> rfl

namespace Processing

open Token ArithExpr.Tree

/-- The report on a source is that on its verdict, if its characters are let pass. -/
lemma value_check (settings : Settings) (source : String) :
    (check settings source).value = (lex source).value.bind fun tokens =>
      .ok (Report.ofVerdict settings.messages (Validity.check tokens)) := by
  rw [check, Logged.value_andThen]
  simp only [Logged.map, value_judge]

/-- The tree of a source is that of its tokens, if its characters are let pass and the report on
them is empty. -/
lemma value_parse (settings : Settings) (source : String) :
    (parse settings source).value = (lex source).value.bind fun tokens =>
      let report := Report.ofVerdict settings.messages (Validity.check tokens)
      if report.valid then
        (ofTokens (clampDepth settings.maxDepth) tokens).mapError ProcessingError.parse
      else .error (.invalid report.findings) := by
  rw [parse, Logged.value_andThen]
  congr 1
  funext tokens
  rw [Logged.value_andThen]
  simp only [Logged.map, value_judge]
  split <;> rfl

section Agreement

variable {settings : Settings} {source : String}

/-- Characters are turned away with a lexical error only. -/
lemma exists_lexical_of_value_lex {error : ProcessingError}
    (h : (lex source).value = .error error) : ∃ token offset, error = .lexical token offset := by
  unfold lex at h
  dsimp only at h
  split at h
  · next located _ => exact ⟨located.token, located.start, (Except.error.inj h).symm⟩
  · cases h

/-- A report on a rejected stream has one finding. -/
lemma length_findings_of_invalid {messages : Messages} {verdict : Except Validity.Rejection Unit}
    (h : (Report.ofVerdict messages verdict).valid = false) :
    (Report.ofVerdict messages verdict).findings.length = 1 := by
  cases verdict with
  | ok => cases h
  | error rejection => rfl

/-- Behind the rules a source has a tree, or it is blamed for its depth or for a point. -/
lemma ofTokens_cases_of_valid (hforeign : NoForeign (scan source))
    (hvalid : Validity.check (scan source) = .ok ()) (limit : Nat) :
    (∃ tree, ofTokens limit (scan source) = .ok tree) ∨
      ofTokens limit (scan source) = .error (.nestingTooDeep limit) ∨
      ∃ place, ofTokens limit (scan source) = .error (.unexpectedToken place .point) := by
  obtain ⟨hparens, -, hpoints⟩ := (Validity.check_eq_ok_iff _).mp hvalid
  refine ofTokens_cases_of_rules hparens hpoints ?_ ?_ limit
  · rwa [beforeEnd_scan]
  · rw [beforeEnd_scan]
    exact digitNumbers_scan source

end Agreement

/-- The results that the report and the tree of one source can have together, with groups nested up
to a limit. -/
inductive Together (limit : Nat) :
    Except ProcessingError Report → Except ProcessingError Tree → Prop
  | lexical (token : Token) (offset : Nat) :
      Together limit (.error (.lexical token offset)) (.error (.lexical token offset))
  | invalid {report : Report} (hvalid : report.valid = false)
      (hone : report.findings.length = 1) :
      Together limit (.ok report) (.error (.invalid report.findings))
  | accepted {report : Report} (hvalid : report.valid = true) (tree : Tree) :
      Together limit (.ok report) (.ok tree)
  | tooDeep {report : Report} (hvalid : report.valid = true) :
      Together limit (.ok report) (.error (.parse (.nestingTooDeep limit)))
  | strayPoint {report : Report} (hvalid : report.valid = true) (index : Nat) :
      Together limit (.ok report) (.error (.parse (.unexpectedToken index .point)))

/-- The report and the tree of a source go together. -/
theorem together (settings : Settings) (source : String) :
    Together (clampDepth settings.maxDepth) (check settings source).value
      (parse settings source).value := by
  rw [value_check, value_parse]
  cases hlex : (lex source).value with
  | error error =>
    obtain ⟨token, offset, rfl⟩ := exists_lexical_of_value_lex hlex
    exact .lexical token offset
  | ok tokens =>
    obtain ⟨hforeign, rfl⟩ := value_lex_eq_ok_iff.mp hlex
    simp only [Except.bind]
    split
    · next hvalid =>
      have hverdict := (valid_ofVerdict_iff _ _).mp hvalid
      rcases ofTokens_cases_of_valid hforeign hverdict (clampDepth settings.maxDepth) with
        ⟨tree, htree⟩ | hdeep | ⟨index, hpoint⟩
      · rw [htree]
        exact .accepted hvalid tree
      · rw [hdeep]
        exact .tooDeep hvalid
      · rw [hpoint]
        exact .strayPoint hvalid index
    · next hvalid =>
      have hinvalid := Bool.eq_false_iff.mpr hvalid
      exact .invalid hinvalid (length_findings_of_invalid hinvalid)

/-- The report on a source and its tree agree.  They fail with the same lexical errors; a report
that is not valid has one finding, with which the tree is refused, and no other tree is refused
with findings; and where the report is valid, there is a tree unless a group is nested beyond the
limit or a point has no place.  No other failure of the reader is ever seen. -/
theorem check_agrees_with_parse (settings : Settings) (source : String) :
    (∀ error, (check settings source).value = .error error ↔
      (parse settings source).value = .error error ∧
        ∃ token offset, error = .lexical token offset) ∧
    (∀ report, ((check settings source).value = .ok report ∧ report.valid = false ↔
      (parse settings source).value = .error (.invalid report.findings)) ∧
      ((parse settings source).value = .error (.invalid report.findings) →
        report.findings.length = 1)) ∧
    ((∃ report, (check settings source).value = .ok report ∧ report.valid = true) ↔
      (∃ tree, (parse settings source).value = .ok tree) ∨
      (parse settings source).value =
        .error (.parse (.nestingTooDeep (min settings.maxDepth 1024))) ∨
      ∃ index, (parse settings source).value = .error (.parse (.unexpectedToken index .point))) ∧
    (∀ index, (parse settings source).value ≠ .error (.parse (.malformedGrouping index))) ∧
    ∀ index kind, (parse settings source).value = .error (.parse (.unexpectedToken index kind)) →
      kind = .point := by
  generalize hcheck : (check settings source).value = checked
  generalize hparse : (parse settings source).value = parsed
  have htogether : Together (min settings.maxDepth 1024) (check settings source).value
      (parse settings source).value := together settings source
  rw [hcheck, hparse] at htogether
  refine ⟨fun error => ?_, fun report => ?_, ?_, fun index => ?_, fun index kind => ?_⟩
  · cases htogether with
    | lexical token offset =>
      constructor
      · intro h
        obtain rfl := Except.error.inj h
        exact ⟨rfl, token, offset, rfl⟩
      · rintro ⟨h, -⟩
        obtain rfl := Except.error.inj h
        rfl
    | invalid | accepted | tooDeep | strayPoint =>
      refine ⟨nofun, ?_⟩
      rintro ⟨h, token, offset, rfl⟩
      cases h
  · cases htogether with
    | lexical => exact ⟨⟨nofun, nofun⟩, nofun⟩
    | @invalid found hvalid hone =>
      refine ⟨⟨?_, ?_⟩, ?_⟩
      · rintro ⟨⟨⟩, -⟩
        rfl
      · intro h
        obtain ⟨findings⟩ := report
        obtain rfl := ProcessingError.invalid.inj (Except.error.inj h)
        exact ⟨rfl, hvalid⟩
      · intro h
        rw [← ProcessingError.invalid.inj (Except.error.inj h)]
        exact hone
    | accepted hvalid | tooDeep hvalid | strayPoint hvalid =>
      refine ⟨⟨?_, nofun⟩, nofun⟩
      rintro ⟨⟨⟩, hinvalid⟩
      rw [hvalid] at hinvalid
      cases hinvalid
  · cases htogether with
    | lexical => simp
    | invalid hvalid => simp [hvalid]
    | accepted hvalid | tooDeep hvalid | strayPoint hvalid => simp [hvalid]
  · cases htogether <;> nofun
  · cases htogether with
    | strayPoint =>
      rintro ⟨⟩
      rfl
    | lexical | invalid | accepted | tooDeep => nofun

end Processing

end ArithExpr
