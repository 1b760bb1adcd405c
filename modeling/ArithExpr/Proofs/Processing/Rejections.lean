import ArithExpr.Proofs.Processing.Language

/-!
# Rejections on record

A source that is rejected before a tree is built leaves one line, and one that is not
leaves none.  The line is for whoever asks why: it names the place to look at.
`FaultLine` says for each fault which place this is, as the least place that breaks a
rule, whatever the scan that found it has passed over; and a foreign character is named
by the bytes of the first token with one (`FirstForeign`).

The report on a source and its tree are made by two runs, and each of them leaves its
own line (`rejections_on_record`).  Behind the rules only the parentheses of the tree are
written down, with more detail than a rejection.
-/

namespace ArithExpr

/-! ### Faults -/

namespace Validity

open Token

/-- The first operator that is not followed as the rule wants it. -/
def FirstBreach (tokens : List Token) (place : Nat) : Prop :=
  IsLeast {place | OperatorAt tokens place ∧ ¬ FollowedWell tokens place} place

/-- The line about a stream with a fault. -/
inductive FaultLine (tokens : List Token) : Fault → String → Prop
  | unmatchedClose {place : Nat}
      (hfirst : IsLeast {place | KindAt tokens place .rightParen ∧ nesting tokens place = 0}
        place) :
      FaultLine tokens .leftParenShortage ("unmatched ')' at token " ++ toString place)
  | unclosed {count : Nat} (hcount : nesting tokens tokens.length = count) (hopen : 0 < count) :
      FaultLine tokens .rightParenShortage (toString count ++ " unclosed '(' at end of stream")
  | endsOnOperator {place : Nat} (hfirst : FirstBreach tokens place)
      (hlast : tokens.length = place + 1) :
      FaultLine tokens .operatorInvalid ("stream ends on operator at token " ++ toString place)
  | operatorAfterOperator {place : Nat} {next : Token} (hfirst : FirstBreach tokens place)
      (hnext : tokens[place + 1]? = some next)
      (hkind : next.kind ∈ [Kind.plus, .multiply, .divide]) :
      FaultLine tokens .operatorInvalid
        ("operator '" ++ next.literal ++ "' follows operator at token " ++ toString place)
  | endsOnMinus {place : Nat} (hfirst : FirstBreach tokens place)
      (hminus : KindAt tokens (place + 1) .minus) (hlast : tokens.length = place + 2) :
      FaultLine tokens .operatorInvalid
        ("stream ends on '-' after operator at token " ++ toString place)
  | minusWithoutNumber {place : Nat} {found : Token} (hfirst : FirstBreach tokens place)
      (hminus : KindAt tokens (place + 1) .minus) (hfound : tokens[place + 2]? = some found)
      (hkind : found.kind ≠ .number) :
      FaultLine tokens .operatorInvalid
        ("'-' after operator is followed by '" ++ found.literal ++ "' at token " ++
          toString (place + 2))
  | strayPoint {place : Nat}
      (hfirst : IsLeast {place | PointInside tokens place ∧ ¬ NumbersAround tokens place} place) :
      FaultLine tokens .dotInvalid ("'.' without surrounding numbers at token " ++ toString place)

section FaultLine

variable {tokens : List Token} {rejection : Rejection}

/-- The rule on parentheses names the first `)` with no group open in front of it, and else how many
groups are open at the end. -/
lemma faultLine_of_checkParens (h : checkParens tokens = .error rejection) :
    FaultLine tokens rejection.fault rejection.note := by
  have hbalance := balance_checkParens tokens
  rw [h] at hbalance
  cases hbalance with
  | unmatched hclose hnone hmatched =>
    apply FaultLine.unmatchedClose
    refine ⟨⟨hclose, hnone⟩, ?_⟩
    -- every `)` in front of it closes a group
    rintro other ⟨hother, hzero⟩
    by_contra hlt
    have hopen := hmatched other (Nat.lt_of_not_le hlt) hother
    rw [hzero] at hopen
    exact Int.lt_irrefl 0 hopen
  | unclosed _ hopen hcount => exact .unclosed hcount hopen

/-- The rule on operators names the first operator that is not followed well, or what stands two
places behind it. -/
lemma faultLine_of_checkOperators (h : checkOperators tokens = .error rejection) :
    FaultLine tokens rejection.fault rejection.note := by
  have hscan := findsFirst_checkOperators tokens
  rw [h] at hscan
  cases hscan with
  | @broken place _ _ hbreach hleast =>
    have hfirst : FirstBreach tokens place := by
      refine ⟨exists_operatorBreach_iff.mp ⟨rejection, hbreach⟩, ?_⟩
      -- the operators that the scan has passed over are followed well
      intro other hother
      obtain ⟨rejection', hbreach'⟩ := exists_operatorBreach_iff.mpr hother
      exact hleast other rejection' (Nat.zero_le other) hbreach'
    cases hbreach with
    | last _ hlast => exact .endsOnOperator hfirst hlast
    | operatorNext _ hnext hkind => exact .operatorAfterOperator hfirst hnext hkind
    | minusLast _ hminus hlast => exact .endsOnMinus hfirst hminus hlast
    | noNumber _ hminus hfound hkind => exact .minusWithoutNumber hfirst hminus hfound hkind

/-- The rule on points names the first point inside without numbers on both sides. -/
lemma faultLine_of_checkPoints (h : checkPoints tokens = .error rejection) :
    FaultLine tokens rejection.fault rejection.note := by
  have hscan := findsFirst_checkPoints tokens
  rw [h] at hscan
  cases hscan with
  | @broken place _ _ hbreach hleast =>
    have hplace := exists_pointBreach_iff.mp ⟨rejection, hbreach⟩
    cases hbreach with
    | stray =>
      apply FaultLine.strayPoint
      refine ⟨hplace, ?_⟩
      intro other hother
      obtain ⟨rejection', hbreach'⟩ := exists_pointBreach_iff.mpr hother
      exact hleast other rejection' hother.1.2.1 hbreach'

/-- The verdict is that of the first rule that fails, and so is the line. -/
theorem faultLine_of_check (h : check tokens = .error rejection) :
    FaultLine (beforeEnd tokens) rejection.fault rejection.note := by
  rw [check] at h
  cases hparens : checkParens (beforeEnd tokens) with
  | error found =>
    rw [hparens] at h
    obtain rfl := Except.error.inj h
    exact faultLine_of_checkParens hparens
  | ok =>
    rw [hparens] at h
    cases hoperators : checkOperators (beforeEnd tokens) with
    | error found =>
      rw [hoperators] at h
      obtain rfl := Except.error.inj h
      exact faultLine_of_checkOperators hoperators
    | ok =>
      rw [hoperators] at h
      exact faultLine_of_checkPoints h

end FaultLine

end Validity

/-! ### Causes -/

namespace Processing

open Token Validity

/-- What a source is rejected for before a tree is built: a character that no expression contains,
as the token that it became and the byte it starts at, or faults. -/
inductive Cause where
  | character (token : Token) (offset : Nat)
  | faults (faults : List Fault)

/-- The cause that an error tells. -/
def causeOfError : ProcessingError → Option Cause
  | .lexical token offset => some (.character token offset)
  | .invalid findings => some (.faults (findings.map Finding.fault))
  | .request _ | .noSuchRendering _ | .parse _ => none

/-- The cause for which a source has no valid report. -/
def causeOfReport : Except ProcessingError Report → Option Cause
  | .error error => causeOfError error
  | .ok report => if report.valid then none else some (.faults (report.findings.map Finding.fault))

/-- The cause for which a source has no tree, if it is rejected before one is built. -/
def causeOfTree : Except ProcessingError Tree → Option Cause
  | .error error => causeOfError error
  | .ok _ => none

/-- The first token of a source that no expression contains. -/
def FirstForeign (source : String) (located : Located) : Prop :=
  ∃ front back, scanLocated source = front ++ located :: back ∧
    located.token.kind ∈ [Kind.unknown, .illegal] ∧
    ∀ earlier ∈ front, earlier.token.kind ∉ [Kind.unknown, .illegal]

/-- The entries on the rejection of a source: one for a source that is rejected, and none else. -/
inductive RejectionEntries (source : String) : Option Cause → List Log.Entry → Prop
  | passed : RejectionEntries source none []
  | character {located : Located} (hfirst : FirstForeign source located) :
      RejectionEntries source (some (.character located.token located.start))
        [⟨.debug, "rejecting " ++ located.token.kind.label ++ " token '" ++ located.token.literal ++
          "' at " ++ toString located.start ++ ".." ++ toString located.stop⟩]
  | fault {fault : Fault} {line : String} (hline : FaultLine (scan source) fault line) :
      RejectionEntries source (some (.faults [fault])) [⟨.debug, line⟩]

section Record

variable {settings : Settings} {source : String} {tokens : List Token}

/-- The kinds of foreign tokens. -/
lemma isLexicalError_iff_mem {kind : Kind} :
    kind.isLexicalError = true ↔ kind ∈ [Kind.unknown, .illegal] := by
  cases kind <;> decide

/-- A source is turned away for its first foreign token, with a line, or gives its tokens without
one. -/
lemma lex_cases (source : String) :
    (∃ located, FirstForeign source located ∧ lex source =
      ⟨.error (.lexical located.token located.start), [Log.debug (rejectionNote located)]⟩) ∨
    lex source = .silent (.ok (scan source)) := by
  rw [lex]
  cases hfind : (scanLocated source).find? fun located => located.token.kind.isLexicalError with
  | none => exact Or.inr rfl
  | some located =>
    obtain ⟨hkind, front, back, hsource, hfront⟩ := List.find?_eq_some_iff_append.mp hfind
    refine Or.inl ⟨located, ⟨front, back, hsource, isLexicalError_iff_mem.mp hkind, ?_⟩, rfl⟩
    intro earlier hearlier hmem
    have hnone := hfront earlier hearlier
    rw [isLexicalError_iff_mem.mpr hmem] at hnone
    cases hnone

/-- The rules reject a stream with the line on its fault, or accept it without a line. -/
lemma judge_cases (tokens : List Token) :
    (∃ rejection, FaultLine (beforeEnd tokens) rejection.fault rejection.note ∧
      judge tokens = ⟨.error rejection, [Log.debug rejection.note]⟩) ∨
    judge tokens = .silent (.ok ()) := by
  rw [judge]
  cases hcheck : Validity.check tokens with
  | error rejection => exact Or.inl ⟨rejection, faultLine_of_check hcheck, rfl⟩
  | ok => exact Or.inr rfl

/-- The parentheses of a reading are no rejections. -/
lemma upTo_debug_log_readTree (limit : Nat) (tokens : List Token) :
    Log.upTo .debug (readTree limit tokens).log = [] := by
  simp [Log.upTo, readTree, Log.trace]

/-- A failure of the reader is no rejection either. -/
lemma causeOfTree_mapError (result : Except ParseError Tree) :
    causeOfTree (result.mapError .parse) = none := by
  cases result <;> rfl

/-- The lines of the run that makes the report. -/
lemma rejectionEntries_check (settings : Settings) (source : String) :
    RejectionEntries source (causeOfReport (check settings source).value)
      (Log.upTo .debug (check settings source).log) := by
  rw [check]
  rcases lex_cases source with ⟨located, hfirst, hlex⟩ | hlex
  · rw [hlex]
    exact .character hfirst
  · rw [hlex, Logged.silent, Logged.andThen_ok]
    rcases judge_cases (scan source) with ⟨rejection, hline, hjudge⟩ | hjudge
    · rw [beforeEnd_scan] at hline
      rw [hjudge]
      exact .fault hline
    · rw [hjudge]
      exact .passed

/-- The lines of the run that builds the tree. -/
lemma rejectionEntries_parse (settings : Settings) (source : String) :
    RejectionEntries source (causeOfTree (parse settings source).value)
      (Log.upTo .debug (parse settings source).log) := by
  rw [parse]
  rcases lex_cases source with ⟨located, hfirst, hlex⟩ | hlex
  · rw [hlex]
    exact .character hfirst
  · rw [hlex, Logged.silent, Logged.andThen_ok]
    rcases judge_cases (scan source) with ⟨rejection, hline, hjudge⟩ | hjudge
    · rw [beforeEnd_scan] at hline
      rw [hjudge]
      exact .fault hline
    · rw [hjudge]
      change RejectionEntries source
        (causeOfTree ((readTree (Tree.clampDepth settings.maxDepth) (scan source)).value.mapError
          .parse))
        (Log.upTo .debug (readTree (Tree.clampDepth settings.maxDepth) (scan source)).log)
      rw [causeOfTree_mapError, upTo_debug_log_readTree]
      exact .passed

/-- A run writes one line when a foreign character or a broken rule turns the source down, on the
first such character or on the fault that the rule names, and no line otherwise. -/
theorem rejections_on_record (settings : Settings) (source : String) :
    RejectionEntries source (causeOfReport (check settings source).value)
        (Log.upTo .debug (check settings source).log) ∧
      RejectionEntries source (causeOfTree (parse settings source).value)
        (Log.upTo .debug (parse settings source).log) :=
  ⟨rejectionEntries_check settings source, rejectionEntries_parse settings source⟩

end Record

end Processing

end ArithExpr
