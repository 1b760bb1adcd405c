import ArithExpr.Proofs.Processing.Stages
import ArithExpr.Proofs.Token.Border
import ArithExpr.Proofs.Token.Words

/-!
# Blanks between tokens

Every stage works on the tokens of a source, so sources with the same tokens are treated
alike (`sameButOffset_run`).  Only the byte at which a foreign character stands is taken
from the source itself; results that agree but for this byte are `SameButOffset`.

Two ways to write a source anew keep its tokens.  Blanks can be put in at any place that
is not between two digits (`scanLocated_side_by_side`), and the literals of the tokens
can be written with a space between neighbours (`run_spaced_again`).
-/

namespace ArithExpr

namespace Processing

open Token ArithExpr.Tree

/-- Two results are the same, but that a foreign character may stand at different bytes. -/
inductive SameButOffset {α : Type} : Except ProcessingError α → Except ProcessingError α → Prop
  | same (result : Except ProcessingError α) : SameButOffset result result
  | lexical (token : Token) (offset offset' : Nat) :
      SameButOffset (.error (.lexical token offset)) (.error (.lexical token offset'))

section SameTokens

variable {α β : Type} {result result' : Except ProcessingError α} {source source' : String}

/-- Results that are the same but for the bytes of a foreign character succeed together. -/
lemma SameButOffset.eq_ok_iff (h : SameButOffset result result') (a : α) :
    result = .ok a ↔ result' = .ok a := by
  cases h with
  | same => exact Iff.rfl
  | lexical => exact iff_of_false nofun nofun

/-- Results that are the same but for the bytes of a foreign character stay so when work goes on. -/
lemma SameButOffset.bind (h : SameButOffset result result')
    (next : α → Except ProcessingError β) :
    SameButOffset (result.bind next) (result'.bind next) := by
  cases h with
  | same => exact .same _
  | lexical token offset offset' => exact .lexical token offset offset'

/-- The first token that is a lexical error does not depend on where it is located. -/
lemma find?_scanLocated (source : String) :
    ((scanLocated source).find? fun located => located.token.kind.isLexicalError).map
      Located.token = (scan source).find? fun token => token.kind.isLexicalError := by
  rw [scan, List.find?_map]
  rfl

/-- Sources with the same tokens are let pass together, or turned away for the same character. -/
lemma sameButOffset_lex (h : scan source = scan source') :
    SameButOffset (lex source).value (lex source').value := by
  have hfirst := find?_scanLocated source
  have hfirst' := find?_scanLocated source'
  rw [← h] at hfirst'
  unfold lex
  dsimp only
  cases hfind : (scan source).find? fun token => token.kind.isLexicalError with
  | none =>
    rw [hfind] at hfirst hfirst'
    rw [Option.map_eq_none_iff.mp hfirst, Option.map_eq_none_iff.mp hfirst']
    have htokens : (scanLocated source).map Located.token =
        (scanLocated source').map Located.token := h
    rw [htokens]
    exact .same _
  | some token =>
    rw [hfind] at hfirst hfirst'
    obtain ⟨located, hlocated, rfl⟩ := Option.map_eq_some_iff.mp hfirst
    obtain ⟨located', hlocated', hsame⟩ := Option.map_eq_some_iff.mp hfirst'
    rw [hlocated, hlocated']
    simp only [hsame]
    exact .lexical _ _ _

variable (settings : Settings)

/-- Sources with the same tokens have the same report. -/
lemma sameButOffset_check (h : scan source = scan source') :
    SameButOffset (check settings source).value (check settings source').value := by
  rw [value_check, value_check]
  exact (sameButOffset_lex h).bind _

/-- Sources with the same tokens have the same tree. -/
lemma sameButOffset_parse (h : scan source = scan source') :
    SameButOffset (parse settings source).value (parse settings source').value := by
  rw [value_parse, value_parse]
  exact (sameButOffset_lex h).bind _

/-- Sources with the same tokens have the same output, whatever is requested. -/
theorem sameButOffset_run (request : Request) (h : scan source = scan source') :
    SameButOffset (run settings request source).value (run settings request source').value := by
  obtain ⟨stage, format⟩ := request
  cases stage with
  | token =>
    have hrun (source : String) : (run settings ⟨.token, format⟩ source).value =
        writeTokens format (scan source) := rfl
    rw [hrun, hrun, h]
    exact .same _
  | check =>
    have hrun (source : String) : (run settings ⟨.check, format⟩ source).value =
        (check settings source).value.bind fun report => writeReport format report :=
      Logged.value_andThen _ _
    rw [hrun, hrun]
    exact (sameButOffset_check settings h).bind _
  | ast =>
    have hrun (source : String) : (run settings ⟨.ast, format⟩ source).value =
        (parse settings source).value.bind fun tree => writeTree format tree :=
      Logged.value_andThen _ _
    rw [hrun, hrun]
    exact (sameButOffset_parse settings h).bind _

end SameTokens

/-! ### Blanks at a border -/

/-- Two sources side by side have the tokens of the first and, behind its bytes, those of the
second, unless a run of digits crosses their border.  Blanks can then be put in between, and neither
the tokens change nor what becomes of them.  When a run of digits crosses the border, the last token
of the first source and the first one of the second are numbers, which become one, and nothing else
changes. -/
theorem scanLocated_side_by_side (front back : String) :
    (Apart front.toList back.toList → scanLocated (front ++ back) =
      scanLocated front ++ (scanLocated back).map (Located.shift front.utf8ByteSize)) ∧
    (Apart front.toList back.toList → ∀ blanks : String,
      (∀ c ∈ blanks.toList, Text.isBlank c = true) →
        scan (front ++ blanks ++ back) = scan (front ++ back) ∧
        ∀ settings : Settings,
          SameButOffset (check settings (front ++ blanks ++ back)).value
            (check settings (front ++ back)).value ∧
          SameButOffset (parse settings (front ++ blanks ++ back)).value
            (parse settings (front ++ back)).value ∧
          ∀ request out, (run settings request (front ++ blanks ++ back)).value = .ok out ↔
            (run settings request (front ++ back)).value = .ok out) ∧
    (¬ Apart front.toList back.toList →
      ∃ before left right behind, scanLocated front = before ++ [left] ∧
        scanLocated back = right :: behind ∧ left.token.kind = .number ∧
        right.token.kind = .number ∧
        scanLocated (front ++ back) = before ++
          ⟨⟨.number, left.token.literal ++ right.token.literal⟩, left.start,
            front.utf8ByteSize + right.stop⟩ ::
          behind.map (Located.shift front.utf8ByteSize)) := by
  refine ⟨scanLocated_append, fun hapart blanks hblank => ?_, scanLocated_append_of_not_apart⟩
  have hscan := scan_append_blanks_append hapart hblank
  refine ⟨hscan, fun settings => ⟨sameButOffset_check settings hscan,
    sameButOffset_parse settings hscan, fun request out => ?_⟩⟩
  exact (sameButOffset_run settings request hscan).eq_ok_iff out

/-- An ideographic space between a number and a sign changes no output; digits that touch at a
border are one number. -/
theorem scanLocated_side_by_side_numbers :
    (Apart "1".toList "+2".toList ∧ scanLocated ("1" ++ "+2") =
      scanLocated "1" ++ (scanLocated "+2").map (Located.shift "1".utf8ByteSize)) ∧
    ((∀ c ∈ "\u3000".toList, Text.isBlank c = true) ∧
      scan ("1" ++ "\u3000" ++ "+2") = scan ("1" ++ "+2") ∧
      ∀ settings request out, (run settings request ("1" ++ "\u3000" ++ "+2")).value = .ok out ↔
        (run settings request ("1" ++ "+2")).value = .ok out) ∧
    ¬ Apart "+1".toList "23".toList ∧
      ∃ before left right behind, scanLocated "+1" = before ++ [left] ∧
        scanLocated "23" = right :: behind ∧ left.token.kind = .number ∧
        right.token.kind = .number ∧
        scanLocated ("+1" ++ "23") = before ++
          ⟨⟨.number, left.token.literal ++ right.token.literal⟩, left.start,
            "+1".utf8ByteSize + right.stop⟩ ::
          behind.map (Located.shift "+1".utf8ByteSize) := by
  have hapart : Apart "1".toList "+2".toList := by
    refine apart_of_head fun c hc => ?_
    obtain rfl : '+' = c := by simpa using hc
    rfl
  have hblank : ∀ c ∈ "\u3000".toList, Text.isBlank c = true :=
    List.forall_mem_singleton.mpr (by decide)
  have hcross : ¬ Apart "+1".toList "23".toList := by
    intro hapart
    exact absurd (hapart '1' rfl '2' rfl) (by decide)
  obtain ⟨hshift, hblanks, -⟩ := scanLocated_side_by_side "1" "+2"
  obtain ⟨-, -, hjoin⟩ := scanLocated_side_by_side "+1" "23"
  obtain ⟨hscan, hrun⟩ := hblanks hapart "\u3000" hblank
  refine ⟨⟨hapart, hshift hapart⟩, ⟨hblank, hscan, fun settings => ?_⟩, hcross, hjoin hcross⟩
  exact (hrun settings).2.2

/-! ### Literals with spaces between them -/

/-- The simple form of the tokens of a source is a source with the same tokens, which are written
in the same way again.  Read as words, it has the tokens of the source too, but that a dollar sign
is the end marker and that illegal tokens are unknown; without foreign characters no token
changes. -/
theorem run_spaced_again (source : String) :
    let text := spaced (scan source)
    scan text = scan source ∧
      (∀ settings, (run settings ⟨.token, .simple⟩ source).value = .ok text ∧
        (run settings ⟨.token, .simple⟩ text).value = .ok text) ∧
      ofSymbols text = (scan source).map asWord ∧
      (NoForeign (scan source) → ofSymbols text = scan source) := by
  intro text
  have hscan : scan text = scan source := scan_spaced_scan source
  have hwords : ofSymbols text = (scan source).map asWord := ofSymbols_spaced_scan source
  refine ⟨hscan, fun settings => ⟨rfl, ?_⟩, hwords, fun hforeign => ?_⟩
  · have hrun : (run settings ⟨.token, .simple⟩ text).value = .ok (spaced (scan text)) := rfl
    rw [hrun, hscan]
  · rw [hwords]
    have hself : ∀ token ∈ scan source, token.asWord = token :=
      fun token htoken => (scanned_of_mem_scan htoken).asWord_eq_self (hforeign token htoken)
    exact (List.map_congr_left hself).trans (List.map_id _)

/-- A dollar sign and a letter that is not ASCII are changed by the notation of words; a sum is
not. -/
theorem run_spaced_again_sum :
    (spaced (scan "1$\u00E9") = "1 $ \u00E9" ∧
      ofSymbols "1 $ \u00E9" = [⟨.number, "1"⟩, endOfStream, ⟨.unknown, "\u00E9"⟩]) ∧
    NoForeign (scan "(1+2)") ∧ ofSymbols (spaced (scan "(1+2)")) = scan "(1+2)" := by
  have hforeign : NoForeign (scan "(1+2)") := by
    unfold NoForeign
    decide +kernel
  have hspaced : spaced (scan "1$\u00E9") = "1 $ \u00E9" := by decide +kernel
  obtain ⟨-, -, hwords, -⟩ := run_spaced_again "1$\u00E9"
  obtain ⟨-, -, -, hsame⟩ := run_spaced_again "(1+2)"
  refine ⟨⟨hspaced, ?_⟩, hforeign, hsame hforeign⟩
  rw [← hspaced, hwords]
  decide +kernel

end Processing

end ArithExpr
