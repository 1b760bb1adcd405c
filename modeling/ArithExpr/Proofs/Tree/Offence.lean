import ArithExpr.Proofs.Tree.Spelling
import Mathlib.Order.Bounds.Basic

/-!
# Offending tokens

Whether a stream makes up a tree, and why not, can be read off its places without
building anything.  `Offence` lists the tokens that have no place where they stand: a
`)` with no group open, a `(` at the limit, a foreign character, a stray point, a
number whose text is no numeral.

The main statement is `outcome_of_reads`: the reader fails with the error of the first
offence; with none it fails exactly when a group is open at the end.  The invariant of
the induction is `State.Faithful`, what the reader knows between two nodes.  The places
it has left behind hold no offence, and a point that comes next is stray, because a
point that belongs to a number is taken together with it.
-/

namespace ArithExpr.Tree

open Token

/-! ### Offences -/

/-- The text of the numeral that a stream begins with: the literal of its first token, joined by a
point with that of the third if a point and a number come next. -/
def numeralText : List Token → List Char
  | ⟨_, whole⟩ :: ⟨.point, _⟩ :: ⟨.number, fraction⟩ :: _ => whole.toList ++ '.' :: fraction.toList
  | ⟨_, whole⟩ :: _ => whole.toList
  | [] => []

/-- A point without a number on each side, or with another point two places in front of it. -/
def StrayPoint (tokens : List Token) (place : Nat) : Prop :=
  KindAt tokens place .point ∧
    ((¬ ∃ start, place = start + 1 ∧ DecimalAt tokens start) ∨
      ∃ before, place = before + 2 ∧ KindAt tokens before .point)

/-- The token at a place cannot stand there, and this is the error it gives. -/
inductive Offence (limit : Nat) (tokens : List Token) (place : Nat) : ParseError → Prop
  | unmatchedClose (hkind : KindAt tokens place .rightParen) (hnone : nesting tokens place = 0) :
      Offence limit tokens place (.malformedGrouping place)
  | tooDeep (hkind : KindAt tokens place .leftParen) (hlimit : nesting tokens place = limit) :
      Offence limit tokens place (.nestingTooDeep limit)
  | foreign {kind : Kind} (hkind : KindAt tokens place kind) (herror : kind.isLexicalError = true) :
      Offence limit tokens place (.unexpectedToken place kind)
  | strayPoint (hstray : StrayPoint tokens place) :
      Offence limit tokens place (.unexpectedToken place .point)
  | noNumeral (hkind : KindAt tokens place .number)
      (hfirst : ∀ before, place = before + 1 → ¬ KindAt tokens before .point)
      (htext : Numeral.double? (numeralText (tokens.drop place)) = none) :
      Offence limit tokens place (.unexpectedToken place .number)

/-- The offences that a token can be, by its kind. -/
def OffenceOfKind (limit : Nat) (tokens : List Token) (place : Nat) (error : ParseError) :
    Kind → Prop
  | .rightParen => nesting tokens place = 0 ∧ error = .malformedGrouping place
  | .leftParen => nesting tokens place = limit ∧ error = .nestingTooDeep limit
  | .point => StrayPoint tokens place ∧ error = .unexpectedToken place .point
  | .number =>
    (∀ before, place = before + 1 → ¬ KindAt tokens before .point) ∧
      Numeral.double? (numeralText (tokens.drop place)) = none ∧
        error = .unexpectedToken place .number
  | kind => kind.isLexicalError = true ∧ error = .unexpectedToken place kind

/-- None of the first `count` tokens is an offence. -/
def NoOffenceBefore (limit : Nat) (tokens : List Token) (count : Nat) : Prop :=
  ∀ place < count, ∀ error, ¬ Offence limit tokens place error

/-- What the places of a stream say about the result of reading it. -/
inductive Outcome (limit : Nat) (tokens : List Token) : Except ParseError Tree → Prop
  | offence {place : Nat} {error : ParseError} (hoffence : Offence limit tokens place error)
      (hfirst : NoOffenceBefore limit tokens place) : Outcome limit tokens (.error error)
  | unclosed (hclean : NoOffenceBefore limit tokens tokens.length)
      (hopen : 0 < nesting tokens tokens.length) :
      Outcome limit tokens (.error (.malformedGrouping tokens.length))
  | complete (hclean : NoOffenceBefore limit tokens tokens.length)
      (hclosed : nesting tokens tokens.length = 0) (tree : Tree) : Outcome limit tokens (.ok tree)

section Offences

variable {limit : Nat} {tokens : List Token} {place : Nat}

/-- Only a token can be an offence. -/
lemma Offence.lt_length {error : ParseError} (h : Offence limit tokens place error) :
    place < tokens.length := by
  cases h with
  | unmatchedClose hkind | tooDeep hkind | foreign hkind | noNumeral hkind => exact hkind.lt_length
  | strayPoint hstray => exact hstray.1.lt_length

/-- What offence a token can be is decided by its kind. -/
lemma offence_iff_of_kindAt {kind : Kind} (hkind : KindAt tokens place kind) (error : ParseError) :
    Offence limit tokens place error ↔ OffenceOfKind limit tokens place error kind := by
  constructor
  · rintro (⟨hkind', h⟩ | ⟨hkind', h⟩ | ⟨hkind', h⟩ | h | ⟨hkind', hfirst, h⟩)
    · obtain rfl := hkind.unique hkind'
      exact ⟨h, rfl⟩
    · obtain rfl := hkind.unique hkind'
      exact ⟨h, rfl⟩
    · obtain rfl := hkind.unique hkind'
      cases kind <;> simp_all [OffenceOfKind, Kind.isLexicalError]
    · obtain rfl := hkind.unique h.1
      exact ⟨h, rfl⟩
    · obtain rfl := hkind.unique hkind'
      exact ⟨hfirst, h, rfl⟩
  · intro h
    cases kind with
    | rightParen => exact h.2 ▸ .unmatchedClose hkind h.1
    | leftParen => exact h.2 ▸ .tooDeep hkind h.1
    | point => exact h.2 ▸ .strayPoint h.1
    | number => exact h.2.2 ▸ .noNumeral hkind h.1 h.2.1
    | unknown | illegal | endOfStream | multiply | divide | plus | minus =>
      exact h.2 ▸ .foreign hkind h.1

/-- A place has at most one error. -/
lemma Offence.unique {error error' : ParseError} (h : Offence limit tokens place error)
    (h' : Offence limit tokens place error') : error = error' := by
  obtain ⟨kind, hkind⟩ := exists_kindAt h.lt_length
  rw [offence_iff_of_kindAt hkind] at h h'
  cases kind with
  | number => exact h.2.2.trans h'.2.2.symm
  | _ => exact h.2.trans h'.2.symm

/-- A clean stream has no offence anywhere. -/
lemma NoOffenceBefore.not_offence (h : NoOffenceBefore limit tokens tokens.length) (place : Nat)
    (error : ParseError) : ¬ Offence limit tokens place error :=
  fun hoffence => h place hoffence.lt_length error hoffence

/-- Alone, a number has its literal as its text. -/
lemma numeralText_whole {whole : String} {rest : List Token}
    (hrest : ∀ point fraction rest',
      rest = ⟨.point, point⟩ :: ⟨.number, fraction⟩ :: rest' → False) :
    numeralText (⟨.number, whole⟩ :: rest) = whole.toList := by
  rw [numeralText]
  exact hrest

/-- Behind a number that stands alone, no point is followed by a number. -/
lemma noPointNumber_of_drop {token : Token} {rest : List Token}
    (hdrop : tokens.drop place = token :: rest)
    (hrest : ∀ point fraction rest', rest = ⟨.point, point⟩ :: ⟨.number, fraction⟩ :: rest' → False)
    (hpoint : KindAt tokens (place + 1) .point) : ¬ KindAt tokens (place + 2) .number := by
  intro hnumber
  rw [← kindAt_drop, hdrop] at hpoint hnumber
  match rest, hrest with
  | [], _ => simp [KindAt] at hpoint
  | [_], _ => simp [KindAt] at hnumber
  | ⟨kind, point⟩ :: ⟨kind', fraction⟩ :: rest', hrest =>
    simp only [kindAt_cons_succ, kindAt_cons_zero] at hpoint hnumber
    subst hpoint hnumber
    exact hrest point fraction rest' rfl

/-- A point with no number in front of it is stray. -/
lemma strayPoint_succ_of_not_number (hkind : KindAt tokens (place + 1) .point)
    (hbefore : ¬ KindAt tokens place .number) : StrayPoint tokens (place + 1) := by
  refine ⟨hkind, Or.inl ?_⟩
  rintro ⟨start, heq, hdecimal⟩
  obtain rfl : place = start := Nat.succ.inj heq
  exact hbefore hdecimal.1

/-- Where no token offends, a point is the middle of a number, a point and a number. -/
lemma decimalAt_of_not_offence (hclean : ∀ place error, ¬ Offence limit tokens place error)
    {place : Nat} (hpoint : KindAt tokens place .point) :
    ∃ start, place = start + 1 ∧ DecimalAt tokens start := by
  by_contra hnone
  exact hclean place _ (.strayPoint ⟨hpoint, Or.inl hnone⟩)

/-- Where no token offends, no number stands between two points. -/
lemma not_kindAt_point_of_not_offence (hclean : ∀ place error, ¬ Offence limit tokens place error)
    {place : Nat} (hpoint : KindAt tokens place .point) : ¬ KindAt tokens (place + 2) .point := by
  intro hnext
  exact hclean (place + 2) _ (.strayPoint ⟨hnext, Or.inr ⟨place, rfl, hpoint⟩⟩)

end Offences

/-! ### The reader between two nodes -/

/-- A state that the reader can be in when it has gone over the first `state.index` tokens of a
stream. -/
structure State.Faithful (limit : Nat) (tokens : List Token) (state : State) : Prop where
  index_le : state.index ≤ tokens.length
  nesting_eq : nesting tokens state.index = state.depth
  clean : NoOffenceBefore limit tokens state.index
  stray : KindAt tokens state.index .point → StrayPoint tokens state.index
  not_after : ∀ before, state.index = before + 1 → ¬ KindAt tokens before .point

section Faithful

variable {limit : Nat} {tokens rest : List Token} {state state' : State} {token : Token}

/-- Nothing has been gone over at the start, and a point at the front is stray. -/
lemma State.faithful_start (limit : Nat) (tokens : List Token) :
    State.start.Faithful limit tokens where
  index_le := Nat.zero_le _
  nesting_eq := nesting_zero tokens
  clean := by
    intro place hplace
    exact absurd hplace (Nat.not_lt_zero place)
  stray := by
    intro hkind
    refine ⟨hkind, Or.inl ?_⟩
    rintro ⟨start, heq, -⟩
    exact absurd heq (Nat.succ_ne_zero start).symm
  not_after := by
    intro before heq
    exact absurd heq (Nat.succ_ne_zero before).symm

/-- One more place without an offence. -/
lemma NoOffenceBefore.succ {count : Nat} (h : NoOffenceBefore limit tokens count)
    (hplace : ∀ error, ¬ Offence limit tokens count error) :
    NoOffenceBefore limit tokens (count + 1) := by
  intro place hlt error
  rcases Nat.lt_succ_iff_lt_or_eq.mp hlt with hlt | rfl
  · exact h place hlt error
  · exact hplace error

/-- Going over one token that is neither a number nor a point keeps the invariant, if the token is
no offence and the nesting is right behind it. -/
lemma State.Faithful.step (h : state.Faithful limit tokens)
    (hdrop : tokens.drop state.index = token :: rest) (hindex : state'.index = state.index + 1)
    (hdepth : nesting tokens (state.index + 1) = state'.depth)
    (hplace : ∀ error, ¬ Offence limit tokens state.index error)
    (hnumber : token.kind ≠ .number) (hpoint : token.kind ≠ .point) :
    state'.Faithful limit tokens where
  index_le := by
    rw [hindex]
    exact (kindAt_of_drop_self hdrop).lt_length
  nesting_eq := by rw [hindex, hdepth]
  clean := by
    rw [hindex]
    exact h.clean.succ hplace
  stray := by
    rw [hindex]
    intro hkind
    exact strayPoint_succ_of_not_number hkind (by rwa [kindAt_of_drop hdrop])
  not_after := by
    rw [hindex]
    intro before heq
    obtain rfl : state.index = before := Nat.succ.inj heq
    rwa [kindAt_of_drop hdrop]

/-- Going over a number that no point and number follow keeps the invariant, if its literal is a
numeral. -/
lemma State.Faithful.add_whole (h : state.Faithful limit tokens) {whole : String} {value : Double}
    (hdrop : tokens.drop state.index = ⟨.number, whole⟩ :: rest)
    (hrest : ∀ point fraction rest', rest = ⟨.point, point⟩ :: ⟨.number, fraction⟩ :: rest' → False)
    (htext : Numeral.double? whole.toList = some value) :
    (state.add 1 (.literal value)).Faithful limit tokens where
  index_le := (kindAt_of_drop_self hdrop).lt_length
  nesting_eq := by
    have hsucc := nesting_succ_of_drop hdrop
    simpa [State.add, State.depth, h.nesting_eq] using hsucc
  clean := by
    refine h.clean.succ fun error hoffence => ?_
    have hkind : KindAt tokens state.index .number := kindAt_of_drop_self hdrop
    obtain ⟨-, hnone, -⟩ := (offence_iff_of_kindAt hkind error).mp hoffence
    rw [hdrop, numeralText_whole hrest, htext] at hnone
    exact absurd hnone (Option.some_ne_none value)
  stray := by
    intro hpoint
    refine ⟨hpoint, Or.inl ?_⟩
    rintro ⟨start, heq, -, -, hnumber⟩
    obtain rfl : state.index = start := Nat.succ.inj heq
    exact noPointNumber_of_drop hdrop hrest hpoint hnumber
  not_after := by
    intro before heq
    obtain rfl : state.index = before := Nat.succ.inj heq
    simp [kindAt_of_drop hdrop]

/-- Going over a number, a point and a number keeps the invariant, if their joined text is a
numeral. -/
lemma State.Faithful.add_decimal (h : state.Faithful limit tokens)
    {whole point fraction : String} {value : Double}
    (hdrop : tokens.drop state.index =
      ⟨.number, whole⟩ :: ⟨.point, point⟩ :: ⟨.number, fraction⟩ :: rest)
    (htext : Numeral.double? (whole.toList ++ '.' :: fraction.toList) = some value) :
    (state.add 3 (.literal value)).Faithful limit tokens := by
  have hdrop₁ := drop_succ_of_drop hdrop
  have hdrop₂ := drop_succ_of_drop hdrop₁
  have hwhole : KindAt tokens state.index .number := kindAt_of_drop_self hdrop
  have hpoint : KindAt tokens (state.index + 1) .point := kindAt_of_drop_self hdrop₁
  have hfraction : KindAt tokens (state.index + 2) .number := kindAt_of_drop_self hdrop₂
  have hclean₁ : ∀ error, ¬ Offence limit tokens state.index error := by
    intro error hoffence
    obtain ⟨-, hnone, -⟩ := (offence_iff_of_kindAt hwhole error).mp hoffence
    rw [hdrop, numeralText, htext] at hnone
    exact absurd hnone (Option.some_ne_none value)
  have hclean₂ : ∀ error, ¬ Offence limit tokens (state.index + 1) error := by
    intro error hoffence
    obtain ⟨⟨-, hside | ⟨before, heq, hbefore⟩⟩, -⟩ :=
      (offence_iff_of_kindAt hpoint error).mp hoffence
    · exact hside ⟨state.index, rfl, hwhole, hpoint, hfraction⟩
    · exact h.not_after before (Nat.succ.inj heq) hbefore
  have hclean₃ : ∀ error, ¬ Offence limit tokens (state.index + 2) error := by
    intro error hoffence
    obtain ⟨hfirst, -, -⟩ := (offence_iff_of_kindAt hfraction error).mp hoffence
    exact hfirst (state.index + 1) rfl hpoint
  refine ⟨hfraction.lt_length, ?_, ((h.clean.succ hclean₁).succ hclean₂).succ hclean₃, ?_, ?_⟩
  · have hnesting := nesting_succ_of_drop hdrop
    have hnesting₁ := nesting_succ_of_drop hdrop₁
    have hnesting₂ := nesting_succ_of_drop hdrop₂
    simp only [reduceCtorEq, if_false, Int.add_zero, Int.sub_zero] at hnesting hnesting₁ hnesting₂
    simpa [State.add, State.depth, hnesting₂, hnesting₁, hnesting] using h.nesting_eq
  · intro hnext
    exact ⟨hnext, Or.inr ⟨state.index + 1, rfl, hpoint⟩⟩
  · intro before heq
    obtain rfl : state.index + 2 = before := Nat.succ.inj heq
    intro hkind
    exact absurd (hfraction.unique hkind) (by decide)

/-- Going over an operator keeps the invariant. -/
lemma State.Faithful.add_operator (h : state.Faithful limit tokens) {op : Operator}
    (hdrop : tokens.drop state.index = token :: rest) (hop : operatorOf? token.kind = some op) :
    (state.add 1 (.operator op)).Faithful limit tokens := by
  have hkind : KindAt tokens state.index token.kind := kindAt_of_drop_self hdrop
  refine h.step hdrop rfl ?_ (fun error hoffence => ?_) ?_ ?_
  · rw [nesting_succ_of_drop hdrop, h.nesting_eq]
    cases hk : token.kind <;> simp_all [operatorOf?, State.add, State.depth]
  · have hofKind := (offence_iff_of_kindAt hkind error).mp hoffence
    cases hk : token.kind <;> simp_all [operatorOf?, OffenceOfKind, Kind.isLexicalError]
  · rintro hk
    simp [hk, operatorOf?] at hop
  · rintro hk
    simp [hk, operatorOf?] at hop

/-- Opening a group below the limit keeps the invariant. -/
lemma State.Faithful.openGroup (h : state.Faithful limit tokens) {text : String}
    (hdrop : tokens.drop state.index = ⟨.leftParen, text⟩ :: rest) (hlimit : state.depth ≠ limit) :
    state.openGroup.Faithful limit tokens := by
  have hkind : KindAt tokens state.index .leftParen := kindAt_of_drop_self hdrop
  refine h.step hdrop rfl ?_ (fun error hoffence => ?_) (by simp) (by simp)
  · simp [nesting_succ_of_drop hdrop, h.nesting_eq, State.openGroup, State.depth]
  · obtain ⟨heq, -⟩ := (offence_iff_of_kindAt hkind error).mp hoffence
    rw [h.nesting_eq] at heq
    exact hlimit (Int.ofNat.inj heq)

/-- Closing a group that is open keeps the invariant. -/
lemma State.Faithful.closeGroup (h : state.Faithful limit tokens) {text : String}
    {outer : List Node} {around : List (List Node)}
    (hdrop : tokens.drop state.index = ⟨.rightParen, text⟩ :: rest)
    (henclosing : state.enclosing = outer :: around) :
    (state.closeGroup outer around).Faithful limit tokens := by
  have hkind : KindAt tokens state.index .rightParen := kindAt_of_drop_self hdrop
  have hdepth : state.depth = around.length + 1 := by
    rw [State.depth, henclosing, List.length_cons]
  refine h.step hdrop rfl ?_ (fun error hoffence => ?_) (by simp) (by simp)
  · rw [nesting_succ_of_drop hdrop, h.nesting_eq, hdepth]
    simp [State.closeGroup, State.depth]
  · obtain ⟨heq, -⟩ := (offence_iff_of_kindAt hkind error).mp hoffence
    rw [h.nesting_eq, hdepth] at heq
    omega

/-- Every step of the reader keeps the invariant. -/
lemma State.Step.faithful (hstep : state.Step limit tokens state')
    (h : state.Faithful limit tokens) : state'.Faithful limit tokens := by
  cases hstep with
  | whole hdrop hrest hvalue => exact h.add_whole hdrop hrest hvalue
  | decimal hdrop hvalue => exact h.add_decimal hdrop hvalue
  | operator hdrop hop => exact h.add_operator hdrop hop
  | opening hdrop hlimit => exact h.openGroup hdrop hlimit
  | closing hdrop henclosing => exact h.closeGroup hdrop henclosing

end Faithful

/-! ### The result of a reading -/

/-- A reading stops at a place with a result: at the first offence, or at the end of a stream
without any. -/
inductive StopsAt (limit : Nat) (tokens : List Token) (place : Nat) :
    Except ParseError Tree → Prop
  | offence {error : ParseError} (hoffence : Offence limit tokens place error)
      (hfirst : NoOffenceBefore limit tokens place) : StopsAt limit tokens place (.error error)
  | unclosed (hend : place = tokens.length) (hclean : NoOffenceBefore limit tokens place)
      (hopen : 0 < nesting tokens place) :
      StopsAt limit tokens place (.error (.malformedGrouping place))
  | complete (hend : place = tokens.length) (hclean : NoOffenceBefore limit tokens place)
      (hclosed : nesting tokens place = 0) (tree : Tree) : StopsAt limit tokens place (.ok tree)

section Result

variable {limit : Nat} {tokens rest : List Token} {state : State} {reading : Reading}
  {result : Except ParseError Tree}

/-- Where the reader halts, it stops with its result. -/
lemma State.Faithful.stopsAt (h : state.Faithful limit tokens)
    (hend : ∀ place, ¬ KindAt tokens place .endOfStream) (hhalt : state.Halt limit tokens result) :
    StopsAt limit tokens state.index result := by
  cases hhalt with
  | complete hdrop hclosed =>
    have hindex := Nat.le_antisymm h.index_le (List.drop_eq_nil_iff.mp hdrop)
    refine .complete hindex h.clean ?_ _
    rw [h.nesting_eq, State.depth, hclosed]
    rfl
  | unclosed hdrop hopen =>
    have hindex := Nat.le_antisymm h.index_le (List.drop_eq_nil_iff.mp hdrop)
    refine .unclosed hindex h.clean ?_
    rw [h.nesting_eq, State.depth]
    exact Int.natCast_pos.mpr (List.length_pos_iff.mpr hopen)
  | noWhole hdrop hrest hvalue =>
    refine .offence (.noNumeral (kindAt_of_drop_self hdrop) h.not_after ?_) h.clean
    rwa [hdrop, numeralText_whole hrest]
  | noDecimal hdrop hvalue =>
    refine .offence (.noNumeral (kindAt_of_drop_self hdrop) h.not_after ?_) h.clean
    rwa [hdrop, numeralText]
  | tooDeep hdrop hlimit =>
    refine .offence (.tooDeep (kindAt_of_drop_self hdrop) ?_) h.clean
    rw [h.nesting_eq, hlimit]
  | unmatched hdrop hclosed =>
    refine .offence (.unmatchedClose (kindAt_of_drop_self hdrop) ?_) h.clean
    rw [h.nesting_eq, State.depth, hclosed]
    rfl
  | @noNode kind text rest hdrop hother hop =>
    have hkind : KindAt tokens state.index kind := kindAt_of_drop_self hdrop
    refine .offence ((offence_iff_of_kindAt hkind _).mpr ?_) h.clean
    cases kind with
    | endOfStream => exact absurd hkind (hend state.index)
    | number | leftParen | rightParen => simp at hother
    | multiply | divide | plus | minus => simp [operatorOf?] at hop
    | point => exact ⟨h.stray hkind, rfl⟩
    | unknown | illegal => exact ⟨rfl, rfl⟩

/-- The place at which a reading stops decides its outcome. -/
lemma StopsAt.outcome {place : Nat} (h : StopsAt limit tokens place result) :
    Outcome limit tokens result := by
  cases h with
  | offence hoffence hfirst => exact .offence hoffence hfirst
  | unclosed hend hclean hopen =>
    subst hend
    exact .unclosed hclean hopen
  | complete hend hclean hclosed tree =>
    subst hend
    exact .complete hclean hclosed tree

/-- From a state that the reader can be in, the outcome of reading on is that of the stream. -/
theorem outcome_of_reads (hend : ∀ place, ¬ KindAt tokens place .endOfStream)
    (h : state.Faithful limit tokens) (hreads : state.Reads limit tokens reading) :
    Outcome limit tokens reading.result := by
  induction hreads with
  | halt hhalt => exact (h.stopsAt hend hhalt).outcome
  | step hstep _ ih => exact ih (hstep.faithful h)

/-- No end marker stands in front of the end marker. -/
lemma not_kindAt_endOfStream (tokens : List Token) (place : Nat) :
    ¬ KindAt (beforeEnd tokens) place .endOfStream := by
  intro hkind
  obtain ⟨token, hmem, hend⟩ := hkind.exists_mem
  exact kind_ne_endOfStream_of_mem hmem hend

end Result

/-- What stands in front of the end marker decides the result. -/
theorem outcome_ofTokens (limit : Nat) (tokens : List Token) :
    Outcome limit (beforeEnd tokens) (ofTokens limit tokens) :=
  outcome_of_reads (not_kindAt_endOfStream tokens) (State.faithful_start limit _)
    (reads_readFrom List.drop_zero)

section Results

variable {limit : Nat} {tokens : List Token} {result : Except ParseError Tree}

/-- The first offence is the least place with one. -/
lemma isLeast_offence_iff {place : Nat} {error : ParseError} :
    (IsLeast {place | ∃ error, Offence limit tokens place error} place ∧
        Offence limit tokens place error) ↔
      Offence limit tokens place error ∧ NoOffenceBefore limit tokens place := by
  constructor
  · rintro ⟨⟨-, hleast⟩, hoffence⟩
    refine ⟨hoffence, fun earlier hlt error' hearlier => ?_⟩
    exact Nat.not_le.mpr hlt (hleast ⟨error', hearlier⟩)
  · rintro ⟨hoffence, hfirst⟩
    refine ⟨⟨⟨error, hoffence⟩, ?_⟩, hoffence⟩
    rintro other ⟨error', hother⟩
    by_contra hlt
    exact hfirst other (Nat.lt_of_not_le hlt) error' hother

/-- A reading fails with the error of the first offence, and without one where a group is left
open. -/
lemma Outcome.eq_error_iff (h : Outcome limit tokens result) (error : ParseError) :
    result = .error error ↔
      (∃ place, IsLeast {place | ∃ error, Offence limit tokens place error} place ∧
        Offence limit tokens place error) ∨
      ((∀ place error, ¬ Offence limit tokens place error) ∧ 0 < nesting tokens tokens.length ∧
        error = .malformedGrouping tokens.length) := by
  simp only [isLeast_offence_iff]
  cases h with
  | @offence place found hoffence hfirst =>
    constructor
    · rintro ⟨⟩
      exact Or.inl ⟨place, hoffence, hfirst⟩
    · rintro (⟨place', hoffence', hfirst'⟩ | ⟨hclean, -⟩)
      · obtain rfl : place = place' := by
          rcases Nat.lt_trichotomy place place' with hlt | heq | hlt
          · exact absurd hoffence (hfirst' place hlt found)
          · exact heq
          · exact absurd hoffence' (hfirst place' hlt error)
        rw [hoffence.unique hoffence']
      · exact absurd hoffence (hclean place found)
  | unclosed hclean hopen =>
    constructor
    · rintro ⟨⟩
      exact Or.inr ⟨hclean.not_offence, hopen, rfl⟩
    · rintro (⟨place, hoffence, -⟩ | ⟨-, -, rfl⟩)
      · exact absurd hoffence (hclean.not_offence place error)
      · rfl
  | complete hclean hclosed tree =>
    refine ⟨nofun, ?_⟩
    rintro (⟨place, hoffence, -⟩ | ⟨-, hopen, -⟩)
    · exact absurd hoffence (hclean.not_offence place error)
    · omega

/-- A first offence gives the reading its error. -/
lemma Outcome.eq_error_of_first (h : Outcome limit tokens result) {place : Nat}
    {error : ParseError} (hoffence : Offence limit tokens place error)
    (hfirst : NoOffenceBefore limit tokens place) : result = .error error :=
  (h.eq_error_iff error).mpr (Or.inl ⟨place, isLeast_offence_iff.mpr ⟨hoffence, hfirst⟩⟩)

/-- A reading succeeds where there is no offence and no group is left open. -/
lemma Outcome.eq_ok_iff (h : Outcome limit tokens result) :
    (∃ tree, result = .ok tree) ↔
      (∀ place error, ¬ Offence limit tokens place error) ∧ nesting tokens tokens.length ≤ 0 := by
  cases h with
  | @offence place found hoffence hfirst =>
    refine ⟨by rintro ⟨_, ⟨⟩⟩, ?_⟩
    rintro ⟨hclean, -⟩
    exact absurd hoffence (hclean place found)
  | unclosed hclean hopen =>
    refine ⟨by rintro ⟨_, ⟨⟩⟩, ?_⟩
    rintro ⟨-, hclosed⟩
    omega
  | complete hclean hclosed tree =>
    exact ⟨fun _ => ⟨hclean.not_offence, hclosed.le⟩, fun _ => ⟨tree, rfl⟩⟩

/-- No offence is an end marker. -/
lemma Offence.ne_endOfStream {place index : Nat} :
    ¬ Offence limit tokens place (.unexpectedToken index .endOfStream) := by
  rintro ⟨⟩
  contradiction

end Results

/-- The first offending token decides the outcome of a reading: with its error the reading fails.
Where no token offends, it fails exactly when a group is open at the end, and else gives a tree.
The end marker is never blamed. -/
theorem ofTokens_decided_by_first_offence (limit : Nat) (tokens : List Token) :
    (∀ error, ofTokens limit tokens = .error error ↔
      (∃ place, IsLeast {place | ∃ error, Offence limit (beforeEnd tokens) place error} place ∧
        Offence limit (beforeEnd tokens) place error) ∨
      ((∀ place error, ¬ Offence limit (beforeEnd tokens) place error) ∧
        0 < nesting (beforeEnd tokens) (beforeEnd tokens).length ∧
        error = .malformedGrouping (beforeEnd tokens).length)) ∧
    ((∃ tree, ofTokens limit tokens = .ok tree) ↔
      (∀ place error, ¬ Offence limit (beforeEnd tokens) place error) ∧
        nesting (beforeEnd tokens) (beforeEnd tokens).length ≤ 0) ∧
    ∀ place, ofTokens limit tokens ≠ .error (.unexpectedToken place .endOfStream) := by
  have houtcome := outcome_ofTokens limit tokens
  refine ⟨houtcome.eq_error_iff, houtcome.eq_ok_iff, fun place herror => ?_⟩
  rcases (houtcome.eq_error_iff _).mp herror with ⟨_, -, hoffence⟩ | ⟨-, -, heq⟩
  · exact hoffence.ne_endOfStream
  · exact absurd heq (by simp)

end ArithExpr.Tree
