import ArithExpr.Proofs.Validity.Rules

/-!
# Parentheses as a language

The rule on parentheses decides a language, and `Bracketed` is its grammar.  What it says
of a stream outside the language is a statement about all the ways in which the stream
could go on: a `)` is missing when some continuation leads into the language, and a `(`
when none does (`checkParens_decides_grammar`).

A stream acts on the number of groups that are open in front of it: `depthAfter` is the
number behind it, or nothing if a `)` on the way has no group to close.  Streams side by
side act one after the other, so the action of a stream decides about everything that can
be put behind it or in front of it, and the three verdicts are the three things that can
become of the depth zero.
-/

namespace ArithExpr.Validity

open Token

/-! ### The grammar -/

/-- Streams made up of tokens that are no parentheses and of such streams in parentheses. -/
inductive Bracketed : List Token → Prop
  | empty : Bracketed []
  | other {token : Token} {rest : List Token} (hopen : token.kind ≠ .leftParen)
      (hclose : token.kind ≠ .rightParen) (hrest : Bracketed rest) : Bracketed (token :: rest)
  | group {opening closing : Token} {inner rest : List Token} (hopen : opening.kind = .leftParen)
      (hinner : Bracketed inner) (hclose : closing.kind = .rightParen) (hrest : Bracketed rest) :
      Bracketed (opening :: (inner ++ closing :: rest))

/-! ### How a stream acts on the depth -/

/-- The number of open groups behind a token, if there are `depth` in front of it. -/
def depthStep (depth : Nat) (token : Token) : Option Nat :=
  match token.kind with
  | .leftParen => some (depth + 1)
  | .rightParen => if depth = 0 then none else some (depth - 1)
  | _ => some depth

/-- The number of open groups behind a stream. -/
def depthAfter (depth : Nat) (tokens : List Token) : Option Nat :=
  tokens.foldlM depthStep depth

section Depth

variable {tokens front back rest : List Token} {token : Token} {depth after : Nat}

/-- A token that is passed changes the depth by its kind alone. -/
lemma depthStep_eq_some_iff :
    depthStep depth token = some after ↔
      depth + (if token.kind = .leftParen then 1 else 0) =
        after + (if token.kind = .rightParen then 1 else 0) := by
  unfold depthStep
  split
  · next h => simp [h]
  · next h =>
    by_cases hdepth : depth = 0
    · simp [h, hdepth]
    · simp [h, hdepth]
      omega
  · next hopen hclose => simp [if_neg hopen, if_neg hclose]

@[simp] lemma depthAfter_nil (depth : Nat) : depthAfter depth [] = some depth := rfl

/-- The first token acts first. -/
lemma depthAfter_cons (depth : Nat) (token : Token) (rest : List Token) :
    depthAfter depth (token :: rest) =
      (depthStep depth token).bind fun inner => depthAfter inner rest := rfl

/-- A `(` opens a group. -/
lemma depthAfter_open (h : token.kind = .leftParen) (depth : Nat) (rest : List Token) :
    depthAfter depth (token :: rest) = depthAfter (depth + 1) rest := by
  simp [depthAfter_cons, depthStep, h]

/-- A `)` closes a group. -/
lemma depthAfter_close (h : token.kind = .rightParen) (outer : Nat) (rest : List Token) :
    depthAfter (outer + 1) (token :: rest) = depthAfter outer rest := by
  simp [depthAfter_cons, depthStep, h]

/-- A `)` without a group to close cannot be passed. -/
lemma depthAfter_close_zero (h : token.kind = .rightParen) (rest : List Token) :
    depthAfter 0 (token :: rest) = none := by
  simp [depthAfter_cons, depthStep, h]

/-- A token that is no parenthesis leaves the groups as they are. -/
lemma depthAfter_other (hopen : token.kind ≠ .leftParen) (hclose : token.kind ≠ .rightParen)
    (depth : Nat) (rest : List Token) :
    depthAfter depth (token :: rest) = depthAfter depth rest := by
  have hstep : depthStep depth token = some depth := by
    simp [depthStep_eq_some_iff, hopen, hclose]
  rw [depthAfter_cons, hstep, Option.bind_some]

/-- Streams side by side act one after the other. -/
lemma depthAfter_append (depth : Nat) (front back : List Token) :
    depthAfter depth (front ++ back) =
      (depthAfter depth front).bind fun inner => depthAfter inner back :=
  List.foldlM_append

/-- A stream that is passed changes the depth by the numbers of its parentheses. -/
lemma count_of_depthAfter (h : depthAfter depth tokens = some after) :
    depth + (tokens.map Token.kind).count .leftParen =
      after + (tokens.map Token.kind).count .rightParen := by
  induction tokens generalizing depth with
  | nil =>
    obtain rfl := Option.some.inj h
    rfl
  | cons token rest ih =>
    rw [depthAfter_cons, Option.bind_eq_some_iff] at h
    obtain ⟨inner, hstep, hrest⟩ := h
    rw [depthStep_eq_some_iff] at hstep
    have hcount := ih hrest
    simp only [List.map_cons, List.count_cons, beq_iff_eq]
    omega

/-- Enough open groups in front of a stream give every `)` in it one to close, and fewer do not. -/
lemma exists_enough (tokens : List Token) :
    ∃ enough, ∀ depth, depthAfter depth tokens = none ↔ depth < enough := by
  induction tokens with
  | nil => exact ⟨0, by simp⟩
  | cons token rest ih =>
    obtain ⟨enough, henough⟩ := ih
    by_cases hopen : token.kind = .leftParen
    · refine ⟨enough - 1, fun depth => ?_⟩
      rw [depthAfter_open hopen, henough]
      omega
    by_cases hclose : token.kind = .rightParen
    · refine ⟨enough + 1, fun depth => ?_⟩
      cases depth with
      | zero => simp [depthAfter_close_zero hclose]
      | succ outer => rw [depthAfter_close hclose, henough, Nat.add_lt_add_iff_right]
    · refine ⟨enough, fun depth => ?_⟩
      rw [depthAfter_other hopen hclose, henough]

/-- Opening parentheses open a group each. -/
lemma depthAfter_of_openers (hopeners : ∀ token ∈ tokens, token.kind = .leftParen) (depth : Nat) :
    depthAfter depth tokens = some (depth + tokens.length) := by
  induction tokens generalizing depth with
  | nil => rfl
  | cons token rest ih =>
    obtain ⟨hopen, hrest⟩ := List.forall_mem_cons.mp hopeners
    rw [depthAfter_open hopen, ih hrest, List.length_cons, Nat.add_right_comm, Nat.add_assoc]

/-- Closing parentheses leave no group open when there are as many of them as of groups. -/
lemma depthAfter_of_closers (hclosers : ∀ token ∈ tokens, token.kind = .rightParen) (depth : Nat) :
    depthAfter depth tokens = some 0 ↔ tokens.length = depth := by
  induction tokens generalizing depth with
  | nil => simp [eq_comm]
  | cons token rest ih =>
    obtain ⟨hclose, hrest⟩ := List.forall_mem_cons.mp hclosers
    cases depth with
    | zero => simp [depthAfter_close_zero hclose]
    | succ outer =>
      rw [depthAfter_close hclose, ih hrest, List.length_cons, Nat.add_right_cancel_iff]

end Depth

/-! ### Derivations -/

/-- Bracketed streams with so many closing parentheses between them. -/
inductive Closes : Nat → List Token → Prop
  | last {tokens : List Token} (hlast : Bracketed tokens) : Closes 0 tokens
  | next {depth : Nat} {inner rest : List Token} {closing : Token} (hinner : Bracketed inner)
      (hclose : closing.kind = .rightParen) (hrest : Closes depth rest) :
      Closes (depth + 1) (inner ++ closing :: rest)

section Derivations

variable {tokens inner rest : List Token} {token opening closing : Token} {depth : Nat}

/-- The first of the streams may have another token in front, if that is no parenthesis. -/
lemma Closes.other (h : Closes depth rest) (hopen : token.kind ≠ .leftParen)
    (hclose : token.kind ≠ .rightParen) : Closes depth (token :: rest) := by
  cases h with
  | last hlast => exact .last (.other hopen hclose hlast)
  | next hinner hkind hrest => exact .next (.other hopen hclose hinner) hkind hrest

/-- An opening parenthesis takes the first two of the streams together. -/
lemma Closes.group (h : Closes (depth + 1) rest) (hopen : opening.kind = .leftParen) :
    Closes depth (opening :: rest) := by
  cases h with
  | @next _ inner rest closing hinner hclose hrest =>
    cases hrest with
    | last hlast => exact .last (.group hopen hinner hclose hlast)
    | @next _ second behind closing' hsecond hclose' hbehind =>
      have hgroup : Bracketed (opening :: (inner ++ closing :: second)) :=
        .group hopen hinner hclose hsecond
      have hclosed := Closes.next hgroup hclose' hbehind
      simpa using hclosed

/-- A stream that leaves no group open closes those that were open in front of it. -/
lemma closes_of_depthAfter (h : depthAfter depth tokens = some 0) : Closes depth tokens := by
  induction tokens generalizing depth with
  | nil =>
    obtain rfl := Option.some.inj h
    exact .last .empty
  | cons token rest ih =>
    by_cases hopen : token.kind = .leftParen
    · rw [depthAfter_open hopen] at h
      exact (ih h).group hopen
    by_cases hclose : token.kind = .rightParen
    · cases depth with
      | zero =>
        rw [depthAfter_close_zero hclose] at h
        cases h
      | succ outer =>
        rw [depthAfter_close hclose] at h
        exact .next .empty hclose (ih h)
    · rw [depthAfter_other hopen hclose] at h
      exact (ih h).other hopen hclose

/-- A bracketed stream leaves the depth as it is. -/
lemma Bracketed.depthAfter_eq (h : Bracketed tokens) (depth : Nat) :
    depthAfter depth tokens = some depth := by
  induction h generalizing depth with
  | empty => rfl
  | other hopen hclose _ ih => rw [depthAfter_other hopen hclose, ih]
  | group hopen _ hclose _ ihinner ih =>
    rw [depthAfter_open hopen, depthAfter_append, ihinner, Option.bind_some,
      depthAfter_close hclose, ih]

/-- The bracketed streams are those that open no group that they do not close, and close no
other. -/
theorem bracketed_iff : Bracketed tokens ↔ depthAfter 0 tokens = some 0 := by
  constructor
  · intro h
    exact h.depthAfter_eq 0
  · intro h
    cases closes_of_depthAfter h with
    | last hlast => exact hlast

end Derivations

/-! ### The verdict -/

/-- What the rule says of a stream, from the number of groups that are open behind it. -/
inductive Judged : Option Nat → Except Rejection Unit → Prop
  | unmatched {rejection : Rejection} (hfault : rejection.fault = .leftParenShortage) :
      Judged none (.error rejection)
  | unclosed {rejection : Rejection} (hfault : rejection.fault = .rightParenShortage)
      (outer : Nat) : Judged (some (outer + 1)) (.error rejection)
  | closed : Judged (some 0) (.ok ())

section Verdict

variable {tokens : List Token} {after : Option Nat} {verdict : Except Rejection Unit}

/-- The counter of the rule is the depth. -/
lemma judged_parensFrom (index depth : Nat) (tokens : List Token) :
    Judged (depthAfter depth tokens) (parensFrom index depth tokens) := by
  fun_induction parensFrom index depth tokens with
  | case1 => exact .closed
  | case2 index depth hopen =>
    obtain ⟨outer, rfl⟩ := Nat.exists_eq_succ_of_ne_zero hopen
    exact .unclosed rfl outer
  | case3 index depth token rest hkind ih => rwa [depthAfter_open hkind]
  | case4 index token rest hkind =>
    rw [depthAfter_close_zero hkind]
    exact .unmatched rfl
  | case5 index token rest hkind outer ih => rwa [depthAfter_close hkind]
  | case6 index depth token rest hopen hclose ih => rwa [depthAfter_other hopen hclose]

/-- A stream is accepted when no group is open behind it. -/
lemma Judged.eq_ok_iff (h : Judged after verdict) : verdict = .ok () ↔ after = some 0 := by
  cases h with
  | unmatched => simp
  | unclosed => simp
  | closed => simp

/-- A `(` is missing when some `)` has no group to close. -/
lemma Judged.blames_left_iff (h : Judged after verdict) :
    Blames .leftParenShortage verdict ↔ after = none := by
  cases h with
  | unmatched hfault => simp [Blames, hfault]
  | unclosed hfault => simp [Blames, hfault]
  | closed => simp [Blames]

/-- A `)` is missing when some group is open behind the stream. -/
lemma Judged.blames_right_iff (h : Judged after verdict) :
    Blames .rightParenShortage verdict ↔ ∃ outer, after = some (outer + 1) := by
  cases h with
  | unmatched hfault => simp [Blames, hfault]
  | unclosed hfault outer => simp [Blames, hfault]
  | closed => simp [Blames]

/-- The rule judges a stream by its action on the depth zero. -/
lemma judged_checkParens (tokens : List Token) :
    Judged (depthAfter 0 tokens) (checkParens tokens) :=
  judged_parensFrom 0 0 tokens

/-- Some continuation of a stream is accepted when each `)` in it has a group to close. -/
lemma exists_accepted_append_iff :
    (∃ more, checkParens (tokens ++ more) = .ok ()) ↔
      ∃ depth, depthAfter 0 tokens = some depth := by
  simp only [(judged_checkParens _).eq_ok_iff, depthAfter_append, Option.bind_eq_some_iff]
  constructor
  · rintro ⟨more, depth, hdepth, -⟩
    exact ⟨depth, hdepth⟩
  · rintro ⟨depth, hdepth⟩
    refine ⟨List.replicate depth ⟨.rightParen, ")"⟩, depth, hdepth, ?_⟩
    rw [depthAfter_of_closers]
    · exact List.length_replicate
    · intro token htoken
      rw [List.eq_of_mem_replicate htoken]

end Verdict

/-- The rule on parentheses accepts the bracketed streams.  It finds that a `)` is missing in those
others that have a continuation which it accepts, and then of all streams of `)` exactly those with
as many as there are more `(` than `)` complete the stream.  It finds that a `(` is missing where no
continuation is accepted, and it is so until enough of them are put in front of the stream. -/
theorem parens_decide_language (tokens : List Token) :
    (checkParens tokens = .ok () ↔ Bracketed tokens) ∧
    (Blames .rightParenShortage (checkParens tokens) ↔
      ¬ Bracketed tokens ∧ ∃ more, checkParens (tokens ++ more) = .ok ()) ∧
    (Blames .rightParenShortage (checkParens tokens) →
      (tokens.map Token.kind).count .rightParen < (tokens.map Token.kind).count .leftParen ∧
      ∀ closers : List Token, (∀ token ∈ closers, token.kind = .rightParen) →
        (checkParens (tokens ++ closers) = .ok () ↔
          closers.length =
            (tokens.map Token.kind).count .leftParen - (tokens.map Token.kind).count .rightParen)) ∧
    (Blames .leftParenShortage (checkParens tokens) ↔
      ¬ ∃ more, checkParens (tokens ++ more) = .ok ()) ∧
    ∃ enough, ∀ openers : List Token, (∀ token ∈ openers, token.kind = .leftParen) →
      (Blames .leftParenShortage (checkParens (openers ++ tokens)) ↔ openers.length < enough) := by
  have hjudged := judged_checkParens tokens
  refine ⟨?_, ?_, ?_, ?_, ?_⟩
  · rw [hjudged.eq_ok_iff, bracketed_iff]
  · rw [hjudged.blames_right_iff, bracketed_iff, exists_accepted_append_iff]
    constructor
    · rintro ⟨outer, hdepth⟩
      simp [hdepth]
    · rintro ⟨hopen, depth, hdepth⟩
      rw [hdepth, Option.some_inj] at hopen
      obtain ⟨outer, rfl⟩ := Nat.exists_eq_succ_of_ne_zero hopen
      exact ⟨outer, hdepth⟩
  · rw [hjudged.blames_right_iff]
    rintro ⟨outer, hdepth⟩
    have hcount := count_of_depthAfter hdepth
    refine ⟨by omega, fun closers hclosers => ?_⟩
    rw [(judged_checkParens _).eq_ok_iff, depthAfter_append, hdepth, Option.bind_some,
      depthAfter_of_closers hclosers]
    omega
  · rw [hjudged.blames_left_iff, exists_accepted_append_iff, ← Option.isSome_iff_exists,
      Option.not_isSome_iff_eq_none]
  · obtain ⟨enough, henough⟩ := exists_enough tokens
    refine ⟨enough, fun openers hopeners => ?_⟩
    rw [(judged_checkParens _).blames_left_iff, depthAfter_append,
      depthAfter_of_openers hopeners, Option.bind_some, henough, Nat.zero_add]

end ArithExpr.Validity
