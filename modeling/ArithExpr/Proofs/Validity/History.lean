import ArithExpr.Proofs.Validity.Rules
import ArithExpr.Validity.Checker
import Mathlib.Data.List.Forall2

/-!
# The record of a checker

A checker is used again and again: it judges streams, gives way to a fresh one, and
copies of it are put aside and taken up later.  So its past is not simply the list of
all that was done, but what was done to this value since it was fresh, and a copy has
the past that it had when it was put aside.

`Session` follows the checkers through such a use, and `histories` follows the answers
that each of them has given.  One step keeps them together (`Shelf.Related.step`), so
every run does.  The main statement is `answers_and_record_of_run`: an answer depends
on the stream alone and names the first rule that the stream breaks, and the record of
the checker is made up of the answers in its own past.
-/

namespace ArithExpr

namespace Validity

/-- The rules in the order in which they are tried. -/
def rules : List (List Token → Except Rejection Unit) :=
  [checkParens, checkOperators, checkPoints]

/-- What a user is told of a stream: that it is valid, or which faults it has. -/
abbrev Answer : Type :=
  Except (List Fault) Unit

/-- The answer that tells a verdict. -/
def answer (verdict : Except Rejection Unit) : Answer :=
  verdict.mapError fun rejection => [rejection.fault]

/-- The faults that an answer names. -/
def faultsOf : Answer → List Fault
  | .ok () => []
  | .error faults => faults

/-- The answer for a stream names the kind of fault of the first rule that it breaks, and nothing
else. -/
inductive NamesFirst (tokens : List Token) : Answer → Prop
  | valid (hkept : ∀ rule ∈ rules, rule tokens = .ok ()) : NamesFirst tokens (.ok ())
  | broken (front back : List (List Token → Except Rejection Unit))
      (rule : List Token → Except Rejection Unit) {rejection : Rejection}
      (hrules : rules = front ++ rule :: back) (hkept : ∀ earlier ∈ front, earlier tokens = .ok ())
      (hbroken : rule tokens = .error rejection) : NamesFirst tokens (.error [rejection.fault])

/-- The verdict on a stream tells the first rule that its part in front of the end marker breaks. -/
theorem namesFirst_check (tokens : List Token) :
    NamesFirst (Token.beforeEnd tokens) (answer (check tokens)) := by
  unfold check
  dsimp only
  generalize Token.beforeEnd tokens = tokens
  cases hparens : checkParens tokens with
  | error rejection =>
    exact .broken [] _ checkParens rfl (List.forall_mem_nil _) hparens
  | ok =>
    cases hoperators : checkOperators tokens with
    | error rejection =>
      have hkept : ∀ earlier ∈ [checkParens], earlier tokens = .ok () :=
        List.forall_mem_singleton.mpr hparens
      exact .broken _ _ checkOperators rfl hkept hoperators
    | ok =>
      have hkept : ∀ earlier ∈ [checkParens, checkOperators], earlier tokens = .ok () :=
        List.forall_mem_cons.mpr ⟨hparens, List.forall_mem_singleton.mpr hoperators⟩
      cases hpoints : checkPoints tokens with
      | error rejection => exact .broken _ _ checkPoints rfl hkept hpoints
      | ok =>
        have hall : ∀ rule ∈ [checkParens, checkOperators] ++ [checkPoints], rule tokens = .ok () :=
          List.forall_mem_append.mpr ⟨hkept, List.forall_mem_singleton.mpr hpoints⟩
        exact .valid hall

/-- The answer is that of the first rule that does not succeed. -/
lemma NamesFirst.eq_find? {tokens : List Token} {told : Answer} (h : NamesFirst tokens told) :
    told = (rules.find? fun rule => !(rule tokens).toBool).elim (.ok ()) fun rule =>
      answer (rule tokens) := by
  cases h with
  | valid hkept =>
    have hnone : (rules.find? fun rule => !(rule tokens).toBool) = none := by
      rw [List.find?_eq_none]
      intro rule hrule
      rw [hkept rule hrule]
      exact Bool.false_ne_true
    rw [hnone]
    rfl
  | broken front back rule hrules hkept hbroken =>
    have hfirst : (rules.find? fun rule => !(rule tokens).toBool) = some rule := by
      rw [List.find?_eq_some_iff_append]
      refine ⟨by rw [hbroken]; rfl, front, back, hrules, ?_⟩
      intro earlier hearlier
      rw [hkept earlier hearlier]
      rfl
    rw [hfirst, Option.elim_some, hbroken]
    rfl

/-- No stream has two answers. -/
lemma NamesFirst.unique {tokens : List Token} {told other : Answer} (h : NamesFirst tokens told)
    (hother : NamesFirst tokens other) : told = other :=
  h.eq_find?.trans hother.eq_find?.symm

end Validity

namespace Checker

open Validity

/-! ### Values that are copied -/

/-- What is done with a value: it gives way to a fresh one, it is used on an item, a copy of it is
put aside, or one of the copies, which are numbered from zero, is taken up in its place. -/
inductive Step (β : Type) where
  | renew
  | check (item : β)
  | save
  | restore (copy : Nat)

/-- The same step with another item. -/
def Step.map {β β' : Type} (f : β → β') : Step β → Step β'
  | .renew => .renew
  | .check item => .check (f item)
  | .save => .save
  | .restore copy => .restore copy

/-- The value in use and the copies that were put aside, the oldest first. -/
structure Shelf (α : Type) where
  current : α
  copies : List α

namespace Shelf

/-- The shelf behind a step.  A copy that was never put aside cannot be taken up. -/
def step {α β : Type} (fresh : α) (check : α → β → α) (shelf : Shelf α) : Step β → Shelf α
  | .renew => { shelf with current := fresh }
  | .check item => { shelf with current := check shelf.current item }
  | .save => { shelf with copies := shelf.copies ++ [shelf.current] }
  | .restore copy => { shelf with current := shelf.copies[copy]?.getD shelf.current }

/-- Two shelves with related values at the same places. -/
structure Related {α α' : Type} (R : α → α' → Prop) (shelf : Shelf α) (shelf' : Shelf α') :
    Prop where
  current : R shelf.current shelf'.current
  copies : List.Forall₂ R shelf.copies shelf'.copies

/-- The same step on both sides keeps the values related, if fresh values are and if use keeps them
so. -/
theorem Related.step {α α' β β' : Type} {R : α → α' → Prop} {fresh : α} {fresh' : α'}
    {check : α → β → α} {check' : α' → β' → α'} {shelf : Shelf α} {shelf' : Shelf α'}
    (h : Related R shelf shelf') (f : β → β') (hfresh : R fresh fresh')
    (hcheck : ∀ item, R (check shelf.current item) (check' shelf'.current (f item)))
    (s : Step β) :
    Related R (shelf.step fresh check s) (shelf'.step fresh' check' (s.map f)) := by
  cases s with
  | renew => exact ⟨hfresh, h.copies⟩
  | check item => exact ⟨hcheck item, h.copies⟩
  | save => exact ⟨h.current, List.rel_append h.copies (.cons h.current .nil)⟩
  | restore copy =>
    refine ⟨?_, h.copies⟩
    simp only [Shelf.step, Step.map]
    have hlength := h.copies.length_eq
    by_cases hcopy : copy < shelf.copies.length
    · have hcopy' : copy < shelf'.copies.length := hlength ▸ hcopy
      rw [List.getElem?_eq_getElem hcopy, List.getElem?_eq_getElem hcopy']
      exact h.copies.get hcopy hcopy'
    · have hcopy' : ¬ copy < shelf'.copies.length := hlength ▸ hcopy
      rw [List.getElem?_eq_none (Nat.not_lt.mp hcopy), List.getElem?_eq_none (Nat.not_lt.mp hcopy')]
      exact h.current

end Shelf

/-! ### Checkers in use -/

/-- The checker in use and its copies. -/
abbrev Session : Type :=
  Shelf Checker

/-- Nothing has been judged and nothing put aside. -/
def Session.start : Session :=
  ⟨fresh, []⟩

/-- The session behind a step; the items are the streams that are judged. -/
def Session.after (session : Session) (s : Step (List Token)) : Session :=
  session.step fresh (fun checker tokens => (checker.check tokens).2) s

/-- What can be seen of a step: the same step, with the answer that the checker in use gives in the
place of the stream. -/
def Session.event (session : Session) (s : Step (List Token)) : Step Answer :=
  s.map fun tokens => answer (session.current.check tokens).1

/-- The events of a run from a session, and the session at its end. -/
def Session.run : Session → List (Step (List Token)) → List (Step Answer) × Session
  | session, [] => ([], session)
  | session, s :: rest =>
    let (events, last) := Session.run (session.after s) rest
    (session.event s :: events, last)

/-- The pasts behind an event; the items are the answers, each of which becomes the latest. -/
def Shelf.tell (past : Shelf (List Answer)) (event : Step Answer) : Shelf (List Answer) :=
  past.step [] (fun answers given => answers ++ [given]) event

/-- The answers that the checker in use and each copy have given since they were fresh, the oldest
first, as the events tell. -/
def histories (events : List (Step Answer)) : Shelf (List Answer) :=
  events.foldl Shelf.tell ⟨[], []⟩

/-- The record of a checker is made up of the faults in its answers. -/
def Records (checker : Checker) (answers : List Answer) : Prop :=
  checker.faults = answers.flatMap faultsOf

/-- A judgement adds the faults of its answer to the record, and nothing else. -/
lemma Records.check {checker : Checker} {answers : List Answer} (h : checker.Records answers)
    (tokens : List Token) :
    (checker.check tokens).2.Records (answers ++ [answer (checker.check tokens).1]) := by
  unfold Records at h ⊢
  rw [check_fst, List.flatMap_append, ← h]
  unfold Checker.check
  cases Validity.check tokens with
  | ok => simp [answer, Except.mapError, faultsOf]
  | error rejection => simp [answer, Except.mapError, faultsOf]

/-- One step keeps checkers and histories together. -/
lemma related_after {session : Session} {past : Shelf (List Answer)}
    (h : Shelf.Related Records session past) (s : Step (List Token)) :
    Shelf.Related Records (session.after s) (past.tell (session.event s)) := by
  have hfresh : fresh.Records [] := rfl
  apply h.step (fun tokens => answer (session.current.check tokens).1) hfresh
  intro tokens
  exact h.current.check tokens

/-- A run keeps checkers and histories together. -/
lemma related_run {session : Session} {past : Shelf (List Answer)}
    (h : Shelf.Related Records session past) (steps : List (Step (List Token))) :
    Shelf.Related Records (session.run steps).2 ((session.run steps).1.foldl Shelf.tell past) := by
  induction steps generalizing session past with
  | nil => exact h
  | cons s rest ih => exact ih (related_after h s)

/-- The answers in a run are those of fresh checkers. -/
lemma events_run (session : Session) (steps : List (Step (List Token))) :
    (session.run steps).1 = steps.map (Step.map fun tokens => answer (fresh.check tokens).1) := by
  induction steps generalizing session with
  | nil => rfl
  | cons s rest ih =>
    rw [Session.run, List.map_cons]
    simp only [ih, Session.event, check_fst]

/-- Whatever was done with a checker before, it answers as a fresh one would: with the kind of the
first rule that the part of the stream in front of its end marker breaks.  Its record lists the
faults of all answers in its own past, the oldest first, and it reports an error exactly when there
is one.  A point inside a run is the end of a shorter run. -/
theorem answers_and_record_of_run (steps : List (Step (List Token))) :
    let events := (Session.start.run steps).1
    let checker := (Session.start.run steps).2.current
    events = steps.map (Step.map fun tokens => answer (fresh.check tokens).1) ∧
      (∀ tokens, answer (checker.check tokens).1 = answer (fresh.check tokens).1 ∧
        NamesFirst (tokens.takeWhile fun token => token.kind ≠ .endOfStream)
          (answer (checker.check tokens).1)) ∧
      checker.faults = (histories events).current.flatMap faultsOf ∧
      (checker.errorOccurred = true ↔ (histories events).current.flatMap faultsOf ≠ []) := by
  intro events checker
  have hstart : Shelf.Related Records Session.start ⟨[], []⟩ := ⟨rfl, .nil⟩
  have hrecord : checker.faults = (histories events).current.flatMap faultsOf :=
    (related_run hstart steps).current
  refine ⟨events_run _ steps, fun tokens => ⟨?_, ?_⟩, hrecord, ?_⟩
  · rw [check_fst, check_fst]
  · rw [check_fst]
    exact namesFirst_check tokens
  · rw [← hrecord]
    simp [errorOccurred]

/-- A copy keeps the record of the moment at which it was put aside. -/
example :
    let closing : List Token := [⟨.rightParen, ")"⟩]
    let trailing : List Token := [⟨.plus, "+"⟩]
    (Session.start.run
      [.check closing, .save, .check trailing, .restore 0, .check closing]).2.current.faults =
      [.leftParenShortage, .leftParenShortage] := by decide

end Checker

end ArithExpr
