import ArithExpr.Token
import Mathlib.Data.List.Basic

/-!
# Places in a stream

Statements on a whole stream speak of the tokens by their places: which kind stands
at a place (`KindAt`), how many groups are open in front of it (`nesting`), and where
a number, a point and a number stand side by side (`DecimalAt`).

A reader that goes through a stream sees only what is left of it.  The lemmas of the
second section turn what is left at a place, `tokens.drop place`, into what stands
at the place.
-/

namespace ArithExpr.Token

/-- The token at a place is of a kind. -/
def KindAt (tokens : List Token) (place : Nat) (kind : Kind) : Prop :=
  tokens[place]?.map Token.kind = some kind

/-- How many more `(` than `)` there are among the first `count` tokens. -/
def nesting (tokens : List Token) (count : Nat) : Int :=
  ((tokens.take count).map Token.kind).count .leftParen -
    ((tokens.take count).map Token.kind).count .rightParen

/-- A number, a point and a number stand side by side, the first of them at `start`. -/
def DecimalAt (tokens : List Token) (start : Nat) : Prop :=
  KindAt tokens start .number ∧ KindAt tokens (start + 1) .point ∧ KindAt tokens (start + 2) .number

/-- A stream whose first token, if there is one, is not a point. -/
def NoPointAhead (tokens : List Token) : Prop :=
  ∀ token ∈ tokens.head?, token.kind ≠ .point

instance (tokens : List Token) (place : Nat) (kind : Kind) : Decidable (KindAt tokens place kind) :=
  inferInstanceAs (Decidable (_ = _))

/-- No token is of two kinds. -/
lemma KindAt.unique {tokens : List Token} {place : Nat} {kind kind' : Kind}
    (h : KindAt tokens place kind) (h' : KindAt tokens place kind') : kind = kind' := by
  unfold KindAt at h h'
  rw [h] at h'
  exact Option.some.inj h'

/-- Only places inside the stream have a kind. -/
lemma KindAt.lt_length {tokens : List Token} {place : Nat} {kind : Kind}
    (h : KindAt tokens place kind) : place < tokens.length := by
  by_contra hle
  simp [KindAt, List.getElem?_eq_none (Nat.le_of_not_lt hle)] at h

/-- Every place inside the stream has a kind. -/
lemma exists_kindAt {tokens : List Token} {place : Nat} (h : place < tokens.length) :
    ∃ kind, KindAt tokens place kind :=
  ⟨tokens[place].kind, by simp [KindAt, h]⟩

/-- The token that has a kind is an element of the stream. -/
lemma KindAt.exists_mem {tokens : List Token} {place : Nat} {kind : Kind}
    (h : KindAt tokens place kind) : ∃ token ∈ tokens, token.kind = kind := by
  obtain ⟨token, htoken, hkind⟩ := Option.map_eq_some_iff.mp h
  exact ⟨token, List.mem_of_getElem? htoken, hkind⟩

/-- A token that is found at a place has its kind there. -/
lemma kindAt_of_getElem? {tokens : List Token} {place : Nat} {token : Token}
    (h : tokens[place]? = some token) : KindAt tokens place token.kind := by
  rw [KindAt, h, Option.map_some]

@[simp] lemma kindAt_cons_zero (token : Token) (rest : List Token) (kind : Kind) :
    KindAt (token :: rest) 0 kind ↔ token.kind = kind := by
  simp [KindAt]

@[simp] lemma kindAt_cons_succ (token : Token) (rest : List Token) (place : Nat) (kind : Kind) :
    KindAt (token :: rest) (place + 1) kind ↔ KindAt rest place kind := by
  simp [KindAt]

@[simp] lemma nesting_zero (tokens : List Token) : nesting tokens 0 = 0 := by
  simp [nesting]

/-- A first token moves every nesting behind it. -/
lemma nesting_cons_succ (token : Token) (rest : List Token) (count : Nat) :
    nesting (token :: rest) (count + 1) =
      (if token.kind = .leftParen then 1 else 0) - (if token.kind = .rightParen then 1 else 0) +
        nesting rest count := by
  simp only [nesting, List.take_succ_cons, List.map_cons, List.count_cons, beq_iff_eq]
  split <;> split <;> omega

@[simp] lemma noPointAhead_nil : NoPointAhead [] := by
  simp [NoPointAhead]

@[simp] lemma noPointAhead_cons (token : Token) (rest : List Token) :
    NoPointAhead (token :: rest) ↔ token.kind ≠ .point := by
  simp [NoPointAhead]

/-- In front of a stream that does not begin with a point, a part that does not either. -/
lemma NoPointAhead.append {front back : List Token} (hfront : NoPointAhead front)
    (hback : NoPointAhead back) : NoPointAhead (front ++ back) := by
  cases front with
  | nil => exact hback
  | cons token rest => simpa using hfront

/-- Inside a number, a point and a number, only the middle one is a point. -/
lemma DecimalAt.eq_of_point {start place : Nat} (h : DecimalAt tokens start)
    (hpoint : KindAt tokens place .point) (hle : start ≤ place) (hlt : place < start + 3) :
    place = start + 1 := by
  obtain ⟨hwhole, -, hfraction⟩ := h
  obtain rfl | rfl | rfl : place = start ∨ place = start + 1 ∨ place = start + 2 := by omega
  · exact absurd (hpoint.unique hwhole) (by decide)
  · rfl
  · exact absurd (hpoint.unique hfraction) (by decide)

/-! ### Nesting along a stream -/

section Nesting

variable {token : Token} {front back rest : List Token} {bound : Int}

/-- The nesting in the front part of a stream is that of the part alone. -/
lemma nesting_append_of_le {count : Nat} (h : count ≤ front.length) (back : List Token) :
    nesting (front ++ back) count = nesting front count := by
  rw [nesting, nesting, List.take_append_of_le_length h]

/-- Behind the front part, the nesting goes on from the one at its end. -/
lemma nesting_append_add (count : Nat) :
    nesting (front ++ back) (front.length + count) =
      nesting front front.length + nesting back count := by
  rw [nesting, nesting, nesting, List.take_length_add_append, List.take_length]
  simp only [List.map_append, List.count_append]
  omega

/-- Past the end of a stream the nesting stays as it is at the end. -/
lemma nesting_of_length_le {tokens : List Token} {count : Nat} (h : tokens.length ≤ count) :
    nesting tokens count = nesting tokens tokens.length := by
  rw [nesting, nesting, List.take_of_length_le h, List.take_length]

/-- A bound on the nestings of a stream is not below zero, and leaves what the first token has not
used up of it to the nestings behind. -/
lemma forall_nesting_cons_le :
    (∀ count, nesting (token :: rest) count ≤ bound) ↔
      0 ≤ bound ∧ ∀ count, nesting rest count ≤
        bound - ((if token.kind = .leftParen then 1 else 0) -
          (if token.kind = .rightParen then 1 else 0)) := by
  constructor
  · intro h
    refine ⟨by simpa using h 0, fun count => ?_⟩
    have hcount := h (count + 1)
    rw [nesting_cons_succ] at hcount
    omega
  · rintro ⟨hzero, hsucc⟩ (_ | count)
    · rwa [nesting_zero]
    · have hcount := hsucc count
      rw [nesting_cons_succ]
      omega

/-- A bound on the nestings of two parts side by side bounds those of the first, and leaves what is
not used up at the border to those of the second. -/
lemma forall_nesting_append_le :
    (∀ count, nesting (front ++ back) count ≤ bound) ↔
      (∀ count, nesting front count ≤ bound) ∧
        ∀ count, nesting back count ≤ bound - nesting front front.length := by
  constructor
  · intro h
    refine ⟨fun count => ?_, fun count => ?_⟩
    · rcases Nat.le_total count front.length with hle | hle
      · rw [← nesting_append_of_le hle back]
        exact h count
      · rw [nesting_of_length_le hle, ← nesting_append_of_le (Nat.le_refl _) back]
        exact h front.length
    · have hcount := h (front.length + count)
      rw [nesting_append_add] at hcount
      omega
  · rintro ⟨hfront, hback⟩ count
    rcases Nat.le_total count front.length with hle | hle
    · rw [nesting_append_of_le hle]
      exact hfront count
    · obtain ⟨more, rfl⟩ := Nat.exists_eq_add_of_le hle
      have hmore := hback more
      rw [nesting_append_add]
      omega

end Nesting

/-! ### What is left of a stream -/

section Drop

variable {tokens rest : List Token} {place : Nat} {token : Token}

/-- One place further on, the first token of what was left is gone. -/
lemma drop_succ_of_drop (h : tokens.drop place = token :: rest) :
    tokens.drop (place + 1) = rest := by
  rw [← List.tail_drop, h, List.tail_cons]

/-- The first token left is found at the place. -/
lemma getElem?_of_drop (h : tokens.drop place = token :: rest) : tokens[place]? = some token := by
  rw [← List.head?_drop, h, List.head?_cons]

/-- The length of a stream, from a token and what is left behind it. -/
lemma length_of_drop (h : tokens.drop place = token :: rest) :
    tokens.length = place + 1 + rest.length := by
  have hlength := congrArg List.length h
  rw [List.length_drop, List.length_cons] at hlength
  omega

/-- The kinds that stand from a place on are those of what is left there. -/
lemma kindAt_drop (count : Nat) (kind : Kind) :
    KindAt (tokens.drop place) count kind ↔ KindAt tokens (place + count) kind := by
  simp [KindAt]

/-- The kind at a place is that of the first token left. -/
lemma kindAt_of_drop (h : tokens.drop place = token :: rest) (kind : Kind) :
    KindAt tokens place kind ↔ token.kind = kind := by
  rw [← Nat.add_zero place, ← kindAt_drop, h, kindAt_cons_zero]

/-- The first token left stands at the place. -/
lemma kindAt_of_drop_self (h : tokens.drop place = token :: rest) :
    KindAt tokens place token.kind :=
  kindAt_of_getElem? (getElem?_of_drop h)

/-- A token changes the nesting by its kind alone. -/
lemma nesting_succ_of_drop (h : tokens.drop place = token :: rest) :
    nesting tokens (place + 1) =
      nesting tokens place + (if token.kind = .leftParen then 1 else 0) -
        (if token.kind = .rightParen then 1 else 0) := by
  rw [nesting, nesting, List.take_add_one, getElem?_of_drop h]
  simp only [Option.toList_some, List.map_append, List.map_cons, List.map_nil, List.count_append,
    List.count_singleton, beq_iff_eq]
  split <;> split <;> omega

/-- Past the end of a stream the nesting stays as it is. -/
lemma nesting_succ_of_drop_nil (h : tokens.drop place = []) :
    nesting tokens (place + 1) = nesting tokens place := by
  have hle : tokens.length ≤ place := List.drop_eq_nil_iff.mp h
  rw [nesting_of_length_le hle, nesting_of_length_le (Nat.le_succ_of_le hle)]

/-- When no `)` stands where the nesting is zero, the nesting is never below zero. -/
lemma nesting_nonneg (h : ∀ place, KindAt tokens place .rightParen → nesting tokens place ≠ 0)
    (count : Nat) : 0 ≤ nesting tokens count := by
  induction count with
  | zero => simp
  | succ count ih =>
    cases hdrop : tokens.drop count with
    | nil => rwa [nesting_succ_of_drop_nil hdrop]
    | cons token rest =>
      have hclose : token.kind = .rightParen → nesting tokens count ≠ 0 :=
        fun hkind => h count ((kindAt_of_drop hdrop _).mpr hkind)
      rw [nesting_succ_of_drop hdrop]
      split <;> split <;> simp_all <;> omega

end Drop

end ArithExpr.Token
