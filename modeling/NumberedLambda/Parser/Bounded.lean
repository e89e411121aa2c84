import NumberedLambda.Parser

/-!
# Answers with a bound on their weight

A rule whose weight is at most what remained before it uses up a token
whenever it succeeds and never gives anything back. Carrying this bound along
with the answer lets rules that call each other be shown to end: a rule that
follows another one is told how little is left for it.

Each way of combining answers has its counterpart here, and forgetting the
bound turns the one into the other (`answer_andThen`, `answer_orElse`,
`answer_insist` and `answer_ifFound`).
-/

namespace NumberedLambda

/-- An answer whose weight is at most `bound`. -/
structure BoundedAnswer (Value : Type) (bound : Nat) where
  answer : Answer Value
  weight_le : Answer.weight answer ≤ bound

namespace BoundedAnswer

variable {Value Result : Type} {bound later : Nat}

/-- The same answer under a larger bound. -/
def relax (first : BoundedAnswer Value bound) (larger : bound ≤ later) :
    BoundedAnswer Value later :=
  ⟨first.answer, Nat.le_trans first.weight_le larger⟩

/-- Less than the bound is left after a value. -/
theorem remaining_lt_of_ok (first : BoundedAnswer Value bound)
    {value : Value} {left : Parser}
    (read : first.answer = .ok value left) :
    left.remaining < bound := by
  have weight_le := first.weight_le
  rw [read] at weight_le
  exact weight_le

/-- No more than the bound is left after an error. -/
theorem remaining_le_of_error (first : BoundedAnswer Value bound)
    {error : ParseError} {left : Parser}
    (read : first.answer = .error error left) :
    left.remaining ≤ bound := by
  have weight_le := first.weight_le
  rw [read] at weight_le
  exact weight_le

/-- An error, with the bound of the answer it comes from. -/
def refuse (first : BoundedAnswer Value bound)
    {error : ParseError} {left : Parser}
    (read : first.answer = .error error left) :
    BoundedAnswer Result bound :=
  ⟨.error error left, first.remaining_le_of_error read⟩

/-- Use the value of an answer; less than its bound is left. -/
def andThen (first : BoundedAnswer Value bound) (larger : bound ≤ later)
    (next : Value → (left : Parser) → left.remaining < bound →
      BoundedAnswer Result later) :
    BoundedAnswer Result later :=
  match read : first.answer with
  | .ok value left => next value left (first.remaining_lt_of_ok read)
  | .error _ _ => (first.refuse read).relax larger

/-- Try another rule if the first one does not apply. -/
def orElse (first : BoundedAnswer Value bound)
    (next : (left : Parser) → left.remaining ≤ bound →
      BoundedAnswer Value bound) :
    BoundedAnswer Value bound :=
  match read : first.answer with
  | .error .notFound left => next left (first.remaining_le_of_error read)
  | _ => first

/-- Demand that a rule applies. -/
def insist (first : BoundedAnswer Value bound)
    (complaint : Token → ParseError) : BoundedAnswer Value bound :=
  ⟨first.answer.insist complaint, by
    rw [Answer.weight_insist]
    exact first.weight_le⟩

/-- Go on after a value, or stop where no value is found. -/
def ifFound (first : BoundedAnswer Value bound) (larger : bound ≤ later)
    (found : Value → (left : Parser) → left.remaining < bound →
      BoundedAnswer Result later)
    (absent : (left : Parser) → left.remaining ≤ bound →
      BoundedAnswer Result later) :
    BoundedAnswer Result later :=
  match read : first.answer with
  | .ok value left => found value left (first.remaining_lt_of_ok read)
  | .error .notFound left =>
      absent left (first.remaining_le_of_error read)
  | .error _ _ => (first.refuse read).relax larger

@[simp]
theorem answer_relax (first : BoundedAnswer Value bound)
    (larger : bound ≤ later) :
    (first.relax larger).answer = first.answer :=
  rfl

@[simp]
theorem answer_insist (first : BoundedAnswer Value bound)
    (complaint : Token → ParseError) :
    (first.insist complaint).answer = first.answer.insist complaint :=
  rfl

theorem answer_andThen (first : BoundedAnswer Value bound)
    (larger : bound ≤ later)
    {next : Value → (left : Parser) → left.remaining < bound →
      BoundedAnswer Result later}
    {plain : Value → Parser → Answer Result}
    (agree : ∀ value left shorter,
      (next value left shorter).answer = plain value left) :
    (first.andThen larger next).answer = first.answer.andThen plain := by
  unfold andThen
  split
  · rename_i value left read
    exact (agree value left _).trans
      (congrArg (fun answer => answer.andThen plain) read).symm
  · rename_i read
    exact (congrArg (fun answer => answer.andThen plain) read).symm

theorem answer_orElse (first : BoundedAnswer Value bound)
    {next : (left : Parser) → left.remaining ≤ bound →
      BoundedAnswer Value bound}
    {plain : Parser → Answer Value}
    (agree : ∀ left shorter, (next left shorter).answer = plain left) :
    (first.orElse next).answer = first.answer.orElse plain := by
  unfold orElse
  split
  · rename_i left read
    exact (agree left _).trans
      (congrArg (fun answer => answer.orElse plain) read).symm
  · rename_i others
    cases read : first.answer with
    | ok value left =>
        rfl
    | error error left =>
        have different : error ≠ .notFound := by
          rintro rfl
          exact others left read
        exact (Answer.orElse_error different left plain).symm

theorem answer_ifFound (first : BoundedAnswer Value bound)
    (larger : bound ≤ later)
    {found : Value → (left : Parser) → left.remaining < bound →
      BoundedAnswer Result later}
    {absent : (left : Parser) → left.remaining ≤ bound →
      BoundedAnswer Result later}
    {plainFound : Value → Parser → Answer Result}
    {plainAbsent : Parser → Answer Result}
    (agreeFound : ∀ value left shorter,
      (found value left shorter).answer = plainFound value left)
    (agreeAbsent : ∀ left shorter,
      (absent left shorter).answer = plainAbsent left) :
    (first.ifFound larger found absent).answer =
      first.answer.ifFound plainFound plainAbsent := by
  unfold ifFound
  split
  · rename_i value left read
    exact (agreeFound value left _).trans
      (congrArg (fun answer => answer.ifFound plainFound plainAbsent)
        read).symm
  · rename_i left read
    exact (agreeAbsent left _).trans
      (congrArg (fun answer => answer.ifFound plainFound plainAbsent)
        read).symm
  · rename_i error left others read
    have different : error ≠ .notFound := others
    exact (Answer.ifFound_error different left _ _).symm.trans
      (congrArg (fun answer => answer.ifFound plainFound plainAbsent)
        read).symm

end BoundedAnswer

end NumberedLambda
