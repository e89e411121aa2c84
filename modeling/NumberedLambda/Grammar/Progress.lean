import NumberedLambda.Grammar

/-!
# How far a sentence has come

While a sentence is read from left to right, two things decide which tokens
may come next: how many parentheses are open, and what is due inside the
innermost of them. A new expression may be due, or more names of an unfinished
list of parameters, or, where an expression could end already, another operand.

A number of open parentheses is enough, and nothing has to be recorded of the
abstractions around the current place: the body of an abstraction extends as
far as it can, so it ends where the parentheses around it do.

Whether every token takes the progress on does not depend on derivations at
all. That exactly the beginnings of sentences do is shown elsewhere.
-/

namespace NumberedLambda

namespace Grammar

/-- The places where a new expression is due: at the beginning of a sentence,
behind the dot of an abstraction, and behind an opening parenthesis. -/
inductive Place where
  | sentence
  | body
  | parentheses
deriving DecidableEq, Repr

/-- What is due next. In a list of parameters, `names` are the ones that have
been read. An operand may be left out. -/
inductive Due where
  | expression (place : Place)
  | parameter (names : List String)
  | operand
deriving DecidableEq, Repr

/-- Whether an atom or an abstraction may come next. -/
def Due.takesTerm : Due → Bool
  | .parameter _ => false
  | _ => true

/-- The number of parentheses that are open, and what is due inside them. -/
structure Progress where
  depth : Nat
  due : Due
deriving DecidableEq, Repr

namespace Progress

/-- The progress before the first token of a sentence. -/
def start : Progress :=
  ⟨0, .expression .sentence⟩

/-- Begin an atom or an abstraction. -/
def stepInto (depth : Nat) : Token → Option Progress
  | .identifier _ => some ⟨depth, .operand⟩
  | .leftParen => some ⟨depth + 1, .expression .parentheses⟩
  | .backslash => some ⟨depth, .parameter []⟩
  | _ => none

/-- Go on with a list of parameters, or end it if it is not empty. -/
def stepParameter (depth : Nat) (names : List String) :
    Token → Option Progress
  | .identifier name =>
      if name ∈ names then none else some ⟨depth, .parameter (names ++ [name])⟩
  | .dot => if names = [] then none else some ⟨depth, .expression .body⟩
  | _ => none

/-- Close the innermost parenthesis, or begin another operand. -/
def stepOperand : Nat → Token → Option Progress
  | depth + 1, .rightParen => some ⟨depth, .operand⟩
  | depth, token => stepInto depth token

/-- The progress that one more token makes, if it may come next. -/
def step (progress : Progress) (token : Token) : Option Progress :=
  match progress.due with
  | .expression _ => stepInto progress.depth token
  | .parameter names => stepParameter progress.depth names token
  | .operand => stepOperand progress.depth token

/-- The progress after a number of tokens, if each of them may come where it
stands. -/
def after (progress : Progress) (tokens : List Token) : Option Progress :=
  tokens.foldlM step progress

/-! ## One token -/

/-- The ways in which a token makes progress. -/
inductive Advances : Progress → Token → Progress → Prop where
  | name {depth : Nat} {due : Due} (name : String) :
      due.takesTerm = true →
      Advances ⟨depth, due⟩ (.identifier name) ⟨depth, .operand⟩
  | opening {depth : Nat} {due : Due} :
      due.takesTerm = true →
      Advances ⟨depth, due⟩ .leftParen ⟨depth + 1, .expression .parentheses⟩
  | abstraction {depth : Nat} {due : Due} :
      due.takesTerm = true →
      Advances ⟨depth, due⟩ .backslash ⟨depth, .parameter []⟩
  | parameter {depth : Nat} {names : List String} {name : String} :
      name ∉ names →
      Advances ⟨depth, .parameter names⟩ (.identifier name)
        ⟨depth, .parameter (names ++ [name])⟩
  | dot {depth : Nat} {names : List String} :
      names ≠ [] →
      Advances ⟨depth, .parameter names⟩ .dot ⟨depth, .expression .body⟩
  | closing (depth : Nat) :
      Advances ⟨depth + 1, .operand⟩ .rightParen ⟨depth, .operand⟩

/-- Where an atom or an abstraction may come next, it is begun. -/
theorem step_eq_stepInto {depth : Nat} {due : Due} {token : Token}
    (takes : due.takesTerm = true) (noClosing : token ≠ .rightParen) :
    step ⟨depth, due⟩ token = stepInto depth token := by
  cases due with
  | expression place =>
      rfl
  | parameter names =>
      cases takes
  | operand =>
      rw [step, stepOperand]
      exact fun _ _ => noClosing

theorem step_of_advances {progress next : Progress} {token : Token}
    (advances : Advances progress token next) :
    progress.step token = some next := by
  cases advances with
  | name name takes =>
      exact step_eq_stepInto takes nofun
  | opening takes =>
      exact step_eq_stepInto takes nofun
  | abstraction takes =>
      exact step_eq_stepInto takes nofun
  | parameter fresh =>
      exact if_neg fresh
  | dot nonempty =>
      exact if_neg nonempty
  | closing depth =>
      rfl

theorem advances_of_stepInto {depth : Nat} {due : Due} {token : Token}
    {next : Progress} (takes : due.takesTerm = true)
    (made : stepInto depth token = some next) :
    Advances ⟨depth, due⟩ token next := by
  cases token with
  | identifier name =>
      cases made
      exact .name name takes
  | leftParen =>
      cases made
      exact .opening takes
  | backslash =>
      cases made
      exact .abstraction takes
  | _ =>
      cases made

theorem advances_of_stepParameter {depth : Nat} {names : List String}
    {token : Token} {next : Progress}
    (made : stepParameter depth names token = some next) :
    Advances ⟨depth, .parameter names⟩ token next := by
  cases token with
  | identifier name =>
      obtain ⟨fresh, shape⟩ := Option.ite_none_left_eq_some.mp made
      cases shape
      exact .parameter fresh
  | dot =>
      obtain ⟨nonempty, shape⟩ := Option.ite_none_left_eq_some.mp made
      cases shape
      exact .dot nonempty
  | _ =>
      cases made

theorem advances_of_stepOperand {depth : Nat} {token : Token}
    {next : Progress} (made : stepOperand depth token = some next) :
    Advances ⟨depth, .operand⟩ token next := by
  unfold stepOperand at made
  split at made
  · cases made
    exact .closing _
  · exact advances_of_stepInto rfl made

/-- A token makes progress in these ways and no others. -/
theorem step_eq_some_iff {progress next : Progress} {token : Token} :
    progress.step token = some next ↔ Advances progress token next := by
  refine ⟨?_, step_of_advances⟩
  obtain ⟨depth, due⟩ := progress
  intro made
  cases due with
  | expression place =>
      exact advances_of_stepInto rfl made
  | parameter names =>
      exact advances_of_stepParameter made
  | operand =>
      exact advances_of_stepOperand made

/-! ## Several tokens -/

section SeveralTokens

variable {progress next : Progress} {token : Token}
  {first last tokens : List Token}

@[simp]
theorem after_nil : progress.after [] = some progress :=
  rfl

theorem after_cons :
    progress.after (token :: tokens) =
      (progress.step token).bind fun next => next.after tokens :=
  rfl

theorem after_append :
    progress.after (first ++ last) =
      (progress.after first).bind fun next => next.after last :=
  List.foldlM_append

theorem after_cons_of_advances (advances : Advances progress token next) :
    progress.after (token :: tokens) = next.after tokens := by
  rw [after_cons, step_of_advances advances, Option.bind_some]

theorem after_append_of_after (made : progress.after first = some next) :
    progress.after (first ++ last) = next.after last := by
  rw [after_append, made, Option.bind_some]

/-- Where several tokens make progress, the first ones do. -/
theorem exists_of_after_append {final : Progress}
    (made : progress.after (first ++ last) = some final) :
    ∃ between, progress.after first = some between ∧
      between.after last = some final := by
  rw [after_append] at made
  exact Option.bind_eq_some_iff.mp made

theorem exists_of_after_cons {final : Progress}
    (made : progress.after (token :: tokens) = some final) :
    ∃ between, Advances progress token between ∧
      between.after tokens = some final := by
  rw [after_cons] at made
  obtain ⟨between, step, rest⟩ := Option.bind_eq_some_iff.mp made
  exact ⟨between, step_eq_some_iff.mp step, rest⟩

/-- Different names continue a list of parameters. -/
theorem after_names {depth : Nat} {names more : List String}
    (distinct : (names ++ more).Nodup) :
    after ⟨depth, .parameter names⟩ (more.map Token.identifier) =
      some ⟨depth, .parameter (names ++ more)⟩ := by
  induction more generalizing names with
  | nil =>
      simp
  | cons name more inductionHypothesis =>
      have fresh : name ∉ names := by
        intro member
        exact (List.nodup_append.mp distinct).2.2 name member name
          (List.mem_cons_self ..) rfl
      rw [List.append_cons] at distinct ⊢
      rw [List.map_cons, after_cons_of_advances (.parameter fresh)]
      exact inductionHypothesis distinct

/-- A backslash, different names and a dot lead to the body of an
abstraction. -/
theorem after_header (depth : Nat) {due : Due} {names : List String}
    (takes : due.takesTerm = true) (nonempty : names ≠ [])
    (distinct : names.Nodup) :
    after ⟨depth, due⟩
        (.backslash :: (names.map Token.identifier ++ .dot :: tokens)) =
      after ⟨depth, .expression .body⟩ tokens := by
  have list : after ⟨depth, .parameter []⟩ (names.map Token.identifier) =
      some ⟨depth, .parameter names⟩ :=
    after_names distinct
  rw [after_cons_of_advances (.abstraction takes),
    after_append_of_after list, after_cons_of_advances (.dot nonempty)]

end SeveralTokens

end Progress

end Grammar

end NumberedLambda
