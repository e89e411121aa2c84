import NumberedLambda.Grammar.Progress

/-!
# What sentences begin with

Tokens begin a sentence exactly if each of them makes progress. On the one
hand a phrase leads from every place where a term may begin to the place where
an operand may follow. On the other hand every progress can be completed: what
is due is put in its place and the open parentheses are closed.

So it can be decided whether tokens begin a sentence, and a token that makes
no progress is the first one with which no sentence goes on.
-/

namespace NumberedLambda

namespace Grammar

open Progress (Advances)

/-! ## Sentences make progress -/

/-- A phrase leads from where a term may begin to where an operand may
follow, at the same depth. -/
theorem after_of_derives {phrase : Phrase} {tokens : List Token}
    {tree : Skeleton} (derivation : Derives phrase tokens tree) :
    ∀ (depth : Nat) (due : Due), due.takesTerm = true →
      Progress.after ⟨depth, due⟩ tokens = some ⟨depth, .operand⟩ := by
  induction derivation with
  | name name =>
      intro depth due takes
      exact Progress.after_cons_of_advances (.name name takes)
  | parenthesized inner inductionHypothesis =>
      intro depth due takes
      have inside := inductionHypothesis (depth + 1)
        (.expression .parentheses) rfl
      rw [Progress.after_cons_of_advances (.opening takes),
        Progress.after_append_of_after inside,
        Progress.after_cons_of_advances (.closing depth),
        Progress.after_nil]
  | oneAtom inner inductionHypothesis =>
      exact inductionHypothesis
  | moreAtoms first last firstHypothesis lastHypothesis =>
      intro depth due takes
      rw [Progress.after_append_of_after (firstHypothesis depth due takes)]
      exact lastHypothesis depth .operand rfl
  | abstraction nonempty distinct inner inductionHypothesis =>
      intro depth due takes
      rw [Progress.after_header depth takes nonempty distinct]
      exact inductionHypothesis depth (.expression .body) rfl
  | bareAbstraction inner inductionHypothesis =>
      exact inductionHypothesis
  | application inner inductionHypothesis =>
      exact inductionHypothesis
  | trailingAbstraction first last firstHypothesis lastHypothesis =>
      intro depth due takes
      rw [Progress.after_append_of_after (firstHypothesis depth due takes)]
      exact lastHypothesis depth .operand rfl

/-! ## Progress can be completed -/

/-- Tokens that can follow atoms in an expression, up to its end. -/
def Operands (tokens : List Token) : Prop :=
  ∀ first operator, Derives .atoms first operator →
    ∃ tree, Derives .expression (first ++ tokens) tree

/-- The tokens up to the end of the innermost open expression, given what is
due in it. -/
def Due.CompletedBy : Due → List Token → Prop
  | .expression _, tokens => ∃ tree, Derives .expression tokens tree
  | .parameter names, tokens =>
      names.Nodup → ∃ more body tree,
        tokens = more.map Token.identifier ++ .dot :: body ∧
          names ++ more ≠ [] ∧ (names ++ more).Nodup ∧
          Derives .expression body tree
  | .operand, tokens => Operands tokens

/-- The innermost expression is completed by `completes`; then every
parenthesis is closed, and the expression around it is completed by
operands. -/
def ClosedBy (completes : List Token → Prop) :
    Nat → List Token → Prop
  | 0, tokens => completes tokens
  | depth + 1, tokens =>
      ∃ inner outer, tokens = inner ++ .rightParen :: outer ∧
        completes inner ∧ ClosedBy Operands depth outer

/-- The tokens that make a sentence of what has been read. -/
def Progress.CompletedBy (progress : Progress) (tokens : List Token) : Prop :=
  ClosedBy progress.due.CompletedBy progress.depth tokens

theorem operands_nil : Operands [] := by
  intro first operator derivation
  refine ⟨operator, ?_⟩
  rw [List.append_nil]
  exact .application derivation

/-- Tokens in front of a completion are part of a completion if they are in
front of what completes the innermost expression. -/
theorem ClosedBy.prepend {completes completesLater : List Token → Prop}
    (front : List Token)
    (innermost : ∀ inner, completesLater inner → completes (front ++ inner))
    {depth : Nat} {tokens : List Token}
    (closed : ClosedBy completesLater depth tokens) :
    ClosedBy completes depth (front ++ tokens) := by
  cases depth with
  | zero =>
      exact innermost tokens closed
  | succ depth =>
      obtain ⟨inner, outer, rfl, completed, closedOuter⟩ := closed
      exact ⟨front ++ inner, outer, (List.append_assoc ..).symm,
        innermost inner completed, closedOuter⟩

/-- An atom may stand where a term may begin, and operands after it. -/
theorem completedBy_atom {due : Due} {atom inner : List Token}
    {tree : Skeleton} (takes : due.takesTerm = true)
    (derivation : Derives .atom atom tree) (operands : Operands inner) :
    due.CompletedBy (atom ++ inner) := by
  cases due with
  | expression place =>
      exact operands atom tree (.oneAtom derivation)
  | parameter names =>
      cases takes
  | operand =>
      intro first operator atoms
      rw [← List.append_assoc]
      exact operands _ _ (.moreAtoms atoms derivation)

/-- An abstraction may stand where a term may begin, and ends the
expression. -/
theorem completedBy_abstraction {due : Due} {inner : List Token}
    (takes : due.takesTerm = true)
    (completed : (Due.parameter []).CompletedBy inner) :
    due.CompletedBy (.backslash :: inner) := by
  obtain ⟨names, tokens, body, rfl, nonempty, distinct, derivation⟩ :=
    completed List.nodup_nil
  have abstraction := Derives.abstraction nonempty distinct derivation
  cases due with
  | expression place =>
      exact ⟨_, .bareAbstraction abstraction⟩
  | parameter names =>
      cases takes
  | operand =>
      intro first operator atoms
      exact ⟨_, .trailingAbstraction atoms abstraction⟩

/-- A token that makes progress stands in front of what completes the new
progress. -/
theorem completedBy_of_advances {progress next : Progress} {token : Token}
    {later : List Token} (advances : Advances progress token next)
    (completed : next.CompletedBy later) :
    progress.CompletedBy (token :: later) := by
  cases advances with
  | name name takes =>
      exact ClosedBy.prepend [.identifier name]
        (fun inner => completedBy_atom takes (.name name)) completed
  | @opening depth due takes =>
      obtain ⟨inner, outer, rfl, ⟨tree, derivation⟩, closed⟩ := completed
      have atom := Derives.parenthesized derivation
      have regrouped :
          Token.leftParen :: (inner ++ .rightParen :: outer) =
            (.leftParen :: (inner ++ [.rightParen])) ++ outer := by
        simp
      rw [regrouped]
      exact ClosedBy.prepend _ (fun inner => completedBy_atom takes atom)
        closed
  | abstraction takes =>
      exact ClosedBy.prepend [.backslash]
        (fun inner => completedBy_abstraction takes) completed
  | @parameter depth names name fresh =>
      refine ClosedBy.prepend [.identifier name] ?_ completed
      intro inner innerCompleted distinct
      have stillDistinct : (names ++ [name]).Nodup := by
        rw [List.nodup_append]
        refine ⟨distinct, by simp, ?_⟩
        intro earlier earlierMember last lastMember equality
        rw [equality, List.mem_singleton.mp lastMember] at earlierMember
        exact fresh earlierMember
      obtain ⟨more, body, tree, rfl, nonempty, allDistinct, derivation⟩ :=
        innerCompleted stillDistinct
      rw [List.append_assoc] at nonempty allDistinct
      exact ⟨name :: more, body, tree, rfl, nonempty, allDistinct, derivation⟩
  | @dot depth names nonempty =>
      refine ClosedBy.prepend [.dot] ?_ completed
      rintro inner ⟨tree, derivation⟩ distinct
      rw [← List.append_nil names] at nonempty distinct
      exact ⟨[], inner, tree, rfl, nonempty, distinct, derivation⟩
  | closing depth =>
      exact ⟨[], later, rfl, operands_nil, completed⟩

/-- Tokens that make progress stand in front of what completes the progress
that they lead to. -/
theorem completedBy_of_after {progress final : Progress}
    {tokens later : List Token}
    (made : progress.after tokens = some final)
    (completed : final.CompletedBy later) :
    progress.CompletedBy (tokens ++ later) := by
  induction tokens generalizing progress with
  | nil =>
      cases made
      exact completed
  | cons token tokens inductionHypothesis =>
      obtain ⟨next, advances, rest⟩ := Progress.exists_of_after_cons made
      exact completedBy_of_advances advances (inductionHypothesis rest)

/-- What is due can be put in its place. -/
theorem Due.exists_completedBy (due : Due) :
    ∃ tokens, due.CompletedBy tokens := by
  have oneName : Derives .expression [.identifier "x"] (.var "x") :=
    .application (.oneAtom (.name "x"))
  cases due with
  | expression place =>
      exact ⟨_, _, oneName⟩
  | parameter names =>
      cases names with
      | nil =>
          exact ⟨[.identifier "x", .dot, .identifier "x"],
            fun _ => ⟨["x"], _, _, rfl, by simp, by simp, oneName⟩⟩
      | cons name names =>
          refine ⟨[.dot, .identifier "x"], ?_⟩
          intro distinct
          rw [← List.append_nil (name :: names)] at distinct
          exact ⟨[], _, _, rfl, by simp, distinct, oneName⟩
  | operand =>
      exact ⟨[], operands_nil⟩

theorem exists_closedBy {completes : List Token → Prop}
    (innermost : ∃ tokens, completes tokens) (depth : Nat) :
    ∃ tokens, ClosedBy completes depth tokens := by
  induction depth generalizing completes with
  | zero =>
      exact innermost
  | succ depth inductionHypothesis =>
      obtain ⟨inner, completed⟩ := innermost
      obtain ⟨outer, closed⟩ := inductionHypothesis ⟨[], operands_nil⟩
      exact ⟨_, inner, outer, rfl, completed, closed⟩

/-! ## The beginnings of sentences -/

/-- Tokens begin a sentence exactly if they make progress. -/
theorem viable_iff_exists_after {tokens : List Token} :
    Viable tokens ↔
      ∃ progress, Progress.start.after tokens = some progress := by
  constructor
  · rintro ⟨later, tree, sentence⟩
    have made := after_of_derives sentence 0 (.expression .sentence) rfl
    obtain ⟨progress, begun, _⟩ := Progress.exists_of_after_append made
    exact ⟨progress, begun⟩
  · rintro ⟨progress, made⟩
    obtain ⟨later, completed⟩ :=
      exists_closedBy progress.due.exists_completedBy progress.depth
    obtain ⟨tree, sentence⟩ := completedBy_of_after made completed
    exact ⟨later, tree, sentence⟩

instance (tokens : List Token) : Decidable (Viable tokens) :=
  decidable_of_iff ((Progress.start.after tokens).isSome = true) <|
    Option.isSome_iff_exists.trans viable_iff_exists_after.symm

/-- A token that makes no progress ends the beginning of a sentence. -/
theorem not_viable_of_step {tokens : List Token} {progress : Progress}
    {token : Token} (made : Progress.start.after tokens = some progress)
    (stuck : progress.step token = none) :
    ¬ Viable (tokens ++ [token]) := by
  intro viable
  obtain ⟨next, after⟩ := viable_iff_exists_after.mp viable
  rw [Progress.after_append_of_after made, Progress.after_cons, stuck] at after
  cases after

example : Viable [.leftParen, .backslash, .identifier "x"] := by
  decide

end Grammar

end NumberedLambda
