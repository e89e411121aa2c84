import NumberedLambda.Parser.Bounded

/-!
# Grammar rules without recursion

The rules that deal with a fixed number of tokens or with a list of
identifiers: a variable, the parameters of an abstraction, and the parenthesis
that closes an expression. Each comes with a bound on the weight of its
answer, which says that it uses up a token whenever it succeeds.
-/

namespace NumberedLambda

namespace Parser

/-- An identifier, resolved in `scope`. -/
def reference (scope : Nat) (parser : Parser) : Answer Term :=
  match parser.lookahead with
  | .identifier name =>
      parser.advance.andThen fun () after =>
        .ok (.var (parser.scopes.identify scope name)) after
  | _ => .error .notFound parser

/-- The rest of a parameter list, after the parameters `declared`. Each name
is declared in `scope` before the next token is read. -/
def parameters (scope : Nat) (declared : List Identifier)
    (parser : Parser) : Answer (List Identifier) :=
  match _ : parser.lookahead with
  | .identifier name =>
      if declared.any fun parameter => parameter.name = name then
        .error (.duplicateParameter name) parser
      else
        match _ : (parser.declare scope name).2.advance with
        | .ok () after =>
            parameters scope
              (declared ++ [(parser.declare scope name).1]) after
        | .error error left => .error error left
  | _ => .ok declared parser
termination_by parser.remaining
decreasing_by
  have unfinished :
      (parser.declare scope name).2.lookahead ≠ .endOfFile := by
    simp [*]
  have shorter := remaining_lt_of_advance unfinished ‹_›
  exact shorter

/-- The dot after a parameter list, which must not be empty. -/
def dotAfter (declared : List Identifier) (parser : Parser) :
    Answer (List Identifier) :=
  if declared = [] then
    .error (.missingParameter parser.lookahead) parser
  else if parser.lookahead = .dot then
    parser.advance.andThen fun () after => .ok declared after
  else
    .error (.expectedDot parser.lookahead) parser

/-- The part of an abstraction in front of its body: a backslash, at least
one parameter, and a dot. -/
def header (scope : Nat) (parser : Parser) : Answer (List Identifier) :=
  if parser.lookahead = .backslash then
    parser.advance.andThen fun () after =>
      (after.parameters scope []).andThen dotAfter
  else
    .error .notFound parser

/-- The closing parenthesis after `inner`. -/
def closing (inner : Term) (parser : Parser) : Answer Term :=
  if parser.lookahead = .rightParen then
    parser.advance.andThen fun () after => .ok inner after
  else
    .error (.expectedClosing parser.lookahead) parser

/-! ## What the rules use up -/

/-- A parser whose token is known not to be the end of the text. -/
theorem unfinished_of_eq {parser : Parser} {token : Token}
    (atToken : parser.lookahead = token) (other : token ≠ .endOfFile) :
    parser.lookahead ≠ .endOfFile := by
  rw [atToken]
  exact other

private theorem weight_advance_andThen_ok_le
    {Value : Type} {parser : Parser} (value : Value)
    (unfinished : parser.lookahead ≠ .endOfFile) :
    Answer.weight
        (parser.advance.andThen fun () after => .ok value after) ≤
      parser.remaining := by
  have bound := weight_advance_le unfinished
  cases read : parser.advance <;> rw [read] at bound <;> exact bound

theorem weight_reference_le (scope : Nat) (parser : Parser) :
    Answer.weight (parser.reference scope) ≤ parser.remaining := by
  unfold reference
  split
  · rename_i atName
    exact weight_advance_andThen_ok_le _ (unfinished_of_eq atName nofun)
  · exact Nat.le_refl _

theorem weight_parameters_le
    (scope : Nat) (declared : List Identifier) (parser : Parser) :
    Answer.weight (parser.parameters scope declared) ≤
      parser.remaining + 1 := by
  fun_induction parameters scope declared parser with
  | case1 declared parser name atName duplicate =>
      exact Nat.le_succ _
  | case2 declared parser name atName fresh after read
      inductionHypothesis =>
      have unfinished :
          (parser.declare scope name).2.lookahead ≠ .endOfFile :=
        unfinished_of_eq atName nofun
      have shorter := remaining_lt_of_advance unfinished read
      rw [remaining_declare] at shorter
      omega
  | case3 declared parser name atName fresh error left read =>
      have bound := remaining_le_of_advance_error read
      exact Nat.le_succ_of_le bound
  | case4 declared parser others =>
      exact Nat.le_refl _

theorem weight_dotAfter_le
    (declared : List Identifier) (parser : Parser) :
    Answer.weight (parser.dotAfter declared) ≤ parser.remaining := by
  unfold dotAfter
  split
  · exact Nat.le_refl _
  · split
    · rename_i atDot
      exact weight_advance_andThen_ok_le _ (unfinished_of_eq atDot nofun)
    · exact Nat.le_refl _

theorem weight_header_le (scope : Nat) (parser : Parser) :
    Answer.weight (parser.header scope) ≤ parser.remaining := by
  unfold header
  split
  · rename_i opening
    cases read : parser.advance with
    | error error left =>
        exact remaining_le_of_advance_error read
    | ok value after =>
        have shorter :=
          remaining_lt_of_advance (unfinished_of_eq opening nofun) read
        have bound := weight_parameters_le scope [] after
        rw [Answer.andThen_ok]
        cases list : after.parameters scope [] with
        | error error left =>
            rw [list] at bound
            exact Nat.le_trans bound shorter
        | ok declared ready =>
            rw [list] at bound
            exact Nat.le_trans (weight_dotAfter_le declared ready) <|
              Nat.le_of_lt (Nat.lt_of_lt_of_le bound shorter)
  · exact Nat.le_refl _

theorem weight_closing_le (inner : Term) (parser : Parser) :
    Answer.weight (parser.closing inner) ≤ parser.remaining := by
  unfold closing
  split
  · rename_i atClosing
    exact
      weight_advance_andThen_ok_le _ (unfinished_of_eq atClosing nofun)
  · exact Nat.le_refl _

/-- Reading a token before the end of the text, with its bound. -/
def boundedAdvance {parser : Parser}
    (unfinished : parser.lookahead ≠ .endOfFile) :
    BoundedAnswer Unit parser.remaining :=
  ⟨parser.advance, weight_advance_le unfinished⟩

/-- The rule for variables, with its bound. -/
def boundedReference (scope : Nat) (parser : Parser) :
    BoundedAnswer Term parser.remaining :=
  ⟨parser.reference scope, weight_reference_le scope parser⟩

/-- The rule for the part of an abstraction in front of its body, with its
bound. -/
def boundedHeader (scope : Nat) (parser : Parser) :
    BoundedAnswer (List Identifier) parser.remaining :=
  ⟨parser.header scope, weight_header_le scope parser⟩

/-- The rule for the closing parenthesis, with its bound. -/
def boundedClosing (inner : Term) (parser : Parser) :
    BoundedAnswer Term parser.remaining :=
  ⟨parser.closing inner, weight_closing_le inner parser⟩

end Parser

end NumberedLambda
