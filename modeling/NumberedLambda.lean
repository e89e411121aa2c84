import NumberedLambda.Main
import NumberedLambda.Term.AlphaEquivalence
import NumberedLambda.Shape
import NumberedLambda.Term.Nesting
import NumberedLambda.Term.Position
import NumberedLambda.Term.Numbering
import NumberedLambda.Term.SelfReproduction
import NumberedLambda.Term.WrittenForm
import NumberedLambda.Church
import NumberedLambda.Grammar
import NumberedLambda.Scanner.Stream
import NumberedLambda.Scanner.Decomposition
import NumberedLambda.Parser.Calls
import NumberedLambda.Parser.First
import NumberedLambda.Parser.Iteration
import NumberedLambda.ScopeTree.Inheritance
import NumberedLambda.SourceLines
import NumberedLambda.Log.Selection
import NumberedLambda.Normalization.Record
import NumberedLambda.Proofs.Parsing.Acceptance
import NumberedLambda.Proofs.Numbering.LexicalScope
import NumberedLambda.Proofs.RoundTrip.Rereading
import NumberedLambda.Proofs.Reduction.FirstPass
import NumberedLambda.Proofs.Reduction.Identifiers
import NumberedLambda.Proofs.Reduction.Meaning
import NumberedLambda.Proofs.Parsing.Continuation
import NumberedLambda.Proofs.Scanning.LastLine
import NumberedLambda.Proofs.Parsing.Lines
import NumberedLambda.Proofs.Parsing.Iteration
import NumberedLambda.Proofs.Run.Output
import NumberedLambda.Proofs.Run.Lines
import NumberedLambda.Proofs.Run.Iteration
import NumberedLambda.Proofs.Renaming.Correspondence
import NumberedLambda.Proofs.Renaming.Shapes
import NumberedLambda.Proofs.Renaming.Reduction
import NumberedLambda.Proofs.Reduction.Reproduction
import NumberedLambda.Proofs.Renaming.Normalization
import NumberedLambda.Proofs.Renaming.Programs
import NumberedLambda.Proofs.Reduction.Convergence
import NumberedLambda.Proofs.Reduction.Counting
import NumberedLambda.Proofs.Reduction.Independence
import NumberedLambda.Proofs.Reduction.Substitution
import NumberedLambda.Proofs.Reduction.Nesting
import NumberedLambda.Proofs.Scanning.Lexemes
import NumberedLambda.Proofs.Scanning.Division
import NumberedLambda.Grammar.Progress
import NumberedLambda.Proofs.Parsing.Viability
import NumberedLambda.Proofs.Parsing.Complaints
import NumberedLambda.Proofs.Parsing.SyntaxErrors
import NumberedLambda.Proofs.Parsing.Obstruction
import NumberedLambda.Proofs.Reduction.Budgets
import NumberedLambda.Proofs.Reduction.Positions
import NumberedLambda.Proofs.Church.Numerals
import NumberedLambda.Proofs.Church.Addition
import NumberedLambda.Proofs.RoundTrip.UniqueReading
import NumberedLambda.Proofs.Numbering.Declarations
import NumberedLambda.Proofs.Reduction.Record
import NumberedLambda.Proofs.Run.Record
import NumberedLambda.Proofs.Parsing.Applicability
import NumberedLambda.Proofs.Parsing.Depth
import NumberedLambda.Proofs.Scanning.NewLines
import NumberedLambda.Proofs.Parsing.Consumption
import NumberedLambda.Proofs.Run.Termination
