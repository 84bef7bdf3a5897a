import Reckon.Files.Cases
import Reckon.Main
import Reckon.Parse.Rule
import Reckon.Proofs.Text.Decoding
import Reckon.Proofs.Token.Scan
import Reckon.Proofs.Token.Cut
import Reckon.Proofs.Token.Lossless
import Reckon.Proofs.Parse.Watch
import Reckon.Proofs.Parse.Purity
import Reckon.Proofs.Decimal.Bits
import Reckon.Proofs.Decimal.Form
import Reckon.Proofs.Decimal.Written
import Reckon.Proofs.Expression.Compound
import Reckon.Proofs.Expression.Parsed
import Reckon.Proofs.Expression.RoundTrip
import Reckon.Proofs.Session.Definition
import Reckon.Proofs.Parse.Position
import Reckon.Proofs.Session.Course
import Reckon.Proofs.Session.Frames
import Reckon.Proofs.Token.Lines
import Reckon.Proofs.Outline.Agreement
import Reckon.Proofs.Failure.Location
import Reckon.Proofs.Evaluation.Sequence
import Reckon.Proofs.Evaluation.Invariant
import Reckon.Proofs.Evaluation.Whole
import Reckon.Proofs.Evaluation.Machine
import Reckon.Proofs.Evaluation.Limit
import Reckon.Proofs.Session.Faultless
import Reckon.Proofs.Parse.Conservation
import Reckon.Proofs.Script.Parts
import Reckon.Proofs.Script.Coverage
import Reckon.Proofs.Session.Scoping
import Reckon.Proofs.Evaluation.Renaming
import Reckon.Proofs.Parse.Approximation
import Reckon.Proofs.Parse.Lockstep
import Reckon.Proofs.Parse.Wordwise
import Reckon.Proofs.Parse.Ending
import Reckon.Proofs.Parse.Leaves
import Reckon.Proofs.Parse.Numerals
import Reckon.Proofs.Token.Diagnosis
import Reckon.Proofs.Parse.Integers
import Reckon.Proofs.Parse.Entry
import Reckon.Proofs.Parse.Nesting
import Reckon.Proofs.Evaluation.Arithmetic
import Reckon.Proofs.Parse.Return
import Reckon.Proofs.Parse.Effect
import Reckon.Proofs.Parse.Repetition
import Reckon.Proofs.Session.Uniform
import Reckon.Proofs.Expression.Forms
