import CurveSketch.Display.Latex
import CurveSketch.Journal
import CurveSketch.Journal.Line
import CurveSketch.Settings.Listing
import CurveSketch.Settings.Variables
import CurveSketch.Proofs.Grammar
import CurveSketch.Proofs.Rejecting
import CurveSketch.Proofs.Grammar.Reading
import CurveSketch.Proofs.Grammar.Recognition
import CurveSketch.Proofs.Characters
import CurveSketch.Proofs.Running
import CurveSketch.Proofs.SmallLetters
import CurveSketch.Proofs.Token.Lexeme
import CurveSketch.Proofs.Token.Splitting
import CurveSketch.Proofs.Token.Rendering
import CurveSketch.Proofs.NormalForm.Names
import CurveSketch.Proofs.NormalForm.Parentheses
import CurveSketch.Proofs.NormalForm.Reciprocals
import CurveSketch.Proofs.NormalForm.Stacked
import CurveSketch.Proofs.NormalForm
import CurveSketch.Proofs.NormalForm.Twice
import CurveSketch.Proofs.NormalForm.Meaning
import CurveSketch.Proofs.NormalForm.Canonical
import CurveSketch.Proofs.NormalForm.Stars
import CurveSketch.Proofs.NormalForm.WrittenStars
import CurveSketch.Proofs.Display
import CurveSketch.Proofs.Outcome
import CurveSketch.Proofs.Number.Worth
import CurveSketch.Proofs.Range.Sweep
import CurveSketch.Proofs.Session
import CurveSketch.Proofs.Range.Faithful
import CurveSketch.Proofs.Number.Printed
import CurveSketch.Proofs.Range.Interval
import CurveSketch.Proofs.Report.Exclusive
import CurveSketch.Proofs.Mirror
import CurveSketch.Proofs.NormalForm.Heads
import CurveSketch.Proofs.Grammar.Places
import CurveSketch.Proofs.NormalForm.Origins
import CurveSketch.Proofs.Positions
import CurveSketch.Proofs.Asymptote
import CurveSketch.Proofs.Number.Nearest
import CurveSketch.Proofs.Grid
import CurveSketch.Proofs.Asymptote.Threshold
import CurveSketch.Proofs.Asymptote.Returns
import CurveSketch.Proofs.Asymptote.Ends
import CurveSketch.Proofs.Range.Negated
import CurveSketch.Proofs.Grammar.Earliest
import CurveSketch.Proofs.Domain.Pattern
import CurveSketch.Proofs.Domain
import CurveSketch.Proofs.Display.Exponents
import CurveSketch.Proofs.Token.Slices
import CurveSketch.Proofs.NormalForm.Spacing
import CurveSketch.Proofs.Symmetry.Vanishing
import CurveSketch.Proofs.NormalForm.Pairs
