import Tribase.Command.Outcome
import Tribase.Main
import Tribase.Numeral.Placement
import Tribase.Record.Rows
import Tribase.Proofs.Octets.Compare
import Tribase.Proofs.Octets.Shift
import Tribase.Proofs.Octets.Sum
import Tribase.Proofs.Numeral.Bases
import Tribase.Proofs.Numeral.Decimal
import Tribase.Proofs.Numeral.Estimate
import Tribase.Proofs.Numeral.Grammar
import Tribase.Proofs.Numeral.Pass
import Tribase.Proofs.Record.Acceptance
import Tribase.Proofs.Sheet.Complements
import Tribase.Proofs.Sheet.Fit
import Tribase.Proofs.Sheet.OneNumber
import Tribase.Proofs.Sheet.TwoNumbers
import Tribase.Proofs.Sheet.Journal
import Tribase.Proofs.Sheet.Layout
import Tribase.Proofs.Sheet.Writing
import Tribase.Proofs.Command.Report
