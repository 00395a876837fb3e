import Propositional.Token.Session
import Propositional.Grammar
import Propositional.Value.View
import Propositional.Parse.RoundTrip
import Propositional.Parse.Session
import Propositional.Parse.Parser
import Propositional.Value.Workbench
import Propositional.Log.Session
import Propositional.Main
import Propositional.Proofs.Account
import Propositional.Proofs.Halting
import Propositional.Proofs.Acceptance
import Propositional.Proofs.Canonical
import Propositional.Proofs.EarliestFailure
import Propositional.Proofs.Isolation
import Propositional.Proofs.Spacing
import Propositional.Proofs.Simulation
import Propositional.Proofs.Parsers
import Propositional.Proofs.Reuse
import Propositional.Proofs.Trace
import Propositional.Proofs.Measures
import Propositional.Proofs.Rejection
import Propositional.Proofs.Pulling
import Propositional.Proofs.Sources
import Propositional.Proofs.ExitStatus
import Propositional.Proofs.Outline
import Propositional.Proofs.Limits
import Propositional.Proofs.LogLines
import Propositional.Proofs.SourceWords
import Propositional.Proofs.SyntaxErrors
import Propositional.Proofs.ForeignCharacters
import Propositional.Proofs.Cuts
import Propositional.Proofs.Statistics
import Propositional.Proofs.TreeOrders
import Propositional.Proofs.Operands
import Propositional.Proofs.SourceEdits
import Propositional.Proofs.Cursors
import Propositional.Proofs.Inspection
import Propositional.Proofs.Consumption
import Propositional.Proofs.Checks
