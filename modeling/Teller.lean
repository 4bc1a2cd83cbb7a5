import Teller.Amount.Reading
import Teller.Amount.Writing
import Teller.Asset.Search
import Teller.Desk.Session
import Teller.Intake.Request
import Teller.Log.Line
import Teller.Proofs.Desk.Answers
import Teller.Proofs.Desk.CommandGate
import Teller.Proofs.Desk.Dialogue
import Teller.Proofs.Desk.Examination
import Teller.Proofs.Desk.RiskGate
import Teller.Proofs.Desk.Routing
import Teller.Proofs.Number.Bounds
import Teller.Proofs.Number.Order
import Teller.Proofs.Question.Asking
import Teller.Proofs.Question.Choices
import Teller.Proofs.Question.Implied
import Teller.Proofs.Templates
import Teller.Proofs.Validation.Filing
import Teller.Proofs.Validation.Limits
import Teller.Proofs.Validation.OpenQuestion
import Teller.Risk.Compatibility
import Teller.Settings
import Teller.Strategy.Optimization
import Teller.Proofs.Desk.Limits
import Teller.Proofs.Desk.Amounts
import Teller.Proofs.Desk.Required
import Teller.Proofs.Number.Sums
import Teller.Proofs.Desk.Backing
import Teller.Proofs.Desk.Progress
import Teller.Proofs.Desk.Slippage
import Teller.Proofs.Desk.Estimates
import Teller.Proofs.Desk.Naming
import Teller.Proofs.Desk.Failures
import Teller.Proofs.Question.Answerable
import Teller.Proofs.Desk.Accounting
import Teller.Proofs.Desk.Interleaving
import Teller.Proofs.Desk.Reduction
import Teller.Proofs.Amount.Hedges
import Teller.Proofs.Amount.RoundTrip
import Teller.Proofs.Amount.Shares
import Teller.Proofs.Amount.Spelling
import Teller.Proofs.Desk.Wallet
import Teller.Proofs.Asset.Distance
import Teller.Proofs.Desk.Figures
import Teller.Proofs.Desk.Renormalization
import Teller.Proofs.Asset.Similarity
import Teller.Proofs.Risk.Leverage
import Teller.Proofs.Risk.Experience
import Teller.Proofs.Risk.Ticket
import Teller.Proofs.Strategy.Matches
import Teller.Proofs.Strategy.Scores
import Teller.Proofs.Strategy.Adjustments
import Teller.Proofs.Strategy.Exclusions
import Teller.Proofs.Strategy.Portfolio
import Teller.Proofs.Strategy.Reasons
import Teller.Proofs.Strategy.Categories
import Teller.Proofs.Command.Stakes
import Teller.Proofs.Command.Tuning
import Teller.Proofs.Command.Faults
import Teller.Proofs.Desk.Readiness
import Teller.Proofs.Desk.Overriding
import Teller.Proofs.Parameters.Merging
import Teller.Proofs.Validation.Addresses
import Teller.Proofs.Validation.Independence
import Teller.Proofs.Log.Repetition
import Teller.Proofs.Asset.Search
