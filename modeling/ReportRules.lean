import ReportRules.Main
import ReportRules.Proofs.Audit.Followup
import ReportRules.Proofs.Audit.Gate
import ReportRules.Proofs.Audit.Replay
import ReportRules.Proofs.Audit.Triggering
import ReportRules.Proofs.Engine.Mentioned
import ReportRules.Proofs.Fee.Position
import ReportRules.Proofs.Fee.Reason
import ReportRules.Proofs.Formula.Reading
import ReportRules.Proofs.Formula.Substitution
import ReportRules.Proofs.Http.Agreement
import ReportRules.Proofs.Service.Archive
import ReportRules.Proofs.Service.Interleaving
import ReportRules.Proofs.Trace.Tracing
import ReportRules.Proofs.Validation.Filling
import ReportRules.Proofs.Validation.Order
import ReportRules.Proofs.Formula.Progress
import ReportRules.Proofs.Formula.Viable
import ReportRules.Proofs.Text.Runs
import ReportRules.Proofs.Condition.Reading
import ReportRules.Proofs.Formula.Leftmost
import ReportRules.Proofs.Condition.Holds
import ReportRules.Proofs.Default.Source
import ReportRules.Proofs.Requirement.Resolved
import ReportRules.Proofs.Default.Resolved
import ReportRules.Proofs.Default.Visit
import ReportRules.Proofs.Condition.Comparison
import ReportRules.Proofs.Condition.Missing
import ReportRules.Proofs.Condition.Membership
import ReportRules.Proofs.Condition.Whole
import ReportRules.Proofs.Validation.Photos
import ReportRules.Proofs.Validation.Clearing
import ReportRules.Proofs.Formula.Course
import ReportRules.Proofs.Command.SampleRoute
import ReportRules.Proofs.Text.Label
