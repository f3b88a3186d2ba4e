import Dicebag.Session
import Dicebag.Main
import Dicebag.Json
import Dicebag.Proofs.Decimal
import Dicebag.Proofs.Expression.Cuts
import Dicebag.Proofs.Expression.Grammar
import Dicebag.Proofs.Expression.RoundTrip
import Dicebag.Proofs.Expression.Canonical
import Dicebag.Proofs.Roll.Accounting
import Dicebag.Proofs.Roll.Finishing
import Dicebag.Proofs.Roll.Thresholds
import Dicebag.Proofs.Roll.Waves
import Dicebag.Proofs.Roll.Modifiers
import Dicebag.Proofs.Roll.Shuffling
import Dicebag.Proofs.Expression.Faults
import Dicebag.Proofs.Roll.Auditing
import Dicebag.Proofs.Source.Words
import Dicebag.Proofs.Source.Seeds
import Dicebag.Proofs.Source.Draws
import Dicebag.Proofs.Roll.Seeding
import Dicebag.Proofs.Session
import Dicebag.Proofs.Environment.Precedence
import Dicebag.Proofs.Environment.Reloading
import Dicebag.Proofs.Text.Stripping
import Dicebag.Proofs.Settings.Numerals
import Dicebag.Proofs.Settings.Fields
import Dicebag.Proofs.Settings.Spellings
import Dicebag.Proofs.Logging.History
import Dicebag.Proofs.CommandLine.Stages
import Dicebag.Proofs.CommandLine.Documents
import Dicebag.Proofs.CommandLine.Lines
import Dicebag.Proofs.CommandLine.Agreement
import Dicebag.Proofs.CommandLine.Batches
import Dicebag.Proofs.Roll.Reading
import Dicebag.Proofs.CommandLine.Labels
import Dicebag.Proofs.CommandLine.Reproduction
import Dicebag.Proofs.Roll.AuditTrail
