import Timex.Calendar.ZoneTable
import Timex.Normalizer.Session
import Timex.Payload
import Timex.Settings.File
import Timex.Token.Spelling
import Timex.Proofs.Normalizer.Outcome
import Timex.Proofs.Normalizer.Substitution
import Timex.Proofs.Resolution.Filling
import Timex.Proofs.Resolution.SideBySide
import Timex.Proofs.Token.Groups
import Timex.Proofs.Normalizer.Fillings
import Timex.Proofs.Normalizer.Marks
import Timex.Proofs.Normalizer.UnknownYear
import Timex.Proofs.Normalizer.Today
import Timex.Proofs.Presentation.DateTime
import Timex.Proofs.Normalizer.DateShown
import Timex.Proofs.Normalizer.Batch
import Timex.Proofs.Normalizer.Session
import Timex.Proofs.Normalizer.Combination
import Timex.Proofs.Normalizer.FilledIn
import Timex.Proofs.Normalizer.Yearless
import Timex.Proofs.DatePattern
import Timex.Proofs.Normalizer.RoundTrip
import Timex.Proofs.Presentation.Range
import Timex.Proofs.Payload
import Timex.Proofs.Normalizer.Report
import Timex.Proofs.Token.Variants
import Timex.Proofs.Normalizer.Variants
import Timex.Proofs.Yaml.Consumption
import Timex.Proofs.Yaml.Layout
import Timex.Proofs.Yaml.Document
import Timex.Proofs.Settings.File
import Timex.Proofs.Normalizer.Minutes
import Timex.Proofs.Normalizer.Values
import Timex.Proofs.Pattern.Order
import Timex.Proofs.Granularity.Shape
import Timex.Proofs.Granularity.Parts
import Timex.Proofs.Presentation.Joining
import Timex.Proofs.Presentation.Numbers
import Timex.Proofs.Presentation.Names
import Timex.Proofs.Fault
import Timex.Proofs.Settings.Blank
import Timex.Proofs.Token.Settled
