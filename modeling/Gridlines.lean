import Gridlines.Main
import Gridlines.Proofs.Answer.Filter
import Gridlines.Proofs.Answer.RoundTrip
import Gridlines.Proofs.Question.Vocabulary
import Gridlines.Proofs.Service.WriteOnce
import Gridlines.Proofs.Answer.Leaderboard
import Gridlines.Proofs.Dataset.OwnerSamples
import Gridlines.Proofs.Http.Outcomes
import Gridlines.Proofs.Json.Layouts
import Gridlines.Proofs.Command.Agreement
import Gridlines.Proofs.Question.Joined
import Gridlines.Proofs.Answer.Intersection
import Gridlines.Proofs.Text.ByteOrder
import Gridlines.Proofs.Answer.Consistency
import Gridlines.Proofs.Dataset.Samples
import Gridlines.Proofs.Dataset.RowOrder
import Gridlines.Proofs.Http.Origins
import Gridlines.Proofs.Command.Startup
import Gridlines.Proofs.Answer.Conjunction
import Gridlines.Proofs.Answer.Parts
import Gridlines.Proofs.Dataset.Nulls
import Gridlines.Proofs.Question.Surrounded
import Gridlines.Proofs.Binary64.Rounding
import Gridlines.Proofs.Decimal.Nearest
import Gridlines.Proofs.Decimal.ReadBack
import Gridlines.Proofs.Json.Texts
import Gridlines.Proofs.Dataset.SampleRanks
import Gridlines.Proofs.Answer.NumberGroups
import Gridlines.Proofs.Text.Sigma
import Gridlines.Proofs.Answer.Contained
import Gridlines.Proofs.Answer.IntegerGroups
import Gridlines.Proofs.Answer.ShownTotal
import Gridlines.Proofs.Json.Literals
import Gridlines.Proofs.Json.RoundedOnce
import Gridlines.Proofs.Json.SteadyValues
import Gridlines.Proofs.Json.SteadyRecords
import Gridlines.Proofs.Json.Exchange
import Gridlines.Proofs.Json.ExchangeRecords
import Gridlines.Proofs.Dataset.QuotedLengths
import Gridlines.Proofs.Command.Settings
import Gridlines.Proofs.Question.Report
import Gridlines.Proofs.Dataset.Columns
import Gridlines.Proofs.Dataset.Lengths
import Gridlines.Proofs.Decimal.DigitGroups
