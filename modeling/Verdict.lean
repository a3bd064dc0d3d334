import Verdict.Main
import Verdict.Proofs.Errors.Entries
import Verdict.Proofs.Errors.Index
import Verdict.Proofs.Errors.History
import Verdict.Proofs.Errors.Merging
import Verdict.Proofs.Rule.Binding
import Verdict.Proofs.Walk.Flat
import Verdict.Proofs.Walk.Trace
import Verdict.Proofs.Walk.Noticed
import Verdict.Proofs.Walk.Nested
import Verdict.Proofs.Rule.Escape
import Verdict.Proofs.Rule.Codec
import Verdict.Proofs.Rule.Joining
import Verdict.Proofs.Rule.Scanner
import Verdict.Proofs.Rule.Builtin
import Verdict.Proofs.Rule.Size
import Verdict.Proofs.Number.Literal
import Verdict.Proofs.Walk.CutOff
import Verdict.Proofs.Walk.Faultless
import Verdict.Proofs.Validator.Runs
import Verdict.Proofs.Validator.SingleField
import Verdict.Proofs.Table.Lookup
import Verdict.Proofs.Schema.Projection
import Verdict.Proofs.Walk.Place
import Verdict.Proofs.Schema.Nested
import Verdict.Proofs.Schema.Serialized
import Verdict.Proofs.Walk.Produced
import Verdict.Proofs.Schema.Places
import Verdict.Proofs.Schema.Depth
import Verdict.Proofs.Walk.Unlocalized
import Verdict.Proofs.Walk.Alongside
import Verdict.Proofs.Walk.Skipped
import Verdict.Proofs.Message.Verbatim
import Verdict.Proofs.Message.Spaced
import Verdict.Proofs.CommandLine.Ending
import Verdict.Proofs.CommandLine.Loading
import Verdict.Proofs.CommandLine.Agreement
import Verdict.Proofs.Text.Spacing
import Verdict.Proofs.CommandLine.HumanReport
import Verdict.Proofs.Text.CharSet
import Verdict.Proofs.Pattern.Matching
import Verdict.Proofs.Rule.Email
import Verdict.Proofs.Number.Rounding
import Verdict.Proofs.Number.Readings
import Verdict.Proofs.Rule.Monotone
import Verdict.Proofs.Table.LastWins
import Verdict.Proofs.Value.Printing
import Verdict.Proofs.Schema.Definitions
import Verdict.Proofs.CommandLine.Writing
