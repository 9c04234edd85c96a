import DocSieve.Text.Blank
import DocSieve.Text.Digit
import DocSieve.Text.LowerCase
import DocSieve.Text.Quoted
import DocSieve.Text.Utf8
import DocSieve.Number.Shortest
import DocSieve.Json.Reader
import DocSieve.Json.Decode
import DocSieve.Json.Printer
import DocSieve.Time.Stamp
import DocSieve.Path
import DocSieve.Schema.Registry
import DocSieve.Filter.Compile
import DocSieve.Main
import DocSieve.Proofs.Except
import DocSieve.Proofs.Path
import DocSieve.Proofs.Schema.Declaration
import DocSieve.Proofs.Schema.Registration
import DocSieve.Proofs.Filter.Typing
import DocSieve.Proofs.Filter.Compile
import DocSieve.Proofs.Time.Stamp
import DocSieve.Proofs.Filter.Meaning
import DocSieve.Proofs.Filter.Algebra
import DocSieve.Proofs.Number.Rounding
import DocSieve.Proofs.Store.Order
import DocSieve.Proofs.Store.Sorting
import DocSieve.Proofs.Store.Ranking
import DocSieve.Proofs.Store.Coherence
import DocSieve.Proofs.Store.Agreement
import DocSieve.Proofs.Service.Answer
import DocSieve.Proofs.Service.Noninterference
import DocSieve.Proofs.Service.Narrowing
import DocSieve.Proofs.Service.GivenUp
import DocSieve.Proofs.Rest.Verdict
import DocSieve.Proofs.Schema.History
import DocSieve.Proofs.Text.Utf8
import DocSieve.Proofs.CommandLine.Surfaces
import DocSieve.Proofs.Filter.Wire
import DocSieve.Proofs.Schema.Conformance
import DocSieve.Proofs.Settings
import DocSieve.Proofs.Rest.Origins
import DocSieve.Proofs.Json.Line
import DocSieve.Proofs.CommandLine.Precedence
import DocSieve.Proofs.Json.Nesting
import DocSieve.Proofs.Schema.Same
import DocSieve.Proofs.Schema.Wire
import DocSieve.Proofs.Store.Stability
import DocSieve.Proofs.Text.LowerCase
import DocSieve.Proofs.Filter.Substring
import DocSieve.Proofs.Text.Digit
import DocSieve.Proofs.Time.Calendar
import DocSieve.Proofs.Time.Writing
import DocSieve.Proofs.Filter.Instants
import DocSieve.Proofs.Store.Interchange
import DocSieve.Proofs.Files.Name
import DocSieve.Proofs.Schema.Directory
import DocSieve.Proofs.Store.Directory
import DocSieve.Proofs.Text.Recased
import DocSieve.Proofs.Filter.CaseBlind
import DocSieve.Proofs.Schema.Resolution
import DocSieve.Proofs.Text.Order
import DocSieve.Proofs.Time.Chronology
import DocSieve.Proofs.Filter.TextOrder
import DocSieve.Proofs.Time.Printed
import DocSieve.Proofs.Json.Same
import DocSieve.Proofs.Filter.Lossless
import DocSieve.Proofs.Text.Integer
import DocSieve.Proofs.Filter.Integers
import DocSieve.Proofs.Schema.Names
