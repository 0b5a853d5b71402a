import CatalogSearch.Book.Basic
import CatalogSearch.Catalog.Plugin
import CatalogSearch.Catalog.Reader
import CatalogSearch.Catalog.Registry
import CatalogSearch.CommandLine.Argument
import CatalogSearch.CommandLine.Options
import CatalogSearch.CommandLine.Run
import CatalogSearch.Config.Basic
import CatalogSearch.Config.Load
import CatalogSearch.Config.Merge
import CatalogSearch.Executor.Basic
import CatalogSearch.Executor.Sort
import CatalogSearch.Field.Basic
import CatalogSearch.Files
import CatalogSearch.Filter.Check
import CatalogSearch.Filter.Criteria
import CatalogSearch.Filter.Store
import CatalogSearch.Filter.Update
import CatalogSearch.Json.Parser
import CatalogSearch.Json.Printer
import CatalogSearch.Link.Host
import CatalogSearch.Link.Request
import CatalogSearch.Link.Value
import CatalogSearch.Main
import CatalogSearch.Number.Decimal
import CatalogSearch.Number.Double
import CatalogSearch.Number.Integer
import CatalogSearch.Number.Shortest
import CatalogSearch.Number.Whole
import CatalogSearch.Predicate.Basic
import CatalogSearch.Predicate.Shown
import CatalogSearch.Proofs.Book.Columns
import CatalogSearch.Proofs.Book.RoundTrip
import CatalogSearch.Proofs.Catalog.Reprint
import CatalogSearch.Proofs.Executor.Order
import CatalogSearch.Proofs.Executor.Selection
import CatalogSearch.Proofs.Executor.Sort
import CatalogSearch.Proofs.Executor.Stable
import CatalogSearch.Proofs.Filter.Notification
import CatalogSearch.Proofs.Json.Number
import CatalogSearch.Proofs.Json.RoundTrip
import CatalogSearch.Proofs.Json.Sound
import CatalogSearch.Proofs.Json.String
import CatalogSearch.Proofs.Link.Value
import CatalogSearch.Proofs.Query.Compile
import CatalogSearch.Proofs.Query.Readable
import CatalogSearch.Proofs.Session.Coherence
import CatalogSearch.Proofs.Session.Direct
import CatalogSearch.Proofs.Session.Effect
import CatalogSearch.Proofs.Session.Failure
import CatalogSearch.Proofs.Session.Lookup
import CatalogSearch.Proofs.Session.Navigation
import CatalogSearch.Proofs.Session.Newest
import CatalogSearch.Proofs.Session.Overtaken
import CatalogSearch.Proofs.Session.Paging
import CatalogSearch.Proofs.Session.Rejection
import CatalogSearch.Proofs.Session.Run
import CatalogSearch.Proofs.Session.Status
import CatalogSearch.Proofs.Session.Transition
import CatalogSearch.Proofs.Text.Blank
import CatalogSearch.Proofs.Text.Hex
import CatalogSearch.Proofs.Text.Utf8
import CatalogSearch.Proofs.Validation.Checked
import CatalogSearch.Proofs.Value.Table
import CatalogSearch.Proofs.Value.Text
import CatalogSearch.Proofs.Value.Year
import CatalogSearch.Query.Basic
import CatalogSearch.Query.Check
import CatalogSearch.Query.Compile
import CatalogSearch.Report
import CatalogSearch.Session.Basic
import CatalogSearch.Session.Exchange
import CatalogSearch.Session.Results
import CatalogSearch.Session.Search
import CatalogSearch.Text.Blank
import CatalogSearch.Text.Case
import CatalogSearch.Text.CaseTable
import CatalogSearch.Text.CodeSet
import CatalogSearch.Text.Digit
import CatalogSearch.Text.Hex
import CatalogSearch.Text.Printable
import CatalogSearch.Text.Quoted
import CatalogSearch.Text.Substring
import CatalogSearch.Text.Utf8
import CatalogSearch.Text.Word
import CatalogSearch.Token.Basic
import CatalogSearch.Toml.Basic
import CatalogSearch.Toml.Parser
import CatalogSearch.Toml.Scalar
import CatalogSearch.Validation.Checked
import CatalogSearch.Validation.Problem
import CatalogSearch.Value.Basic
import CatalogSearch.Value.Shown
import CatalogSearch.Value.Year
import CatalogSearch.Proofs.Link.RoundTrip
import CatalogSearch.Proofs.Token.Quoted
import CatalogSearch.Proofs.Token.SearchText
import CatalogSearch.Proofs.Token.Whole
import CatalogSearch.Proofs.Toml.Keyed
import CatalogSearch.Proofs.Config.Merge
import CatalogSearch.Proofs.Config.Setting
import CatalogSearch.Proofs.Config.Layers
import CatalogSearch.Proofs.Config.Paths
import CatalogSearch.Proofs.Config.Blame
import CatalogSearch.Proofs.Json.Document
import CatalogSearch.Proofs.Json.Grammar
import CatalogSearch.Proofs.Catalog.Layouts
import CatalogSearch.Proofs.Token.Scan
import CatalogSearch.Proofs.Token.Agreement
import CatalogSearch.Proofs.Predicate.Outcome
import CatalogSearch.Proofs.Predicate.Narrower
import CatalogSearch.Proofs.Query.Narrowing
import CatalogSearch.Proofs.Executor.Listing
import CatalogSearch.Proofs.Executor.Refusal
import CatalogSearch.Proofs.Predicate.Literal
import CatalogSearch.Proofs.Number.Digits
import CatalogSearch.Proofs.Book.Dated
import CatalogSearch.Proofs.Query.Categories
import CatalogSearch.Proofs.Query.Columns
import CatalogSearch.Proofs.Filter.Passive
import CatalogSearch.Proofs.Filter.Update
import CatalogSearch.Proofs.Filter.Tokens
import CatalogSearch.Proofs.Filter.Work
import CatalogSearch.Proofs.Filter.Rounds
import CatalogSearch.Proofs.Filter.Removal
import CatalogSearch.Proofs.Session.Toggling
import CatalogSearch.Proofs.Link.Segments
import CatalogSearch.Proofs.Text.Within
import CatalogSearch.Proofs.Json.Within
import CatalogSearch.Proofs.Toml.Within
import CatalogSearch.Proofs.CommandLine.Failure
import CatalogSearch.Proofs.Catalog.Reported
import CatalogSearch.Proofs.Config.Reported
import CatalogSearch.Proofs.Number.Exact
import CatalogSearch.Proofs.Catalog.Score
import CatalogSearch.Proofs.Catalog.Registration
import CatalogSearch.Proofs.Catalog.Detection
import CatalogSearch.Proofs.Catalog.Recognition
import CatalogSearch.Proofs.Book.OddDate
import CatalogSearch.Proofs.Session.Arrivals
import CatalogSearch.Proofs.Session.Gathering
import CatalogSearch.Proofs.Toml.Line
import CatalogSearch.Proofs.Config.Line
