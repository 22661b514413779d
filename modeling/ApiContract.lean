import ApiContract.CommandLine.Arguments
import ApiContract.CommandLine.Command
import ApiContract.CommandLine.Run
import ApiContract.Contract.Dump
import ApiContract.Contract.Media
import ApiContract.Contract.Method
import ApiContract.Contract.Operation
import ApiContract.Contract.Status
import ApiContract.Document.Body
import ApiContract.Document.Check
import ApiContract.Document.Defect
import ApiContract.Document.Operation
import ApiContract.Document.Reader
import ApiContract.Draft4.Evaluator
import ApiContract.Draft4.Metaschema
import ApiContract.Draft4.Rule
import ApiContract.Draft4.Violation
import ApiContract.Json.Basic
import ApiContract.Json.Printer
import ApiContract.Json.Reader
import ApiContract.Keyed
import ApiContract.Lifecycle
import ApiContract.Main
import ApiContract.Numeral.Binary64
import ApiContract.Numeral.Digits
import ApiContract.Numeral.Shortest
import ApiContract.Numeral.Unsigned
import ApiContract.Path.Route
import ApiContract.Path.Specificity
import ApiContract.Path.Template
import ApiContract.Pattern.Basic
import ApiContract.Pattern.Machine
import ApiContract.Pattern.Place
import ApiContract.Pattern.Plain.Basic
import ApiContract.Pattern.Plain.Bracket
import ApiContract.Pattern.Plain.Escape
import ApiContract.Pattern.Plain.Reader
import ApiContract.Pattern.Plain.Scanner
import ApiContract.Pattern.Program
import ApiContract.Pattern.Property
import ApiContract.Pattern.Regular.Automaton
import ApiContract.Pattern.Regular.Basic
import ApiContract.Pattern.Regular.Search
import ApiContract.Pattern.Regular.Size
import ApiContract.Pattern.Script
import ApiContract.Pattern.Wide.Basic
import ApiContract.Pattern.Wide.Reader
import ApiContract.Pattern.Wide.Scanner
import ApiContract.Proofs.Document.Amendment
import ApiContract.Proofs.Document.Dialect
import ApiContract.Proofs.Document.Dump
import ApiContract.Proofs.Document.Keeping
import ApiContract.Proofs.Document.Lookup
import ApiContract.Proofs.Document.Presence
import ApiContract.Proofs.Document.Reordering
import ApiContract.Proofs.Draft4.Bodies
import ApiContract.Proofs.Draft4.Enumeration
import ApiContract.Proofs.Draft4.Evaluator
import ApiContract.Proofs.Draft4.Metaschema
import ApiContract.Proofs.Draft4.Nullable
import ApiContract.Proofs.Draft4.Rule
import ApiContract.Proofs.Draft4.Violation
import ApiContract.Proofs.Json.Likeness
import ApiContract.Proofs.Json.Reordering
import ApiContract.Proofs.Lifecycle
import ApiContract.Proofs.Path.Addition
import ApiContract.Proofs.Path.Grammar
import ApiContract.Proofs.Path.Instance
import ApiContract.Proofs.Path.Route
import ApiContract.Proofs.Schema.Conformance
import ApiContract.Proofs.Schema.Distinct
import ApiContract.Proofs.Schema.Grammar
import ApiContract.Proofs.Schema.Inlining
import ApiContract.Proofs.Schema.Keeping
import ApiContract.Proofs.Schema.Location
import ApiContract.Proofs.Schema.Normal
import ApiContract.Proofs.Schema.Nullable
import ApiContract.Proofs.Schema.Reordering
import ApiContract.Proofs.Text.LowerCase
import ApiContract.Proofs.Traffic.ContentType
import ApiContract.Proofs.Traffic.Decimal
import ApiContract.Proofs.Traffic.Method
import ApiContract.Proofs.Traffic.Reply
import ApiContract.Proofs.Traffic.Request
import ApiContract.Proofs.Traffic.Variables
import ApiContract.Proofs.Yaml.Conversion
import ApiContract.Proofs.Yaml.FirstOffence
import ApiContract.Schema.Basic
import ApiContract.Schema.Canonical
import ApiContract.Schema.Node
import ApiContract.Schema.Rendering
import ApiContract.Settings
import ApiContract.Source.Error
import ApiContract.Source.Fetch
import ApiContract.Source.Files
import ApiContract.Source.Format
import ApiContract.Text.Blank
import ApiContract.Text.LowerCase
import ApiContract.Text.LowerCase.Table
import ApiContract.Traffic.Check
import ApiContract.Traffic.Parameters
import ApiContract.Traffic.Rejection
import ApiContract.Unicode.Age
import ApiContract.Unicode.Assigned
import ApiContract.Unicode.Break
import ApiContract.Unicode.Bytes
import ApiContract.Unicode.CaseRun
import ApiContract.Unicode.Category
import ApiContract.Unicode.CharClass
import ApiContract.Unicode.CombiningClass
import ApiContract.Unicode.Composite
import ApiContract.Unicode.Direction
import ApiContract.Unicode.Fold
import ApiContract.Unicode.FoldTable
import ApiContract.Unicode.Joining
import ApiContract.Unicode.Letter
import ApiContract.Unicode.Normal
import ApiContract.Unicode.Property
import ApiContract.Unicode.RangeSet
import ApiContract.Unicode.Runs
import ApiContract.Unicode.Script
import ApiContract.Url.Address
import ApiContract.Url.Basic
import ApiContract.Url.Domain
import ApiContract.Url.Escape
import ApiContract.Url.Name.Label
import ApiContract.Url.Name.Mapping
import ApiContract.Url.Name.Punycode
import ApiContract.Url.Name.Table
import ApiContract.Url.Reader
import ApiContract.Validator
import ApiContract.Yaml.BlockScalar
import ApiContract.Yaml.FlowScalar
import ApiContract.Yaml.Mark
import ApiContract.Yaml.Node
import ApiContract.Yaml.Plain
import ApiContract.Yaml.Reader
import ApiContract.Yaml.Tag
import ApiContract.Yaml.ToJson
import ApiContract.Yaml.Token
import ApiContract.Yaml.Value
