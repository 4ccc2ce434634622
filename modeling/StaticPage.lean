import StaticPage.Binary64.Basic
import StaticPage.Binary64.Shortest
import StaticPage.Calendar.Date
import StaticPage.Calendar.Instant
import StaticPage.CommandLine.Arguments
import StaticPage.CommandLine.Help
import StaticPage.CommandLine.Run
import StaticPage.Dictionary
import StaticPage.Document.Basic
import StaticPage.Document.Body
import StaticPage.Document.Parser
import StaticPage.Document.Printer
import StaticPage.Evaluation.Block
import StaticPage.Evaluation.Capability
import StaticPage.Evaluation.Context
import StaticPage.Evaluation.LazyBinding
import StaticPage.Evaluation.Scope
import StaticPage.Failure
import StaticPage.Files.Access
import StaticPage.Files.Glob
import StaticPage.Files.Path
import StaticPage.Files.Tree
import StaticPage.Html.Blocks
import StaticPage.Html.Layout
import StaticPage.Http.Canned
import StaticPage.Http.Fault
import StaticPage.Http.Fetcher
import StaticPage.Http.Validators
import StaticPage.Json.Fault
import StaticPage.Json.Printer
import StaticPage.Json.Reader
import StaticPage.Json.Value
import StaticPage.Main
import StaticPage.Markdown
import StaticPage.Markdown.Blocks
import StaticPage.Markdown.CharacterReference
import StaticPage.Markdown.Definition
import StaticPage.Markdown.Element
import StaticPage.Markdown.Emphasis
import StaticPage.Markdown.EntityTable
import StaticPage.Markdown.HtmlTag
import StaticPage.Markdown.Leaf
import StaticPage.Markdown.Margin
import StaticPage.Markdown.Outline
import StaticPage.Markdown.Page
import StaticPage.Markdown.Piece
import StaticPage.Markdown.RunningText
import StaticPage.Markdown.Source
import StaticPage.Markdown.Table
import StaticPage.Markdown.Target
import StaticPage.Markdown.TextLine
import StaticPage.Posts.Basic
import StaticPage.Posts.Directory
import StaticPage.Proofs.Binary64.Rounding
import StaticPage.Proofs.Calendar.DateText
import StaticPage.Proofs.Calendar.DayNumbers
import StaticPage.Proofs.Document.BindingLines
import StaticPage.Proofs.Document.BodyLines
import StaticPage.Proofs.Document.Grammar
import StaticPage.Proofs.Document.LoopHeads
import StaticPage.Proofs.Document.Misprints
import StaticPage.Proofs.Document.Outlines
import StaticPage.Proofs.Document.Reading
import StaticPage.Proofs.Document.Rearrangements
import StaticPage.Proofs.Document.RoundTrip
import StaticPage.Proofs.Document.Spacing
import StaticPage.Proofs.Document.Spelling
import StaticPage.Proofs.Evaluation.Accounting
import StaticPage.Proofs.Evaluation.CacheKeys
import StaticPage.Proofs.Evaluation.Caches
import StaticPage.Proofs.Evaluation.Keepings
import StaticPage.Proofs.Evaluation.Likeness
import StaticPage.Proofs.Evaluation.LoopPaths
import StaticPage.Proofs.Evaluation.PathHeads
import StaticPage.Proofs.Evaluation.Reloads
import StaticPage.Proofs.Evaluation.Renaming
import StaticPage.Proofs.Evaluation.Replays
import StaticPage.Proofs.Evaluation.Requests
import StaticPage.Proofs.Evaluation.Sessions
import StaticPage.Proofs.Evaluation.Templates
import StaticPage.Proofs.Evaluation.Transparency
import StaticPage.Proofs.Files.Chains
import StaticPage.Proofs.Files.Confinement
import StaticPage.Proofs.Files.Filings
import StaticPage.Proofs.Files.Findings
import StaticPage.Proofs.Files.Footprints
import StaticPage.Proofs.Files.Likeness
import StaticPage.Proofs.Files.Passages
import StaticPage.Proofs.Files.Places
import StaticPage.Proofs.Files.Rewrites
import StaticPage.Proofs.Files.Soundness
import StaticPage.Proofs.Files.Spellings
import StaticPage.Proofs.Files.Trails
import StaticPage.Proofs.Files.Worlds
import StaticPage.Proofs.Html.Elements
import StaticPage.Proofs.Html.Layouts
import StaticPage.Proofs.Html.Markup
import StaticPage.Proofs.Html.Nesting
import StaticPage.Proofs.Html.Tags
import StaticPage.Proofs.Http.Coherence
import StaticPage.Proofs.Http.Confinement
import StaticPage.Proofs.Http.Exchanges
import StaticPage.Proofs.Http.Failures
import StaticPage.Proofs.Http.Fallbacks
import StaticPage.Proofs.Http.Histories
import StaticPage.Proofs.Http.Openings
import StaticPage.Proofs.Http.Publishers
import StaticPage.Proofs.Http.Rebindings
import StaticPage.Proofs.Http.Recollections
import StaticPage.Proofs.Http.Revisits
import StaticPage.Proofs.Http.Runs
import StaticPage.Proofs.Http.ValidatorFile
import StaticPage.Proofs.Http.Worlds
import StaticPage.Proofs.Json.DistinctKeys
import StaticPage.Proofs.Json.Paths
import StaticPage.Proofs.Json.Readings
import StaticPage.Proofs.Json.StringText
import StaticPage.Proofs.Json.ValueText
import StaticPage.Proofs.Posts.Dates
import StaticPage.Proofs.Posts.Extracts
import StaticPage.Proofs.Ranking.Columns
import StaticPage.Proofs.Ranking.Integers
import StaticPage.Proofs.Ranking.MergeSort
import StaticPage.Proofs.Ranking.Neighbours
import StaticPage.Proofs.Ranking.Orderings
import StaticPage.Proofs.Ranking.SortKeys
import StaticPage.Proofs.Ranking.Stability
import StaticPage.Proofs.Site.Fallbacks
import StaticPage.Proofs.Site.Footprints
import StaticPage.Proofs.Site.Publication
import StaticPage.Proofs.Site.Reruns
import StaticPage.Proofs.Site.Sources
import StaticPage.Proofs.Site.Stages
import StaticPage.Proofs.Storage.Escapes
import StaticPage.Proofs.Storage.FileNames
import StaticPage.Proofs.Storage.Keeping
import StaticPage.Proofs.Storage.Mirrors
import StaticPage.Proofs.Text.ByteCuts
import StaticPage.Proofs.Text.Cutting
import StaticPage.Ranking.Key
import StaticPage.Ranking.Sort
import StaticPage.Settings
import StaticPage.Site
import StaticPage.Storage.Directory
import StaticPage.Storage.Memory
import StaticPage.Template
import StaticPage.Text.CaseFold
import StaticPage.Text.CharTable
import StaticPage.Text.Characters
import StaticPage.Text.CombiningClass
import StaticPage.Text.Composition
import StaticPage.Text.Direction
import StaticPage.Text.Hidden
import StaticPage.Text.Joining
import StaticPage.Text.Split
import StaticPage.Url.Address
import StaticPage.Url.Basic
import StaticPage.Url.Name
import StaticPage.Url.NameTable
import StaticPage.Url.Parser
import StaticPage.Url.Punycode
import StaticPage.Yaml.Cursor
import StaticPage.Yaml.Event
import StaticPage.Yaml.Fault
import StaticPage.Yaml.Lexer
import StaticPage.Yaml.PlainValue
import StaticPage.Yaml.Scalar
import StaticPage.Yaml.Token
