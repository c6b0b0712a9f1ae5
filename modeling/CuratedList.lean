import CuratedList.Check
import CuratedList.CommandLine
import CuratedList.Document
import CuratedList.Entry
import CuratedList.Files
import CuratedList.Files.Search
import CuratedList.Files.Store
import CuratedList.Identifiers
import CuratedList.Lint
import CuratedList.Main
import CuratedList.Markdown.Tree
import CuratedList.Report
import CuratedList.Run
import CuratedList.Scope
import CuratedList.Settings
import CuratedList.Settings.Targets
import CuratedList.Text.Position
import CuratedList.Url
import CuratedList.Proofs.Document.Entries
import CuratedList.Proofs.Lint.Reports
import CuratedList.Proofs.Markdown.Construction
import CuratedList.Proofs.Document.Bare
import CuratedList.Proofs.Markdown.Shape
import CuratedList.Proofs.Document.Order
import CuratedList.Proofs.Entry.Grammar
import CuratedList.Proofs.Entry.Sites
import CuratedList.Proofs.Lint.Order
import CuratedList.Proofs.Markdown.Order
import CuratedList.Proofs.Markdown.Starts
import CuratedList.Proofs.Text.Words
import CuratedList.Proofs.Entry.FirstWord
import CuratedList.Proofs.Document.Scope
import CuratedList.Proofs.Entry.Badges
import CuratedList.Proofs.Lint.AllowList
import CuratedList.Proofs.Entry.Exemptions
import CuratedList.Proofs.Entry.Faults
import CuratedList.Proofs.Failure
import CuratedList.Proofs.Settings.Targets
import CuratedList.Proofs.Run.Outcome
import CuratedList.Proofs.Markdown.Nesting
import CuratedList.Proofs.Markdown.View
import CuratedList.Proofs.Markdown.Stacks
import CuratedList.Proofs.Entry.Opening
import CuratedList.Proofs.Entry.Ending
import CuratedList.Proofs.Toml.Quotes
import CuratedList.Proofs.Toml.Document
import CuratedList.Proofs.Files.Store
import CuratedList.Proofs.Settings.Environment
import CuratedList.Proofs.Settings.RoundTrip
import CuratedList.Proofs.Files.Path
import CuratedList.Proofs.Files.Directories
import CuratedList.Proofs.Text.Emoji
import CuratedList.Proofs.Entry.Parenthetical
import CuratedList.Proofs.Entry.CodeSpan
import CuratedList.Proofs.Entry.Punctuation
import CuratedList.Proofs.Entry.Filler
import CuratedList.Proofs.Entry.Casing
import CuratedList.Proofs.Entry.Separator
import CuratedList.Proofs.Text.Position
import CuratedList.Proofs.Lint.Positions
import CuratedList.Proofs.Text.Emoji.Ranges
import CuratedList.Proofs.Markdown.Spans
import CuratedList.Proofs.Settings.Resolution
import CuratedList.Proofs.Settings.Discovery
import CuratedList.Proofs.Identifiers
import CuratedList.Proofs.Run.Words
import CuratedList.Proofs.Json.Reader
import CuratedList.Proofs.Json.Machine
import CuratedList.Proofs.Json.Tokens
import CuratedList.Proofs.Report
