import MarkdownLayout.Command.Arguments
import MarkdownLayout.Command.Files
import MarkdownLayout.Command.Path
import MarkdownLayout.Command.Run
import MarkdownLayout.Content.Basic
import MarkdownLayout.Content.Notice
import MarkdownLayout.Content.Conversion
import MarkdownLayout.Content.Printer
import MarkdownLayout.Decimal.Layout
import MarkdownLayout.Decimal.Reading
import MarkdownLayout.Decimal.Shortest
import MarkdownLayout.Decoration
import MarkdownLayout.Dictionary
import MarkdownLayout.Document.Definition
import MarkdownLayout.Document.Fault
import MarkdownLayout.Document.Images
import MarkdownLayout.Document.PageBreak
import MarkdownLayout.Document.Printer
import MarkdownLayout.Document.Rendering
import MarkdownLayout.Json.Basic
import MarkdownLayout.Json.Numeral
import MarkdownLayout.Json.Printer
import MarkdownLayout.Json.Quoted
import MarkdownLayout.Json.Reader
import MarkdownLayout.Json.Record
import MarkdownLayout.Mdast.Basic
import MarkdownLayout.Mdast.Image
import MarkdownLayout.Mdast.Kind
import MarkdownLayout.Mdast.PlainText
import MarkdownLayout.Mdast.Printer
import MarkdownLayout.Mdast.Reader
import MarkdownLayout.Options.Basic
import MarkdownLayout.Options.Config
import MarkdownLayout.Options.Reader
import MarkdownLayout.Slug.Basic
import MarkdownLayout.Slug.Slugger
import MarkdownLayout.Style.Basic
import MarkdownLayout.Style.Margin
import MarkdownLayout.Style.Table
import MarkdownLayout.Text.Casing
import MarkdownLayout.Text.Letter
import MarkdownLayout.Text.Lowercase
import MarkdownLayout.Text.Mark
import MarkdownLayout.Text.Number
import MarkdownLayout.Text.Scanner
import MarkdownLayout.Text.Spans
import MarkdownLayout.Toml.Lexeme
import MarkdownLayout.Toml.Reader
import MarkdownLayout.Toml.Table
import MarkdownLayout.Main
import MarkdownLayout.Proofs.Dictionary
import MarkdownLayout.Proofs.Slugger
import MarkdownLayout.Proofs.Traversal
import MarkdownLayout.Proofs.Walk
import MarkdownLayout.Proofs.Notices
import MarkdownLayout.Proofs.Comparison
import MarkdownLayout.Proofs.HeadingIds
import MarkdownLayout.Proofs.LiteralRuns
import MarkdownLayout.Proofs.Misplaced
import MarkdownLayout.Proofs.ImageCollection
import MarkdownLayout.Proofs.ImageUrls
import MarkdownLayout.Proofs.Rendering
import MarkdownLayout.Proofs.Pruning
import MarkdownLayout.Proofs.DocumentText
import MarkdownLayout.Proofs.WrapperAlgebra
import MarkdownLayout.Proofs.QuotedText
import MarkdownLayout.Proofs.Scanning
import MarkdownLayout.Proofs.JsonText
import MarkdownLayout.Proofs.NodeFields
import MarkdownLayout.Proofs.Members
import MarkdownLayout.Proofs.TreeReading
import MarkdownLayout.Proofs.TreeText
import MarkdownLayout.Proofs.Slot
import MarkdownLayout.Proofs.Restating
import MarkdownLayout.Proofs.KnownFields
import MarkdownLayout.Proofs.NaiveSlugger
import MarkdownLayout.Proofs.Files
import MarkdownLayout.Proofs.Paths
import MarkdownLayout.Proofs.Configuration
import MarkdownLayout.Proofs.RenderCommand
import MarkdownLayout.Proofs.RunOrigins
import MarkdownLayout.Proofs.Settings
import MarkdownLayout.Proofs.DistinctNames
import MarkdownLayout.Proofs.SoundStyles
import MarkdownLayout.Proofs.AmbiguousOutput
import MarkdownLayout.Proofs.StyleProperties
import MarkdownLayout.Proofs.StyleOverlay
import MarkdownLayout.Proofs.JsonValue
import MarkdownLayout.Proofs.StyleReading
import MarkdownLayout.Proofs.LowerCase
import MarkdownLayout.Proofs.SlugForm
import MarkdownLayout.Proofs.SlugSearch
import MarkdownLayout.Proofs.HeadingLevels
import MarkdownLayout.Proofs.Indentation
import MarkdownLayout.Proofs.Arguments
import MarkdownLayout.Proofs.ConfigurationRoutes
import MarkdownLayout.Proofs.Notices
