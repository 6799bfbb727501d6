import MessageTemplate.CommandLine.Arguments
import MessageTemplate.CommandLine.Request
import MessageTemplate.CommandLine.Run
import MessageTemplate.Content.Node
import MessageTemplate.Content.Placeholder
import MessageTemplate.Content.Segment
import MessageTemplate.Content.Substitution
import MessageTemplate.Decimal.Binary64
import MessageTemplate.Decimal.Notation
import MessageTemplate.Decimal.Shortest
import MessageTemplate.Gsm.Alphabet
import MessageTemplate.Gsm.Downgrade
import MessageTemplate.Gsm.Length
import MessageTemplate.Html.Entity
import MessageTemplate.Html.Link
import MessageTemplate.Html.Tag
import MessageTemplate.Json.Basic
import MessageTemplate.Json.Number
import MessageTemplate.Json.Printer
import MessageTemplate.Json.Reader
import MessageTemplate.Json.Token
import MessageTemplate.Main
import MessageTemplate.Markdown.Block
import MessageTemplate.Markdown.Html
import MessageTemplate.Markdown.Line
import MessageTemplate.Markdown.PlainText
import MessageTemplate.Message.Basic
import MessageTemplate.Message.Broadcast
import MessageTemplate.Message.Draft
import MessageTemplate.Message.Email
import MessageTemplate.Message.Failure
import MessageTemplate.Message.Kind
import MessageTemplate.Message.Options
import MessageTemplate.Message.Sms
import MessageTemplate.Message.Spec
import MessageTemplate.Message.Summary
import MessageTemplate.Personalisation.Basic
import MessageTemplate.Personalisation.Record
import MessageTemplate.Personalisation.Value
import MessageTemplate.Proofs.Addresses
import MessageTemplate.Proofs.Alternatives
import MessageTemplate.Proofs.BlankLines
import MessageTemplate.Proofs.BlockTexts
import MessageTemplate.Proofs.BlockWords
import MessageTemplate.Proofs.Blocks
import MessageTemplate.Proofs.Body
import MessageTemplate.Proofs.BodyPreview
import MessageTemplate.Proofs.BulletList
import MessageTemplate.Proofs.Cursor
import MessageTemplate.Proofs.Dashes
import MessageTemplate.Proofs.Dependence
import MessageTemplate.Proofs.DisplayedText
import MessageTemplate.Proofs.Downgrade
import MessageTemplate.Proofs.Emptiness
import MessageTemplate.Proofs.Entities
import MessageTemplate.Proofs.FirstMark
import MessageTemplate.Proofs.Forms
import MessageTemplate.Proofs.Grammar
import MessageTemplate.Proofs.Length
import MessageTemplate.Proofs.LineByLine
import MessageTemplate.Proofs.Link
import MessageTemplate.Proofs.LinkBoundary
import MessageTemplate.Proofs.LinkEnd
import MessageTemplate.Proofs.Listing
import MessageTemplate.Proofs.Markup
import MessageTemplate.Proofs.Measured
import MessageTemplate.Proofs.Members
import MessageTemplate.Proofs.NormalForm
import MessageTemplate.Proofs.Outline
import MessageTemplate.Proofs.Overlay
import MessageTemplate.Proofs.Parts
import MessageTemplate.Proofs.Pattern
import MessageTemplate.Proofs.Personalisation
import MessageTemplate.Proofs.Phrase
import MessageTemplate.Proofs.Pieces
import MessageTemplate.Proofs.Preview
import MessageTemplate.Proofs.Quotes
import MessageTemplate.Proofs.Renaming
import MessageTemplate.Proofs.Respelling
import MessageTemplate.Proofs.Rewording
import MessageTemplate.Proofs.RoundTrip
import MessageTemplate.Proofs.Runs
import MessageTemplate.Proofs.Scaffold
import MessageTemplate.Proofs.Segments
import MessageTemplate.Proofs.Sendable
import MessageTemplate.Proofs.ShownNames
import MessageTemplate.Proofs.Sizing
import MessageTemplate.Proofs.Slices
import MessageTemplate.Proofs.Spacing
import MessageTemplate.Proofs.Subject
import MessageTemplate.Proofs.Substitution
import MessageTemplate.Proofs.Tags
import MessageTemplate.Proofs.TemplateRecord
import MessageTemplate.Proofs.TrimmedLink
import MessageTemplate.Proofs.TypesetTwice
import MessageTemplate.Proofs.Typography
import MessageTemplate.Proofs.Unresolved
import MessageTemplate.Record.Fault
import MessageTemplate.Record.Form
import MessageTemplate.Settings.Defaults
import MessageTemplate.Settings.Environment
import MessageTemplate.Settings.Tree
import MessageTemplate.Settings.Variable
import MessageTemplate.Text.Basic
import MessageTemplate.Text.Blank
import MessageTemplate.Text.Spacing
import MessageTemplate.Text.Transducer
import MessageTemplate.Text.Typography
import MessageTemplate.Text.Visible
import MessageTemplate.Unicode.Alphabetic
import MessageTemplate.Unicode.DefaultIgnorable
import MessageTemplate.Unicode.GraphemeExtend
import MessageTemplate.Unicode.Mark
import MessageTemplate.Unicode.Numeral
import MessageTemplate.Unicode.RangeTable
import MessageTemplate.Unicode.Unprintable
import MessageTemplate.Unicode.Word
