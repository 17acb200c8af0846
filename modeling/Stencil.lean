import Stencil.Checker.Program
import Stencil.Checker.Resolve
import Stencil.CommandLine.Arguments
import Stencil.CommandLine.Command
import Stencil.CommandLine.Log
import Stencil.CommandLine.Options
import Stencil.Crash
import Stencil.Decimal.Division
import Stencil.Decimal.Fixed
import Stencil.Decimal.Number
import Stencil.Decimal.Shortest
import Stencil.Declaration.Basic
import Stencil.Declaration.Decode
import Stencil.Description.Basic
import Stencil.Description.Exposed
import Stencil.Description.Extract
import Stencil.Document.Basic
import Stencil.Document.Reader
import Stencil.Error
import Stencil.Formatter
import Stencil.Generator.Basic
import Stencil.Generator.Stages
import Stencil.Host.Basic
import Stencil.Host.FileTree
import Stencil.Host.Path
import Stencil.Literal.CharacterName
import Stencil.Literal.CharacterName.Aliases
import Stencil.Literal.CharacterName.Alphabets
import Stencil.Literal.CharacterName.Ancient
import Stencil.Literal.CharacterName.Block
import Stencil.Literal.CharacterName.Cuneiform
import Stencil.Literal.CharacterName.EastAsia
import Stencil.Literal.CharacterName.Hieroglyphs
import Stencil.Literal.CharacterName.Notations
import Stencil.Literal.CharacterName.Pictures
import Stencil.Literal.CharacterName.SouthAsia
import Stencil.Literal.CharacterName.Syllables
import Stencil.Literal.CharacterName.Symbols
import Stencil.Literal.Display
import Stencil.Literal.Escape
import Stencil.Literal.GoString
import Stencil.Main
import Stencil.Pairs
import Stencil.Proofs.Checker.Failures
import Stencil.Proofs.Checker.Noise
import Stencil.Proofs.Declaration.Decoding
import Stencil.Proofs.Declaration.Nulls
import Stencil.Proofs.Declaration.Printing
import Stencil.Proofs.Declaration.Schema
import Stencil.Proofs.Description.Extraction
import Stencil.Proofs.Description.Faithful
import Stencil.Proofs.Description.Fields
import Stencil.Proofs.Document.Writing
import Stencil.Proofs.Entries.Cutting
import Stencil.Proofs.Entries.Encoding
import Stencil.Proofs.Entries.Faults
import Stencil.Proofs.Entries.Image
import Stencil.Proofs.Entries.Joining
import Stencil.Proofs.Entries.Grammar
import Stencil.Proofs.Literal.Agreement
import Stencil.Proofs.Literal.Escape
import Stencil.Proofs.Literal.GoString
import Stencil.Proofs.Literal.Quoting
import Stencil.Proofs.Literal.Safety
import Stencil.Proofs.Outcome
import Stencil.Proofs.Pairs
import Stencil.Proofs.Source.Declared
import Stencil.Proofs.Source.Directive
import Stencil.Proofs.Source.Module
import Stencil.Proofs.Span
import Stencil.Proofs.StructTag.Get
import Stencil.Proofs.StructTag.Quoting
import Stencil.Proofs.StructTag.Scan
import Stencil.Proofs.StructTag.Segments
import Stencil.Proofs.Text.Blank
import Stencil.Proofs.Text.Hexadecimal
import Stencil.Proofs.Text.LineEnds
import Stencil.Proofs.Text.Printable
import Stencil.Proofs.Text.Utf8
import Stencil.Run
import Stencil.Settings
import Stencil.Source.Module
import Stencil.Tag.Entries
import Stencil.Tag.StructTag
import Stencil.Template.Argument
import Stencil.Template.Arithmetic
import Stencil.Template.Attribute
import Stencil.Template.Check
import Stencil.Template.Compare
import Stencil.Template.Containers
import Stencil.Template.Evaluate
import Stencil.Template.Filter
import Stencil.Template.Format.Braces
import Stencil.Template.Format.Percent
import Stencil.Template.Format.Style
import Stencil.Template.Gather
import Stencil.Template.Limits
import Stencil.Template.Loop
import Stencil.Template.Number
import Stencil.Template.Reader
import Stencil.Template.Render
import Stencil.Template.Sequence
import Stencil.Template.Show
import Stencil.Template.Test
import Stencil.Template.TextMethods
import Stencil.Template.Token
import Stencil.Template.Tree
import Stencil.Template.Value
import Stencil.Text.Basic
import Stencil.Text.Blank
import Stencil.Text.Casing
import Stencil.Text.Layout
import Stencil.Text.Letter
import Stencil.Text.Printable
import Stencil.Text.Runs
import Stencil.Text.Search
import Stencil.Text.Utf8
import Stencil.Proofs.Host.Writing
import Stencil.Proofs.Host.Programs
import Stencil.Proofs.Generator.Sink
import Stencil.Proofs.Generator.Run
import Stencil.Proofs.Generator.Failure
import Stencil.Proofs.Generator.Composition
import Stencil.Proofs.Generator.Delivery
import Stencil.Proofs.Generator.History
import Stencil.Proofs.Generator.Memory
import Stencil.Proofs.CommandLine.Reading
import Stencil.Proofs.CommandLine.Exit
import Stencil.Proofs.Template.Demand
import Stencil.Proofs.Template.Account
import Stencil.Proofs.Template.Channel
import Stencil.Proofs.Template.Scanning
import Stencil.Proofs.Template.Reading
import Stencil.Proofs.Template.Interpolation
import Stencil.Example.Templates
import Stencil.Proofs.Host.Path
import Stencil.Proofs.Source.Nearest
import Stencil.Proofs.Generator.Reporting
import Stencil.Proofs.Description.Exposure
import Stencil.Proofs.Template.Keeping
import Stencil.Proofs.Template.Evaluation
import Stencil.Proofs.Template.Rounds
import Stencil.Proofs.Example.Mock.Reading
import Stencil.Proofs.Example.Mock
import Stencil.Proofs.Example.Getter
