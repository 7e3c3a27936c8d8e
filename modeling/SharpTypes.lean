import SharpTypes.Command
import SharpTypes.Command.Arguments
import SharpTypes.Command.Check
import SharpTypes.Command.Failure
import SharpTypes.Command.Generate
import SharpTypes.Command.Init
import SharpTypes.Command.Loading
import SharpTypes.Command.Outcome
import SharpTypes.Decimal.FloatText
import SharpTypes.Decimal.Shortest
import SharpTypes.Declaration
import SharpTypes.Declaration.Printer
import SharpTypes.Discovery
import SharpTypes.FilePath
import SharpTypes.FileTree.Access
import SharpTypes.FileTree.Basic
import SharpTypes.Json.Basic
import SharpTypes.Json.Number
import SharpTypes.Json.Printer
import SharpTypes.Json.Reader
import SharpTypes.Json.Token
import SharpTypes.Main
import SharpTypes.Naming
import SharpTypes.Output.Event
import SharpTypes.Output.Index
import SharpTypes.Output.Layout
import SharpTypes.Output.ModuleSpecifier
import SharpTypes.Output.Source
import SharpTypes.Output.Timestamp
import SharpTypes.Output.Unit
import SharpTypes.Proofs.Checked.Access
import SharpTypes.Proofs.Checked.Bracket
import SharpTypes.Proofs.Checked.Comment
import SharpTypes.Proofs.Checked.Naming
import SharpTypes.Proofs.Checked.Output
import SharpTypes.Proofs.Checked.SourceText
import SharpTypes.Proofs.Checked.TypeText
import SharpTypes.Proofs.Command.Containment
import SharpTypes.Proofs.Command.Course
import SharpTypes.Proofs.Command.EarlyFailure
import SharpTypes.Proofs.Command.NothingLost
import SharpTypes.Proofs.Command.ProjectDirectory
import SharpTypes.Proofs.Command.Repetition
import SharpTypes.Proofs.Command.SourceCount
import SharpTypes.Proofs.Command.Writing
import SharpTypes.Proofs.Declaration.Line
import SharpTypes.Proofs.Declaration.NamePlace
import SharpTypes.Proofs.Declaration.Sentence
import SharpTypes.Proofs.Declaration.UniqueReading
import SharpTypes.Proofs.Discovery
import SharpTypes.Proofs.Discovery.Extent
import SharpTypes.Proofs.FilePath
import SharpTypes.Proofs.FileTree.Change
import SharpTypes.Proofs.FileTree.Following
import SharpTypes.Proofs.FileTree.Lasting
import SharpTypes.Proofs.FileTree.Soundness
import SharpTypes.Proofs.Json.ValueReading
import SharpTypes.Proofs.Json.WrittenTokens
import SharpTypes.Proofs.Naming
import SharpTypes.Proofs.Naming.Stability
import SharpTypes.Proofs.Naming.WordBoundary
import SharpTypes.Proofs.Output.Assembly
import SharpTypes.Proofs.Output.Collision
import SharpTypes.Proofs.Output.ContentBlocks
import SharpTypes.Proofs.Output.FileOrder
import SharpTypes.Proofs.Output.ImportBlock
import SharpTypes.Proofs.Output.ImportList
import SharpTypes.Proofs.Output.ImportTargets
import SharpTypes.Proofs.Output.ImportUse
import SharpTypes.Proofs.Output.Importable
import SharpTypes.Proofs.Output.Redeclaration
import SharpTypes.Proofs.Output.Relocation
import SharpTypes.Proofs.Output.SingleFile
import SharpTypes.Proofs.Output.Specifier
import SharpTypes.Proofs.Output.UnitPath
import SharpTypes.Proofs.Output.UnitPlace
import SharpTypes.Proofs.Settings.RoundTrip
import SharpTypes.Proofs.Settings.WrittenReading
import SharpTypes.Proofs.Source.Balance
import SharpTypes.Proofs.Source.BodilessReading
import SharpTypes.Proofs.Source.Closing
import SharpTypes.Proofs.Source.CommentMode
import SharpTypes.Proofs.Source.DeclarationReading
import SharpTypes.Proofs.Source.DeclaredName
import SharpTypes.Proofs.Source.HeadReading
import SharpTypes.Proofs.Source.HeaderReading
import SharpTypes.Proofs.Source.Inert
import SharpTypes.Proofs.Source.Keyword
import SharpTypes.Proofs.Source.Listing
import SharpTypes.Proofs.Source.ListingReading
import SharpTypes.Proofs.Source.LooseBracket
import SharpTypes.Proofs.Source.MarkerReading
import SharpTypes.Proofs.Source.MemberMeaning
import SharpTypes.Proofs.Source.MemberSentence
import SharpTypes.Proofs.Source.NestedTypes
import SharpTypes.Proofs.Source.NullableSpelling
import SharpTypes.Proofs.Source.PropertyReading
import SharpTypes.Proofs.Source.PropertySearch
import SharpTypes.Proofs.Source.RankedType
import SharpTypes.Proofs.Source.Remainder
import SharpTypes.Proofs.Source.ResolutionBound
import SharpTypes.Proofs.Source.Section
import SharpTypes.Proofs.Source.SectionedReading
import SharpTypes.Proofs.Source.Splitting
import SharpTypes.Proofs.Source.TypeGrammar
import SharpTypes.Proofs.Source.TypeMeaning
import SharpTypes.Proofs.Source.TypeText
import SharpTypes.Proofs.Source.WrittenName
import SharpTypes.Proofs.Text.Ascii
import SharpTypes.Proofs.Text.Blank
import SharpTypes.Proofs.Text.InOrder
import SharpTypes.Proofs.Text.Paragraph
import SharpTypes.Proofs.Text.Separator
import SharpTypes.Proofs.Text.Standing
import SharpTypes.Proofs.Text.Word
import SharpTypes.Settings.Basic
import SharpTypes.Settings.Decoding
import SharpTypes.Settings.Field
import SharpTypes.Settings.Format
import SharpTypes.Settings.Printer
import SharpTypes.Settings.Reading
import SharpTypes.Source.Bracket
import SharpTypes.Source.Comment
import SharpTypes.Source.DeclarationText
import SharpTypes.Source.Header
import SharpTypes.Source.Marker
import SharpTypes.Source.Property
import SharpTypes.Source.Resolution
import SharpTypes.Source.SourceText
import SharpTypes.Source.TypeShape
import SharpTypes.Target.Basic
import SharpTypes.Target.Printer
import SharpTypes.Text.CaseMap
import SharpTypes.Text.Cased
import SharpTypes.Text.Class
import SharpTypes.Text.Letter
import SharpTypes.Text.Mark
import SharpTypes.Text.Numeral
import SharpTypes.Text.Pieces
import SharpTypes.Text.Quoted
import SharpTypes.Text.Run
import SharpTypes.Text.Shifts
import SharpTypes.Text.Unprintable
import SharpTypes.Toml.Document
import SharpTypes.Toml.Scalar
import SharpTypes.Toml.Table
import SharpTypes.Toml.Token
