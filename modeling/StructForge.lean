import StructForge.Main
import StructForge.Proofs.CommandLine.Conversions
import StructForge.Proofs.CommandLine.Failures
import StructForge.Proofs.CommandLine.Options
import StructForge.Proofs.CommandLine.Printing
import StructForge.Proofs.CommandLine.Steps
import StructForge.Proofs.Conversion
import StructForge.Proofs.Detection.Columns
import StructForge.Proofs.Detection.Convertible
import StructForge.Proofs.Detection.Documents
import StructForge.Proofs.Detection.Markers
import StructForge.Proofs.Export
import StructForge.Proofs.Export.Placement
import StructForge.Proofs.Failures
import StructForge.Proofs.FileTree
import StructForge.Proofs.Go.Accessor
import StructForge.Proofs.Go.Alignment
import StructForge.Proofs.Go.ColumnLines
import StructForge.Proofs.Go.FieldNames
import StructForge.Proofs.Go.FileParts
import StructForge.Proofs.Go.Imports
import StructForge.Proofs.Go.InPlace
import StructForge.Proofs.Go.NameResolution
import StructForge.Proofs.Go.Outline
import StructForge.Proofs.Go.Paragraphs
import StructForge.Proofs.Go.Rows
import StructForge.Proofs.Go.SourceNames
import StructForge.Proofs.Go.TagReading
import StructForge.Proofs.Json.Continuation
import StructForge.Proofs.Json.Depth
import StructForge.Proofs.Json.Forest
import StructForge.Proofs.Json.Keys
import StructForge.Proofs.Json.Members
import StructForge.Proofs.Json.Room
import StructForge.Proofs.Json.Similarity
import StructForge.Proofs.Listing
import StructForge.Proofs.Listing.NewlineRuns
import StructForge.Proofs.Listing.Numbering
import StructForge.Proofs.Naming
import StructForge.Proofs.Naming.Identifiers
import StructForge.Proofs.Naming.Letters
import StructForge.Proofs.Naming.SnakeCase
import StructForge.Proofs.Naming.Spelling
import StructForge.Proofs.Nesting
import StructForge.Proofs.Session
import StructForge.Proofs.Settings.LoadFailures
import StructForge.Proofs.Settings.Loading
import StructForge.Proofs.Settings.Merging
import StructForge.Proofs.Settings.Precedence
import StructForge.Proofs.Sql.ArraySuffixes
import StructForge.Proofs.Sql.ArrayTypes
import StructForge.Proofs.Sql.ColumnReading
import StructForge.Proofs.Sql.ColumnStops
import StructForge.Proofs.Sql.Comments
import StructForge.Proofs.Sql.ContinuedLines
import StructForge.Proofs.Sql.Cuts
import StructForge.Proofs.Sql.Declarations
import StructForge.Proofs.Sql.FieldInvariants
import StructForge.Proofs.Sql.Fields
import StructForge.Proofs.Sql.Joining
import StructForge.Proofs.Sql.Layouts
import StructForge.Proofs.Sql.LineEndCuts
import StructForge.Proofs.Sql.LineEnds
import StructForge.Proofs.Sql.Literals
import StructForge.Proofs.Sql.NormalForms
import StructForge.Proofs.Sql.Options
import StructForge.Proofs.Sql.Preambles
import StructForge.Proofs.Sql.QuotedNames
import StructForge.Proofs.Sql.RoundTrip
import StructForge.Proofs.Sql.SingleColumns
import StructForge.Proofs.Sql.SpacedTypes
import StructForge.Proofs.Sql.Splitting
import StructForge.Proofs.Sql.Statements
import StructForge.Proofs.Sql.TableNames
import StructForge.Proofs.Sql.TypeEnds
import StructForge.Proofs.Sql.TypeLookup
import StructForge.Proofs.Sql.TypeTable
import StructForge.Proofs.Text.Lines
import StructForge.Proofs.Text.Output
import StructForge.Proofs.Text.Phrases
import StructForge.Proofs.Text.Readers
import StructForge.Proofs.Text.Returns
import StructForge.Proofs.Text.Trimming
import StructForge.Proofs.Text.UpperCase
import StructForge.Proofs.Toml.Keys
