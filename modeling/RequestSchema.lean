import RequestSchema.Cli.Access
import RequestSchema.Cli.Arguments
import RequestSchema.Cli.Run
import RequestSchema.Cli.Session
import RequestSchema.Cli.Suggestion
import RequestSchema.Cli.Usage
import RequestSchema.Conversion.Assembly
import RequestSchema.Conversion.Fault
import RequestSchema.Conversion.Mapping
import RequestSchema.Conversion.Operation
import RequestSchema.Conversion.Record
import RequestSchema.Conversion.Report
import RequestSchema.Conversion.Warning
import RequestSchema.Description.Declared
import RequestSchema.Description.Indexed
import RequestSchema.Description.Name
import RequestSchema.Description.TypeRef
import RequestSchema.Encoding.ByteTable
import RequestSchema.Encoding.ByteTable.Ebcdic
import RequestSchema.Encoding.ByteTable.Iso
import RequestSchema.Encoding.ByteTable.Mac
import RequestSchema.Encoding.ByteTable.Pc
import RequestSchema.Encoding.ByteTable.Windows
import RequestSchema.Encoding.Chinese
import RequestSchema.Encoding.CodeTable
import RequestSchema.Encoding.CodeTable.Big5
import RequestSchema.Encoding.CodeTable.Gb2312
import RequestSchema.Encoding.CodeTable.Gbk
import RequestSchema.Encoding.CodeTable.HongKong
import RequestSchema.Encoding.CodeTable.JisX0208
import RequestSchema.Encoding.CodeTable.JisX0212
import RequestSchema.Encoding.CodeTable.JisX0213
import RequestSchema.Encoding.CodeTable.KsX1001
import RequestSchema.Encoding.CodeTable.WindowsJapanese
import RequestSchema.Encoding.DecodingError
import RequestSchema.Encoding.Detect
import RequestSchema.Encoding.Escaped
import RequestSchema.Encoding.Japanese
import RequestSchema.Encoding.Korean
import RequestSchema.Encoding.Named
import RequestSchema.Encoding.Punycode
import RequestSchema.Encoding.Switched
import RequestSchema.Encoding.TextEncoding
import RequestSchema.Encoding.Unicode
import RequestSchema.Encoding.Utf7
import RequestSchema.Encoding.Utf8
import RequestSchema.Encoding.Wide
import RequestSchema.Files
import RequestSchema.Http.Endpoint
import RequestSchema.Http.Percent
import RequestSchema.Http.Route
import RequestSchema.Http.Target
import RequestSchema.Json.Basic
import RequestSchema.Json.Display
import RequestSchema.Json.Parser
import RequestSchema.Json.Portable
import RequestSchema.Json.Printer
import RequestSchema.Json.ReadError
import RequestSchema.Keyed
import RequestSchema.Log.Entry
import RequestSchema.Log.Level
import RequestSchema.Log.Line
import RequestSchema.Main
import RequestSchema.Number.Binary64
import RequestSchema.Number.Layout
import RequestSchema.Number.Shortest
import RequestSchema.Number.Word
import RequestSchema.Path
import RequestSchema.Pattern.Basic
import RequestSchema.Pattern.Match
import RequestSchema.Pattern.Memory
import RequestSchema.Pattern.Parser
import RequestSchema.Plural
import RequestSchema.Proofs.Acceptance
import RequestSchema.Proofs.Answers
import RequestSchema.Proofs.AssemblyNotes
import RequestSchema.Proofs.BodyLimit
import RequestSchema.Proofs.Bookkeeping
import RequestSchema.Proofs.Branches
import RequestSchema.Proofs.CollectionSyntax
import RequestSchema.Proofs.ConversionOutputs
import RequestSchema.Proofs.DeclaredNames
import RequestSchema.Proofs.FirstOffence
import RequestSchema.Proofs.FloatRounding
import RequestSchema.Proofs.FragmentParts
import RequestSchema.Proofs.FrontEnds
import RequestSchema.Proofs.IndexedNames
import RequestSchema.Proofs.JoinedPaths
import RequestSchema.Proofs.JsonParts
import RequestSchema.Proofs.KeptFiles
import RequestSchema.Proofs.LateDeclarations
import RequestSchema.Proofs.LayeredSettings
import RequestSchema.Proofs.LineBreaks
import RequestSchema.Proofs.LoadedSettings
import RequestSchema.Proofs.LoggedReports
import RequestSchema.Proofs.MergedValues
import RequestSchema.Proofs.NestingDepth
import RequestSchema.Proofs.NormalPaths
import RequestSchema.Proofs.Notes
import RequestSchema.Proofs.ParametersAsFields
import RequestSchema.Proofs.PlainText
import RequestSchema.Proofs.Pointers
import RequestSchema.Proofs.PrintedDigits
import RequestSchema.Proofs.PrintedFloats
import RequestSchema.Proofs.PrintedNumbers
import RequestSchema.Proofs.PrintedStrings
import RequestSchema.Proofs.PrintedValues
import RequestSchema.Proofs.PrintingRuns
import RequestSchema.Proofs.ProgramRuns
import RequestSchema.Proofs.ReachedNames
import RequestSchema.Proofs.ReadValues
import RequestSchema.Proofs.References
import RequestSchema.Proofs.Reordering
import RequestSchema.Proofs.Resolution
import RequestSchema.Proofs.SchemaText
import RequestSchema.Proofs.SentSchema
import RequestSchema.Proofs.ServedSettings
import RequestSchema.Proofs.ShownSettings
import RequestSchema.Proofs.SoundSchemas
import RequestSchema.Proofs.SoundSources
import RequestSchema.Proofs.StandingItems
import RequestSchema.Proofs.StrictMode
import RequestSchema.Proofs.TypeGrammar
import RequestSchema.Proofs.TypeHeights
import RequestSchema.Proofs.TypeLayers
import RequestSchema.Proofs.WarningOrder
import RequestSchema.Proofs.WinningItems
import RequestSchema.Proofs.WrittenText
import RequestSchema.Recording
import RequestSchema.Schema.Branch
import RequestSchema.Schema.Fragment
import RequestSchema.Settings.Basic
import RequestSchema.Settings.DotEnv
import RequestSchema.Settings.FileArguments
import RequestSchema.Settings.HomeFolder
import RequestSchema.Settings.Loading
import RequestSchema.Settings.LookupOptions
import RequestSchema.Settings.Problem
import RequestSchema.Settings.Source
import RequestSchema.Settings.Validation
import RequestSchema.Settings.WholeNumber
import RequestSchema.Text.CodePoint
import RequestSchema.Text.ControlSequence
import RequestSchema.Text.Digit
import RequestSchema.Text.Edges
import RequestSchema.Text.Identifier
import RequestSchema.Text.LetterCase
import RequestSchema.Text.Numeral
import RequestSchema.Text.Printable
import RequestSchema.Text.Word
