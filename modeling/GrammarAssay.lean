import GrammarAssay.Assay
import GrammarAssay.Catalogue
import GrammarAssay.Catalogue.Tables.CSharp
import GrammarAssay.Catalogue.Tables.Css
import GrammarAssay.Catalogue.Tables.Go
import GrammarAssay.Catalogue.Tables.Html
import GrammarAssay.Catalogue.Tables.Java
import GrammarAssay.Catalogue.Tables.JavaScript
import GrammarAssay.Catalogue.Tables.Kotlin
import GrammarAssay.Catalogue.Tables.Python
import GrammarAssay.Catalogue.Tables.Rust
import GrammarAssay.Catalogue.Tables.Swift
import GrammarAssay.Catalogue.Tables.Tsx
import GrammarAssay.Catalogue.Tables.TypeScript
import GrammarAssay.Decimal.Binary64
import GrammarAssay.Decimal.Shortest
import GrammarAssay.Fault
import GrammarAssay.FileTree
import GrammarAssay.FileTree.Change
import GrammarAssay.FileTree.Resolve
import GrammarAssay.Fraction
import GrammarAssay.Fraction.Format
import GrammarAssay.Fraction.Text
import GrammarAssay.Handle
import GrammarAssay.Json
import GrammarAssay.Json.Expect
import GrammarAssay.Json.Parser
import GrammarAssay.Json.Printer
import GrammarAssay.Json.RoundTrip
import GrammarAssay.Json.Shape
import GrammarAssay.Language
import GrammarAssay.Language.Layout
import GrammarAssay.Language.Source
import GrammarAssay.Language.Table
import GrammarAssay.Library
import GrammarAssay.Library.Description
import GrammarAssay.Library.Image
import GrammarAssay.Library.Image.Fault
import GrammarAssay.Library.Image.Header
import GrammarAssay.Library.Image.LinkTable
import GrammarAssay.Library.Image.Mapping
import GrammarAssay.Library.Image.Relocation
import GrammarAssay.Library.Image.Segment
import GrammarAssay.Library.Image.SymbolTable
import GrammarAssay.Library.Open
import GrammarAssay.Linker
import GrammarAssay.Linker.Call
import GrammarAssay.Linker.Directories
import GrammarAssay.Linker.Fetch
import GrammarAssay.Linker.Load
import GrammarAssay.Linker.Needs
import GrammarAssay.Linker.OpenFile
import GrammarAssay.Linker.Release
import GrammarAssay.Linker.Relocation
import GrammarAssay.Loader
import GrammarAssay.Main
import GrammarAssay.Memory
import GrammarAssay.Origin
import GrammarAssay.Parser
import GrammarAssay.Parser.Lexer
import GrammarAssay.Parser.Recovery
import GrammarAssay.Parser.Reduction
import GrammarAssay.Parser.Run
import GrammarAssay.Parser.Stack
import GrammarAssay.Parser.Table
import GrammarAssay.Parser.Token
import GrammarAssay.Parser.Tree
import GrammarAssay.Path
import GrammarAssay.Path.Join
import GrammarAssay.Path.Placeholder
import GrammarAssay.Platform
import GrammarAssay.Platform.ErrorText
import GrammarAssay.Platform.Function
import GrammarAssay.Platform.Function.Character
import GrammarAssay.Platform.Function.Memory
import GrammarAssay.Platform.Function.Number
import GrammarAssay.Platform.Function.Printing
import GrammarAssay.Platform.Function.Scanning
import GrammarAssay.Platform.Function.Sorting
import GrammarAssay.Platform.Function.Store
import GrammarAssay.Platform.Function.Supply
import GrammarAssay.Platform.Function.Text
import GrammarAssay.Platform.Function.Wide
import GrammarAssay.Platform.Names
import GrammarAssay.Platform.Pattern
import GrammarAssay.Platform.Template
import GrammarAssay.Processor
import GrammarAssay.Processor.Arithmetic
import GrammarAssay.Processor.Call
import GrammarAssay.Processor.Cipher
import GrammarAssay.Processor.Digest
import GrammarAssay.Processor.Flags
import GrammarAssay.Processor.FractionStack
import GrammarAssay.Processor.Instruction
import GrammarAssay.Processor.Instruction.Fractions
import GrammarAssay.Processor.Instruction.Integer
import GrammarAssay.Processor.Instruction.LaterVectors
import GrammarAssay.Processor.Instruction.Strings
import GrammarAssay.Processor.Instruction.VectorFractions
import GrammarAssay.Processor.Instruction.Vectors
import GrammarAssay.Processor.Instruction.WideVectors
import GrammarAssay.Processor.Operand
import GrammarAssay.Processor.TextMatch
import GrammarAssay.Processor.Vector
import GrammarAssay.Profile
import GrammarAssay.Profile.Scribl
import GrammarAssay.Proofs.Assay.Growth
import GrammarAssay.Proofs.Assay.Repeat
import GrammarAssay.Proofs.Assay.Report
import GrammarAssay.Proofs.Assay.Scribl
import GrammarAssay.Proofs.Assay.Violation
import GrammarAssay.Proofs.Catalogue.Lookup
import GrammarAssay.Proofs.Fault.Message
import GrammarAssay.Proofs.FileTree.Walk
import GrammarAssay.Proofs.Language.Generated
import GrammarAssay.Proofs.Language.Lookup
import GrammarAssay.Proofs.Library.EntrySymbol
import GrammarAssay.Proofs.Library.FileName
import GrammarAssay.Proofs.Library.LibraryPath
import GrammarAssay.Proofs.Library.Spelling
import GrammarAssay.Proofs.Linker.Alone
import GrammarAssay.Proofs.Linker.Described
import GrammarAssay.Proofs.Linker.Growth
import GrammarAssay.Proofs.Linker.Idle
import GrammarAssay.Proofs.Linker.Loading
import GrammarAssay.Proofs.Linker.Permanent
import GrammarAssay.Proofs.Memory.Holding
import GrammarAssay.Proofs.Memory.Reading
import GrammarAssay.Proofs.Opening
import GrammarAssay.Proofs.Path.Display
import GrammarAssay.Proofs.Profile
import GrammarAssay.Proofs.Profile.Acceptance
import GrammarAssay.Proofs.Profile.FirstMiss
import GrammarAssay.Proofs.Report.Fields
import GrammarAssay.Proofs.Report.RoundTrip
import GrammarAssay.Proofs.Report.Shape
import GrammarAssay.Proofs.Search.Listing
import GrammarAssay.Proofs.Search.Locate
import GrammarAssay.Proofs.Search.Precedence
import GrammarAssay.Proofs.Server.Session
import GrammarAssay.Proofs.Server.ToolCall
import GrammarAssay.Proofs.Settings.SearchPaths
import GrammarAssay.Proofs.Text.LowerCase
import GrammarAssay.Proofs.Text.Trim
import GrammarAssay.Proofs.Tool.Arguments
import GrammarAssay.Proofs.Tool.ListedLibrary
import GrammarAssay.Proofs.Tool.Listing
import GrammarAssay.Proofs.Tool.LocatedPath
import GrammarAssay.Proofs.Tool.Refusal
import GrammarAssay.Proofs.Workspace.Handles
import GrammarAssay.Proofs.Workspace.Static
import GrammarAssay.Proofs.Workspace.Steps
import GrammarAssay.Report
import GrammarAssay.Report.Decode
import GrammarAssay.Search
import GrammarAssay.Server
import GrammarAssay.Server.Request
import GrammarAssay.Settings
import GrammarAssay.Text.Blank
import GrammarAssay.Text.Casing
import GrammarAssay.Text.Casing.Table
import GrammarAssay.Text.Digits
import GrammarAssay.Text.Quoted
import GrammarAssay.Text.Quoted.Table
import GrammarAssay.Text.Utf8
import GrammarAssay.Text.Utf8.RoundTrip
import GrammarAssay.Text.Words
import GrammarAssay.Tool
import GrammarAssay.Tool.Listing
import GrammarAssay.Tool.Verify
import GrammarAssay.Workspace
