import CommandCompiler.Text.Blank
import CommandCompiler.Text.Utf8
import CommandCompiler.Text.Newline
import CommandCompiler.Text.Quoted
import CommandCompiler.Decimal.Shortest
import CommandCompiler.Decimal.Reading
import CommandCompiler.Value.Display
import CommandCompiler.TypeRef.Parser
import CommandCompiler.TypeRef.Descent
import CommandCompiler.TypeRef.Object
import CommandCompiler.Schema.Document
import CommandCompiler.Signature
import CommandCompiler.SchemaError
import CommandCompiler.Binding
import CommandCompiler.Compiled
import CommandCompiler.Lint
import CommandCompiler.Json.Parser
import CommandCompiler.Json.Printer
import CommandCompiler.Artifact
import CommandCompiler.Plugin
import CommandCompiler.Instance
import CommandCompiler.Yaml.Token
import CommandCompiler.Yaml.Token.Quoted
import CommandCompiler.Yaml.Token.Plain
import CommandCompiler.Yaml.Token.Block
import CommandCompiler.Yaml.Token.Lexer
import CommandCompiler.Yaml.Node.Parser
import CommandCompiler.Decimal.Numeral
import CommandCompiler.SchemaFile
import CommandCompiler.FileSystem.Tree
import CommandCompiler.Cli
import CommandCompiler.Main
import CommandCompiler.Proofs.Text
import CommandCompiler.Proofs.TypeTokens
import CommandCompiler.Proofs.TypeGrammar
import CommandCompiler.Proofs.TypeText
import CommandCompiler.Proofs.Slots
import CommandCompiler.Proofs.WellFormed
import CommandCompiler.Proofs.Alignment
import CommandCompiler.Proofs.Construction
import CommandCompiler.Proofs.Dispatch
import CommandCompiler.Proofs.Documentation
import CommandCompiler.Proofs.Conformance
import CommandCompiler.Proofs.RoundTrip
import CommandCompiler.Proofs.JsonLiteral
import CommandCompiler.Proofs.JsonDocument
import CommandCompiler.Proofs.ArtifactText
import CommandCompiler.Proofs.DispatchTable
import CommandCompiler.Proofs.Regularity
import CommandCompiler.Proofs.Rearrangement
import CommandCompiler.Proofs.Decoding
import CommandCompiler.Proofs.TypeObject
import CommandCompiler.Proofs.DocumentLayout
import CommandCompiler.Proofs.Loading
import CommandCompiler.Proofs.ErrorText
import CommandCompiler.Proofs.Diagnostics
import CommandCompiler.Proofs.Literals
import CommandCompiler.Proofs.Refusal
import CommandCompiler.Proofs.JsonScalar
import CommandCompiler.Proofs.JsonGrammar
import CommandCompiler.Proofs.ArtifactFormat
import CommandCompiler.Proofs.ShortNames
import CommandCompiler.Proofs.Noninterference
import CommandCompiler.Proofs.Extension
import CommandCompiler.Proofs.ClassNames
import CommandCompiler.Proofs.Advice
import CommandCompiler.Proofs.NormalForm
import CommandCompiler.Proofs.TypeSpelling
import CommandCompiler.Proofs.TwoDecodings
import CommandCompiler.Proofs.Respelling
import CommandCompiler.Proofs.Identification
import CommandCompiler.Proofs.TypeRuns
import CommandCompiler.Proofs.ArtifactCharacters
import CommandCompiler.Proofs.TypeForms
import CommandCompiler.Proofs.Checking
import CommandCompiler.Proofs.TypeDepth
import CommandCompiler.Proofs.TypeDescent
