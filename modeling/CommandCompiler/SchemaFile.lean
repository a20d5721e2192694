import CommandCompiler.FileSystem
import CommandCompiler.Schema.Document
import CommandCompiler.Yaml.Document
/-!
# CommandCompiler.SchemaFile

Schemas as the files that people write.

* `DocumentError`, `SchemaFileError`, `RawFault`, `LoadError` : why there is no
  schema;
* `LibraryWords`, `SchemaFileError.message` : the report, which names the file;
* `Schema.parse`, `Schema.load` : the schema of a text and of a file.

A text without a document is a schema without commands.
-/

namespace CommandCompiler

/-- Why the data of a document is no schema. -/
inductive DocumentError
  /-- The document is something other than a mapping. -/
  | notAMapping
  /-- The mapping does not have the layout of a schema. -/
  | layout (issues : List Issue)
  deriving Repr, DecidableEq

/-- Why a file is no schema file. An error in its text comes with the text. -/
inductive SchemaFileError
  | notFound
  | unreadable (e : FileError)
  | yaml (level : Yaml.Level) (text : String)
  | document (e : DocumentError) (text : String)
  deriving Repr, DecidableEq

/-- A fault below the level of documents. It is told by itself. -/
inductive RawFault
  /-- A scalar that is not what its tag says. -/
  | scalar (fault : Yaml.ScalarFault)
  /-- Bytes that are not UTF-8. -/
  | encoding (e : Text.Utf8.DecodeError)
  /-- A text that UTF-8 cannot spell. -/
  | unspellable (e : Text.Utf8.EncodeError)
  /-- An operation on a file that failed. -/
  | file (e : FileError)
  deriving Repr, DecidableEq

/-- The wording of a fault. -/
def RawFault.message : RawFault → String
  | scalar fault => fault.message
  | encoding e => e.message
  | unspellable e => e.message
  | file e => e.message

/-- Why there is no schema in a text or a file. -/
inductive LoadError
  | file (e : SchemaFileError)
  | raw (fault : RawFault)
  deriving Repr, DecidableEq

/-- The words of the libraries that read documents and check their layout, which end the report on
a text. -/
structure LibraryWords where
  /-- What is wrong with a text that is no document. -/
  yaml : Yaml.Level → String → String
  /-- Where in a text the layout is not the one of a schema: further lines, after the one that
  counts the issues. -/
  layout : List Issue → String → String

/-- The report on a file under the name `label`. -/
def SchemaFileError.message (words : LibraryWords) (label : String) : SchemaFileError → String
  | notFound => s!"Schema file not found: {label}"
  | unreadable e => s!"Cannot read schema file '{label}': {e.message}"
  | yaml level text => s!"Invalid YAML in {label}: {words.yaml level text}"
  | document .notAMapping _ => s!"{label}: schema file must be a YAML mapping"
  | document (.layout issues) text =>
    let count := issues.length
    let noun := if count = 1 then "error" else "errors"
    s!"Invalid schema file {label}: {count} validation {noun} for CommandSchema" ++
      words.layout issues text

/-- The schema in the data of a document. -/
def Schema.ofDocument : Value → Except DocumentError Schema
  | .null => .ok ⟨[]⟩
  | .mapping entries number =>
    match Schema.ofValue (.mapping entries number) with
    | .pass s => .ok s
    | .fail issues => .error (.layout issues)
  | _ => .error .notAMapping

/-- The schema of a text. -/
def Schema.parse (text : String) : Except LoadError Schema :=
  match Yaml.load text with
  | .error (.document level) => .error (.file (.yaml level text))
  | .error (.scalar fault) => .error (.raw (.scalar fault))
  | .ok v => (Schema.ofDocument v).mapError fun e => .file (.document e text)

/-- The schema of a file. -/
def Schema.load {m : Type → Type} [Monad m] (fs : FileSystem m) (path : Path) :
    m (Except LoadError Schema) := do
  match ← fs.readText path with
  | .error (.file (.refused .notFound _)) => return .error (.file .notFound)
  | .error (.file (.refused fault path)) =>
    return .error (.file (.unreadable (.refused fault path)))
  | .error (.file e) => return .error (.raw (.file e))
  | .error (.encoding e) => return .error (.raw (.encoding e))
  | .ok text => return Schema.parse text

end CommandCompiler
