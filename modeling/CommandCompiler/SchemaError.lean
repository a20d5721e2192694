import CommandCompiler.Argument
/-!
# CommandCompiler.SchemaError

Errors in a schema that has the right layout: what keeps it from being compiled.

* `CommandLabel` : how an error says which command it is about;
* `SchemaError` : the errors, by their causes;
* `SchemaError.kind`, `message`, `command?`, `field?` : what an error tells.
-/

namespace CommandCompiler

/-- A command as errors refer to it: by its name, or, if it has none, by its position. -/
inductive CommandLabel
  | named (name : String)
  | unnamed (position : Int)
  deriving Repr, DecidableEq

namespace CommandLabel

/-- The label in a sentence. -/
def text : CommandLabel → String
  | named name => s!"command '{name}'"
  | unnamed position => s!"command #{position}"

/-- The name of the command, if it has one. -/
def name? : CommandLabel → Option String
  | named name => some name
  | unnamed _ => none

end CommandLabel

/-- The categories of errors. -/
inductive SchemaErrorKind
  | unsupportedType
  | roleTypeMismatch
  | missingRole
  | ordering
  | missingCommandName
  | duplicateCommandName
  | duplicateField
  | invalidFieldName
  | invalidClassName
  | invalidShortFlag
  deriving Repr, DecidableEq

/-- The word for a category. -/
def SchemaErrorKind.tag : SchemaErrorKind → String
  | unsupportedType => "unsupported-type"
  | roleTypeMismatch => "role-type-mismatch"
  | missingRole => "missing-role"
  | ordering => "ordering"
  | missingCommandName => "missing-command-name"
  | duplicateCommandName => "duplicate-command-name"
  | duplicateField => "duplicate-field"
  | invalidFieldName => "invalid-field-name"
  | invalidClassName => "invalid-class-name"
  | invalidShortFlag => "invalid-short-flag"

/-- The category of a field that is no argument. -/
def Unclassified.kind : Unclassified → SchemaErrorKind
  | missingRole => .missingRole
  | unsupportedType _ => .unsupportedType
  | requiredWrapped | optionalBare | flagBare => .roleTypeMismatch

/-- The rest of the sentence that starts with the field. -/
def Unclassified.text : Unclassified → String
  | missingRole => "is missing a role tag"
  | unsupportedType t => s!"has unsupported argument type '{t.format}'"
  | requiredWrapped => "is required and must not be optional-wrapped"
  | optionalBare => "is optional and must be optional-wrapped"
  | flagBare => "is a flag and must be Bool or optional-wrapped"

/-- An error in a schema. -/
inductive SchemaError
  | missingCommandName (position : Int)
  | invalidClassName (command : CommandLabel) (className : String)
  | duplicateField (command : CommandLabel) (field : String)
  /-- The name of the field is no identifier, is a keyword, or starts with an underscore. -/
  | invalidFieldName (command : CommandLabel) (field : String)
  /-- The name of the field means something else in every command value. -/
  | reservedFieldName (command : CommandLabel) (field : String)
  | shortWithoutFlag (command : CommandLabel) (field : String)
  | malformedShort (command : CommandLabel) (field short : String)
  | repeatedShort (command : CommandLabel) (field short : String)
  /-- The field is no argument of any kind. -/
  | unclassified (command : Option String) (field : String) (cause : Unclassified)
  /-- A required field that comes after one that is not. -/
  | misplacedRequired (command : CommandLabel) (field : String)
  | duplicateCommandName (name : String)
  deriving Repr, DecidableEq

namespace SchemaError

/-- The category of an error. -/
def kind : SchemaError → SchemaErrorKind
  | missingCommandName _ => .missingCommandName
  | invalidClassName _ _ => .invalidClassName
  | duplicateField _ _ => .duplicateField
  | invalidFieldName _ _ | reservedFieldName _ _ => .invalidFieldName
  | shortWithoutFlag _ _ | malformedShort _ _ _ | repeatedShort _ _ _ => .invalidShortFlag
  | unclassified _ _ cause => cause.kind
  | misplacedRequired _ _ => .ordering
  | duplicateCommandName _ => .duplicateCommandName

/-- The wording of an error. -/
def message : SchemaError → String
  | missingCommandName position => s!"Command #{position} has no name"
  | invalidClassName c className =>
    s!"{c.text}: variant name '{className}' is not a valid class name"
  | duplicateField c field => s!"{c.text}: duplicate field name '{field}'"
  | invalidFieldName c field => s!"{c.text}: field name '{field}' is not a valid identifier"
  | reservedFieldName c field => s!"{c.text}: field name '{field}' is reserved"
  | shortWithoutFlag c field => s!"{c.text}: field '{field}' has a short name but is not a flag"
  | malformedShort c field short =>
    s!"{c.text}: short name '{short}' of field '{field}' must be one letter or digit"
  | repeatedShort c _ short => s!"{c.text}: short name '{short}' is used by more than one flag"
  | unclassified none field cause => s!"Field '{field}' {cause.text}"
  | unclassified (some command) field cause =>
    s!"Field '{field}' of command '{command}' {cause.text}"
  | misplacedRequired c field =>
    s!"{c.text}: required field '{field}' may not follow optional or flag arguments"
  | duplicateCommandName name => s!"Duplicate command name '{name}'"

/-- The name of the command that the error belongs to, if it has one. -/
def command? : SchemaError → Option String
  | missingCommandName _ => none
  | invalidClassName c _ | duplicateField c _ | invalidFieldName c _ | reservedFieldName c _
  | shortWithoutFlag c _ | malformedShort c _ _ | repeatedShort c _ _
  | misplacedRequired c _ => c.name?
  | unclassified command _ _ => command
  | duplicateCommandName name => some name

/-- The field that the error concerns, if it concerns one. -/
def field? : SchemaError → Option String
  | missingCommandName _ | invalidClassName _ _ | duplicateCommandName _ => none
  | duplicateField _ field | invalidFieldName _ field | reservedFieldName _ field
  | shortWithoutFlag _ field | malformedShort _ field _ | repeatedShort _ field _
  | unclassified _ field _ | misplacedRequired _ field => some field

end SchemaError

end CommandCompiler
