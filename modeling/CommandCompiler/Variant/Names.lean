import CommandCompiler.SchemaError
import CommandCompiler.Text.Blank
import CommandCompiler.Text.Identifier
/-!
# CommandCompiler.Variant.Names

The rules for names in a command: its own, the one of its class, those of its
fields and their short forms. Each rule gives the list of its violations.

* `Variant.properName?`, `Variant.label` : the name of a command without
  surrounding blanks, and how errors refer to it;
* `classNameOf` : the class name that a command name suggests;
* `commandNameErrors`, `classNameErrors`, `fieldNameErrors`, `shortErrors` : the
  violations.
-/

namespace CommandCompiler

/-- The name of a command without surrounding blanks; a blank name is none. -/
def Variant.properName? (v : Variant) : Option String :=
  match v.name with
  | none => none
  | some name => if Text.trim name = "" then none else some (Text.trim name)

/-- How errors refer to the command at a position. -/
def Variant.label (v : Variant) (position : Int) : CommandLabel :=
  match v.properName? with
  | some name => .named name
  | none => .unnamed position

/-- The ASCII letters and digits of a text, with the first one of every run as a capital. -/
def capitalizeRuns : (atStart : Bool) → List Char → List Char
  | _, [] => []
  | atStart, c :: cs =>
    if c.isAlphanum then (if atStart then c.toUpper else c) :: capitalizeRuns false cs
    else capitalizeRuns true cs

/-- The class name that a command name suggests. -/
def classNameOf (command : String) : String :=
  match capitalizeRuns true command.toList with
  | [] => "Command"
  | c :: cs => if c.isDigit then "Command" ++ .ofList (c :: cs) else .ofList (c :: cs)

/-- Whether a name has occurred exactly once before, so that this is its second occurrence. -/
def isSecond (before : List String) (name : String) : Bool := before.count name == 1

/-- A command must have a name that is not blank. -/
def commandNameErrors (v : Variant) (position : Int) : List SchemaError :=
  match v.properName? with
  | some _ => []
  | none => [.missingCommandName position]

/-- A class name that is given must be a name. -/
def classNameErrors (c : CommandLabel) (v : Variant) : List SchemaError :=
  match v.className with
  | none => []
  | some className => if Text.isName className then [] else [.invalidClassName c className]

/-- What every command value already has under these names. -/
def reservedNames : List String :=
  ["command_name", "construct", "copy", "dict", "from_orm", "json", "mro", "parse_file",
   "parse_obj", "parse_raw", "register", "schema", "schema_json", "update_forward_refs",
   "validate"]

/-- Whether a field may not have this name, although it is one. -/
def isReserved (name : String) : Bool :=
  "model_".toList.isPrefixOf name.toList || reservedNames.contains name

/-- Whether a field may have this name, unless it is reserved. -/
def isFieldName (name : String) : Bool := Text.isName name && name.toList.head? != some '_'

/-- The violations of one field's name on its own. -/
def fieldNameFaults (c : CommandLabel) (name : String) : List SchemaError :=
  if !isFieldName name then [.invalidFieldName c name]
  else if isReserved name then [.reservedFieldName c name]
  else []

/-- Field names must differ from one another, be names, and not be reserved. A name that occurs
several times is reported where it occurs for the second time. `before` holds the names of the
fields before these. -/
def fieldNameErrors (c : CommandLabel) (before : List String) : List Field → List SchemaError
  | [] => []
  | f :: fs =>
    (if isSecond before f.name then [.duplicateField c f.name] else []) ++
    fieldNameFaults c f.name ++ fieldNameErrors c (f.name :: before) fs

/-- A short name is one ASCII letter or digit. -/
def isShort (short : String) : Bool :=
  match short.toList with
  | [c] => c.isAlphanum
  | _ => false

/-- Only flags have short names, each of the right form and different from the others. `taken`
holds the well-formed short names of the flags before these. A field without any role is told so
elsewhere and counts as a flag here. -/
def shortErrors (c : CommandLabel) (taken : List String) : List Field → List SchemaError
  | [] => []
  | f :: fs =>
    match f.short with
    | none => shortErrors c taken fs
    | some short =>
      if f.roles ≠ [] ∧ Role.effective? f.roles ≠ some .flag then
        .shortWithoutFlag c f.name :: shortErrors c taken fs
      else if !isShort short then
        .malformedShort c f.name short :: shortErrors c taken fs
      else
        (if short ∈ taken then [.repeatedShort c f.name short] else []) ++
        shortErrors c (short :: taken) fs

end CommandCompiler
