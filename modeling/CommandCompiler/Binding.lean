import CommandCompiler.Keyed
import CommandCompiler.Reader
import CommandCompiler.Value.Decode
/-!
# CommandCompiler.Binding

Typed command values: what kind of value a command has, and how a call is turned
into one.

* `ModelField`, `CommandModel` : the fields of a kind of command value;
* `Command` : a command value;
* `CommandModel.construct` : a value from loosely typed field values;
* `Binding`, `Binding.bind`, `BindError` : a value from a call, and why there is
  none.

Fields are known by their names, both where a kind of value is put together from
readers and where a value is put together from what they read: of two readers of
one field only one would be heard.
-/

namespace CommandCompiler

/-- One field of a kind of command value. A field without a default must be given. -/
structure ModelField where
  name : String
  type : ArgType
  nullable : Bool
  default : Option FieldValue
  deriving Repr, DecidableEq

/-- A kind of command value. -/
structure CommandModel where
  className : String
  command : String
  doc : Option String := none
  fields : List ModelField
  deriving Repr, DecidableEq

/-- A command value: its kind, and its fields in order. -/
structure Command where
  className : String
  command : String
  fields : List (String × FieldValue)
  deriving Repr, DecidableEq

namespace ModelField

/-- The field that a reader fills. -/
def ofReader : Reader → ModelField
  | .requiredPositional field _ type => ⟨field, type, false, none⟩
  | .optionalPositional field _ type | .namedValue field type =>
    ⟨field, type, true, some .absent⟩
  | .switch field => ⟨field, .bool, false, some (.bool false)⟩

/-- Words for true and false. -/
def truthWords : List (String × Bool) :=
  [("0", false), ("off", false), ("f", false), ("false", false), ("n", false), ("no", false),
   ("1", true), ("on", true), ("t", true), ("true", true), ("y", true), ("yes", true)]

/-- A truth value as a word of either case. -/
def boolOfWord (s : String) : Checked FieldValue :=
  match truthWords.lookup (.ofList (s.toList.map Char.toLower)) with
  | some b => .pass (.bool b)
  | none => .issue .boolParsing

/-- A truth value as zero or one. -/
def boolOfInt (n : Int) : Checked FieldValue :=
  if n = 0 then .pass (.bool false)
  else if n = 1 then .pass (.bool true)
  else .issue .boolParsing

/-- A truth value as itself, as a word or as a number. Numbers that do not fit 64 bits are not
considered. -/
def boolOfValue : Value → Checked FieldValue
  | .bool b => .pass (.bool b)
  | .str s => if Text.hasHalf s then .issue .stringUnicode else boolOfWord s
  | .bytes bs =>
    match Text.Utf8.decode bs with
    | .ok s => boolOfWord s
    | .error _ => .issue .boolParsing
  | .int n => if Value.isIndex n then boolOfInt n else .issue .boolType
  | .float x =>
    match Value.wholeFloat? x with
    | some n =>
      if Value.leastIndex < n ∧ n ≤ Value.greatestIndex then boolOfInt n else .issue .boolType
    | none => .issue .boolType
  | _ => .issue .boolType

/-- A field value as given. -/
def decode (f : ModelField) (v : Value) : Checked FieldValue :=
  match v, f.nullable with
  | .null, true => .pass .absent
  | v, _ =>
    match f.type with
    | .string => .string <$> v.text
    | .bool => boolOfValue v

/-- The field with its value among the values given. -/
def fill (f : ModelField) (entries : List (Value × Value)) : Checked (String × FieldValue) :=
  (f.name, ·) <$>
    match f.default with
    | none => Value.member f.name f.decode entries
    | some d => Value.memberOr f.name d f.decode entries

end ModelField

namespace CommandModel

/-- The kind of value that readers fill. -/
def ofReaders (className command : String) (doc : Option String) (readers : List Reader) :
    CommandModel :=
  { className, command, doc, fields := keyedBy (·.name) (readers.map ModelField.ofReader) }

/-- Every field with its value among the values given. -/
def fillAll (entries : List (Value × Value)) :
    List ModelField → Checked (List (String × FieldValue))
  | [] => .pass []
  | f :: fs => List.cons <$> f.fill entries <*> fillAll entries fs

/-- A command value from loosely typed values, given by field names. -/
def construct (m : CommandModel) (entries : List (Value × Value)) : Checked Command :=
  if Value.hasHalfKey entries then .issue .stringUnicode
  else
    Command.mk m.className m.command <$>
      (fillAll entries m.fields <* Value.onlyKeys (m.fields.map (·.name)) entries)

end CommandModel

/-- How calls of one command become command values. -/
structure Binding where
  command : String
  model : CommandModel
  readers : List Reader
  deriving Repr, DecidableEq

/-- Why a call does not become a command value. -/
inductive BindError
  | read (e : ReadError)
  /-- The arguments can be read, but a value of the class cannot have them as its fields. -/
  | fields (className : String) (issues : List Issue)
  deriving Repr

/-- A report on the call. -/
@[match_pattern] abbrev BindError.call (e : CallError) : BindError := .read (.call e)

namespace Binding

/-- Reads the fields in order. The first one that cannot be read decides the error. -/
def readAll (call : Call) (command : String) :
    List Reader → Except ReadError (List (String × FieldValue))
  | [] => .ok []
  | r :: rs =>
    match r.read call command with
    | .error e => .error e
    | .ok v =>
      match readAll call command rs with
      | .error e => .error e
      | .ok vs => .ok ((r.field, v) :: vs)

/-- What was read, as values given by field names. -/
def entriesOf (fields : List (String × FieldValue)) : List (Value × Value) :=
  (keyedBy (·.1) fields).map fun f => (.str f.1, f.2.toValue)

/-- The command value that a call stands for: the fields are read, and a value is constructed from
them. -/
def bind (b : Binding) (call : Call) : Except BindError Command :=
  match readAll call b.command b.readers with
  | .error e => .error (.read e)
  | .ok fields =>
    match b.model.construct (entriesOf fields) with
    | .pass command => .ok command
    | .fail issues => .error (.fields b.model.className issues)

end Binding

end CommandCompiler
