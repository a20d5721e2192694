import CommandCompiler.Argument
import CommandCompiler.Call
import CommandCompiler.Value.Display
/-!
# CommandCompiler.Reader

Reading the fields of a command out of a call.

* `FieldValue` : what a field of a command value holds;
* `CallFault`, `CallError` : why a call cannot be bound, with the report on it;
* `ReadError` : why a field cannot be read, with a report or without one;
* `Reader`, `Reader.read` : where the value of one field is found;
* `Reader.readAnywhere` : the same for a reader that no command was compiled to,
  which may count from the end.

A reader checks the kind of the value that it finds and never converts it. A report on
a value shows it, so there is none where the value cannot be written out.
-/

namespace CommandCompiler

/-- What a field of a command value holds. -/
inductive FieldValue
  | absent
  | string (s : String)
  | bool (b : Bool)
  deriving Repr, DecidableEq, Inhabited

/-- A field value as data. -/
def FieldValue.toValue : FieldValue → Value
  | absent => .null
  | string s => .str s
  | bool b => .bool b

/-- An argument value of the right type, as a field holds it. -/
def ArgType.accept? : ArgType → Value → Option FieldValue
  | .string, .str s => some (.string s)
  | .bool, .bool b => some (.bool b)
  | _, _ => none

/-- Where an argument of a call stands, as errors name it. -/
inductive ArgPlace
  | positional (field : String)
  | switch (field : String)
  | flag (field : String)
  deriving Repr, DecidableEq

/-- The place in a sentence. -/
def ArgPlace.text : ArgPlace → String
  | positional field => s!"positional argument '{field}'"
  | switch field => s!"switch '--{field}'"
  | flag field => s!"flag '--{field}'"

/-- The categories of calls that cannot be bound. -/
inductive CallErrorKind
  | unknownCommand
  | missingPositional
  | typeMismatch
  deriving Repr, DecidableEq

/-- The word for a category. -/
def CallErrorKind.tag : CallErrorKind → String
  | unknownCommand => "unknown-command"
  | missingPositional => "missing-positional"
  | typeMismatch => "type-mismatch"

/-- Why a call cannot be bound. -/
inductive CallFault
  | unknownCommand (name : String)
  | missingPositional (command field : String) (index : Int)
  /-- A value of another type than the one expected, which is shown as a literal. -/
  | typeMismatch (command : String) (expected : ArgType) (found : Value) (shown : String)
    (place : ArgPlace)
  deriving Repr

/-- A call that cannot be bound: the reason, and where the call stands. -/
structure CallError where
  fault : CallFault
  span : Option Span
  deriving Repr

namespace CallFault

/-- The category of a reason. -/
def kind : CallFault → CallErrorKind
  | unknownCommand _ => .unknownCommand
  | missingPositional _ _ _ => .missingPositional
  | typeMismatch _ _ _ _ _ => .typeMismatch

/-- The headline of a reason. -/
def label : CallFault → String
  | unknownCommand _ => "Unknown command name"
  | missingPositional _ _ _ => "Missing required positional argument"
  | typeMismatch _ .string _ _ _ => "Expected a string"
  | typeMismatch _ .bool _ _ _ => "Expected a boolean"

/-- The explanation of a reason. -/
def msg : CallFault → String
  | unknownCommand name => s!"'{name}' does not match any signature known to this plugin."
  | missingPositional command field index =>
    s!"Command '{command}' expects '{field}' at position {index}."
  | typeMismatch command _ found shown place =>
    s!"Command '{command}' got {found.typeName} {shown} for {place.text}."

end CallFault

/-- The error as the host shows it. -/
def CallError.labeled (e : CallError) : LabeledError :=
  { label := e.fault.label, msg := e.fault.msg, span := e.span }

/-- Why a field cannot be read. -/
inductive ReadError
  | call (e : CallError)
  /-- The argument is refused, and a whole number in it has more digits than are written. -/
  | unwritten
  /-- The position, counted from the end, lies before the first argument. -/
  | beforeStart
  deriving Repr

/-- The wording for a position before the first argument. -/
def ReadError.beforeStartText : String := "tuple index out of range"

/-- Where the value of one field is found in a call. -/
inductive Reader
  | requiredPositional (field : String) (index : Int) (type : ArgType)
  | optionalPositional (field : String) (index : Int) (type : ArgType)
  | switch (field : String)
  | namedValue (field : String) (type : ArgType)
  deriving Repr, DecidableEq

namespace Reader

/-- The field that is read. -/
def field : Reader → String
  | requiredPositional field _ _ | optionalPositional field _ _
  | switch field | namedValue field _ => field

/-- Takes an argument of the right type and refuses any other. -/
def check (call : Call) (command : String) (type : ArgType) (place : ArgPlace) (v : Value) :
    Except ReadError FieldValue :=
  match type.accept? v with
  | some x => .ok x
  | none =>
    match v.display? with
    | some shown => .error (.call ⟨.typeMismatch command type v shown place, call.head⟩)
    | none => .error .unwritten

/-- Reads the field out of a call of `command`. A null argument counts as absent, except that a
switch given without a value is on. -/
def read (r : Reader) (call : Call) (command : String) : Except ReadError FieldValue :=
  match r with
  | requiredPositional field index type =>
    match call.at? index with
    | none => .error (.call ⟨.missingPositional command field index, call.head⟩)
    | some v => check call command type (.positional field) v
  | optionalPositional field index type =>
    match call.at? index with
    | none => .ok .absent
    | some v => check call command type (.positional field) v
  | switch field =>
    match call.flag? field with
    | none => .ok (.bool false)
    | some .null => .ok (.bool true)
    | some v => check call command .bool (.switch field) v
  | namedValue field type =>
    match call.flag? field with
    | none | some .null => .ok .absent
    | some v => check call command type (.flag field) v

/-- The position that is read, if the field has one. -/
def index? : Reader → Option Int
  | requiredPositional _ index _ | optionalPositional _ index _ => some index
  | switch _ | namedValue _ _ => none

/-- Reads the field out of a call of `command`. A position that is counted from the end has to be
there. -/
def readAnywhere (r : Reader) (call : Call) (command : String) : Except ReadError FieldValue :=
  match r.index? with
  | some (.negSucc n) =>
    if n < call.positional.length then r.read call command else .error .beforeStart
  | _ => r.read call command

end Reader

end CommandCompiler
