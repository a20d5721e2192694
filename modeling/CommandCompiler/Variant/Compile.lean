import CommandCompiler.Binding
import CommandCompiler.Variant.Names
/-!
# CommandCompiler.Variant.Compile

Compiling one command: from its fields to what the host is told and to what
reads a call, side by side.

* `Slot` : one field on both sides;
* `layOut` : the slots of the fields, with the fields that cannot have one;
* `CompiledCommand`, `Variant.compile` : the compiled command, or every error
  in it;
* `Compilation`, `Variant.compilation` : the same, with the class of the command
  made, which can fail;
* `Variant.docFault?` : documentation that cannot be kept.

A class keeps the usage text of its command as documentation, in UTF-8. A text that
UTF-8 cannot spell is no error in the command. It makes compiling raise a fault,
whoever asks for it.

Both sides of a positional field come from the same index, so they cannot drift
apart: the index counts the positional fields before it, and flags do not move
it.
-/

namespace CommandCompiler

/-- One field, as the host sees it and as it is read out of a call. -/
structure Slot where
  param : Parameter
  reader : Reader
  deriving Repr, DecidableEq

/-- A command that has been compiled. -/
structure CompiledCommand where
  signature : Signature
  binding : Binding
  deriving Repr, DecidableEq

/-- What comes of compiling. -/
inductive Compilation (α : Type)
  | compiled (a : α)
  /-- There are errors, and nothing but them. -/
  | refused (errors : List SchemaError)
  /-- There are no errors, but a class could not be made. -/
  | raised (fault : Text.Utf8.EncodeError)
  deriving Repr, DecidableEq

/-- The fault that compiling raises, if it does. -/
def Compilation.fault? {α : Type} : Compilation α → Option Text.Utf8.EncodeError
  | raised fault => some fault
  | compiled _ | refused _ => none

/-- Whether an argument of this kind takes a position. -/
def ArgKind.isPositional : ArgKind → Bool
  | required _ | optional _ => true
  | flag _ => false

/-- The slot of a field that is an argument of this kind. A positional field stands at `index`. -/
def Field.slot (f : Field) (index : Nat) : ArgKind → Slot
  | .required a =>
    { param := { name := f.name, shape := a.shape, role := .required, usage := f.usage.getD "" }
      reader := .requiredPositional f.name index a }
  | .optional a =>
    { param := { name := f.name, shape := a.shape, role := .optional, usage := f.usage.getD "" }
      reader := .optionalPositional f.name index a }
  | .flag none =>
    { param := { name := f.name, shape := .boolean, role := .switch
                 usage := f.usage.getD "", short := f.short }
      reader := .switch f.name }
  | .flag (some a) =>
    { param := { name := f.name, shape := a.shape, role := .named
                 usage := f.usage.getD "", short := f.short }
      reader := .namedValue f.name a }

/-- Lays the fields out one after another: the errors, and the slots of the fields that have one.
`index` is the next free position, and `late` says that a field that is not required has come
before. A field that is no argument, or that comes too late, leaves both as they are. -/
def layOut (c : CommandLabel) (index : Nat) (late : Bool) :
    List Field → List SchemaError × List Slot
  | [] => ([], [])
  | f :: fs =>
    match f.classify with
    | .error cause =>
      let rest := layOut c index late fs
      (.unclassified c.name? f.name cause :: rest.1, rest.2)
    | .ok (.required a) =>
      if late then
        let rest := layOut c index late fs
        (.misplacedRequired c f.name :: rest.1, rest.2)
      else
        let rest := layOut c (index + 1) late fs
        (rest.1, f.slot index (.required a) :: rest.2)
    | .ok kind =>
      let rest := layOut c (if kind.isPositional then index + 1 else index) true fs
      (rest.1, f.slot index kind :: rest.2)

namespace Variant

/-- Every error in the command at a position. -/
def errors (v : Variant) (position : Int) : List SchemaError :=
  let c := v.label position
  commandNameErrors v position ++ classNameErrors c v ++ fieldNameErrors c [] v.fields ++
    shortErrors c [] v.fields ++ (layOut c 0 false v.fields).1

/-- The compiled command under a name, from its slots. The name suggests the class name where none
is given. -/
def assemble (v : Variant) (name : String) (slots : List Slot) : CompiledCommand :=
  let className := v.className.getD (classNameOf name)
  let readers := slots.map (·.reader)
  { signature := { name, usage := v.usage.getD "", params := slots.map (·.param) }
    binding := { command := name, readers
                 model := .ofReaders className name v.usage readers } }

/-- The compiled command at a position, or every error in it. Whether its class can be made is not
looked at. -/
def compile (v : Variant) (position : Int) : Except (List SchemaError) CompiledCommand :=
  match v.properName?, v.errors position with
  | some name, [] => .ok (v.assemble name (layOut (v.label position) 0 false v.fields).2)
  | _, errors => .error errors

/-- Compiles the command at a position: makes its class, unless there are errors. -/
def compilation (v : Variant) (position : Int) : Compilation CompiledCommand :=
  match v.compile position with
  | .error errors => .refused errors
  | .ok c =>
    match c.binding.model.doc.bind Text.Utf8.spellingFault? with
    | some fault => .raised fault
    | none => .compiled c

/-- What UTF-8 cannot spell in the documentation of the command at a position. Only a command
without errors has any documentation. -/
def docFault? (v : Variant) (position : Int) : Option Text.Utf8.EncodeError :=
  (v.compilation position).fault?

end Variant

end CommandCompiler
