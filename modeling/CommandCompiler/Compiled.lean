import CommandCompiler.Variant.Compile
/-!
# CommandCompiler.Compiled

Compiling a whole schema: every command on its own, then the commands against
each other. A schema with any error yields nothing.

* `Schema.errors` : every error in a schema;
* `CompiledSchema`, `Schema.compile` : the signatures in order, and the binding
  of each name;
* `Schema.docFault?` : documentation that keeps a schema from being compiled,
  whatever its errors;
* `Schema.check`, `Schema.compilation` : looking for errors, and compiling, with
  the classes made on the way;
* `CompiledSchema.parse` : the command value that a call stands for.
-/

namespace CommandCompiler

/-- The names that occur more than once, each where it occurs for the second time. `before` holds
the names before these. -/
def repeatedNames (before : List String) : List String → List String
  | [] => []
  | name :: names =>
    if isSecond before name then name :: repeatedNames (name :: before) names
    else repeatedNames (name :: before) names

/-- A schema that has been compiled. -/
structure CompiledSchema where
  signatures : List Signature
  bindings : List (String × Binding)
  deriving Repr, DecidableEq

namespace Schema

/-- The result for each command. -/
def results (s : Schema) : List (Except (List SchemaError) CompiledCommand) :=
  s.commands.mapIdx fun i v => v.compile i

/-- The errors in each command on its own. -/
def commandErrors (s : Schema) : List SchemaError :=
  (s.commands.mapIdx fun i v => v.errors i).flatten

/-- The errors between commands: no two may share a name. -/
def duplicateErrors (s : Schema) : List SchemaError :=
  (repeatedNames [] (s.commands.filterMap (·.properName?))).map .duplicateCommandName

/-- Every error in a schema. -/
def errors (s : Schema) : List SchemaError := s.commandErrors ++ s.duplicateErrors

/-- The signatures and bindings of compiled commands. A name has one binding. -/
def collect (commands : List CompiledCommand) : CompiledSchema :=
  { signatures := commands.map (·.signature)
    bindings := keyedBy (·.1) (commands.map fun c => (c.signature.name, c.binding)) }

/-- The compiled schema, or every error in it. Whether the classes of its commands can be made is
not looked at. -/
def compile (s : Schema) : Except (List SchemaError) CompiledSchema :=
  match s.errors with
  | [] => .ok (collect (s.results.filterMap Except.toOption))
  | errors => .error errors

/-- The position of the first command whose documentation cannot be kept, and the reason. -/
def docFault? (s : Schema) : Option (Nat × Text.Utf8.EncodeError) :=
  (s.commands.mapIdx fun i v => (v.docFault? i).map (i, ·)).findSome? id

/-- Looks for errors, which takes compiling the commands one after another. The first one whose
class cannot be made ends this. -/
def check (s : Schema) : Except Text.Utf8.EncodeError (List SchemaError) :=
  match s.docFault? with
  | some (_, fault) => .error fault
  | none => .ok s.errors

/-- Compiles a schema, unless there are errors in it. -/
def compilation (s : Schema) : Compilation CompiledSchema :=
  match s.check with
  | .error fault => .raised fault
  | .ok _ =>
    match s.compile with
    | .ok c => .compiled c
    | .error errors => .refused errors

end Schema

/-- The report on a schema that cannot be compiled: how many errors there are, then one line for
each. -/
def compilerMessage (errors : List SchemaError) : String :=
  let lines := "\n".intercalate (errors.map fun e => "  " ++ e.message)
  s!"{errors.length} schema error(s):\n{lines}"

namespace CompiledSchema

/-- The names of the commands, in order. -/
def commandNames (s : CompiledSchema) : List String := s.signatures.map (·.name)

/-- The binding of a name. -/
def binding? (s : CompiledSchema) (name : String) : Option Binding := s.bindings.lookup name

/-- The kind of value of a command. -/
def commandType? (s : CompiledSchema) (name : String) : Option CommandModel :=
  (s.binding? name).map (·.model)

/-- The command value that a call of a name stands for. -/
def parse (s : CompiledSchema) (name : String) (call : Call) : Except BindError Command :=
  match s.binding? name with
  | none => .error (.call ⟨.unknownCommand name, call.head⟩)
  | some b => b.bind call

end CompiledSchema

end CommandCompiler
