import CommandCompiler.Log
/-!
# CommandCompiler.Plugin

Serving calls: a compiled schema together with the one handler of its commands.

* `Plugin`, `Plugin.run` : one call, from the host to the handler;
* `RunError` : how a call can fail;
* `Plugin.servingLog`, `Plugin.runLog` : what serving records.

Calls do not influence one another: a call that fails leaves nothing behind.
-/

namespace CommandCompiler

/-- A compiled schema and its handler, which gets a command value and the pipeline input. -/
structure Plugin (Input Output : Type) where
  compiled : CompiledSchema
  handler : Command → Input → Except LabeledError Output

/-- How a call can fail: before the handler is asked, or in the handler. -/
inductive RunError
  | bind (e : BindError)
  | handler (e : LabeledError)
  deriving Repr

namespace Plugin

variable {Input Output : Type}

/-- What the host registers. -/
def signature (p : Plugin Input Output) : List Signature := p.compiled.signatures

/-- Binds a call of a name and hands the command value to the handler. -/
def run (p : Plugin Input Output) (name : String) (call : Call) (input : Input) :
    Except RunError Output :=
  match p.compiled.parse name call with
  | .error e => .error (.bind e)
  | .ok command =>
    match p.handler command input with
    | .error e => .error (.handler e)
    | .ok output => .ok output

/-- What the start of serving records. -/
def servingLog (compiled : CompiledSchema) : LogLine :=
  let names := ", ".intercalate compiled.commandNames
  ⟨.debug, .plugin, s!"Serving plugin with commands: {names}"⟩

/-- What a call records, whether it succeeds or not. -/
def runLog (name : String) (call : Call) : LogLine :=
  let positional := call.positional.length
  let named := call.named.length
  ⟨.debug, .plugin,
    s!"Running '{name}' with {positional} positional and {named} named argument(s)"⟩

end Plugin

end CommandCompiler
