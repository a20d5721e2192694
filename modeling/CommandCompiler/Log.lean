import CommandCompiler.Compiled
/-!
# CommandCompiler.Log

What is recorded while schemas are compiled and calls are served.

* `LogSource`, `LogLevel`, `LogLine` : a line of the log;
* `Variant.logLine`, `Schema.checkLog`, `Schema.compileLog` : what compiling
  records.
-/

namespace CommandCompiler

/-- Which part of the program records a line. -/
inductive LogSource
  | variant
  | build
  | plugin
  deriving Repr, DecidableEq

/-- The name of a part in the log. -/
def LogSource.name : LogSource → String
  | variant => "plugsig.compiler.variant"
  | build => "plugsig.compiler.build"
  | plugin => "plugsig.runtime.plugin"

/-- How much a line matters. -/
inductive LogLevel
  | debug
  | info
  deriving Repr, DecidableEq

/-- The word for a level. -/
def LogLevel.name : LogLevel → String
  | debug => "DEBUG"
  | info => "INFO"

/-- A line of the log. -/
structure LogLine where
  level : LogLevel
  source : LogSource
  text : String
  deriving Repr, DecidableEq

/-- A line as it is written. -/
def LogLine.message (l : LogLine) : String := s!"{l.level.name} {l.source.name}: {l.text}"

/-- What compiling the command at a position records, if its class can be made. -/
def Variant.logLine (v : Variant) (position : Int) : LogLine :=
  let context := (v.label position).text
  match v.compile position with
  | .ok c =>
    let count := c.signature.params.length
    let className := c.binding.model.className
    ⟨.debug, .variant, s!"{context}: compiled {count} parameter(s) into {className}"⟩
  | .error errors => ⟨.debug, .variant, s!"{context}: {errors.length} error(s)"⟩

namespace Schema

/-- What checking a schema records: one line for each command before the first whose class cannot
be made. -/
def checkLog (s : Schema) : List LogLine :=
  let lines := s.commands.mapIdx fun i v => v.logLine i
  match s.docFault? with
  | some (position, _) => lines.take position
  | none => lines

/-- What compiling a schema records: a further line if it succeeds. -/
def compileLog (s : Schema) : List LogLine :=
  match s.compilation with
  | .compiled c =>
    s.checkLog ++ [⟨.info, .build, s!"Compiled {c.signatures.length} command signature(s)"⟩]
  | .refused _ | .raised _ => s.checkLog

end Schema

end CommandCompiler
