import CommandCompiler.Artifact.File
import CommandCompiler.CommandLine.Parser
import CommandCompiler.Lint
import CommandCompiler.Log
import CommandCompiler.SchemaFile
/-!
# CommandCompiler.Cli

What the program does with the files it is given.

* `Ending`, `Outcome` : what the program shows, and how it ends;
* `printed` : lines as far as they can be shown;
* `Report`, `checkReport` : checking schemas that have been loaded;
* `findSchemas` : the schema files at a path;
* `runCheck`, `runSignatures`, `run` : the subcommands and the whole program.

Checking goes through all files, whatever is wrong with one of them, unless it is a
fault that no report covers: one below the level of documents, or a text that UTF-8
cannot spell where it is to be kept or shown. Such a fault ends it at once. Only
standard output needs text to be spelled: on standard error, escapes stand for the
rest.
-/

namespace CommandCompiler.Cli

open CommandLine (unlines)

/-! ## Outcomes -/

/-- How the program ends. -/
inductive Ending
  | code (n : Nat)
  /-- A fault that no report covers. -/
  | raised (fault : RawFault)
  deriving Repr, DecidableEq

/-- What the program shows, and how it ends. What it shows on standard error may hold halves of
surrogate pairs. -/
structure Outcome where
  stdout : String := ""
  stderr : String := ""
  ending : Ending
  deriving Repr, DecidableEq

/-- Lines for standard output up to the first that UTF-8 cannot spell, and the fault in that one. -/
def printed : List String → List String × Option RawFault
  | [] => ([], none)
  | line :: lines =>
    match Text.Utf8.spellingFault? line with
    | some fault => ([], some (.unspellable fault))
    | none => (line :: (printed lines).1, (printed lines).2)

/-! ## Reports on schemas -/

/-- Lines shown so far, whether some of them are errors, and the fault that has ended the run. -/
structure Report where
  stdout : List String := []
  stderr : List String := []
  failed : Bool := false
  raised : Option RawFault := none
  deriving Repr, DecidableEq

/-- An error as it is shown. -/
def errorLine (message : String) : String := "Error: " ++ message

/-- The lines of a log, if they are asked for. -/
def logLines (verbose : Bool) (lines : List LogLine) : List String :=
  if verbose then lines.map LogLine.message else []

/-- The warnings about a schema in a file with a name. -/
def warningTexts (name : String) (s : Schema) : List String :=
  s.warnings.map fun w => s!"Warning: {name}: {w.message}"

/-- What is shown of a schema in a file with a name: the warnings, and, if all of them can be shown,
the errors that are looked for then. -/
def schemaReport (verbose : Bool) (name : String) (s : Schema) : Report :=
  match printed (warningTexts name s) with
  | (stdout, some fault) => { stdout, raised := some fault }
  | (stdout, none) =>
    let log := logLines verbose s.checkLog
    match s.check with
    | .error fault => { stdout, stderr := log, raised := some (.unspellable fault) }
    | .ok errors =>
      { stdout, stderr := log ++ errors.map fun e => errorLine s!"{name}: {e.message}"
        failed := errors ≠ [] }

/-- What is shown of a file. -/
def fileReport (words : LibraryWords) (verbose : Bool) (path : Path) :
    Except LoadError Schema → Report
  | .ok s => schemaReport verbose path.name s
  | .error (.file e) => { stderr := [errorLine (e.message words path.toString)], failed := true }
  | .error (.raw fault) => { raised := some fault }

/-- One report after another; nothing is shown after a fault. -/
def Report.append (a b : Report) : Report :=
  if a.raised.isSome then a
  else
    { stdout := a.stdout ++ b.stdout, stderr := a.stderr ++ b.stderr
      failed := a.failed || b.failed, raised := b.raised }

/-- What is shown of several files, in their order. -/
def checkReport (words : LibraryWords) (verbose : Bool)
    (files : List (Path × Except LoadError Schema)) : Report :=
  (files.map fun f => fileReport words verbose f.1 f.2).foldl Report.append {}

/-- What checking files shows. -/
def checkOutcome (words : LibraryWords) (verbose : Bool)
    (files : List (Path × Except LoadError Schema)) : Outcome :=
  if files.isEmpty then { stdout := unlines ["No schema files found."], ending := .code 0 }
  else
    let count := files.length
    let r := checkReport words verbose files
    let shown := s!"Checking {count} schema file(s)..." :: r.stdout
    let stderr := unlines r.stderr
    match r.raised with
    | some fault => { stdout := unlines shown, stderr, ending := .raised fault }
    | none =>
      if r.failed then { stdout := unlines shown, stderr, ending := .code 1 }
      else { stdout := unlines (shown ++ ["No issues found."]), stderr, ending := .code 0 }

/-! ## Subcommands -/

/-- An error that ends the program. -/
def failure (log : List String) (messages : List String) : Outcome :=
  { stderr := unlines (log ++ messages.map errorLine), ending := .code 1 }

/-- A fault that ends the program. -/
def crash (log : List String) (fault : RawFault) : Outcome :=
  { stderr := unlines log, ending := .raised fault }

/-- The end of a program that succeeds, with one line to show. -/
def success (log : List String) (line : String) : Outcome :=
  match printed [line] with
  | (_, some fault) => crash log fault
  | (stdout, none) => { stdout := unlines stdout, stderr := unlines log, ending := .code 0 }

/-- What ends the program when a schema cannot be loaded. -/
def loadFailure (words : LibraryWords) (path : Path) : LoadError → Outcome
  | .file e => failure [] [e.message words path.toString]
  | .raw fault => crash [] fault

/-- The endings of the names of schema files. -/
def schemaSuffixes : List String := [".yaml", ".yml"]

variable {m : Type → Type} [Monad m] (words : LibraryWords) (fs : FileSystem m)

/-- The schema files at a path that exists: the file itself, or those in a directory. -/
def findSchemas (path : Path) (kind : FileKind) : m (List Path) :=
  match kind with
  | .file => return [path]
  | .directory => do
    let files ← fs.filesBelow path
    return (files.filter fun f => schemaSuffixes.contains f.suffix).mergeSort Path.precedes

/-- The absolute path that a word of the command line stands for. -/
def absolute (given : String) : Except RawFault Path :=
  let path := Path.ofString given
  match path.nameFault? with
  | some fault => .error (.file (.unnameable fault))
  | none => .ok (.resolve fs.cwd path)

/-- Checks the schema files at an absolute path. -/
def checkAt (verbose : Bool) (path : Path) : m Outcome := do
  match ← fs.kind? path with
  | .error e => return crash [] (.file e)
  | .ok none => return failure [] [s!"'{path.toString}' does not exist."]
  | .ok (some kind) =>
    let paths ← findSchemas fs path kind
    let files ← paths.mapM fun p => return (p, ← Schema.load fs p)
    return checkOutcome words verbose files

/-- Checks the schema files at a path. -/
def runCheck (verbose : Bool) (given : String) : m Outcome :=
  match absolute fs given with
  | .error fault => return crash [] fault
  | .ok path => checkAt words fs verbose path

/-- Puts signatures into a file, or shows them. -/
def emit (log : List String) (signatures : List Signature) : Option String → m Outcome
  | none => return success log (Artifact.serialize signatures)
  | some output => do
    let path := Path.ofString output
    let shown := path.toString
    match ← Artifact.save fs signatures path with
    | .error (.unnameable fault) => return crash log (.file (.unnameable fault))
    | .error e => return failure log [s!"cannot write '{shown}': {e.message}"]
    | .ok () =>
      let count := signatures.length
      return success log s!"Wrote {count} signature(s) to '{shown}'."

/-- Compiles a schema and emits its artifact. -/
def emitSchema (verbose : Bool) (s : Schema) (output : Option String) : m Outcome :=
  let log := logLines verbose s.compileLog
  match s.compilation with
  | .raised fault => return crash log (.unspellable fault)
  | .refused errors => return failure log (errors.map SchemaError.message)
  | .compiled c => emit fs log c.signatures output

/-- Compiles the schema file at an absolute path into its artifact. -/
def signaturesAt (verbose : Bool) (path : Path) (output : Option String) : m Outcome := do
  match ← Schema.load fs path with
  | .error e => return loadFailure words path e
  | .ok s => emitSchema fs verbose s output

/-- Compiles a schema file into its artifact. -/
def runSignatures (verbose : Bool) (given : String) (output : Option String) : m Outcome :=
  match absolute fs given with
  | .error fault => return crash [] fault
  | .ok path => signaturesAt words fs verbose path output

/-- What is shown instead of running. -/
def stopOutcome : CommandLine.Stop → Outcome
  | .help g => { stdout := g.helpText, ending := .code 0 }
  | .misuse g message =>
    { stderr := g.usageText ++ unlines [g.name ++ ": error: " ++ message], ending := .code 2 }

/-- Runs the program on the words of a command line. -/
def run (args : List String) : m Outcome :=
  match CommandLine.parse args with
  | .error stop => return stopOutcome stop
  | .ok ⟨_, none⟩ => return stopOutcome (.help .program)
  | .ok ⟨verbose, some (.check path)⟩ => runCheck words fs verbose path
  | .ok ⟨verbose, some (.signatures schema output)⟩ => runSignatures words fs verbose schema output

end CommandCompiler.Cli
