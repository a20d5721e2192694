import CommandCompiler.Cli
/-!
# CommandCompiler.Main

The program as it is run: the files are those of the machine, and what the
program shows goes to its standard streams.
-/

namespace CommandCompiler.Main

/-- The number of a failure. Some operations tell it as a negative one. -/
def faultNumber (code : UInt32) : Nat :=
  if code.toNat < 0x80000000 then code.toNat else 0x100000000 - code.toNat

/-- The reason for a failure, by its number. -/
def faultOfCode (code : UInt32) (text : String) : FileFault :=
  match faultNumber code with
  | 2 => .notFound
  | 17 => .alreadyExists
  | 20 => .notADirectory
  | 21 => .isADirectory
  | 36 => .nameTooLong
  | number => .other number text

/-- The reason for a failure. -/
def faultOf : IO.Error → FileFault
  | .noFileOrDirectory .. => .notFound
  | .alreadyExists _ code text => faultOfCode code text
  | .inappropriateType _ code text => faultOfCode code text
  | .invalidArgument _ code text => faultOfCode code text
  | .permissionDenied _ code text => faultOfCode code text
  | e => .other 5 (toString e)

/-- The result of an operation that may fail. -/
def guarded {α : Type} (act : IO α) : IO (Except FileFault α) := do
  try
    return .ok (← act)
  catch e =>
    return .error (faultOf e)

/-- A path as the machine has it. -/
def machinePath (path : Path) : String := Text.shown path.toString

/-- What stands at a path of the machine. -/
def kind (path : Path) : IO (Except FileFault FileKind) := guarded do
  let data ← (System.mkFilePath [machinePath path]).metadata
  return if data.type == .dir then .directory else .file

/-- The files in a directory of the machine and in all directories inside it. -/
partial def filesBelow (path : Path) : IO (List Path) := do
  let real ← IO.FS.realPath (machinePath path)
  let mut found := []
  for entry in ← real.readDir do
    let inner : Path := { path with names := path.names ++ [Text.holdText entry.fileName] }
    match ← kind inner with
    | .ok .directory => found := found ++ (← filesBelow inner)
    | .ok .file => found := found ++ [inner]
    | .error _ => pure ()
  return found

/-- The files of the machine. -/
def files (cwd : Path) : FileSystem IO where
  cwd
  kind
  filesBelow
  read path := do
    if (← kind path) matches .ok .directory then return .error .isADirectory
    else guarded do
      let bytes ← IO.FS.readBinFile (machinePath path)
      return bytes.toList
  write path text := do
    if (← kind path) matches .ok .directory then return .error .isADirectory
    else guarded (IO.FS.writeFile (machinePath path) (Text.shown text))
  makeDirectory path := guarded (IO.FS.createDir (machinePath path))

/-- One step of a path, as issues are told. -/
def stepText : PathStep → String
  | .key name => name
  | .index i => toString i

/-- The level of an error in a document, and two lines for each issue. -/
def words : LibraryWords where
  yaml level _ :=
    match level with
    | .character => "control characters are not allowed"
    | .token => "found characters that form no token"
    | .grammar => "did not find expected token"
    | .reference => "found undefined or repeated reference"
    | .content => "found node that its tag cannot be applied to"
  layout issues _ := String.join (issues.map fun i =>
    let path := ".".intercalate (i.path.map stepText)
    s!"\n{path}\n  {i.kind.code}")

/-- Shows the outcome of a run, and gives the code that the program ends with. -/
def conclude (o : Cli.Outcome) : IO UInt32 := do
  IO.print (Text.shown o.stdout)
  IO.eprint (Text.escapeHalves o.stderr)
  match o.ending with
  | .code n => return n.toUInt32
  | .raised fault =>
    IO.eprintln (Text.escapeHalves fault.message)
    return 1

end CommandCompiler.Main

open CommandCompiler in
/-- Runs the program on the words of its command line. -/
def main (args : List String) : IO UInt32 := do
  let here ← IO.FS.realPath "."
  Main.conclude (← Cli.run Main.words (Main.files (.ofString (Text.holdText here.toString)))
    (args.map Text.holdText))
