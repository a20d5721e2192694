import CommandCompiler.Path
import CommandCompiler.Text.Newline
import CommandCompiler.Text.Quoted
import CommandCompiler.Text.Utf8
/-!
# CommandCompiler.FileSystem

What the program needs of files, whoever keeps them.

* `FileFault`, `NameFault`, `FileError` : why an operation fails;
* `FileSystem` : the operations;
* `FileSystem.kind?` : what stands at a path;
* `FileSystem.readText` : the content of a text file;
* `FileSystem.makeDirectories`, `writeText` : a directory with all that lead to
  it, and a file in it.

An operation is only asked for if the path can be told to the system at all.
-/

namespace CommandCompiler

/-! ## Failures -/

/-- Why an operation on a file fails. -/
inductive FileFault
  | notFound
  | alreadyExists
  | notADirectory
  | isADirectory
  | nameTooLong
  /-- Any other reason, with its number. -/
  | other (code : Nat) (text : String)
  deriving Repr, DecidableEq

namespace FileFault

/-- The number of a reason. -/
def code : FileFault → Nat
  | notFound => 2
  | alreadyExists => 17
  | notADirectory => 20
  | isADirectory => 21
  | nameTooLong => 36
  | other code _ => code

/-- The wording of a reason. -/
def text : FileFault → String
  | notFound => "No such file or directory"
  | alreadyExists => "File exists"
  | notADirectory => "Not a directory"
  | isADirectory => "Is a directory"
  | nameTooLong => "File name too long"
  | other _ text => text

/-- Whether the reason is only that nothing stands at the path. -/
def isAbsence : FileFault → Bool
  | notFound | notADirectory => true
  | _ => false

end FileFault

/-- Why a path cannot be told to the system. -/
inductive NameFault
  /-- It holds the character with the number zero, which ends a path. -/
  | zero
  /-- It holds half a surrogate pair that stands for no byte. -/
  | unspellable (e : Text.Utf8.EncodeError)
  deriving Repr, DecidableEq

/-- The wording of such a reason. -/
def NameFault.message : NameFault → String
  | zero => "embedded null byte"
  | unspellable e => e.message

/-- Whether half a surrogate pair stands for a byte of a name that is not UTF-8. -/
def isByteHalf (n : Nat) : Bool := 0xDC80 ≤ n && n ≤ 0xDCFF

/-- Why a path cannot be told to the system, if it cannot. -/
def Path.nameFault? (p : Path) : Option NameFault :=
  let points := Text.codePoints p.toString.toList
  match Text.Utf8.firstFault isByteHalf 0 points with
  | some e => some (.unspellable e)
  | none => if points.contains 0 then some .zero else none

/-- An operation that failed. -/
inductive FileError
  /-- The system refuses it, for a reason that lies at the path. -/
  | refused (fault : FileFault) (path : Path)
  /-- There can be no such path. -/
  | unnameable (fault : NameFault)
  deriving Repr, DecidableEq

/-- The report on an operation that failed. -/
def FileError.message : FileError → String
  | refused fault path => s!"[Errno {fault.code}] {fault.text}: {Text.quote path.toString}"
  | unnameable fault => fault.message

/-! ## Operations -/

/-- What stands at a path. -/
inductive FileKind
  | file
  | directory
  deriving Repr, DecidableEq

/-- The operations on files. -/
structure FileSystem (m : Type → Type) where
  /-- Where relative paths start. -/
  cwd : Path
  /-- What stands at a path. -/
  kind : Path → m (Except FileFault FileKind)
  /-- The files in a directory and in all directories inside it, in any order. -/
  filesBelow : Path → m (List Path)
  read : Path → m (Except FileFault (List UInt8))
  /-- Puts a text into a file, which need not exist. Its directory must. -/
  write : Path → String → m (Except FileFault Unit)
  /-- Makes a directory inside one that exists. -/
  makeDirectory : Path → m (Except FileFault Unit)

/-- Why the content of a text file cannot be had. -/
inductive TextError
  | file (e : FileError)
  | encoding (e : Text.Utf8.DecodeError)
  deriving Repr, DecidableEq

/-- The text that the bytes of a file spell. -/
def textOfBytes (bytes : List UInt8) : Except Text.Utf8.DecodeError String :=
  (fun s => Text.holdText (.ofList (Text.normalizeNewlines s.toList))) <$> Text.Utf8.decode bytes

namespace FileSystem

variable {m : Type → Type} [Monad m] (fs : FileSystem m)

/-- Asks for an operation on a path that can be told to the system. -/
def attempt {α : Type} (op : Path → m (Except FileFault α)) (path : Path) :
    m (Except FileError α) := do
  match path.nameFault? with
  | some fault => return .error (.unnameable fault)
  | none => return (← op path).mapError (.refused · path)

/-- What stands at a path, if anything does. -/
def kind? (path : Path) : m (Except FileError (Option FileKind)) := do
  match ← attempt fs.kind path with
  | .ok kind => return .ok (some kind)
  | .error (.refused fault path) =>
    return if fault.isAbsence then .ok none else .error (.refused fault path)
  | .error e => return .error e

/-- The content of a text file. -/
def readText (path : Path) : m (Except TextError String) := do
  match ← attempt fs.read path with
  | .error e => return .error (.file e)
  | .ok bytes => return (textOfBytes bytes).mapError .encoding

/-- What becomes of a failure to make a directory: if it is there all the same, there is none. -/
def settle (path : Path) (e : FileError) : m (Except FileError Unit) := do
  match ← fs.kind? path with
  | .ok (some .directory) => return .ok ()
  | .ok _ => return .error e
  | .error e => return .error e

/-- Makes a directory unless it exists, and first those that lead to it. The names of the path are
given from the last to the first. -/
def makeNamed (root : String) : List String → m (Except FileError Unit)
  | [] => do
    let path : Path := ⟨root, []⟩
    match ← attempt fs.makeDirectory path with
    | .ok () => return .ok ()
    | .error e => fs.settle path e
  | name :: up => do
    let path : Path := ⟨root, (name :: up).reverse⟩
    match ← attempt fs.makeDirectory path with
    | .ok () => return .ok ()
    | .error (.refused .notFound _) =>
      match ← makeNamed root up with
      | .error e => return .error e
      | .ok () =>
        match ← attempt fs.makeDirectory path with
        | .ok () => return .ok ()
        | .error e => fs.settle path e
    | .error e => fs.settle path e

/-- Makes a directory unless it exists, and first those that lead to it. -/
def makeDirectories (path : Path) : m (Except FileError Unit) :=
  fs.makeNamed path.root path.names.reverse

/-- Puts a text into a file. The directories that lead to it are made first. -/
def writeText (path : Path) (text : String) : m (Except FileError Unit) := do
  match ← fs.makeDirectories path.parent with
  | .error e => return .error e
  | .ok () => attempt (fs.write · text) path

end FileSystem

end CommandCompiler
