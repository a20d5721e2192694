import CommandCompiler.FileSystem
/-!
# CommandCompiler.FileSystem.Tree

A file system that is a value.

* `FileTree` : the files and directories, by their absolute names;
* `FileTree.locate` : where a path leads;
* `FileTree.fileSystem` : the operations.

A path is followed name by name. Every name is looked up in a directory that
exists, and two dots lead from a directory to the one that holds it. Names and
paths have a greatest length, which is counted in bytes.
-/

namespace CommandCompiler

/-- What a name stands for. -/
inductive FileItem
  | file (bytes : List UInt8)
  /-- A file that can be neither read nor written, for a reason. -/
  | locked (fault : FileFault)
  | directory
  deriving Repr, DecidableEq

/-- Files and directories, by their absolute names. -/
structure FileTree where
  items : List (List String × FileItem) := []
  deriving Repr

namespace FileTree

/-- What stands at an absolute name. The root is a directory. -/
def item? (t : FileTree) (names : List String) : Option FileItem :=
  if names = [] then some .directory else t.items.lookup names

/-- Puts something at an absolute name. -/
def put (t : FileTree) (names : List String) (item : FileItem) : FileTree :=
  if (t.items.lookup names).isSome then
    { t with items := t.items.map fun e => if e.1 = names then (names, item) else e }
  else { t with items := t.items ++ [(names, item)] }

/-- Puts something at an absolute name, and makes the directories that lead to it. -/
def plant (t : FileTree) (names : List String) (item : FileItem) : FileTree :=
  let above := (List.range names.length).map names.take
  let t := above.foldl (fun t dir => if (t.item? dir).isSome then t else t.put dir .directory) t
  t.put names item

/-- The number of bytes that a name takes. Half a surrogate pair stands for one byte. -/
def byteLength (s : String) : Nat :=
  (Text.codePoints s.toList).foldl
    (fun length n => length + if Text.isHalf n then 1 else (Char.ofNat n).utf8Size) 0

/-- The most bytes that a name may take. -/
def longestName : Nat := 255

/-- The most bytes that a path may take. -/
def longestPath : Nat := 4095

/-- Where names lead from an absolute name. Nothing need stand there. -/
def follow (t : FileTree) (here : List String) : List String → Except FileFault (List String)
  | [] => .ok here
  | name :: rest =>
    match t.item? here with
    | none => .error .notFound
    | some (.file _) | some (.locked _) => .error .notADirectory
    | some .directory =>
      if name = ".." then t.follow here.dropLast rest
      else if longestName < byteLength name then .error .nameTooLong
      else t.follow (here ++ [name]) rest

/-- Where a path leads. -/
def locate (t : FileTree) (cwd path : Path) : Except FileFault (List String) :=
  if longestPath < byteLength path.toString then .error .nameTooLong
  else t.follow (if path.isAbsolute then [] else cwd.names) path.names

/-- The content of the file at a path. -/
def read (t : FileTree) (cwd path : Path) : Except FileFault (List UInt8) := do
  match t.item? (← t.locate cwd path) with
  | none => .error .notFound
  | some .directory => .error .isADirectory
  | some (.locked fault) => .error fault
  | some (.file bytes) => .ok bytes

/-- Puts bytes into the file at a path. -/
def write (t : FileTree) (cwd path : Path) (bytes : List UInt8) : Except FileFault FileTree := do
  let names ← t.locate cwd path
  match t.item? names with
  | some .directory => .error .isADirectory
  | some (.locked fault) => .error fault
  | some (.file _) | none => .ok (t.put names (.file bytes))

/-- Makes the directory at a path. -/
def makeDirectory (t : FileTree) (cwd path : Path) : Except FileFault FileTree := do
  let names ← t.locate cwd path
  match t.item? names with
  | some _ => .error .alreadyExists
  | none => .ok (t.put names .directory)

/-- What stands at a path. -/
def kind (t : FileTree) (cwd path : Path) : Except FileFault FileKind := do
  match t.item? (← t.locate cwd path) with
  | none => .error .notFound
  | some .directory => .ok .directory
  | some (.file _) | some (.locked _) => .ok .file

/-- The files in a directory and in all directories inside it. -/
def filesBelow (t : FileTree) (cwd path : Path) : List Path :=
  match t.locate cwd path with
  | .error _ => []
  | .ok here =>
    t.items.filterMap fun e =>
      match e.2 with
      | .file _ | .locked _ =>
        if here.isPrefixOf e.1 then some { path with names := path.names ++ e.1.drop here.length }
        else none
      | .directory => none

/-- Takes over the tree that an operation leaves, unless it fails. -/
def update (change : FileTree → Except FileFault FileTree) :
    StateM FileTree (Except FileFault Unit) := do
  match change (← get) with
  | .error fault => return .error fault
  | .ok t =>
    set t
    return .ok ()

/-- The operations on a tree, with a working directory. -/
def fileSystem (cwd : Path) : FileSystem (StateM FileTree) where
  cwd
  kind path := return (← get).kind cwd path
  filesBelow path := return (← get).filesBelow cwd path
  read path := return (← get).read cwd path
  write path text := update (·.write cwd path (Text.shown text).toUTF8.toList)
  makeDirectory path := update (·.makeDirectory cwd path)

end FileTree

end CommandCompiler
