import CommandCompiler.Artifact
import CommandCompiler.FileSystem
/-!
# CommandCompiler.Artifact.File

Artifacts in files.

* `Artifact.save` : writes signatures into a file;
* `Artifact.load` : reads them back.
-/

namespace CommandCompiler.Artifact

variable {m : Type → Type} [Monad m] (fs : FileSystem m)

/-- Writes signatures into a file. The directories that lead to it are made first. -/
def save (signatures : List Signature) (path : Path) : m (Except FileError Unit) :=
  fs.writeText path (serialize signatures)

/-- Why there are no signatures in a file. -/
inductive LoadError
  | text (e : TextError)
  | content (e : ArtifactError)

/-- The signatures in a file. -/
def load (path : Path) : m (Except LoadError (List Signature)) := do
  match ← fs.readText path with
  | .error e => return .error (.text e)
  | .ok text => return (deserialize text).mapError .content

end CommandCompiler.Artifact
