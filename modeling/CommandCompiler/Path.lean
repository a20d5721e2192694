import CommandCompiler.Text.CodePoint
/-!
# CommandCompiler.Path

Paths of files and directories, as texts name them.

* `Path` : a root, if the path is absolute, and the names after it;
* `Path.ofString`, `Path.toString` : reading and writing;
* `Path.parent`, `name`, `suffix`, `join`, `resolve` : parts and combinations;
* `Path.precedes` : the order in which paths are listed.

Separators in a row count as one, and a name that is a single dot counts as
none. Two dots stay, because what they lead back from need not exist.
-/

namespace CommandCompiler

/-- A path. The root of a relative path is empty. -/
structure Path where
  root : String
  names : List String
  deriving Repr, DecidableEq

namespace Path

/-- The root that a text starts with. Exactly two separators are a root of their own. -/
def rootOf : List Char → String
  | '/' :: '/' :: '/' :: _ => "/"
  | '/' :: '/' :: _ => "//"
  | '/' :: _ => "/"
  | _ => ""

/-- The path that a text names. -/
def ofString (s : String) : Path :=
  { root := rootOf s.toList
    names := ((s.toList.splitOn '/').map String.ofList).filter fun name =>
      name ≠ "" ∧ name ≠ "." }

/-- A path as a text. A path without root and names is the working directory. -/
def toString (p : Path) : String :=
  if p.root = "" ∧ p.names = [] then "." else p.root ++ "/".intercalate p.names

/-- Whether a path says itself where it starts. -/
def isAbsolute (p : Path) : Bool := p.root ≠ ""

/-- The directory that holds what a path names. A root holds itself. -/
def parent (p : Path) : Path := { p with names := p.names.dropLast }

/-- The last name. -/
def name (p : Path) : String := p.names.getLast?.getD ""

/-- The last point of a name and what follows it, if there is something before and after it. -/
def suffix (p : Path) : String :=
  let (after, before) := p.name.toList.reverse.span (· ≠ '.')
  match after, before with
  | _ :: _, _ :: _ :: _ => .ofList ('.' :: after.reverse)
  | _, _ => ""

/-- A path that starts where another one ends. -/
def join (p q : Path) : Path :=
  if q.isAbsolute then q else { p with names := p.names ++ q.names }

/-- Names without any two dots: each takes the name before it away. -/
def collapse (before : List String) : List String → List String
  | [] => before
  | name :: rest =>
    if name = ".." then collapse before.dropLast rest else collapse (before ++ [name]) rest

/-- The root that the roots of all resolved paths come down to. -/
def mainRoot : String := "/"

/-- The absolute path without any two dots. -/
def resolve (cwd p : Path) : Path := ⟨mainRoot, collapse [] (cwd.join p).names⟩

/-- Whether the names of one path come before those of another, name by name. Names are compared by
their code points, halves of surrogate pairs among them. -/
def precedesNames : List String → List String → Bool
  | [], _ => true
  | _ :: _, [] => false
  | a :: as, b :: bs =>
    if a = b then precedesNames as bs else Text.codePoints a.toList < Text.codePoints b.toList

/-- Whether a path is listed before another. -/
def precedes (p q : Path) : Bool := precedesNames p.names q.names

/-- A resolved path has no two dots left. -/
theorem not_mem_collapse {before names : List String} (h : ".." ∉ before) :
    ".." ∉ collapse before names := by
  fun_induction collapse before names with
  | case1 => exact h
  | case2 before rest ih => exact ih fun hm => h (List.dropLast_subset _ hm)
  | case3 before name rest hn ih => exact ih (by simp [h]; exact fun e => hn e.symm)

end Path

end CommandCompiler
