import CommandCompiler.TypeRef
/-!
# CommandCompiler.TypeRef.Kind

The kinds of types.

* `TypeRef.Kind`, `TypeRef.kind` : the kinds, and the kind of a type;
* `Kind.tag`, `Kind.ofTag?` : the words for them;
* `Kind.rank?` : the order of the kinds of types that hold other types.
-/

namespace CommandCompiler.TypeRef

/-- The kinds of types. -/
inductive Kind
  | primitive
  | list
  | map
  | optional
  | named
  deriving Repr, DecidableEq

namespace Kind

/-- All kinds. -/
def all : List Kind := [primitive, list, map, optional, named]

/-- The word for a kind. -/
def tag : Kind → String
  | primitive => "primitive"
  | list => "list"
  | map => "map"
  | optional => "optional"
  | named => "named"

/-- The kind of a word. -/
def ofTag? (s : String) : Option Kind := all.find? (·.tag == s)

/-- No two kinds share a word. -/
theorem ofTag?_tag (k : Kind) : ofTag? k.tag = some k := by cases k <;> decide

/-- The rank of a kind among those whose types hold other types. -/
def rank? : Kind → Option Nat
  | list => some 0
  | map => some 1
  | optional => some 2
  | primitive | named => none

end Kind

/-- The kind of a type. -/
def kind : TypeRef → Kind
  | primitive _ => .primitive
  | list _ => .list
  | map _ _ => .map
  | optional _ => .optional
  | named _ => .named

end CommandCompiler.TypeRef
