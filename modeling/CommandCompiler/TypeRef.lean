/-!
# CommandCompiler.TypeRef

Declared types: what a schema author writes beside a field name, such as
`String` or `Map<String, List<Card>>`. Whether such a type can be the type of an
argument is decided elsewhere; here every type is as good as any other.

* `Primitive`, `TypeRef` : the types;
* `TypeRef.format` : the text of a type;
* `TypeRef.unwrap` : a type without its outermost `Optional`.
-/

namespace CommandCompiler

/-- The types that have a name of their own. -/
inductive Primitive
  | string
  | int
  | float
  | decimal
  | bool
  | bytes
  | timestamp
  | datetime
  deriving Repr, DecidableEq, Inhabited

/-- A declared type. -/
inductive TypeRef
  | primitive (p : Primitive)
  | list (element : TypeRef)
  | map (key value : TypeRef)
  /-- A value that may be absent. -/
  | optional (inner : TypeRef)
  /-- Any other type, known only by its name. -/
  | named (name : String)
  deriving Repr, DecidableEq, Inhabited

namespace Primitive

/-- The primitive types, in the order in which they are documented. -/
def all : List Primitive := [string, int, float, decimal, bool, bytes, timestamp, datetime]

/-- How a type expression spells a primitive type. -/
def name : Primitive → String
  | string => "String"
  | int => "Int"
  | float => "Float"
  | decimal => "Decimal"
  | bool => "Bool"
  | bytes => "Bytes"
  | timestamp => "Timestamp"
  | datetime => "Datetime"

/-- The primitive type of a name. -/
def ofName? (s : String) : Option Primitive := all.find? (·.name == s)

theorem mem_all (p : Primitive) : p ∈ all := by cases p <;> decide

/-- No two primitive types share a name. -/
theorem ofName?_name (p : Primitive) : ofName? p.name = some p := by cases p <;> decide

end Primitive

namespace TypeRef

/-- The text of a type, in its one canonical spelling. -/
def format : TypeRef → String
  | primitive p => p.name
  | list element => "List<" ++ element.format ++ ">"
  | map key value => "Map<" ++ key.format ++ ", " ++ value.format ++ ">"
  | optional inner => "Optional<" ++ inner.format ++ ">"
  | named name => name

/-- Splits off one `Optional`: whether there was one, and the type inside. -/
def unwrap : TypeRef → Bool × TypeRef
  | optional inner => (true, inner)
  | t => (false, t)

end TypeRef

end CommandCompiler
