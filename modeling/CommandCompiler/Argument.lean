import CommandCompiler.Schema
import CommandCompiler.Signature
/-!
# CommandCompiler.Argument

What kind of argument a field is. Its declared type is first resolved to one of
the two argument types, looking through at most one `Optional`; then the
effective role decides how the argument is supplied.

* `ArgType`, `TypeRef.resolve?` : argument types and the types that have one;
* `ArgKind` : the kinds of argument;
* `Unclassified` : why a field is no argument of any kind;
* `Field.classify` : the kind of a field.
-/

namespace CommandCompiler

/-- The types of argument values. -/
inductive ArgType
  | string
  | bool
  deriving Repr, DecidableEq, Inhabited

namespace ArgType

/-- The primitive type that declares an argument type. -/
def primitive : ArgType → Primitive
  | string => .string
  | bool => .bool

/-- The argument type that a primitive type declares, if it declares one. -/
def ofPrimitive? : Primitive → Option ArgType
  | .string => some string
  | .bool => some bool
  | _ => none

/-- How the host sees values of the type. -/
def shape : ArgType → Shape
  | string => .string
  | bool => .boolean

theorem ofPrimitive?_eq_some_iff {p : Primitive} {a : ArgType} :
    ofPrimitive? p = some a ↔ p = a.primitive := by
  cases p <;> cases a <;> simp [ofPrimitive?, primitive]

end ArgType

/-- A declared type that an argument may have: its argument type, and whether it was wrapped. -/
structure Resolved where
  isOptional : Bool
  argType : ArgType
  deriving Repr, DecidableEq

/-- Resolves a declared type. Only one `Optional` is looked through. -/
def TypeRef.resolve? (t : TypeRef) : Option Resolved :=
  match t.unwrap with
  | (isOptional, .primitive p) => (ArgType.ofPrimitive? p).map (⟨isOptional, ·⟩)
  | _ => none

/-- The kinds of argument. -/
inductive ArgKind
  | required (type : ArgType)
  | optional (type : ArgType)
  /-- A flag; without a type it is a switch, which carries no value. -/
  | flag (type : Option ArgType)
  deriving Repr, DecidableEq

/-- Why a field is no argument. -/
inductive Unclassified
  | missingRole
  | unsupportedType (type : TypeRef)
  /-- The field is required, but its type is wrapped. -/
  | requiredWrapped
  /-- The field is optional, but its type is not wrapped. -/
  | optionalBare
  /-- The field is a flag with a bare type that is not `Bool`. -/
  | flagBare
  deriving Repr, DecidableEq

/-- The kind of argument that a role makes of a resolved type. -/
def Role.apply : Role → Resolved → Except Unclassified ArgKind
  | required, ⟨false, a⟩ => .ok (.required a)
  | required, ⟨true, _⟩ => .error .requiredWrapped
  | optional, ⟨true, a⟩ => .ok (.optional a)
  | optional, ⟨false, _⟩ => .error .optionalBare
  | flag, ⟨true, a⟩ => .ok (.flag (some a))
  | flag, ⟨false, .bool⟩ => .ok (.flag none)
  | flag, ⟨false, .string⟩ => .error .flagBare

/-- The kind of argument that a field is. A field without a role is told so before its type is
looked at. -/
def Field.classify (f : Field) : Except Unclassified ArgKind :=
  match Role.effective? f.roles with
  | none => .error .missingRole
  | some role =>
    match f.type.resolve? with
    | none => .error (.unsupportedType f.type)
    | some resolved => role.apply resolved

end CommandCompiler
