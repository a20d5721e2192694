import CommandCompiler.Nesting
import CommandCompiler.TypeRef.Kind
import CommandCompiler.Value.Decode
/-!
# CommandCompiler.TypeRef.Object

The object form of types: a mapping that names the kind of a type and holds its
parts, for documents that are written by programs.

* `TypeRef.toObject` : a type as an object;
* `TypeRef.objectDecoder`, `TypeRef.ofObject` : the type that an object stands for.

An object may hold further keys, which mean nothing. Objects may be nested as
deep as `Nesting` allows, and none may stand inside itself.
-/

namespace CommandCompiler.TypeRef

/-- A mapping with text keys. -/
def object (entries : List (String × Value)) : Value :=
  .mapping (entries.map fun e => (.str e.1, e.2))

/-- A type as an object. -/
def toObject (t : TypeRef) : Value :=
  match t with
  | primitive p => object [("kind", .str t.kind.tag), ("primitive", .str p.name)]
  | list element => object [("kind", .str t.kind.tag), ("element_type", element.toObject)]
  | map key value =>
    object [("kind", .str t.kind.tag), ("key_type", key.toObject), ("value_type", value.toObject)]
  | optional inner => object [("kind", .str t.kind.tag), ("inner_type", inner.toObject)]
  | named name => object [("kind", .str t.kind.tag), ("name", .str name)]

/-- The primitive type of a name. -/
def primitiveOfValue (v : Value) : Checked Primitive := v.wordOf Primitive.ofName?

/-- A part of an object that is a type itself: the value under `key`, which is smaller than the
mapping it stands in, goes to `decode`. -/
def part (key : String) (entries : List (Value × Value))
    (decode : (v : Value) → sizeOf v < sizeOf entries → Decoder TypeRef) : Decoder TypeRef :=
  match h : valueAt? key entries with
  | some v => (decode v (sizeOf_valueAt? h)).within (.key key)
  | none => .of ((Checked.issue .missing).within (.key key))

/-- The kind that a value names. -/
def kindOfValue? : Value → Option Kind
  | .str s => Kind.ofTag? s
  | _ => none

/-- Decodes the type that an object stands for, with the given decoder at work. Paths name the kind
before the part. -/
def objectDecoder (decoder : Option Kind) (v : Value) : Decoder TypeRef :=
  match v with
  | .mapping entries number =>
    match valueAt? "kind" entries with
    | none => .of (.issue .unionTagNotFound)
    | some word =>
      match kindOfValue? word with
      | none => .of (.issue .unionTagInvalid)
      | some kind =>
        let place : Place := ⟨decoder, kind⟩
        let nested key := part key entries fun w _ => objectDecoder place.next w
        let content : Decoder TypeRef :=
          match kind with
          | .primitive => .of (primitive <$> Value.member "primitive" primitiveOfValue entries)
          | .list => list <$> nested "element_type"
          | .map => map <$> nested "key_type" <*> nested "value_type"
          | .optional => optional <$> nested "inner_type"
          | .named => .of (TypeRef.named <$> Value.member "name" Value.text entries)
        (content.entering place number).within (.key kind.tag)
  | _ => .of (.issue .modelAttributesType)
termination_by sizeOf v

/-- The type that an object stands for. -/
def ofObject (v : Value) : Checked TypeRef := (objectDecoder none v).run

end CommandCompiler.TypeRef
