import CommandCompiler.Schema
import CommandCompiler.TypeRef.Object
import CommandCompiler.TypeRef.Parser
/-!
# CommandCompiler.Schema.Document

The layout of a schema document: a mapping with a list of commands, each a
mapping with a list of fields, each a mapping again.

* `Role.ofValue`, `Role.listOfValue` : role words, with their short forms;
* `TypeRef.decoder` : a type as text or as an object;
* `Field.ofValue`, `Variant.ofValue`, `Schema.ofValue` : the mappings.

No mapping may have a key that the layout does not know. Keys other than a
field's name and type may be left out.
-/

namespace CommandCompiler

/-- The short forms of role words. They stand in documents only. -/
def Role.unabbreviate (s : String) : String :=
  if s = "req" then required.tag else if s = "opt" then optional.tag else s

/-- A role word in full. -/
def Role.ofValue (v : Value) : Checked Role := v.wordOf ofTag?

/-- A role word in full or in its short form. -/
def Role.ofWord : Value → Checked Role
  | .str s => ofValue (.str (unabbreviate s))
  | v => ofValue v

/-- The roles of a field: none, one word, or a list of words. Short forms stand alone or in lists;
the members of a set are taken in full only. -/
def Role.listOfValue : Value → Checked (List Role)
  | .null => .pass []
  | .str s => .all ofWord 0 [.str s]
  | .list vs => .all ofWord 0 vs
  | v => v.items ofValue

/-! ## Types

A type may be nested, so whatever holds a type is decoded with a count of that. -/

/-- Decodes a type, as the text of a type expression or as an object. -/
def TypeRef.decoder : Value → Decoder TypeRef
  | .str s =>
    match parse s with
    | .ok t => .of (.pass t)
    | .error e => .of (.issue (.valueError ("Value error, " ++ Text.replaceHalves (e.message s))))
  | v => objectDecoder none v

namespace Value

variable {α : Type}

/-- Decodes the items of a list. The members of a set pass for a list. -/
def itemsDecoder (decode : Value → Decoder α) : Value → Decoder (List α)
  | list vs | set vs => .all decode 0 vs
  | _ => .of (.issue .listType)

/-- Decodes a member that must be there. -/
def memberDecoder (key : String) (decode : Value → Decoder α) (entries : List (Value × Value)) :
    Decoder α :=
  match valueAt? key entries with
  | some v => (decode v).within (.key key)
  | none => .of ((Checked.issue .missing).within (.key key))

/-- Decodes a member that has a value of its own when it is not there. -/
def memberDecoderOr (key : String) (absent : α) (decode : Value → Decoder α)
    (entries : List (Value × Value)) : Decoder α :=
  match valueAt? key entries with
  | some v => (decode v).within (.key key)
  | none => .of (.pass absent)

/-- Decodes a mapping that has `known` keys only. A key that cannot be looked at is all that is
told. -/
def closedDecoder (known : List String) (entries : List (Value × Value)) (d : Decoder α) :
    Decoder α :=
  if hasHalfKey entries then d.instead .stringUnicode else d <* .of (onlyKeys known entries)

end Value

/-! ## Mappings -/

/-- The key under which a field's roles stand. Of two, the singular counts and the plural is one
key too many. -/
def Field.rolesKey (entries : List (Value × Value)) : String :=
  if (valueAt? "role" entries).isSome then "role" else "roles"

/-- Decodes a field of a command. -/
def Field.decoder : Value → Decoder Field
  | .mapping entries _ =>
    let rolesKey := rolesKey entries
    Value.closedDecoder ["name", "type", rolesKey, "usage", "short"] entries <|
      Field.mk <$> .of (Value.member "name" Value.text entries)
        <*> Value.memberDecoder "type" TypeRef.decoder entries
        <*> .of (Value.memberOr rolesKey [] Role.listOfValue entries)
        <*> .of (Value.memberOr "usage" none Value.textOrNull entries)
        <*> .of (Value.memberOr "short" none Value.textOrNull entries)
  | _ => .of (.issue .modelType)

/-- Decodes a command. -/
def Variant.decoder : Value → Decoder Variant
  | .mapping entries _ =>
    Value.closedDecoder ["name", "usage", "variant", "fields"] entries <|
      Variant.mk <$> .of (Value.memberOr "name" none Value.textOrNull entries)
        <*> .of (Value.memberOr "usage" none Value.textOrNull entries)
        <*> .of (Value.memberOr "variant" none Value.textOrNull entries)
        <*> Value.memberDecoderOr "fields" [] (Value.itemsDecoder Field.decoder) entries
  | _ => .of (.issue .modelType)

/-- Decodes a whole document. -/
def Schema.decoder : Value → Decoder Schema
  | .mapping entries _ =>
    Value.closedDecoder ["commands"] entries <|
      Schema.mk <$> Value.memberDecoderOr "commands" [] (Value.itemsDecoder Variant.decoder) entries
  | _ => .of (.issue .modelType)

/-- The field that a value stands for. -/
def Field.ofValue (v : Value) : Checked Field := (Field.decoder v).run

/-- The command that a value stands for. -/
def Variant.ofValue (v : Value) : Checked Variant := (Variant.decoder v).run

/-- The schema that a value stands for. -/
def Schema.ofValue (v : Value) : Checked Schema := (Schema.decoder v).run

end CommandCompiler
