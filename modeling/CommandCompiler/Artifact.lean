import CommandCompiler.Json.Parser
import CommandCompiler.Json.Printer
import CommandCompiler.Signature
import CommandCompiler.Value.Decode
/-!
# CommandCompiler.Artifact

Signature artifacts: JSON documents from which a host registers commands without
having their schema.

* `Artifact.ofSignatures`, `Artifact.serialize` : from signatures to text;
* `ArtifactError`, `ArtifactError.message` : why a text is no artifact;
* `Artifact.signatures`, `Artifact.deserialize` : from text to signatures.

The document states the version of its format. What is empty or absent is left
out on the way to text and filled in on the way back.
-/

namespace CommandCompiler

/-- The version of the format. -/
def Artifact.version : String := "1"

/-- A parameter as an object. -/
def Parameter.toJson (p : Parameter) : Json :=
  .obj ([("name", .str p.name), ("role", .str p.role.tag), ("shape", .str p.shape.tag)] ++
    (if p.usage = "" then [] else [("usage", .str p.usage)]) ++
    match p.short with
    | none => []
    | some short => [("short", .str short)])

/-- A signature as an object. -/
def Signature.toJson (s : Signature) : Json :=
  .obj ([("name", .str s.name), ("params", .arr (s.params.map Parameter.toJson))] ++
    if s.usage = "" then [] else [("usage", .str s.usage)])

/-- Why a text is no artifact. -/
inductive ArtifactError
  | malformed (text : String) (fault : Json.Fault)
  /-- The document is not an object. -/
  | notAnObject (found : Value)
  | unsupportedVersion (found : Value)
  /-- Something other than an array where a list is due. -/
  | notIterable (found : Value)
  /-- Something other than an object where a signature or a parameter is due. -/
  | notSubscriptable (found : Value)
  | missingKey (key : String)
  | invalidRole (found : Value)
  | invalidShape (found : Value)
  /-- The members of a signature or a parameter are not of the right kinds. -/
  | invalidMembers (ofSignature : Bool) (issues : List Issue)
  deriving Repr

/-- The wording of an error. Issues are told one by one and have no wording here. -/
def ArtifactError.message : ArtifactError → String
  | malformed text fault => fault.message text
  | notAnObject v => s!"'{v.typeName}' object has no attribute 'get'"
  | unsupportedVersion v => v.sentence fun shown => s!"Unsupported artifact format version: {shown}"
  | notIterable v => s!"'{v.typeName}' object is not iterable"
  | notSubscriptable v => v.subscriptFault
  | missingKey key => Text.quote key
  | invalidRole v => v.sentence fun shown => s!"{shown} is not a valid ParamRole"
  | invalidShape v => v.sentence fun shown => s!"{shown} is not a valid SyntaxShape"
  | invalidMembers _ _ => ""

namespace Artifact

/-- The document for a list of signatures. -/
def ofSignatures (signatures : List Signature) : Json :=
  .obj [("v", .str version), ("signatures", .arr (signatures.map Signature.toJson))]

/-- The text of an artifact. -/
def serialize (signatures : List Signature) : String := (ofSignatures signatures).print

/-- A member that must be there. -/
def required (v : Json) (key : String) : Except ArtifactError Json :=
  match v with
  | .obj fields =>
    match fields.lookup key with
    | some w => .ok w
    | none => .error (.missingKey key)
  | _ => .error (.notSubscriptable v.toValue)

/-- A member as text, or the text it has when it is absent. -/
def textOr (v : Json) (key absent : String) : Checked String :=
  match v.field? key with
  | some w => w.toValue.text.within (.key key)
  | none => .pass absent

/-- What a member is iterated over: the items of an array, the characters of a text, or the names of
an object. -/
def elements (v : Json) (key : String) : Except ArtifactError (List Json) :=
  match v.field? key with
  | none => .ok []
  | some (.arr items) => .ok items
  | some (.str s) => .ok (s.toList.map fun c => .str (String.singleton c))
  | some (.obj fields) => .ok (fields.map fun f => .str f.1)
  | some w => .error (.notIterable w.toValue)

/-- The word of a member in a fixed vocabulary. -/
def word {α : Type} (ofTag? : String → Option α) (invalid : Value → ArtifactError) (v : Json) :
    Except ArtifactError α :=
  match v with
  | .str s =>
    match ofTag? s with
    | some a => .ok a
    | none => .error (invalid v.toValue)
  | _ => .error (invalid v.toValue)

/-- A decoded part, with its issues as an error. -/
def checked {α : Type} (ofSignature : Bool) : Checked α → Except ArtifactError α
  | .pass a => .ok a
  | .fail issues => .error (.invalidMembers ofSignature issues)

/-- A parameter of known role and shape, with its other members from an object. -/
def finishParameter (v name : Json) (role : ParamRole) (shape : Shape) :
    Except ArtifactError Parameter :=
  checked false <|
    (fun name usage short => { name, shape, role, usage, short })
      <$> name.toValue.text.within (.key "name")
      <*> textOr v "usage" ""
      <*> match v.field? "short" with
          | some w => w.toValue.textOrNull.within (.key "short")
          | none => .pass none

/-- A signature with known parameters, with its other members from an object. -/
def finishSignature (v name : Json) (params : List Parameter) : Except ArtifactError Signature :=
  checked true <|
    (fun name usage => { name, usage, params })
      <$> name.toValue.text.within (.key "name")
      <*> textOr v "usage" ""

/-- A parameter from an object. The role is looked at before the shape. -/
def parameter (v : Json) : Except ArtifactError Parameter := do
  let name ← required v "name"
  let role ← word ParamRole.ofTag? .invalidRole (← required v "role")
  let shape ← word Shape.ofTag? .invalidShape (← required v "shape")
  finishParameter v name role shape

/-- A signature from an object. -/
def signature (v : Json) : Except ArtifactError Signature := do
  let name ← required v "name"
  let params ← (← elements v "params").mapM parameter
  finishSignature v name params

/-- Whether a document says that it has this version of the format. -/
def isVersion : Json → Bool
  | .str s => s == version
  | _ => false

/-- The signatures in a document of the right version. -/
def signatures (v : Json) : Except ArtifactError (List Signature) :=
  match v with
  | .obj fields =>
    let found := (fields.lookup "v").getD .null
    if isVersion found then do (← elements v "signatures").mapM signature
    else .error (.unsupportedVersion found.toValue)
  | _ => .error (.notAnObject v.toValue)

/-- The signatures in the text of an artifact. -/
def deserialize (text : String) : Except ArtifactError (List Signature) :=
  match Json.parse text with
  | .error fault => .error (.malformed text fault)
  | .ok v => signatures v

end Artifact

end CommandCompiler
