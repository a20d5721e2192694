import CommandCompiler.Artifact
import CommandCompiler.Proofs.JsonDocument
/-!
# CommandCompiler.Proofs.ArtifactText

**Signatures are restored from the text of their artifact**
(`Artifact.deserialize_serialize`). There are two steps back:

* from the document to the signatures: what was left out because it was empty or
  absent is filled in as such (`Artifact.signatures_ofSignatures`);
* from the text to the document: it holds texts, arrays and objects only, and no
  object has two members of one name (`Artifact.readBack_ofSignatures`).

The first step is right whatever the texts are. The second is about texts as they
come from outside (`Signature.held`). A text that an escape has put together may
also hold half a surrogate pair before another half, and both are read back as
one character. No two signatures from outside are held alike
(`Signature.held_injective`), so that they are known from what is read back.
-/

namespace CommandCompiler

/-- A parameter whose texts come from outside, as it is held. -/
def Parameter.held (p : Parameter) : Parameter :=
  { p with
    name := Text.holdText p.name
    usage := Text.holdText p.usage
    short := p.short.map Text.holdText }

/-- A signature whose texts come from outside, as it is held. -/
def Signature.held (s : Signature) : Signature where
  name := Text.holdText s.name
  usage := Text.holdText s.usage
  params := s.params.map Parameter.held

theorem Parameter.held_injective : Function.Injective Parameter.held := by
  rintro ⟨name, shape, role, usage, short⟩ ⟨name', shape', role', usage', short'⟩ h
  simp only [held, mk.injEq, Text.holdText_injective.eq_iff,
    (Option.map_injective Text.holdText_injective).eq_iff] at h
  obtain ⟨rfl, rfl, rfl, rfl, rfl⟩ := h
  rfl

/-- No two signatures from outside are held alike. -/
theorem Signature.held_injective : Function.Injective Signature.held := by
  rintro ⟨name, usage, params⟩ ⟨name', usage', params'⟩ h
  simp only [held, mk.injEq, Text.holdText_injective.eq_iff,
    (List.map_injective_iff.mpr Parameter.held_injective).eq_iff] at h
  obtain ⟨rfl, rfl, rfl⟩ := h
  rfl

namespace Artifact

/-! ## From documents to signatures -/

section Members

variable {v w : Json} {key : String}

theorem required_of_field? (h : v.field? key = some w) : required v key = .ok w := by
  cases v with
  | obj fields =>
      have found : fields.lookup key = some w := h
      rw [required, found]
  | _ => cases h

/-- A text that is left out where it is empty is read as it was. -/
theorem textOr_of_field? {s : String} (h : v.field? key = if s = "" then none else some (.str s)) :
    textOr v key "" = .pass s := by
  rw [textOr, h]
  by_cases empty : s = ""
  · rw [if_pos empty, empty]
  · rw [if_neg empty]
    rfl

theorem word_of_ofTag? {α : Type} {ofTag? : String → Option α} {invalid : Value → ArtifactError}
    {s : String} {a : α} (h : ofTag? s = some a) : word ofTag? invalid (.str s) = .ok a := by
  rw [word, h]

end Members

theorem field?_usage (p : Parameter) :
    p.toJson.field? "usage" = if p.usage = "" then none else some (.str p.usage) := by
  by_cases h : p.usage = ""
  · rw [Parameter.toJson, if_pos h, if_pos h]
    cases p.short <;> rfl
  · rw [Parameter.toJson, if_neg h, if_neg h]
    rfl

theorem field?_short (p : Parameter) : p.toJson.field? "short" = p.short.map .str := by
  rw [Parameter.toJson]
  split <;> cases p.short <;> rfl

/-- Nothing of a parameter is lost in its object. -/
theorem parameter_toJson (p : Parameter) : parameter p.toJson = .ok p := by
  have finish : finishParameter p.toJson (.str p.name) p.role p.shape = .ok p := by
    rw [finishParameter, textOr_of_field? (field?_usage p), field?_short]
    obtain ⟨name, shape, role, usage, short⟩ := p
    cases short <;> rfl
  have name : required p.toJson "name" = .ok (.str p.name) := required_of_field? rfl
  have role : required p.toJson "role" = .ok (.str p.role.tag) := required_of_field? rfl
  have shape : required p.toJson "shape" = .ok (.str p.shape.tag) := required_of_field? rfl
  rw [parameter, name, role, shape]
  simp only [bind, Except.bind, word_of_ofTag? (ParamRole.ofTag?_tag p.role),
    word_of_ofTag? (Shape.ofTag?_tag p.shape)]
  exact finish

/-- Items are read back one by one, if each of them is. -/
theorem mapM_map_eq_ok {ε α β : Type} {f : β → Except ε α} {g : α → β} (h : ∀ a, f (g a) = .ok a)
    (as : List α) : (as.map g).mapM f = .ok as := by
  induction as with
  | nil => rfl
  | cons a as ih =>
      rw [List.map_cons, List.mapM_cons, h, ih]
      rfl

/-- Nothing of a signature is lost in its object. -/
theorem signature_toJson (s : Signature) : signature s.toJson = .ok s := by
  have usage : s.toJson.field? "usage" = if s.usage = "" then none else some (.str s.usage) := by
    rw [Signature.toJson]
    split <;> rfl
  have finish : finishSignature s.toJson (.str s.name) s.params = .ok s := by
    rw [finishSignature, textOr_of_field? usage]
    rfl
  have name : required s.toJson "name" = .ok (.str s.name) := required_of_field? rfl
  have params : elements s.toJson "params" = .ok (s.params.map Parameter.toJson) := rfl
  rw [signature, name, params]
  simp only [bind, Except.bind, mapM_map_eq_ok parameter_toJson]
  exact finish

/-- Nothing of a list of signatures is lost in its document. -/
theorem signatures_ofSignatures (signatures : List Signature) :
    Artifact.signatures (ofSignatures signatures) = .ok signatures :=
  mapM_map_eq_ok signature_toJson signatures

/-! ## From texts to documents -/

/-- The names of the members of the objects in an artifact. -/
def memberNames : List String :=
  ["v", "signatures", "name", "usage", "params", "role", "shape", "short"]

theorem readBack_member {depth : Nat} {name : String} {v : Json} (hn : name ∈ memberNames)
    (h : Json.ReadBack depth v) : Text.IsHeld (name, v).1 ∧ Json.ReadBack depth (name, v).2 := by
  have plain : ∀ name ∈ memberNames, name.toList.any Text.isReserved = false := by decide
  exact ⟨Text.isHeld_of_plain (plain name hn), h⟩

theorem readBack_parameter (p : Parameter) : Json.ReadBack 1 p.held.toJson := by
  have name := Text.isHeld_holdText p.name
  have role : Text.IsHeld p.role.tag := Text.isHeld_of_plain (by cases p.role <;> decide)
  have shape : Text.IsHeld p.shape.tag := Text.isHeld_of_plain (by cases p.shape <;> decide)
  have usage := Text.isHeld_holdText p.usage
  unfold Parameter.toJson Parameter.held
  refine .obj ?_ ?_
  · split <;> cases p.short <;> simp
  · rw [List.forall_mem_append, List.forall_mem_append]
    refine ⟨⟨?_, ?_⟩, ?_⟩
    · simp only [List.forall_mem_cons]
      exact ⟨readBack_member (by decide) (.str name), readBack_member (by decide) (.str role),
        readBack_member (by decide) (.str shape), nofun⟩
    · split
      · nofun
      · exact List.forall_mem_singleton.mpr (readBack_member (by decide) (.str usage))
    · cases p.short with
      | none => nofun
      | some short =>
          have short := Text.isHeld_holdText short
          exact List.forall_mem_singleton.mpr (readBack_member (by decide) (.str short))

theorem readBack_signature (s : Signature) : Json.ReadBack 3 s.held.toJson := by
  have name := Text.isHeld_holdText s.name
  have usage := Text.isHeld_holdText s.usage
  have params : Json.ReadBack 2 (.arr (s.held.params.map Parameter.toJson)) := by
    refine .arr ?_
    simp only [Signature.held, List.map_map, List.forall_mem_map]
    exact fun p _ => readBack_parameter p
  unfold Signature.toJson
  refine .obj ?_ ?_
  · split <;> simp
  · rw [List.forall_mem_append]
    constructor
    · simp only [List.forall_mem_cons]
      exact ⟨readBack_member (by decide) (.str name), readBack_member (by decide) params, nofun⟩
    · split
      · nofun
      · exact List.forall_mem_singleton.mpr (readBack_member (by decide) (.str usage))

/-- The document of signatures from outside is read back from its text. -/
theorem readBack_ofSignatures (signatures : List Signature) :
    Json.ReadBack 5 (ofSignatures (signatures.map Signature.held)) := by
  have version : Text.IsHeld version := Text.isHeld_of_plain (by decide)
  have items : Json.ReadBack 4 (.arr ((signatures.map Signature.held).map Signature.toJson)) := by
    refine .arr ?_
    simp only [List.map_map, List.forall_mem_map]
    exact fun s _ => readBack_signature s
  refine .obj (by simp) ?_
  simp only [List.forall_mem_cons]
  exact ⟨readBack_member (by decide) (.str version), readBack_member (by decide) items, nofun⟩

/-- **Artifacts lose nothing.** From the text of an artifact, the signatures that it was made of are
read back, in their order, whatever characters are in their texts. -/
theorem deserialize_serialize (signatures : List Signature) :
    deserialize (serialize (signatures.map Signature.held)) =
      .ok (signatures.map Signature.held) := by
  rw [deserialize, serialize, (readBack_ofSignatures signatures).parse_print (by decide)]
  exact signatures_ofSignatures _

end Artifact

end CommandCompiler
