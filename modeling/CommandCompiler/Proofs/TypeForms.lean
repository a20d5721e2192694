import CommandCompiler.Proofs.DocumentLayout
import CommandCompiler.Proofs.TypeText
/-!
# CommandCompiler.Proofs.TypeForms

**A type as an object and the same type as text.** Both may stand for the type of a
field. Every type has an object (`TypeRef.toObject`), and every object for it is
decoded to it, whatever else the object holds. Its text is decoded to it only if
the text can spell it: a name that means something else, or is no word, is read as
something else or not at all (`Field.object_agrees_with_text_iff`).

The two are compared in one mapping, in which only the type is put in place of
another. What is decoded from the rest of it is the same then
(`Field.ofValue_withType_eq_pass_iff`).
-/

namespace CommandCompiler

/-! ## Objects -/

namespace TypeRef

/-- The object of a type stands for it. -/
theorem isTypeObject_toObject (t : TypeRef) : t.toObject.IsTypeObject t := by
  induction t with
  | primitive p => exact .primitive rfl rfl
  | list element ih => exact .list rfl rfl ih
  | map key value ihk ihv => exact .map rfl rfl ihk rfl ihv
  | optional inner ih => exact .optional rfl rfl ih
  | named name => exact .named rfl rfl

section Decoding

variable {t : TypeRef} {v : Value}

theorem ofObject_of_isTypeObject (h : v.IsTypeObject t) (free : v.IsLoopFree [])
    (depth : t.depth ≤ 32) : ofObject v = .pass t := by
  rw [ofObject, Decoder.run, objectDecoder_givesAt_outside h free depth]

/-- An object is no text. -/
theorem run_decoder_of_isTypeObject (h : v.IsTypeObject t) : (decoder v).run = ofObject v := by
  cases h <;> rfl

theorem run_decoder_str_eq_pass_iff {s : String} :
    (decoder (.str s)).run = .pass t ↔ parse s = .ok t := by
  simp only [decoder]
  cases parse s <;> simp [Decoder.run, Decoder.of, Checked.issue]

end Decoding

end TypeRef

/-! ## Another value under a key -/

section PutKey

open Value

variable {key key' : String} {v w : Value} {entries es es' : List (Value × Value)}

theorem valueAt?_cons_of_ne {e : Value × Value} (h : e.1 ≠ str key) :
    valueAt? key (e :: entries) = valueAt? key entries := by
  obtain ⟨k, w⟩ := e
  cases k with
  | str s =>
      have other : s ≠ key := fun heq => h (congrArg str heq)
      rw [valueAt?, if_neg other]
  | _ => rfl

/-- Only a text is the same key as a text. -/
theorem Value.sameKey_str_iff {k : Value} {s : String} : k.sameKey (str s) = true ↔ k = str s := by
  cases k with
  | float x =>
      simp only [sameKey, whole?, reduceCtorEq, iff_false]
      cases wholeFloat? x <;> simp
  | _ => simp [sameKey, whole?]

theorem valueAt?_cons_self : valueAt? key ((str key, v) :: entries) = some v := if_pos rfl

theorem valueAt?_putKey_self : valueAt? key (putKey (str key) v entries) = some v := by
  induction entries with
  | nil => exact valueAt?_cons_self
  | cons e rest ih =>
      rw [putKey]
      split
      · rename_i same
        rw [sameKey_str_iff.mp same, valueAt?_cons_self]
      · rename_i other
        rw [sameKey_str_iff] at other
        rw [valueAt?_cons_of_ne other, ih]

theorem valueAt?_putKey_of_ne (h : key' ≠ key) :
    valueAt? key' (putKey (str key) v entries) = valueAt? key' entries := by
  have other : str key ≠ str key' := fun heq => h (str.inj heq).symm
  induction entries with
  | nil => exact valueAt?_cons_of_ne (e := (str key, v)) other
  | cons e rest ih =>
      obtain ⟨k, w⟩ := e
      rw [putKey]
      split
      · rename_i same
        obtain rfl := sameKey_str_iff.mp same
        rw [valueAt?_cons_of_ne other, valueAt?_cons_of_ne other]
      · by_cases found : k = str key'
        · rw [found, valueAt?_cons_self, valueAt?_cons_self]
        · rw [valueAt?_cons_of_ne found, valueAt?_cons_of_ne found, ih]

/-- Which keys a mapping has does not depend on the value that is put under one of them. -/
theorem keys_putKey (k v w : Value) (entries : List (Value × Value)) :
    (putKey k v entries).map Prod.fst = (putKey k w entries).map Prod.fst := by
  induction entries with
  | nil => rfl
  | cons e rest ih =>
      rw [putKey, putKey]
      split
      · rfl
      · rw [List.map_cons, List.map_cons, ih]

theorem Value.hasHalfKey_congr (h : es.map Prod.fst = es'.map Prod.fst) :
    hasHalfKey es = hasHalfKey es' := by
  have keys (es : List (Value × Value)) :
      hasHalfKey es = (es.map Prod.fst).any fun k => hasHalfKey [(k, .null)] := by
    simp [hasHalfKey, List.any_map, Function.comp_def]
  rw [keys, keys, h]

theorem Value.onlyKeys_congr (h : es.map Prod.fst = es'.map Prod.fst) (known : List String) :
    onlyKeys known es = onlyKeys known es' := by
  have keys (es : List (Value × Value)) : (es.filterMap fun e => keyIssue? known e.1) =
      (es.map Prod.fst).filterMap (keyIssue? known) := by
    rw [List.filterMap_map]
    rfl
  rw [onlyKeys, onlyKeys, keys, keys, h]

end PutKey

/-! ## Fields -/

namespace Field

open Value

variable {entries : List (Value × Value)} {number : Option Nat} {f g : Field} {v w : Value}

/-- Whether a mapping is taken for a field, as far as other keys than that of the type are
concerned. -/
structure TakesRest (entries : List (Value × Value)) (f : Field) : Prop where
  noHalf : hasHalfKey entries = false
  name : member "name" text entries = .pass f.name
  roles : memberOr (rolesKey entries) [] Role.listOfValue entries = .pass f.roles
  usage : memberOr "usage" none textOrNull entries = .pass f.usage
  short : memberOr "short" none textOrNull entries = .pass f.short
  keys : onlyKeys ["name", "type", rolesKey entries, "usage", "short"] entries = .pass ()

theorem ofValue_mapping_eq_pass_iff :
    ofValue (.mapping entries number) = .pass f ↔
      TakesRest entries f ∧ (memberDecoder "type" TypeRef.decoder entries).run = .pass f.type := by
  -- Only the type may be nested, so that it is decoded from the outside.
  have run : ofValue (.mapping entries number) =
      if hasHalfKey entries then .issue .stringUnicode
      else (Field.mk <$> member "name" text entries
        <*> (memberDecoder "type" TypeRef.decoder entries).run
        <*> memberOr (rolesKey entries) [] Role.listOfValue entries
        <*> memberOr "usage" none textOrNull entries
        <*> memberOr "short" none textOrNull entries) <*
          onlyKeys ["name", "type", rolesKey entries, "usage", "short"] entries := by
    rw [ofValue, decoder, closedDecoder]
    split <;> rfl
  rw [run]
  split
  · rename_i half
    constructor
    · intro h
      cases h
    · rintro ⟨rest, -⟩
      rw [rest.noHalf] at half
      cases half
  · rename_i noHalf
    rw [Bool.not_eq_true] at noHalf
    rw [Checked.seqLeft_eq_pass]
    simp only [Checked.map_eq, Checked.seq_eq, Checked.seq_eq_pass, Checked.map_eq_pass]
    constructor
    · rintro ⟨⟨_, _, ⟨_, _, ⟨_, _, ⟨_, _, ⟨_, name, rfl⟩, type, rfl⟩, roles, rfl⟩, usage, rfl⟩,
        short, rfl⟩, _, keys⟩
      exact ⟨⟨noHalf, name, roles, usage, short, keys⟩, type⟩
    · rintro ⟨⟨-, name, roles, usage, short, keys⟩, type⟩
      exact ⟨⟨_, _, ⟨_, _, ⟨_, _, ⟨_, _, ⟨_, name, rfl⟩, type, rfl⟩, roles, rfl⟩, usage, rfl⟩,
        short, rfl⟩, (), keys⟩

/-- Two mappings that differ in the value for the type at most are the same apart from it. -/
theorem TakesRest.congr {es es' : List (Value × Value)} (h : TakesRest es f)
    (keys : es.map Prod.fst = es'.map Prod.fst)
    (same : ∀ key, key ≠ "type" → valueAt? key es = valueAt? key es') : TakesRest es' f := by
  have sameRoles : rolesKey es = rolesKey es' := by
    rw [rolesKey, rolesKey, same "role" (by decide)]
  have notType : rolesKey es' ≠ "type" := by
    unfold rolesKey
    split <;> decide
  obtain ⟨noHalf, name, roles, usage, short, known⟩ := h
  rw [member, same "name" (by decide)] at name
  rw [sameRoles, memberOr, same _ notType] at roles
  rw [memberOr, same "usage" (by decide)] at usage
  rw [memberOr, same "short" (by decide)] at short
  rw [sameRoles, onlyKeys_congr keys] at known
  exact ⟨hasHalfKey_congr keys ▸ noHalf, name, roles, usage, short, known⟩

theorem TakesRest.retyped (h : TakesRest (putKey (.str "type") w entries) f) (v : Value) :
    TakesRest (putKey (.str "type") v entries) f := by
  refine h.congr (keys_putKey _ w v entries) fun key other => ?_
  rw [valueAt?_putKey_of_ne other, valueAt?_putKey_of_ne other]

/-- What is not the type is told by the mapping. -/
theorem TakesRest.eq_retyped (h : TakesRest entries f) (h' : TakesRest entries g) :
    f = { g with type := f.type } := by
  have name := h.name.symm.trans h'.name
  have roles := h.roles.symm.trans h'.roles
  have usage := h.usage.symm.trans h'.usage
  have short := h.short.symm.trans h'.short
  simp only [Checked.pass.injEq] at name roles usage short
  obtain ⟨_, _, _, _, _⟩ := f
  subst name roles usage short
  rfl

/-- A mapping with a value for the type of a field, in the place of another one if there is one. -/
def withType (entries : List (Value × Value)) (number : Option Nat) (v : Value) : Value :=
  .mapping (putKey (.str "type") v entries) number

/-- In a mapping that is taken for a field, any value that stands for a type may stand for that of
the field. Nothing else changes. -/
theorem ofValue_withType_eq_pass_iff (accepted : ofValue (withType entries number w) = .pass g) :
    ofValue (withType entries number v) = .pass f ↔
      (TypeRef.decoder v).run = .pass f.type ∧ f = { g with type := f.type } := by
  obtain ⟨rest, -⟩ := ofValue_mapping_eq_pass_iff.mp accepted
  have rest := rest.retyped v
  have type (t : TypeRef) :
      (memberDecoder "type" TypeRef.decoder (putKey (.str "type") v entries)).run = .pass t ↔
        (TypeRef.decoder v).run = .pass t := by
    rw [memberDecoder, valueAt?_putKey_self]
    exact Checked.within_eq_pass
  rw [withType, ofValue_mapping_eq_pass_iff, type, and_comm]
  refine and_congr_right fun _ => ?_
  constructor
  · intro rest'
    exact rest'.eq_retyped rest
  · intro same
    obtain ⟨noHalf, name, roles, usage, short, known⟩ := rest
    rw [same]
    exact ⟨noHalf, name, roles, usage, short, known⟩

/-! ## Both forms -/

/-- **An object and a text agree on the types that a text can spell.** Any object that stands for a
type, with whatever else in it, is decoded to the type. In a mapping that is taken for a field with
some type, the object and the text of the type stand for the same field if and only if the names in
the type are words that mean nothing else. Otherwise the text is rejected, or it is another type. -/
theorem object_agrees_with_text_iff {t : TypeRef} (depth : t.depth ≤ 32) (object : v.IsTypeObject t)
    (free : v.IsLoopFree []) (accepted : ofValue (withType entries number w) = .pass g) :
    t.toObject.IsTypeObject t ∧ TypeRef.ofObject v = .pass t ∧
      ofValue (withType entries number v) = .pass { g with type := t } ∧
      (ofValue (withType entries number (.str t.format)) = .pass { g with type := t } ↔
        ∀ name ∈ t.names, Text.IsWord name ∧ name ∉ TypeRef.reservedWords) ∧
      ((¬ ∀ name ∈ t.names, Text.IsWord name ∧ name ∉ TypeRef.reservedWords) →
        ∀ f, ofValue (withType entries number (.str t.format)) = .pass f → f.type ≠ t) := by
  have decoded : TypeRef.ofObject v = .pass t := TypeRef.ofObject_of_isTypeObject object free depth
  -- As the type is not too deep, only its names can keep its text from being parsed to it.
  have spelled : TypeRef.parse t.format = .ok t ↔
      ∀ name ∈ t.names, Text.IsWord name ∧ name ∉ TypeRef.reservedWords := by
    rw [TypeRef.parse_eq_ok_iff]
    constructor
    · intro h
      exact h.1.names
    · intro names
      have canonical : t.Canonical := ⟨names, depth⟩
      exact ⟨canonical, canonical.spelledBy_format⟩
  refine ⟨t.isTypeObject_toObject, decoded, ?_, ?_, ?_⟩
  · rw [ofValue_withType_eq_pass_iff accepted, TypeRef.run_decoder_of_isTypeObject object]
    exact ⟨decoded, rfl⟩
  · rw [ofValue_withType_eq_pass_iff accepted, TypeRef.run_decoder_str_eq_pass_iff,
      and_iff_left rfl]
    exact spelled
  · rintro unspelled f hf rfl
    rw [ofValue_withType_eq_pass_iff accepted, TypeRef.run_decoder_str_eq_pass_iff] at hf
    exact unspelled (spelled.mp hf.1)

/-- An object for lists of songs that holds more: raw data, and a set under a key that is a
number. -/
def notedObject : Value :=
  .mapping [(.str "note", .bytes [0xFF]), (.str "kind", .str "list"), (.int 1, .set [.null]),
    (.str "element_type",
      .mapping [(.str "name", .str "Song"), (.str "kind", .str "named")] (some 2))] (some 1)

/-- The object and the text of a type in a field that had another one. -/
theorem notedObject_agrees :
    notedObject.IsTypeObject (.list (.named "Song")) ∧ notedObject.IsLoopFree [] ∧
      ofValue (withType [(.str "type", .str "Int"), (.str "name", .str "songs")] none notedObject) =
        .pass { name := "songs", type := .list (.named "Song") } ∧
      ofValue (withType [(.str "type", .str "Int"), (.str "name", .str "songs")] none
          (.str "List<Song>")) =
        .pass { name := "songs", type := .list (.named "Song") } := by
  have object : notedObject.IsTypeObject (.list (.named "Song")) := .list rfl rfl (.named rfl rfl)
  have free : notedObject.IsLoopFree [] := by
    refine .intro nofun fun w hw => ?_
    obtain rfl := List.mem_singleton.mp hw
    exact .intro (by decide) nofun
  have accepted :
      ofValue (withType [(.str "type", .str "Int"), (.str "name", .str "songs")] none
          (.str "Int")) =
        .pass { name := "songs", type := .primitive .int } := rfl
  obtain ⟨-, -, asObject, asText, -⟩ :=
    object_agrees_with_text_iff (t := .list (.named "Song")) (by decide) object free accepted
  exact ⟨object, free, asObject, asText.mpr (by decide)⟩

end Field

end CommandCompiler
