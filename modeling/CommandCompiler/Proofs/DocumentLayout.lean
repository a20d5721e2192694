import CommandCompiler.Proofs.TypeObject
/-!
# CommandCompiler.Proofs.DocumentLayout

**The documents that are taken for schemas, and the schemas they are taken for.**
`Field.Written`, `Variant.Written` and `Schema.Written` are the layout of a
document without decoders: which keys a mapping may have, what stands under each,
and what it means when there is nothing.

Each level is one use of the lemmas about `Decoder.Takes`, with those of the
level below for what stands inside. Two things are not the same on both sides and
are seen to agree:

* a field's roles may stand under either of two keys, but a decoder knows only
  the one that it looks at (`Field.onlyKeys_rolesKey_iff`);
* a decoder has an end to its depth, of which the layout knows nothing
  (`TypeRef.takes_decoder` needs some depth of nesting and no more).
-/

namespace CommandCompiler

/-! ## The layout -/

/-- The words for a role in a document. -/
def Role.words : Role → List String
  | required => ["required", "req"]
  | optional => ["optional", "opt"]
  | flag => ["flag"]

namespace Value

variable {α : Type}

/-- Whether a value is a word for a role. -/
def IsRoleWord (v : Value) (r : Role) : Prop := ∃ s ∈ r.words, v = str s

/-- Whether a value stands for the roles of a field: one word, a list of words, or nothing. -/
inductive IsRoles : Value → List Role → Prop
  | null : IsRoles null []
  | word {v : Value} {r : Role} (h : v.IsRoleWord r) : IsRoles v [r]
  | list {vs : List Value} {rs : List Role} (h : List.Forall₂ IsRoleWord vs rs) :
      IsRoles (list vs) rs

/-- Whether a value is text, or nothing. -/
inductive IsTextOrNull : Value → Option String → Prop
  | null : IsTextOrNull null none
  | text (s : String) : IsTextOrNull (str s) (some s)

/-- Whether a value stands for a type, as the text of a type expression or as an object. -/
inductive IsType : Value → TypeRef → Prop
  | text {s : String} {t : TypeRef} (h : TypeRef.parse s = .ok t) : IsType (str s) t
  | object {v : Value} {t : TypeRef} (h : v.IsTypeObject t) : IsType v t

/-- Whether a value is a list of what stands for these, in this order. -/
inductive IsListOf (R : Value → α → Prop) : Value → List α → Prop
  | list {vs : List Value} {as : List α} (h : List.Forall₂ R vs as) : IsListOf R (list vs) as

/-- Whether a value is a mapping whose entries stand for this. -/
inductive IsMappingOf (R : List (Value × Value) → α → Prop) : Value → α → Prop
  | mapping {entries : List (Value × Value)} {number : Option Nat} {a : α} (h : R entries a) :
      IsMappingOf R (mapping entries number) a

end Value

open Value

section Layout

variable (entries : List (Value × Value))

/-- The entries of a mapping that stands for a field. The roles may stand under either of two keys,
but not under both. -/
structure Field.Written (f : Field) : Prop where
  keys : OnlyKeys ["name", "type", "role", "roles", "usage", "short"] entries
  name : valueAt? "name" entries = some (str f.name)
  type : ∃ v, valueAt? "type" entries = some v ∧ v.IsType f.type
  oneKey : valueAt? "role" entries = none ∨ valueAt? "roles" entries = none
  roles : OrAbsent [] IsRoles ((valueAt? "role" entries).or (valueAt? "roles" entries)) f.roles
  usage : OrAbsent none IsTextOrNull (valueAt? "usage" entries) f.usage
  short : OrAbsent none IsTextOrNull (valueAt? "short" entries) f.short

/-- The entries of a mapping that stands for a command. -/
structure Variant.Written (c : Variant) : Prop where
  keys : OnlyKeys ["name", "usage", "variant", "fields"] entries
  name : OrAbsent none IsTextOrNull (valueAt? "name" entries) c.name
  usage : OrAbsent none IsTextOrNull (valueAt? "usage" entries) c.usage
  className : OrAbsent none IsTextOrNull (valueAt? "variant" entries) c.className
  fields : OrAbsent [] (IsListOf (IsMappingOf Field.Written)) (valueAt? "fields" entries) c.fields

/-- The entries of a mapping that stands for a schema. -/
structure Schema.Written (s : Schema) : Prop where
  keys : OnlyKeys ["commands"] entries
  commands :
    OrAbsent [] (IsListOf (IsMappingOf Variant.Written)) (valueAt? "commands" entries) s.commands

end Layout

namespace Value

/-- What stands under a key, if this is a mapping. -/
def under? (key : String) : Value → Option Value
  | mapping entries _ => valueAt? key entries
  | _ => none

/-- The items of the list under a key. -/
def itemsUnder (key : String) (v : Value) : List Value :=
  match v.under? key with
  | some (list vs) => vs
  | _ => []

/-- What stands in a document for the types of the fields. -/
def fieldTypes (v : Value) : List Value :=
  (v.itemsUnder "commands").flatMap fun c => (c.itemsUnder "fields").filterMap (·.under? "type")

end Value

/-! ## Leaves -/

theorem Role.ofTag?_eq_some_iff {s : String} {r : Role} : ofTag? s = some r ↔ r.tag = s :=
  Text.find?_word_eq_some_iff ofTag?_tag

/-- The words for a role are what becomes its tag in full. -/
theorem Role.tag_eq_unabbreviate_iff {s : String} {r : Role} :
    r.tag = unabbreviate s ↔ s ∈ r.words := by
  unfold unabbreviate
  by_cases req : s = "req"
  · subst req
    cases r <;> decide
  by_cases opt : s = "opt"
  · subst opt
    cases r <;> decide
  rw [if_neg req, if_neg opt]
  cases r <;> simp [words, tag, req, opt, eq_comm]

theorem Role.ofWord_eq_pass_iff {v : Value} {r : Role} : ofWord v = .pass r ↔ v.IsRoleWord r := by
  cases v with
  | str s =>
      simp only [ofWord, ofValue, wordOf_eq_pass_iff, ofTag?_eq_some_iff, IsRoleWord, str.injEq,
        exists_eq_left', tag_eq_unabbreviate_iff, exists_eq_right']
  | _ => simp [ofWord, ofValue, wordOf_eq_pass_iff, IsRoleWord]

theorem Role.listOfValue_eq_pass_iff {above : List Nat} {v : Value} (plain : v.IsPlain above)
    {rs : List Role} : listOfValue v = .pass rs ↔ v.IsRoles rs := by
  have list {vs : List Value} :
      Checked.all ofWord 0 vs = .pass rs ↔ List.Forall₂ IsRoleWord vs rs := by
    simp only [Checked.all_eq_pass_iff, ofWord_eq_pass_iff]
  constructor
  · intro h
    cases plain with
    | null =>
        cases h
        exact .null
    | str s =>
        rw [listOfValue, list, List.forall₂_cons_left_iff] at h
        obtain ⟨r, rest, hr, hrest, rfl⟩ := h
        cases hrest
        exact .word hr
    | list items => exact .list (list.mp h)
    | _ => cases h
  · intro h
    cases h with
    | null => rfl
    | word h =>
        obtain ⟨s, hs, rfl⟩ := h
        exact list.mpr (.cons ⟨s, hs, rfl⟩ .nil)
    | list h => exact list.mpr h

theorem Value.textOrNull_eq_pass_iff {above : List Nat} {v : Value} (plain : v.IsPlain above)
    {s : Option String} : v.textOrNull = .pass s ↔ v.IsTextOrNull s := by
  constructor
  · intro h
    cases plain with
    | null =>
        cases h
        exact .null
    | str s =>
        cases h
        exact .text s
    | _ => cases h
  · intro h
    cases h <;> rfl

/-! ## Types -/

namespace TypeRef

theorem takes_text (s : String) : (decoder (str s)).Takes (str s).IsType := by
  have meaning (t : TypeRef) : (str s).IsType t ↔ parse s = .ok t := by
    constructor
    · intro h
      cases h with
      | text h => exact h
      | object h => cases h
    · exact .text
  simp only [decoder]
  cases hs : parse s with
  | ok t =>
      refine Decoder.Takes.of fun t' => ?_
      simp [meaning, hs]
  | error e =>
      refine Decoder.Takes.of fun t' => ?_
      simp [meaning, hs, Checked.issue]

theorem takes_object {above : List Nat} {v : Value} (plain : v.IsPlain above)
    (nested : v.NestsTypes 32) : (objectDecoder none v).Takes v.IsTypeObject where
  sound _ ht := isTypeObject_of_gives plain ht
  complete _ ht := objectDecoder_givesAt_outside ht plain.isLoopFree (ht.depth_le nested)

/-- Plain data is decoded to the type that it stands for. -/
theorem takes_decoder {above : List Nat} {v : Value} (plain : v.IsPlain above)
    (nested : v.NestsTypes 32) : (decoder v).Takes v.IsType := by
  have object := takes_object plain nested
  cases plain with
  | str s => exact takes_text s
  | _ =>
      refine object.congr fun t => ?_
      constructor
      · exact .object
      · rintro ⟨h⟩
        assumption

end TypeRef

/-! ## Lists and mappings -/

section Levels

variable {α : Type} {above : List Nat} {entries : List (Value × Value)}

theorem Decoder.Takes.items {decode : Value → Decoder α} {R : Value → α → Prop} {v : Value}
    (plain : v.IsPlain above) (h : ∀ vs, v = list vs → ∀ w ∈ vs, (decode w).Takes (R w)) :
    (itemsDecoder decode v).Takes (v.IsListOf R) := by
  cases plain with
  | list items =>
      rw [itemsDecoder]
      refine (Takes.all (h _ rfl) 0).congr fun as => ?_
      constructor
      · exact .list
      · rintro ⟨h⟩
        exact h
  | _ => exact .never nofun

theorem Decoder.Takes.mapping {d : Decoder α} {R : List (Value × Value) → α → Prop}
    {number : Option Nat} (h : d.Takes (R entries)) :
    d.Takes ((Value.mapping entries number).IsMappingOf R) := by
  refine h.congr fun a => ?_
  constructor
  · exact .mapping
  · rintro ⟨h⟩
    exact h

theorem Decoder.Takes.textOrNullAt {number : Option Nat}
    (plain : (Value.mapping entries number).IsPlain above) (key : String) :
    (Decoder.of (Value.memberOr key none textOrNull entries)).Takes
      (OrAbsent none IsTextOrNull (valueAt? key entries)) :=
  .ofMemberOr fun _ hv _ => textOrNull_eq_pass_iff (plain.valueAt? hv)

/-- A mapping without a key has no other keys than the rest of the known ones. -/
theorem Value.onlyKeys_filter_iff (key : String) (known : List String) :
    OnlyKeys (known.filter (· ≠ key)) entries ↔
      OnlyKeys known entries ∧ valueAt? key entries = none := by
  simp only [OnlyKeys, valueAt?_eq_none_iff, ← forall_and, List.mem_filter, decide_eq_true_eq]
  refine forall_congr' fun e => forall_congr' fun _ => ?_
  constructor
  · rintro ⟨k, ⟨hk, other⟩, heq⟩
    exact ⟨⟨k, hk, heq⟩, by simpa [heq] using other⟩
  · rintro ⟨⟨k, hk, heq⟩, other⟩
    exact ⟨k, ⟨hk, by simpa [heq] using other⟩, heq⟩

end Levels

/-! ## Fields -/

namespace Field

variable {entries : List (Value × Value)}

theorem onlyKeys_rolesKey_iff :
    OnlyKeys ["name", "type", rolesKey entries, "usage", "short"] entries ↔
      OnlyKeys ["name", "type", "role", "roles", "usage", "short"] entries ∧
        (valueAt? "role" entries = none ∨ valueAt? "roles" entries = none) := by
  have without (key : String) := @onlyKeys_filter_iff entries key
    ["name", "type", "role", "roles", "usage", "short"]
  unfold rolesKey
  cases hrole : valueAt? "role" entries with
  | none => simpa [hrole] using without "role"
  | some v => simpa using without "roles"

theorem valueAt?_rolesKey :
    valueAt? (rolesKey entries) entries =
      (valueAt? "role" entries).or (valueAt? "roles" entries) := by
  unfold rolesKey
  cases hrole : valueAt? "role" entries with
  | none => rfl
  | some v => simp [hrole]

theorem takes_roles {above : List Nat} {number : Option Nat}
    (plain : (Value.mapping entries number).IsPlain above) :
    (Decoder.of (Value.memberOr (rolesKey entries) [] Role.listOfValue entries)).Takes
      (OrAbsent [] IsRoles ((valueAt? "role" entries).or (valueAt? "roles" entries))) := by
  rw [← valueAt?_rolesKey]
  exact .ofMemberOr fun _ hv _ => Role.listOfValue_eq_pass_iff (plain.valueAt? hv)

theorem takes_decoder {above : List Nat} {v : Value} (plain : v.IsPlain above)
    (nested : ∀ w ∈ v.under? "type", w.NestsTypes 32) :
    (decoder v).Takes (v.IsMappingOf Written) := by
  cases v with
  | mapping entries number =>
      have name := Decoder.Takes.ofMember fun v (hv : valueAt? "name" entries = some v) s =>
        (plain.valueAt? hv).text_eq_pass_iff
      have type := Decoder.Takes.member fun v (hv : valueAt? "type" entries = some v) =>
        TypeRef.takes_decoder (plain.valueAt? hv) (nested v hv)
      have text := Decoder.Takes.textOrNullAt plain
      have known : ∀ key ∈ ["name", "type", rolesKey entries, "usage", "short"],
          Text.hasHalf key = false := by
        unfold rolesKey
        split <;> decide
      have members :=
        ((((name.map mk).seq type).seq (takes_roles plain)).seq (text "usage")).seq (text "short")
      refine .mapping ((members.closed known).congr fun f => ?_)
      rw [onlyKeys_rolesKey_iff]
      constructor
      · rintro ⟨⟨⟨⟨⟨⟨name, type⟩, roles⟩, usage⟩, short⟩, taken, rfl⟩, keys, oneKey⟩
        obtain ⟨⟨⟨⟨⟨_, hname, rfl⟩, htype⟩, hroles⟩, husage⟩, hshort⟩ := taken
        exact ⟨keys, hname, htype, oneKey, hroles, husage, hshort⟩
      · intro h
        exact ⟨⟨((((f.name, f.type), f.roles), f.usage), f.short),
          ⟨⟨⟨⟨⟨_, h.name, rfl⟩, h.type⟩, h.roles⟩, h.usage⟩, h.short⟩, rfl⟩, h.keys, h.oneKey⟩
  | _ => exact .never nofun

end Field

/-! ## Commands -/

/-- A list under a key is decoded to what its items stand for, if each item is. -/
theorem Decoder.Takes.listAt {α : Type} {decode : Value → Decoder α} {R : Value → α → Prop}
    {above : List Nat} {entries : List (Value × Value)} {number : Option Nat}
    (plain : (Value.mapping entries number).IsPlain above) (key : String)
    (h : ∀ w ∈ (Value.mapping entries number).itemsUnder key,
      w.IsPlain (number.toList ++ above) → (decode w).Takes (R w)) :
    (memberDecoderOr key [] (itemsDecoder decode) entries).Takes
      (OrAbsent [] (IsListOf R) (valueAt? key entries)) := by
  refine .memberOr fun v hv => ?_
  have below := plain.valueAt? hv
  refine .items below fun vs heq w hw => ?_
  subst heq
  have found : (Value.mapping entries number).itemsUnder key = vs := by
    simp [itemsUnder, under?, hv]
  exact h w (found ▸ hw) (below.of_mem_list w hw)

theorem Variant.takes_decoder {above : List Nat} {v : Value} (plain : v.IsPlain above)
    (nested : ∀ f ∈ v.itemsUnder "fields", ∀ w ∈ f.under? "type", w.NestsTypes 32) :
    (decoder v).Takes (v.IsMappingOf Written) := by
  cases v with
  | mapping entries number =>
      have fields := Decoder.Takes.listAt plain "fields" fun f hf below =>
        Field.takes_decoder below (nested f hf)
      have text := Decoder.Takes.textOrNullAt plain
      have members := (((text "name").map mk).seq (text "usage")).seq (text "variant") |>.seq fields
      refine .mapping ((members.closed (by decide)).congr fun c => ?_)
      constructor
      · rintro ⟨⟨⟨⟨⟨name, usage⟩, className⟩, fields⟩, taken, rfl⟩, keys⟩
        obtain ⟨⟨⟨hname, husage⟩, hclass⟩, hfields⟩ := taken
        exact ⟨keys, hname, husage, hclass, hfields⟩
      · intro h
        exact ⟨⟨(((c.name, c.usage), c.className), c.fields),
          ⟨⟨⟨h.name, h.usage⟩, h.className⟩, h.fields⟩, rfl⟩, h.keys⟩
  | _ => exact .never nofun

/-! ## Documents -/

theorem Schema.takes_decoder {above : List Nat} {v : Value} (plain : v.IsPlain above)
    (nested : ∀ w ∈ v.fieldTypes, w.NestsTypes 32) :
    (decoder v).Takes (v.IsMappingOf Written) := by
  cases v with
  | mapping entries number =>
      have commands := Decoder.Takes.listAt plain "commands" fun c hc below =>
        Variant.takes_decoder below fun f hf w hw =>
          nested w (List.mem_flatMap.mpr ⟨c, hc, List.mem_filterMap.mpr ⟨f, hf, hw⟩⟩)
      refine .mapping (((commands.map mk).closed (by decide)).congr fun s => ?_)
      constructor
      · rintro ⟨⟨commands, hcommands, rfl⟩, keys⟩
        exact ⟨keys, hcommands⟩
      · intro h
        exact ⟨⟨s.commands, h.commands, rfl⟩, h.keys⟩
  | _ => exact .never nofun

/-- **The layout is accepted exactly.** Plain data, with types nested at most 32 deep in one
another, is taken for a schema just if it is written like one, and is rejected with the issues in
it otherwise. -/
theorem Schema.ofValue_iff_written {v : Value} (plain : v.IsPlain [])
    (nested : ∀ w ∈ v.fieldTypes, w.NestsTypes 32) :
    (∀ s : Schema, ofValue v = .pass s ↔ v.IsMappingOf Written s) ∧
      ((∃ issues, ofValue v = .fail issues) ↔ ¬ ∃ s : Schema, v.IsMappingOf Written s) := by
  have accepted (s : Schema) : ofValue v = .pass s ↔ v.IsMappingOf Written s :=
    (takes_decoder plain nested).run_eq_pass_iff
  refine ⟨accepted, ?_⟩
  simp only [← accepted]
  cases ofValue v <;> simp

/-! ## Documents that are written out -/

section Object

variable {above : List Nat} {entries : List (String × Value)}

theorem Value.isPlain_list {vs : List Value} :
    (list vs).IsPlain above ↔ ∀ v ∈ vs, v.IsPlain above :=
  ⟨IsPlain.of_mem_list, .list⟩

theorem Value.isPlain_object :
    (TypeRef.object entries).IsPlain above ↔ ∀ e ∈ entries, e.2.IsPlain above := by
  constructor
  · rintro (_ | _ | _ | _ | _ | _ | ⟨keys, new, values⟩) e he
    exact values _ (List.mem_map_of_mem he)
  · intro h
    refine .mapping ?_ nofun ?_
    · intro e he
      obtain ⟨f, -, rfl⟩ := List.mem_map.mp he
      exact ⟨f.1, rfl⟩
    · intro e he
      obtain ⟨f, hf, rfl⟩ := List.mem_map.mp he
      exact h f hf

theorem Value.NestsTypes.of_typeParts_eq_nil {v : Value} (h : v.typeParts = []) (n : Nat) :
    v.NestsTypes n := by
  cases n with
  | zero => exact h
  | succ n => simp [NestsTypes, h]

end Object

/-- An object for lists of songs, which holds something more. -/
def songsObject : Value :=
  TypeRef.object [("kind", .str "list"), ("since", .int 2),
    ("element_type", TypeRef.object [("kind", .str "named"), ("name", .str "Song")])]

/-- A field with its type as an object. -/
def songsField : Value :=
  TypeRef.object [("name", .str "songs"), ("type", songsObject),
    ("roles", .list [.str "flag", .str "req"])]

/-- A field with its type as text. -/
def cardField : Value :=
  TypeRef.object [("usage", .null), ("role", .str "opt"), ("type", .str "Option<Map<String,Card>>"),
    ("name", .str "card")]

/-- A document with one command, which has both. -/
def songDocument : Value :=
  TypeRef.object [("commands", .list
    [TypeRef.object [("name", .str "play"), ("fields", .list [songsField, cardField])]])]

theorem songDocument_plain : songDocument.IsPlain [] := by
  simp [songDocument, songsField, cardField, songsObject, isPlain_object, isPlain_list,
    IsPlain.null, IsPlain.int, IsPlain.str]

theorem songDocument_nested : ∀ w ∈ songDocument.fieldTypes, w.NestsTypes 32 := by
  have types : songDocument.fieldTypes = [songsObject, .str "Option<Map<String,Card>>"] := rfl
  have parts : songsObject.typeParts =
      [TypeRef.object [("kind", .str "named"), ("name", .str "Song")]] := rfl
  have songs : songsObject.NestsTypes 32 := by
    rw [NestsTypes, parts, List.forall_mem_singleton]
    exact .of_typeParts_eq_nil rfl _
  rw [types, List.forall_mem_cons, List.forall_mem_singleton]
  exact ⟨songs, .of_typeParts_eq_nil rfl _⟩

theorem songsField_written : songsField.IsMappingOf Field.Written
    { name := "songs", type := .list (.named "Song"), roles := [.flag, .required] } := by
  have flag : (str "flag").IsRoleWord .flag := ⟨"flag", by decide, rfl⟩
  have req : (str "req").IsRoleWord .required := ⟨"req", by decide, rfl⟩
  exact .mapping
    { keys := by simp [OnlyKeys]
      name := rfl
      type := ⟨songsObject, rfl, .object (.list rfl rfl (.named rfl rfl))⟩
      oneKey := .inl rfl
      roles := .list (.cons flag (.cons req .nil))
      usage := rfl
      short := rfl }

theorem cardField_written : cardField.IsMappingOf Field.Written
    { name := "card", type := .optional (.map (.primitive .string) (.named "Card"))
      roles := [.optional] } := by
  have type : (str "Option<Map<String,Card>>").IsType
      (.optional (.map (.primitive .string) (.named "Card"))) := .text (by decide)
  exact .mapping
    { keys := by simp [OnlyKeys]
      name := rfl
      type := ⟨_, rfl, type⟩
      oneKey := .inr rfl
      roles := .word ⟨"opt", by decide, rfl⟩
      usage := .null
      short := rfl }

/-- A document that is accepted, and what it is taken for. -/
theorem songDocument_accepted :
    songDocument.IsPlain [] ∧ (∀ w ∈ songDocument.fieldTypes, w.NestsTypes 32) ∧
      Schema.ofValue songDocument = .pass
        ⟨[{ name := some "play"
            fields :=
              [{ name := "songs", type := .list (.named "Song"), roles := [.flag, .required] },
               { name := "card", type := .optional (.map (.primitive .string) (.named "Card"))
                 roles := [.optional] }] }]⟩ := by
  obtain ⟨accepted, -⟩ := Schema.ofValue_iff_written songDocument_plain songDocument_nested
  refine ⟨songDocument_plain, songDocument_nested, (accepted _).mpr (.mapping ?_)⟩
  have fields := List.Forall₂.cons songsField_written (.cons cardField_written .nil)
  exact
    { keys := by simp [OnlyKeys]
      commands := .list (.cons (.mapping
        { keys := by simp [OnlyKeys], name := .text _, usage := rfl, className := rfl
          fields := .list fields }) .nil) }

end CommandCompiler
