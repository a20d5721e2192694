import CommandCompiler.Proofs.Alignment
import CommandCompiler.Proofs.Decoding
/-!
# CommandCompiler.Proofs.Construction

**Which command values there are.** A kind of command value admits certain
values in its fields, and constructing a value yields one of these and every one
of these:

* `ModelField.Holds` : what a field may hold;
* `CommandModel.Inhabits` : a command value of a kind;
* `CommandModel.Sound` : kinds whose fields can be told apart and whose defaults
  are values that the fields may hold;
* `CommandModel.construct_of_hold` : values that the fields may hold come out of
  construction as they went in;
* `CommandModel.exists_construct_iff` : for a sound kind, the values that can be
  constructed are the values of the kind;
* `Variant.sound_of_compile` : the kinds of compiled commands are sound.
-/

namespace CommandCompiler

/-! ## What fields hold -/

/-- Whether a field may hold this. -/
def ModelField.Holds (f : ModelField) : FieldValue → Prop
  | .absent => f.nullable = true
  | .string _ => f.type = .string
  | .bool _ => f.type = .bool

/-- Fields by their names, in order, each with a value that it may hold. -/
abbrev Hold (fs : List ModelField) (es : List (String × FieldValue)) : Prop :=
  List.Forall₂ (fun f e => e.1 = f.name ∧ f.Holds e.2) fs es

theorem Hold.map_fst {fs : List ModelField} {es : List (String × FieldValue)} (h : Hold fs es) :
    es.map (·.1) = fs.map (·.name) := by
  induction h with
  | nil => rfl
  | cons holds _ ih => rw [List.map_cons, List.map_cons, holds.1, ih]

/-- A command value of a kind: it has the names and exactly the fields of the kind, in order, and
each holds what it may. -/
structure CommandModel.Inhabits (m : CommandModel) (c : Command) : Prop where
  className : c.className = m.className
  command : c.command = m.command
  fields : Hold m.fields c.fields

/-- A kind of command value whose fields can be told apart by their names, and whose defaults the
fields may hold. -/
structure CommandModel.Sound (m : CommandModel) : Prop where
  distinct : (m.fields.map (·.name)).Nodup
  plain : ∀ f ∈ m.fields, Text.hasHalf f.name = false
  defaults : ∀ f ∈ m.fields, ∀ x, f.default = some x → f.Holds x

/-- Every default that comes from a reader passes its own check. -/
theorem ModelField.holds_default_ofReader {r : Reader} {x : FieldValue}
    (h : (ofReader r).default = some x) : (ofReader r).Holds x := by
  cases r <;> cases h <;> rfl

/-- What a field may hold is decoded as it is. -/
theorem ModelField.decode_toValue {f : ModelField} {x : FieldValue} (h : f.Holds x) :
    f.decode x.toValue = .pass x := by
  cases x with
  | absent =>
      have nullable : f.nullable = true := h
      simp [decode, FieldValue.toValue, nullable]
  | string s =>
      have type : f.type = .string := h
      simp [decode, FieldValue.toValue, type, Value.text, Checked.map]
  | bool b =>
      have type : f.type = .bool := h
      simp [decode, FieldValue.toValue, type, boolOfValue]

/-- A truth value, however it is given, is decoded as one. -/
theorem ModelField.exists_bool_of_boolOfValue {v : Value} {x : FieldValue}
    (h : boolOfValue v = .pass x) : ∃ b, x = .bool b := by
  have word {s : String} (h : boolOfWord s = .pass x) : ∃ b, x = .bool b := by
    unfold boolOfWord at h
    split at h
    · cases h; exact ⟨_, rfl⟩
    · cases h
  have int {n : Int} (h : boolOfInt n = .pass x) : ∃ b, x = .bool b := by
    unfold boolOfInt at h
    split at h
    · cases h; exact ⟨_, rfl⟩
    · split at h
      · cases h; exact ⟨_, rfl⟩
      · cases h
  unfold boolOfValue at h
  split at h
  · cases h; exact ⟨_, rfl⟩
  · split at h
    · cases h
    · exact word h
  · split at h
    · exact word h
    · cases h
  · split at h
    · exact int h
    · cases h
  · split at h
    · split at h
      · exact int h
      · cases h
    · cases h
  · cases h

/-- Whatever is decoded for a field, the field may hold. -/
theorem ModelField.holds_of_decode {f : ModelField} {v : Value} {x : FieldValue}
    (h : f.decode v = .pass x) : f.Holds x := by
  unfold decode at h
  split at h
  · rename_i nullable
    cases h
    exact nullable
  · split at h
    · rename_i type
      obtain ⟨s, -, rfl⟩ := Checked.map_eq_pass.mp h
      exact type
    · rename_i type
      obtain ⟨b, rfl⟩ := exists_bool_of_boolOfValue h
      exact type

/-! ## Filling the fields -/

/-- A field takes what stands under its name, if it may hold that. -/
theorem ModelField.fill_eq_pass {f : ModelField} {entries : List (Value × Value)}
    {x : FieldValue} (h : f.Holds x) (found : valueAt? f.name entries = some x.toValue) :
    f.fill entries = .pass (f.name, x) := by
  cases hd : f.default <;>
    simp [fill, hd, Value.member, Value.memberOr, found, decode_toValue h, Checked.within,
      Checked.map]

/-- A field is filled with something that it may hold, provided that its default is. -/
theorem ModelField.holds_of_fill {f : ModelField} {entries : List (Value × Value)}
    {e : String × FieldValue} (default : ∀ x, f.default = some x → f.Holds x)
    (h : f.fill entries = .pass e) : e.1 = f.name ∧ f.Holds e.2 := by
  obtain ⟨x, hx, rfl⟩ := Checked.map_eq_pass.mp h
  refine ⟨rfl, ?_⟩
  cases hd : f.default with
  | none =>
      simp only [hd, Value.member_eq_pass_iff] at hx
      obtain ⟨v, -, hv⟩ := hx
      exact holds_of_decode hv
  | some d =>
      simp only [hd, Value.memberOr_eq_pass_iff] at hx
      cases hv : valueAt? f.name entries with
      | none =>
          rw [hv] at hx
          have absent : x = d := hx
          exact default x (absent ▸ hd)
      | some v =>
          rw [hv] at hx
          exact holds_of_decode hx

namespace CommandModel

/-- All fields take what stands under their names, if they may hold it. -/
theorem fillAll_eq_pass {entries : List (Value × Value)} {fs : List ModelField}
    {es : List (String × FieldValue)} (h : Hold fs es)
    (found : ∀ e ∈ es, valueAt? e.1 entries = some e.2.toValue) :
    fillAll entries fs = .pass es := by
  induction h with
  | nil => rfl
  | @cons f e fs es holds _ ih =>
      obtain ⟨name, x⟩ := e
      obtain ⟨rfl, holds⟩ := holds
      have filled : f.fill entries = .pass (f.name, x) :=
        ModelField.fill_eq_pass holds (found _ (List.mem_cons_self ..))
      rw [fillAll, filled, ih fun e he => found e (List.mem_cons_of_mem _ he)]
      rfl

/-- All fields are filled with something that they may hold, provided that their defaults are. -/
theorem hold_of_fillAll {entries : List (Value × Value)} {fs : List ModelField}
    {es : List (String × FieldValue)} (defaults : ∀ f ∈ fs, ∀ x, f.default = some x → f.Holds x)
    (h : fillAll entries fs = .pass es) : Hold fs es := by
  induction fs generalizing es with
  | nil =>
      cases h
      exact .nil
  | cons f fs ih =>
      rw [fillAll, Checked.seq_eq, Checked.seq_eq_pass] at h
      obtain ⟨cons, es, hcons, hes, rfl⟩ := h
      obtain ⟨e, he, rfl⟩ := Checked.map_eq_pass.mp hcons
      rw [List.forall_mem_cons] at defaults
      exact .cons (ModelField.holds_of_fill defaults.1 he) (ih defaults.2 hes)

end CommandModel

/-! ## Values given by field names -/

/-- Each of several values given by distinct names is found under its name. -/
theorem Binding.valueAt?_entriesOf {fields : List (String × FieldValue)}
    (distinct : (fields.map (·.1)).Nodup) {e : String × FieldValue} (he : e ∈ fields) :
    valueAt? e.1 (entriesOf fields) = some e.2.toValue := by
  rw [entriesOf, keyedBy_eq_self distinct]
  induction fields with
  | nil => cases he
  | cons g fields ih =>
      rw [List.map_cons, List.nodup_cons] at distinct
      rw [List.map_cons, valueAt?]
      rcases List.mem_cons.mp he with rfl | he
      · rw [if_pos rfl]
      · have other : g.1 ≠ e.1 := by
          intro heq
          exact distinct.1 (heq ▸ List.mem_map_of_mem he)
        rw [if_neg other, ih distinct.2 he]

/-- Values given by names have no other keys than these. -/
theorem Binding.onlyKeys_entriesOf {fields : List (String × FieldValue)}
    (distinct : (fields.map (·.1)).Nodup) :
    Value.OnlyKeys (fields.map (·.1)) (entriesOf fields) := by
  rw [entriesOf, keyedBy_eq_self distinct]
  intro e he
  obtain ⟨f, hf, rfl⟩ := List.mem_map.mp he
  exact ⟨f.1, List.mem_map_of_mem hf, rfl⟩

/-! ## Constructing values -/

namespace CommandModel

/-- Values that the fields may hold come out of construction as they went in. -/
theorem construct_of_hold {m : CommandModel} (hm : m.Sound) {fields : List (String × FieldValue)}
    (h : Hold m.fields fields) :
    m.construct (Binding.entriesOf fields) = .pass ⟨m.className, m.command, fields⟩ := by
  have names : fields.map (·.1) = m.fields.map (·.name) := h.map_fst
  have distinct : (fields.map (·.1)).Nodup := names ▸ hm.distinct
  have plain : ∀ name ∈ fields.map (·.1), Text.hasHalf name = false := by
    intro name hname
    rw [names] at hname
    obtain ⟨f, hf, rfl⟩ := List.mem_map.mp hname
    exact hm.plain f hf
  have keys := Binding.onlyKeys_entriesOf distinct
  have filled := fillAll_eq_pass h fun e he => Binding.valueAt?_entriesOf distinct he
  rw [construct, keys.hasHalfKey_eq_false plain, filled, ← names,
    Value.onlyKeys_eq_pass_iff.mpr keys]
  rfl

/-- For a sound kind, the values that can be constructed, from whatever is given, are the values of
the kind. -/
theorem exists_construct_iff {m : CommandModel} (hm : m.Sound) {c : Command} :
    (∃ entries, m.construct entries = .pass c) ↔ m.Inhabits c := by
  constructor
  · rintro ⟨entries, h⟩
    unfold construct at h
    split at h
    · cases h
    · obtain ⟨es, hes, rfl⟩ := Checked.map_eq_pass.mp h
      exact ⟨rfl, rfl, hold_of_fillAll hm.defaults (Checked.seqLeft_eq_pass.mp hes).1⟩
  · rintro ⟨className, command, holds⟩
    obtain ⟨_, _, fields⟩ := c
    cases className
    cases command
    exact ⟨_, construct_of_hold hm holds⟩

end CommandModel

/-! ## The kinds of compiled commands -/

/-- The kind of value of a command that compiles is sound: its fields have distinct names, which
are identifiers, and their defaults come from readers. -/
theorem Variant.sound_of_compile {v : Variant} {position : Int} {c : CompiledCommand}
    (h : v.compile position = .ok c) : c.binding.model.Sound := by
  obtain ⟨distinct, -, names⟩ := names_of_compile h
  obtain ⟨name, slots, -, hw, hl, rfl⟩ := exists_slots h
  refine ⟨names ▸ distinct, fun f hf => ?_, fun f hf x hx => ?_⟩
  · have hname : f.name ∈ v.fields.map (·.name) := names ▸ List.mem_map_of_mem hf
    obtain ⟨g, hg, heq⟩ := List.mem_map.mp hname
    rw [← heq]
    exact Text.hasHalf_eq_false_of_isName (Text.isName_iff.mpr (hw.fieldNames g hg).isName)
  · rw [assemble_fields name hw hl] at hf
    obtain ⟨s, -, rfl⟩ := List.mem_map.mp hf
    exact ModelField.holds_default_ofReader hx

end CommandCompiler
