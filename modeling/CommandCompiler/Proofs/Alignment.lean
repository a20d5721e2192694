import CommandCompiler.Proofs.WellFormed
/-!
# CommandCompiler.Proofs.Alignment

**The host's view, the readers and the class of the value agree.** A command that
compiles is put together from its slots (`Variant.compile_eq_ok_iff`), so there is
one parameter, one reader and one field of the class for each declared field, in
the order of declaration.

* `Aligned` : the four ways in which the three can stand side by side;
* `LaidOut.filterMap_index?` : the positions are counted without gap;
* `Variant.compile_aligned` : both, for every command that compiles.

The fields of the class are collected by their names. They stay in step with the
readers only because the names of a command that compiles are distinct.
-/

namespace CommandCompiler

/-- A parameter, a reader and a field of the class that belong to the same declared field, the
positional ones at `index`. -/
inductive Aligned (f : Field) (index : Nat) : Parameter → Reader → ModelField → Prop
  | required {a : ArgType} (kind : f.HasKind (.required a)) :
      Aligned f index
        { name := f.name, shape := a.shape, role := .required, usage := f.usage.getD "" }
        (.requiredPositional f.name index a)
        { name := f.name, type := a, nullable := false, default := none }
  | optional {a : ArgType} (kind : f.HasKind (.optional a)) :
      Aligned f index
        { name := f.name, shape := a.shape, role := .optional, usage := f.usage.getD "" }
        (.optionalPositional f.name index a)
        { name := f.name, type := a, nullable := true, default := some .absent }
  | switch (kind : f.HasKind (.flag none)) :
      Aligned f index
        { name := f.name, shape := .boolean, role := .switch, usage := f.usage.getD ""
          short := f.short }
        (.switch f.name)
        { name := f.name, type := .bool, nullable := false, default := some (.bool false) }
  | named {a : ArgType} (kind : f.HasKind (.flag (some a))) :
      Aligned f index
        { name := f.name, shape := a.shape, role := .named, usage := f.usage.getD ""
          short := f.short }
        (.namedValue f.name a)
        { name := f.name, type := a, nullable := true, default := some .absent }

/-- A field's slot and the field of the class that its reader fills are aligned. -/
theorem Field.HasKind.aligned {f : Field} {k : ArgKind} (h : f.HasKind k) (index : Nat) :
    Aligned f index (f.slot index k).param (f.slot index k).reader
      (.ofReader (f.slot index k).reader) := by
  cases k with
  | required a => exact .required h
  | optional a => exact .optional h
  | flag type =>
      cases type with
      | none => exact .switch h
      | some a => exact .named h

/-- The positions that readers read, in order, are consecutive: there are as many as positional
fields, the first one being `index`. -/
theorem LaidOut.filterMap_index? {index : Nat} {fs : List Field} {slots : List Slot}
    (h : LaidOut index fs slots) :
    slots.filterMap (·.reader.index?) =
      (List.range' index (fs.countP (·.isPositional))).map Int.ofNat := by
  induction h with
  | nil => rfl
  | @cons index f k fs slots kind rest ih =>
      rw [List.filterMap_cons, Field.slot_reader_index?, List.countP_cons, kind.isPositional_eq, ih,
        ArgKind.width]
      cases k.isPositional with
      | false => rfl
      -- The field takes the position, and the rest go on after it.
      | true => rw [if_pos rfl, if_pos rfl, List.range'_succ, List.map_cons]; rfl

/-! ## Commands that compile -/

/-- A command that compiles is well-formed, and is put together from the slots of its fields. -/
theorem Variant.exists_slots {v : Variant} {position : Int} {c : CompiledCommand}
    (h : v.compile position = .ok c) :
    ∃ name slots, v.properName? = some name ∧ v.WellFormed ∧ LaidOut 0 v.fields slots ∧
      c = v.assemble name slots := by
  obtain ⟨name, hname, none, rfl⟩ := compile_eq_ok_iff.mp h
  have hw : v.WellFormed := errors_eq_nil_iff.mp none
  refine ⟨name, _, hname, hw, laidOut_layOut ?_, rfl⟩
  exact layOut_fst_eq_nil_iff.mpr ⟨hw.kinds, by simp, hw.ordered⟩

@[simp] theorem ModelField.ofReader_name (r : Reader) : (ofReader r).name = r.field := by
  cases r <;> rfl

/-- As no two readers read the same field, each of them fills its own field of the class. -/
theorem Variant.assemble_fields {v : Variant} (name : String) {slots : List Slot}
    (hw : v.WellFormed) (h : LaidOut 0 v.fields slots) :
    (v.assemble name slots).binding.model.fields = slots.map fun s => .ofReader s.reader := by
  have distinct :
      (((slots.map (·.reader)).map ModelField.ofReader).map (·.name)).Nodup := by
    simpa [Function.comp_def, ← h.map_field] using hw.distinct
  show keyedBy (·.name) ((slots.map (·.reader)).map ModelField.ofReader) = _
  rw [keyedBy_eq_self distinct, List.map_map]
  rfl

/-- The parameters and the fields of the class have the names of the declared fields, and these are
all different. -/
theorem Variant.names_of_compile {v : Variant} {position : Int} {c : CompiledCommand}
    (h : v.compile position = .ok c) :
    (v.fields.map (·.name)).Nodup ∧ c.signature.params.map (·.name) = v.fields.map (·.name) ∧
      c.binding.model.fields.map (·.name) = v.fields.map (·.name) := by
  obtain ⟨name, slots, -, hw, hl, rfl⟩ := exists_slots h
  refine ⟨hw.distinct, ?_, ?_⟩
  · show (slots.map (·.param)).map (·.name) = _
    rw [List.map_map]
    exact hl.map_param_name
  · rw [assemble_fields name hw hl, List.map_map, ← hl.map_field]
    exact List.map_congr_left fun s _ => ModelField.ofReader_name s.reader

/-- **Parameters, readers and fields of the class agree.** There is one of each for every declared
field, at its place, and they are aligned. The index of a positional one is the number of
positional fields declared before it, so the positions are `0, 1, ..` without gap or
repetition. -/
theorem Variant.compile_aligned {v : Variant} {position : Int} {c : CompiledCommand}
    (h : v.compile position = .ok c) :
    c.signature.params.length = v.fields.length ∧
      c.binding.readers.length = v.fields.length ∧
      c.binding.model.fields.length = v.fields.length ∧
      (∀ j f, v.fields[j]? = some f → ∃ param reader field,
        c.signature.params[j]? = some param ∧ c.binding.readers[j]? = some reader ∧
          c.binding.model.fields[j]? = some field ∧
          Aligned f ((v.fields.take j).countP (·.isPositional)) param reader field) ∧
      c.binding.readers.filterMap (·.index?) =
        (List.range (v.fields.countP (·.isPositional))).map Int.ofNat := by
  obtain ⟨name, slots, -, hw, hl, rfl⟩ := exists_slots h
  have fields := assemble_fields name hw hl
  have params : (v.assemble name slots).signature.params = slots.map (·.param) := rfl
  have readers : (v.assemble name slots).binding.readers = slots.map (·.reader) := rfl
  refine ⟨?_, ?_, ?_, fun j f hf => ?_, ?_⟩
  · rw [params, List.length_map, hl.length_eq]
  · rw [readers, List.length_map, hl.length_eq]
  · rw [fields, List.length_map, hl.length_eq]
  · obtain ⟨k, kind, hslot⟩ := hl.getElem?_eq hf
    rw [Nat.zero_add] at hslot
    exact ⟨_, _, _, by rw [params, List.getElem?_map, hslot]; rfl,
      by rw [readers, List.getElem?_map, hslot]; rfl,
      by rw [fields, List.getElem?_map, hslot]; rfl, kind.aligned _⟩
  · rw [readers, List.filterMap_map, List.range_eq_range', ← hl.filterMap_index?]
    rfl

/-- A command with a field of every kind, flags among the positional ones. -/
def playCommand : Variant :=
  { name := some "play"
    fields :=
      [{ name := "song", type := .primitive .string, roles := [.required] },
       { name := "loud", type := .primitive .bool, roles := [.flag], short := some "l" },
       { name := "room", type := .optional (.primitive .string), roles := [.flag, .optional] },
       { name := "mode", type := .optional (.primitive .string), roles := [.flag] },
       { name := "again", type := .optional (.primitive .bool), roles := [.optional] }] }

/-- How the host sees it. -/
def playSignature : Signature :=
  { name := "play"
    params :=
      [{ name := "song", shape := .string, role := .required },
       { name := "loud", shape := .boolean, role := .switch, short := some "l" },
       { name := "room", shape := .string, role := .optional },
       { name := "mode", shape := .string, role := .named },
       { name := "again", shape := .boolean, role := .optional }] }

theorem playCommand_aligned :
    ∃ c, playCommand.compile 0 = .ok c ∧ c.signature = playSignature ∧
      c.binding.model.fields.length = 5 ∧ c.binding.readers.filterMap (·.index?) = [0, 1, 2] := by
  have compiles : playCommand.compile 0 = .ok _ := rfl
  obtain ⟨-, -, fields, -, positions⟩ := Variant.compile_aligned compiles
  exact ⟨_, compiles, rfl, fields, positions⟩

end CommandCompiler
