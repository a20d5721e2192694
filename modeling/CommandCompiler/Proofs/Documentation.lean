import CommandCompiler.Proofs.Dispatch
/-!
# CommandCompiler.Proofs.Documentation

**Which commands compile, and which raise a fault.** There are three ways for
compiling a command to end, and `Variant.compilation_cases` says of each of them
when it is the one:

* it is refused, with all its errors, if it is not well-formed;
* it is compiled if it is well-formed and its usage text can be kept;
* a fault is raised otherwise. The usage text of a command is the documentation of
  its class, which is kept in UTF-8, and half a surrogate pair has no place there
  (`Variant.Documentable`).

So being well-formed is not enough for being compiled (`halvedCommand_raises`). Of a
schema the same is said command by command: commands that are not well-formed have
no class, and no documentation (`Schema.documentable_iff`).
-/

namespace CommandCompiler

/-! ## Commands -/

namespace Variant

/-- Whether the usage text can be kept as documentation. -/
def Documentable (v : Variant) : Prop := ∀ usage ∈ v.usage, Text.hasHalf usage = false

variable {v : Variant} {position : Int} {c : CompiledCommand}

/-- A command that compiles does so at every position, and to the same. -/
theorem compile_position (h : v.compile position = .ok c) (position' : Int) :
    v.compile position' = .ok c := by
  obtain ⟨name, hname, none, rfl⟩ := compile_eq_ok_iff.mp h
  -- Errors name the position of a command only if it has no name of its own.
  have label (p : Int) : v.label p = .named name := by rw [Variant.label, hname]
  refine compile_eq_ok_iff.mpr ⟨name, hname, ?_, by rw [label, label]⟩
  exact errors_eq_nil_iff.mpr (errors_eq_nil_iff.mp none)

theorem wellFormed_of_compile (h : v.compile position = .ok c) : v.WellFormed := by
  obtain ⟨-, -, none, -⟩ := compile_eq_ok_iff.mp h
  exact errors_eq_nil_iff.mp none

/-- The documentation of a class is the usage text of its command. -/
theorem doc_of_compile (h : v.compile position = .ok c) : c.binding.model.doc = v.usage := by
  obtain ⟨name, -, -, rfl⟩ := compile_eq_ok_iff.mp h
  rfl

theorem documentable_iff :
    v.Documentable ↔ v.usage.bind Text.Utf8.spellingFault? = none := by
  simp only [Documentable, Option.bind_eq_none_iff, Text.Utf8.spellingFault?_eq_none_iff,
    Option.mem_def]

theorem compilation_of_not_wellFormed (h : ¬ v.WellFormed) :
    v.compilation position = .refused (v.errors position) := by
  rw [compilation, compile_eq_error (mt errors_eq_nil_iff.mp h)]

theorem compilation_of_compile (h : v.compile position = .ok c) :
    v.compilation position =
      (v.usage.bind Text.Utf8.spellingFault?).elim (.compiled c) .raised := by
  simp only [compilation, h, doc_of_compile h]
  cases v.usage.bind Text.Utf8.spellingFault? <;> rfl

theorem compilation_eq_compiled_iff :
    v.compilation position = .compiled c ↔ v.compile position = .ok c ∧ v.Documentable := by
  cases h : v.compile position with
  | error errors => simp [compilation, h]
  | ok c' =>
      rw [compilation_of_compile h, documentable_iff]
      cases v.usage.bind Text.Utf8.spellingFault? <;> simp

/-- No fault is raised just if a command that is well-formed can be documented. -/
theorem docFault?_eq_none_iff :
    v.docFault? position = none ↔ (v.WellFormed → v.Documentable) := by
  by_cases wellFormed : v.WellFormed
  · obtain ⟨c, hc, -⟩ := wellFormed.exists_compile position
    rw [docFault?, compilation_of_compile hc, documentable_iff]
    cases v.usage.bind Text.Utf8.spellingFault? <;> simp [Compilation.fault?, wellFormed]
  · simp [docFault?, compilation_of_not_wellFormed wellFormed, Compilation.fault?, wellFormed]

/-- **How compiling a command ends**, at every position. A command is compiled exactly if it is
well-formed and its usage text can be kept. If it is not well-formed there are errors, and nothing
but them. If it is well-formed and cannot be documented, there are no errors and no compiled
command, but a fault. -/
theorem compilation_cases (v : Variant) (position : Int) :
    (v.errors position = [] ↔ v.WellFormed) ∧
      ((∃ c, v.compilation position = .compiled c) ↔ v.WellFormed ∧ v.Documentable) ∧
      ((∃ errors, v.compilation position = .refused errors) ↔ ¬ v.WellFormed) ∧
      (∀ errors, v.compilation position = .refused errors →
        errors = v.errors position ∧ errors ≠ []) ∧
      ((∃ fault, v.compilation position = .raised fault) ↔
        v.WellFormed ∧ ¬ v.Documentable) := by
  refine ⟨errors_eq_nil_iff, ?_⟩
  by_cases wellFormed : v.WellFormed
  · obtain ⟨c, hc, -⟩ := wellFormed.exists_compile position
    rw [compilation_of_compile hc, documentable_iff]
    cases v.usage.bind Text.Utf8.spellingFault? <;> simp [wellFormed]
  · have some : v.errors position ≠ [] := mt errors_eq_nil_iff.mp wellFormed
    rw [compilation_of_not_wellFormed wellFormed]
    simp [wellFormed, some]

end Variant

/-- A command with half a surrogate pair for a usage text. -/
def halvedCommand : Variant :=
  { name := some "play", usage := some (.ofList (Text.hold 0xD800)) }

/-- **A well-formed command that is neither compiled nor refused.** -/
theorem halvedCommand_raises :
    halvedCommand.WellFormed ∧ (∀ c, halvedCommand.compilation 0 ≠ .compiled c) ∧
      ∀ errors, halvedCommand.compilation 0 ≠ .refused errors := by
  have raised : halvedCommand.compilation 0 = .raised ⟨0xD800, 0, 1⟩ := by decide +kernel
  have wellFormed : halvedCommand.WellFormed := by decide +kernel
  simp [raised, wellFormed]

/-! ## Schemas -/

/-- Whether all that is kept of the commands can be. -/
def Schema.Documentable (s : Schema) : Prop := ∀ v ∈ s.commands, v.WellFormed → v.Documentable

/-- A schema can be documented just if none of its commands raises a fault. -/
theorem Schema.documentable_iff {s : Schema} : s.Documentable ↔ s.docFault? = none := by
  rw [docFault?, List.findSome?_eq_none_iff]
  constructor
  · intro h fault hfault
    obtain ⟨i, hi, rfl⟩ := List.mem_mapIdx.mp hfault
    rw [Variant.docFault?_eq_none_iff.mpr (h _ (List.getElem_mem hi))]
    rfl
  · intro h v hv
    obtain ⟨i, hi, rfl⟩ := List.mem_iff_getElem.mp hv
    have none := h _ (List.mem_mapIdx.mpr ⟨i, hi, rfl⟩)
    rw [id, Option.map_eq_none_iff] at none
    exact Variant.docFault?_eq_none_iff.mp none

/-- Documentation from outside can be kept. -/
theorem Schema.documentable_of_isHeld {s : Schema}
    (h : ∀ v ∈ s.commands, ∀ usage ∈ v.usage, Text.IsHeld usage) : s.Documentable :=
  fun v hv _ usage hu => Text.hasHalf_eq_false_of_isHeld (h v hv usage hu)

/-- All errors are found just if no fault ends the search for them. -/
theorem Schema.check_eq_ok_iff {s : Schema} {errors : List SchemaError} :
    s.check = .ok errors ↔ s.Documentable ∧ errors = s.errors := by
  rw [documentable_iff, check]
  cases s.docFault? <;> simp [eq_comm]

end CommandCompiler
