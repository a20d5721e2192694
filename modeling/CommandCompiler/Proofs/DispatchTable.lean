import CommandCompiler.Proofs.Alignment
import CommandCompiler.Proofs.Documentation
import Mathlib.Data.List.Forall2
/-!
# CommandCompiler.Proofs.DispatchTable

**A schema compiles as a whole or not at all, and then to a table of its
commands.** `CompiledSchema.IsTableOf` says what such a table is, in terms of the
commands of the schema only: nothing in it depends on how bindings are collected.

Three things come together:

* a command compiles to the same at every position (`Variant.compile_position`),
  and under its name without the blanks around it (`Variant.name_of_compile`);
* the table holds the binding of each command (`Schema.collect_parse`), because
  no two of these names are equal;
* only a table says that a command is unknown. A binding never does
  (`Binding.kind_ne_of_bind`), so that nothing else can be taken for it.

Looking for errors makes the classes of the commands as well, and ends with the
same fault as compiling where one cannot be made. There is neither a table nor a
report then (`halvedSchema_raises`).
-/

namespace CommandCompiler

/-- Whether a name is that of a command, without the blanks around it. -/
def Variant.HasName (v : Variant) (name : String) : Prop := v.name.map Text.trim = some name

instance (v : Variant) (name : String) : Decidable (v.HasName name) :=
  inferInstanceAs (Decidable (_ = _))

/-- What a compiled schema is for a schema: the table of its commands. -/
structure CompiledSchema.IsTableOf (cs : CompiledSchema) (s : Schema) : Prop where
  /-- There is one signature for each command, in their order. -/
  signatures : List.Forall₂
    (fun v sig => ∀ position, ∃ c, v.compilation position = .compiled c ∧ c.signature = sig)
    s.commands cs.signatures
  distinct : cs.commandNames.Nodup
  keys : cs.bindings.map (·.1) = cs.commandNames
  /-- No two commands have one name. -/
  unique : (s.commands.map fun v => v.name.map Text.trim).Nodup
  unknown : ∀ name call,
    (∃ e, cs.parse name call = .error (.call e) ∧ e.fault.kind = .unknownCommand) ↔
      ¬ ∃ v ∈ s.commands, v.HasName name
  known : ∀ v ∈ s.commands, ∀ name, v.HasName name → ∀ position,
    ∃ c, v.compilation position = .compiled c ∧ ∀ call, cs.parse name call = c.binding.bind call

/-! ## Commands one by one -/

theorem Variant.name_of_compile {v : Variant} {position : Int} {c : CompiledCommand}
    (h : v.compile position = .ok c) : v.HasName c.signature.name := by
  obtain ⟨name, hname, -, rfl⟩ := compile_eq_ok_iff.mp h
  unfold properName? at hname
  split at hname
  · cases hname
  · rename_i given hgiven
    split at hname
    · cases hname
    · rw [HasName, hgiven]
      exact hname

/-- Where results one by one are the images of other items, each item goes with one of these. -/
theorem forall₂_of_mapIdx_eq_map {α β γ : Type} {f : Nat → α → γ} {g : β → γ} {as : List α}
    {bs : List β} (h : as.mapIdx f = bs.map g) :
    List.Forall₂ (fun a b => ∃ i, f i a = g b) as bs := by
  -- The numbers of the items after the first start from one, hence the generalized `f`.
  induction as generalizing f bs with
  | nil =>
      obtain rfl := List.map_eq_nil_iff.mp h.symm
      exact .nil
  | cons a as ih =>
      rw [List.mapIdx_cons] at h
      obtain ⟨b, bs, rfl, hb, h⟩ := List.map_eq_cons_iff.mp h.symm
      exact .cons ⟨0, hb.symm⟩ ((ih h.symm).imp fun _ _ ⟨i, hi⟩ => ⟨i + 1, hi⟩)

theorem exists_mem_of_forall₂ {α β : Type} {R : α → β → Prop} {as : List α} {bs : List β}
    (h : List.Forall₂ R as bs) {a : α} (ha : a ∈ as) : ∃ b ∈ bs, R a b := by
  induction h with
  | nil => cases ha
  | @cons a' b as bs hab rest ih =>
      rcases List.mem_cons.mp ha with rfl | ha
      · exact ⟨b, List.mem_cons_self .., hab⟩
      · obtain ⟨b', hb', hab'⟩ := ih ha
        exact ⟨b', List.mem_cons_of_mem _ hb', hab'⟩

section Commands

variable {s : Schema} {cmds : List CompiledCommand}

/-- Compiled commands go with the commands of their schema, in order. -/
theorem Schema.forall₂_commands (h : s.results = cmds.map .ok) :
    List.Forall₂ (fun v c => ∀ position, v.compile position = .ok c) s.commands cmds :=
  (forall₂_of_mapIdx_eq_map h).imp fun _ _ ⟨_, hi⟩ => Variant.compile_position hi

theorem Schema.map_name_eq (h : s.results = cmds.map .ok) :
    (s.commands.map fun v => v.name.map Text.trim) = (cmds.map (·.signature.name)).map some := by
  rw [List.map_map, ← List.forall₂_eq_eq_eq, List.forall₂_map_left_iff,
    List.forall₂_map_right_iff]
  exact (forall₂_commands h).imp fun v c hc => Variant.name_of_compile (hc 0)

/-- Some command has a name exactly if the name is in some signature. -/
theorem Schema.exists_hasName_iff (h : s.results = cmds.map .ok) {name : String} :
    (∃ v ∈ s.commands, v.HasName name) ↔ name ∈ cmds.map (·.signature.name) := calc
  _ ↔ some name ∈ s.commands.map fun v => v.name.map Text.trim := List.mem_map.symm
  _ ↔ some name ∈ (cmds.map (·.signature.name)).map some := by rw [map_name_eq h]
  _ ↔ name ∈ cmds.map (·.signature.name) := List.mem_map_of_injective fun _ _ => Option.some.inj

/-- A command of a name is among the compiled ones under this name. -/
theorem Schema.exists_mem_of_hasName (h : s.results = cmds.map .ok) {v : Variant}
    (hv : v ∈ s.commands) {name : String} (hname : v.HasName name) :
    ∃ c ∈ cmds, c.signature.name = name ∧ ∀ position, v.compile position = .ok c := by
  obtain ⟨c, hc, hcompile⟩ := exists_mem_of_forall₂ (forall₂_commands h) hv
  have named : v.HasName c.signature.name := Variant.name_of_compile (hcompile 0)
  exact ⟨c, hc, Option.some.inj (named.symm.trans hname), hcompile⟩

end Commands

/-! ## Errors of calls -/

section Fault

variable {call : Call} {command : String} {e : CallError}

theorem Reader.kind_eq_of_check {type : ArgType} {place : ArgPlace} {v : Value}
    (h : check call command type place v = .error (.call e)) : e.fault.kind = .typeMismatch := by
  unfold check at h
  split at h
  · cases h
  · split at h <;> cases h
    rfl

/-- A reader does not say that its command is unknown. -/
theorem Reader.kind_ne_of_read {r : Reader} (h : r.read call command = .error (.call e)) :
    e.fault.kind ≠ .unknownCommand := by
  have mismatch (he : e.fault.kind = .typeMismatch) : e.fault.kind ≠ .unknownCommand := by
    rw [he]
    decide
  unfold read at h
  split at h
  · split at h
    · cases h
      exact CallErrorKind.noConfusion
    · exact mismatch (kind_eq_of_check h)
  · split at h
    · cases h
    · exact mismatch (kind_eq_of_check h)
  · split at h
    · cases h
    · cases h
    · exact mismatch (kind_eq_of_check h)
  · split at h
    · cases h
    · cases h
    · exact mismatch (kind_eq_of_check h)

theorem Binding.kind_ne_of_readAll {rs : List Reader}
    (h : readAll call command rs = .error (.call e)) : e.fault.kind ≠ .unknownCommand := by
  induction rs with
  | nil => cases h
  | cons r rs ih =>
      rw [readAll] at h
      split at h
      · rename_i hr
        cases h
        exact Reader.kind_ne_of_read hr
      · split at h
        · rename_i hrs
          cases h
          exact ih hrs
        · cases h

/-- A binding does not say that its command is unknown. -/
theorem Binding.kind_ne_of_bind {b : Binding} (h : b.bind call = .error (.call e)) :
    e.fault.kind ≠ .unknownCommand := by
  unfold bind at h
  split at h
  · rename_i hread
    cases h
    exact kind_ne_of_readAll hread
  · split at h <;> cases h

end Fault

/-! ## The table -/

section Table

variable {cmds : List CompiledCommand} (distinct : (cmds.map (·.signature.name)).Nodup)

include distinct

/-- The table has the binding of each command under its name. -/
theorem Schema.collect_parse {c : CompiledCommand} (hc : c ∈ cmds) (call : Call) :
    (collect cmds).parse c.signature.name call = c.binding.bind call :=
  CompiledSchema.parse_eq_bind (collect_binding? distinct hc) call

/-- The table has no binding under any other name. -/
theorem Schema.collect_parse_of_not_mem {name : String}
    (hname : name ∉ cmds.map (·.signature.name)) (call : Call) :
    (collect cmds).parse name call = .error (.call ⟨.unknownCommand name, call.head⟩) := by
  have absent : (collect cmds).binding? name = none := by
    rw [CompiledSchema.binding?, collect_bindings distinct, List.lookup_eq_none_iff]
    intro p hp
    obtain ⟨c, hc, rfl⟩ := List.mem_map.mp hp
    rw [bne_iff_ne]
    rintro rfl
    exact hname (List.mem_map_of_mem hc)
  rw [CompiledSchema.parse, absent]

/-- A command is unknown to the table exactly if it has no binding for it. -/
theorem Schema.collect_unknown_iff {name : String} {call : Call} :
    (∃ e, (collect cmds).parse name call = .error (.call e) ∧
      e.fault.kind = .unknownCommand) ↔ name ∉ cmds.map (·.signature.name) := by
  constructor
  · rintro ⟨e, he, hkind⟩ hname
    obtain ⟨c, hc, rfl⟩ := List.mem_map.mp hname
    rw [collect_parse distinct hc] at he
    exact Binding.kind_ne_of_bind he hkind
  · intro hname
    exact ⟨_, collect_parse_of_not_mem distinct hname call, rfl⟩

end Table

theorem Schema.compilation_eq_compiled_iff {s : Schema} {cs : CompiledSchema} :
    s.compilation = .compiled cs ↔ s.compile = .ok cs ∧ s.Documentable := by
  rw [compilation, check, documentable_iff]
  cases s.docFault? <;> cases s.compile <;> simp

/-- A schema compiles to the table of its commands. -/
theorem Schema.isTableOf_of_compilation {s : Schema} {cs : CompiledSchema}
    (h : s.compilation = .compiled cs) : cs.IsTableOf s := by
  obtain ⟨hcs, documentable⟩ := compilation_eq_compiled_iff.mp h
  obtain ⟨cmds, hcmds, distinct, rfl⟩ := exists_commands hcs
  have compiled {v : Variant} (hv : v ∈ s.commands) {position : Int} {c : CompiledCommand}
      (hc : v.compile position = .ok c) : v.compilation position = .compiled c :=
    Variant.compilation_eq_compiled_iff.mpr
      ⟨hc, documentable v hv (Variant.wellFormed_of_compile hc)⟩
  have commandNames : (collect cmds).commandNames = cmds.map (·.signature.name) := by
    simp [CompiledSchema.commandNames, collect]
  constructor
  case signatures =>
    have each : List.Forall₂ (fun v c => v ∈ s.commands ∧ ∀ position, v.compile position = .ok c)
        s.commands cmds :=
      (List.forall₂_and_left _ _).mpr ⟨fun _ => id, forall₂_commands hcmds⟩
    exact List.forall₂_map_right_iff.mpr
      (each.imp fun v c hc position => ⟨c, compiled hc.1 (hc.2 position), rfl⟩)
  case distinct => rwa [commandNames]
  case keys =>
    rw [commandNames, collect_bindings distinct, List.map_map]
    rfl
  case unique =>
    rw [map_name_eq hcmds]
    exact distinct.map fun _ _ => Option.some.inj
  case unknown =>
    intro name call
    rw [collect_unknown_iff distinct, exists_hasName_iff hcmds]
  case known =>
    intro v hv name hname position
    obtain ⟨c, hc, rfl, hcompile⟩ := exists_mem_of_hasName hcmds hv hname
    exact ⟨c, compiled hv (hcompile position), collect_parse distinct hc⟩

/-! ## All or nothing -/

section Outcomes

variable {s : Schema}

/-- The search for errors is ended by a fault just if not all commands can be documented. -/
theorem Schema.exists_check_error_iff : (∃ fault, s.check = .error fault) ↔ ¬ s.Documentable := by
  rw [check, documentable_iff]
  cases s.docFault? <;> simp

/-- Compiling raises what the search for errors raises. -/
theorem Schema.compilation_eq_raised_iff {fault : Text.Utf8.EncodeError} :
    s.compilation = .raised fault ↔ s.check = .error fault := by
  unfold compilation
  cases s.check with
  | error fault' => simp
  | ok errors => cases s.compile <;> simp

/-- A schema is refused with the errors that are found in it. -/
theorem Schema.compilation_eq_refused_iff {errors : List SchemaError} :
    s.compilation = .refused errors ↔ s.check = .ok errors ∧ errors ≠ [] := by
  unfold compilation check compile
  cases s.docFault? with
  | some fault => simp
  | none => cases s.errors <;> simp +contextual [eq_comm]

/-- A schema compiles just if no errors are found in it. -/
theorem Schema.exists_compilation_iff :
    (∃ cs, s.compilation = .compiled cs) ↔ s.check = .ok [] := by
  have compiles : (∃ cs, s.compile = .ok cs) ↔ s.errors = [] := by
    unfold compile
    cases s.errors <;> simp
  simp only [compilation_eq_compiled_iff, exists_and_right, compiles, check_eq_ok_iff]
  rw [and_comm, eq_comm (a := [])]

/-- Where no errors are found, each command compiles, wherever it stands. -/
theorem Schema.exists_compilation_of_mem (none : s.check = .ok []) {v : Variant}
    (hv : v ∈ s.commands) (position : Int) : ∃ c, v.compilation position = .compiled c := by
  obtain ⟨documentable, none⟩ := check_eq_ok_iff.mp none
  have wellFormed := (errors_eq_nil_iff.mp none.symm).1 v hv
  obtain ⟨c, hc, -⟩ := wellFormed.exists_compile position
  exact ⟨c, Variant.compilation_eq_compiled_iff.mpr ⟨hc, documentable v hv wellFormed⟩⟩

end Outcomes

/-- **A schema compiles as a whole or not at all**, unless a class cannot be made for one of its
commands. Then looking for errors and compiling raise the same fault. Otherwise a schema compiles
exactly if no errors are found in it, and is refused with those that are found. If there are none,
each of its commands compiles, wherever it stands, and what the schema compiles to is the table of
its commands. Usage texts from outside raise no fault. -/
theorem Schema.compilation_allOrNothing (s : Schema) :
    ((∃ fault, s.check = .error fault) ↔ ¬ s.Documentable) ∧
      (∀ fault, s.compilation = .raised fault ↔ s.check = .error fault) ∧
      ((∃ cs, s.compilation = .compiled cs) ↔ s.check = .ok []) ∧
      (∀ errors, s.compilation = .refused errors ↔ s.check = .ok errors ∧ errors ≠ []) ∧
      (s.check = .ok [] →
        ∀ v ∈ s.commands, ∀ position, ∃ c, v.compilation position = .compiled c) ∧
      (∀ cs, s.compilation = .compiled cs → cs.IsTableOf s) ∧
      ((∀ v ∈ s.commands, ∀ usage ∈ v.usage, Text.IsHeld usage) → s.Documentable) := by
  exact ⟨exists_check_error_iff, fun _ => compilation_eq_raised_iff, exists_compilation_iff,
    fun _ => compilation_eq_refused_iff, fun none _ => exists_compilation_of_mem none,
    fun _ => isTableOf_of_compilation, documentable_of_isHeld⟩

/-- A command that raises a fault, and one without a name. -/
def halvedSchema : Schema := ⟨[halvedCommand, { usage := some "Stops." }]⟩

/-- **A schema that is neither compiled nor refused**, and whose errors are not found. -/
theorem halvedSchema_raises :
    (∀ cs, halvedSchema.compilation ≠ .compiled cs) ∧
      (∀ errors, halvedSchema.compilation ≠ .refused errors) ∧
      ∀ errors, halvedSchema.check ≠ .ok errors := by
  have raised : halvedSchema.compilation = .raised ⟨0xD800, 0, 1⟩ := by decide +kernel
  have check : halvedSchema.check = .error ⟨0xD800, 0, 1⟩ := by decide +kernel
  simp [raised, check]

/-- Blanks around a name belong to it nowhere but in the schema. -/
theorem spacedPlay_dispatched :
    ∃ cs, Schema.compilation ⟨[{ playCommand with name := some " play " }]⟩ = .compiled cs ∧
      cs.commandNames = ["play"] ∧
      (∃ e, cs.parse " play " {} = .error (.call e) ∧ e.fault.kind = .unknownCommand) ∧
      ∃ c, ({ playCommand with name := some " play " } : Variant).compilation 0 = .compiled c ∧
        ∀ call, cs.parse "play" call = c.binding.bind call := by
  obtain ⟨-, -, -, -, -, table, -⟩ :=
    Schema.compilation_allOrNothing ⟨[{ playCommand with name := some " play " }]⟩
  have compiles : Schema.compilation ⟨[{ playCommand with name := some " play " }]⟩ =
    .compiled _ := rfl
  have table := table _ compiles
  refine ⟨_, compiles, rfl, (table.unknown _ _).mpr ?_, ?_⟩
  · rintro ⟨v, hv, hname⟩
    obtain rfl := List.mem_singleton.mp hv
    exact absurd hname (by decide)
  · exact table.known _ (List.mem_singleton_self _) "play" (by decide) 0

end CommandCompiler
