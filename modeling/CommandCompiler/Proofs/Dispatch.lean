import CommandCompiler.Compiled
import CommandCompiler.Proofs.WellFormed
/-!
# CommandCompiler.Proofs.Dispatch

**A compiled schema finds the command of a name.** A schema compiles when its
commands do and no two share a name; its commands are then compiled one by one,
and none hides another.

* `Schema.errors_eq_nil_iff` : when a schema compiles;
* `Schema.exists_commands` : what it compiles to;
* `CompiledSchema.exists_command` : every signature belongs to a command, whose
  binding is found under the name of the signature.
-/

namespace CommandCompiler

/-! ## When a schema compiles -/

/-- After names that do not repeat, no name repeats exactly when all of them are distinct and
new. -/
theorem repeatedNames_eq_nil_iff {before names : List String} (h : before.Nodup) :
    repeatedNames before names = [] ↔ names.Nodup ∧ ∀ name ∈ names, name ∉ before := by
  induction names generalizing before with
  | nil => simp [repeatedNames]
  | cons name names ih =>
      rw [repeatedNames, List.nodup_cons, List.forall_mem_cons]
      by_cases hmem : name ∈ before
      · simp [(isSecond_iff_mem h).mpr hmem, hmem]
      · have first : ¬ isSecond before name = true := mt (isSecond_iff_mem h).mp hmem
        rw [if_neg first, ih (List.nodup_cons.mpr ⟨hmem, h⟩)]
        constructor
        · rintro ⟨distinct, new⟩
          refine ⟨⟨fun hname => new name hname (List.mem_cons_self ..), distinct⟩, hmem, ?_⟩
          exact fun other hother hbefore => new other hother (List.mem_cons_of_mem _ hbefore)
        · rintro ⟨⟨hname, distinct⟩, -, new⟩
          refine ⟨distinct, fun other hother hin => ?_⟩
          rcases List.mem_cons.mp hin with rfl | hin
          · exact hname hother
          · exact new other hother hin

/-- A schema has no errors exactly when its commands are well-formed and no two share a name. -/
theorem Schema.errors_eq_nil_iff {s : Schema} :
    s.errors = [] ↔
      (∀ v ∈ s.commands, v.WellFormed) ∧ (s.commands.filterMap (·.properName?)).Nodup := by
  have each : s.commandErrors = [] ↔ ∀ v ∈ s.commands, v.WellFormed := by
    rw [commandErrors, List.flatten_eq_nil_iff]
    constructor
    · intro h v hv
      obtain ⟨i, hi, rfl⟩ := List.mem_iff_getElem.mp hv
      exact Variant.errors_eq_nil_iff.mp (h _ (List.mem_mapIdx.mpr ⟨i, hi, rfl⟩))
    · intro h es hes
      obtain ⟨i, hi, rfl⟩ := List.mem_mapIdx.mp hes
      exact Variant.errors_eq_nil_iff.mpr (h _ (List.getElem_mem hi))
  rw [errors, List.append_eq_nil_iff, each, duplicateErrors, List.map_eq_nil_iff,
    repeatedNames_eq_nil_iff List.nodup_nil]
  simp

/-! ## What it compiles to -/

/-- A well-formed command compiles, under its proper name. -/
theorem Variant.WellFormed.exists_compile {v : Variant} (h : v.WellFormed) (position : Int) :
    ∃ c, v.compile position = .ok c ∧ v.properName? = some c.signature.name := by
  obtain ⟨name, hname⟩ := properName?_isSome_iff.mpr h.named
  exact ⟨_, compile_eq_ok_iff.mpr ⟨name, hname, errors_eq_nil_iff.mpr h, rfl⟩, hname⟩

/-- Well-formed commands compile one by one, wherever they stand. -/
theorem exists_compile_mapIdx {vs : List Variant} (h : ∀ v ∈ vs, v.WellFormed)
    (position : Nat → Int) :
    ∃ cmds : List CompiledCommand, vs.mapIdx (fun i v => v.compile (position i)) = cmds.map .ok ∧
      vs.filterMap (·.properName?) = cmds.map (·.signature.name) := by
  induction vs generalizing position with
  | nil => exact ⟨[], rfl, rfl⟩
  | cons v vs ih =>
      rw [List.forall_mem_cons] at h
      obtain ⟨c, hc, hname⟩ := h.1.exists_compile (position 0)
      obtain ⟨cmds, hcmds, hnames⟩ := ih h.2 fun i => position (i + 1)
      refine ⟨c :: cmds, ?_, ?_⟩
      · rw [List.mapIdx_cons, hc, hcmds, List.map_cons]
      · rw [List.filterMap_cons_some hname, hnames, List.map_cons]

/-- A schema that compiles is the collection of its compiled commands, and these have distinct
names. -/
theorem Schema.exists_commands {s : Schema} {cs : CompiledSchema} (h : s.compile = .ok cs) :
    ∃ cmds : List CompiledCommand, s.results = cmds.map .ok ∧
      (cmds.map (·.signature.name)).Nodup ∧ cs = collect cmds := by
  unfold compile at h
  split at h
  · rename_i none
    obtain ⟨each, distinct⟩ := errors_eq_nil_iff.mp none
    obtain ⟨cmds, hcmds, hnames⟩ := exists_compile_mapIdx each Int.ofNat
    have results : s.results = cmds.map .ok := hcmds
    -- Only the results that are commands are collected, but here all of them are.
    have all : s.results.filterMap Except.toOption = cmds := by
      rw [results, List.filterMap_map]
      exact List.filterMap_some
    rw [all] at h
    exact ⟨cmds, results, hnames ▸ distinct, (Except.ok.inj h).symm⟩
  · cases h

/-- Bindings under distinct names all stay: none gives way to another. -/
theorem Schema.collect_bindings {cmds : List CompiledCommand}
    (distinct : (cmds.map (·.signature.name)).Nodup) :
    (collect cmds).bindings = cmds.map fun c => (c.signature.name, c.binding) := by
  refine keyedBy_eq_self ?_
  simpa [Function.comp_def] using distinct

theorem Schema.collect_binding? {cmds : List CompiledCommand}
    (distinct : (cmds.map (·.signature.name)).Nodup) {c : CompiledCommand} (hc : c ∈ cmds) :
    (collect cmds).binding? c.signature.name = some c.binding := by
  have keys : ((cmds.map fun c => (c.signature.name, c.binding)).map (·.1)).Nodup := by
    simpa [Function.comp_def] using distinct
  rw [CompiledSchema.binding?, collect_bindings distinct]
  exact lookup_of_mem keys (List.mem_map_of_mem (f := fun c => (c.signature.name, c.binding)) hc)

theorem CompiledSchema.parse_eq_bind {cs : CompiledSchema} {name : String} {b : Binding}
    (h : cs.binding? name = some b) (call : Call) : cs.parse name call = b.bind call := by
  rw [parse, h]

/-- Every signature of a compiled schema belongs to a command, and the binding of this command is
found under the name of the signature. -/
theorem CompiledSchema.exists_command {s : Schema} {cs : CompiledSchema} (h : s.compile = .ok cs)
    {sig : Signature} (hs : sig ∈ cs.signatures) :
    ∃ v ∈ s.commands, ∃ position c, v.compile position = .ok c ∧ c.signature = sig ∧
      cs.binding? sig.name = some c.binding := by
  obtain ⟨cmds, hcmds, distinct, rfl⟩ := Schema.exists_commands h
  obtain ⟨c, hc, rfl⟩ := List.mem_map.mp hs
  have result : (.ok c : Except (List SchemaError) CompiledCommand) ∈ s.results :=
    hcmds ▸ List.mem_map_of_mem hc
  obtain ⟨i, hi, hcompile⟩ := List.mem_mapIdx.mp result
  exact ⟨_, List.getElem_mem hi, _, c, hcompile, rfl, Schema.collect_binding? distinct hc⟩

end CommandCompiler
