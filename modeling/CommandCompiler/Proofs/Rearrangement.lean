import CommandCompiler.Proofs.DispatchTable
import Mathlib.Data.List.Perm.Basic
/-!
# CommandCompiler.Proofs.Rearrangement

**The order of commands has no meaning.** Two schemas with the same commands in
different orders compile alike, and their calls are bound alike.

A position is told of a command only if it has no name of its own
(`Variant.errors_position`), and which occurrence of a name is reported as a
repetition makes no difference to what is reported: a name is reported once if it
occurs twice or more (`count_repeatedNames`). So the errors of a schema depend, up
to their order, on what its commands are.
-/

namespace CommandCompiler

/-! ## Errors -/

/-- The errors of a command with a name of its own are the same at every position. -/
theorem Variant.errors_position {v : Variant} {name : String} (h : v.properName? = some name)
    (position position' : Int) : v.errors position = v.errors position' := by
  have label (p : Int) : v.label p = .named name := by rw [Variant.label, h]
  have named (p : Int) : commandNameErrors v p = [] := by rw [commandNameErrors, h]
  simp only [errors, label, named]

theorem Schema.commandErrors_eq_flatMap {s : Schema}
    (h : ∀ v ∈ s.commands, ∃ name, v.properName? = some name) :
    s.commandErrors = s.commands.flatMap (·.errors 0) := by
  have each : (s.commands.mapIdx fun i v => v.errors i) = s.commands.map (·.errors 0) := by
    refine List.ext_getElem (by simp) ?_
    intro i hi _
    rw [List.length_mapIdx] at hi
    obtain ⟨name, hname⟩ := h _ (List.getElem_mem hi)
    simp [Variant.errors_position hname i 0]
  rw [commandErrors, each, List.flatMap]

/-- Every name is reported once or not at all: once, if its second occurrence is among the names
that are looked at. -/
theorem count_repeatedNames (before names : List String) (a : String) :
    (repeatedNames before names).count a =
      if before.count a < 2 ∧ 2 ≤ before.count a + names.count a then 1 else 0 := by
  induction names generalizing before with
  | nil =>
      rw [if_neg (by simp)]
      rfl
  | cons name names ih =>
      by_cases ha : name = a
      · subst ha
        -- It is met for the second time if it has been met once; later it is not reported again.
        by_cases second : before.count name = 1
        · simp only [repeatedNames, isSecond, beq_iff_eq, second, if_true, ih,
            List.count_cons_self]
          rw [if_neg (by omega), if_pos (by omega)]
        · simp only [repeatedNames, isSecond, beq_iff_eq, second, if_false, ih,
            List.count_cons_self]
          congr 1
          simp only [eq_iff_iff]
          omega
      · have others (ns : List String) : (name :: ns).count a = ns.count a :=
          List.count_cons_of_ne ha
        simp only [repeatedNames]
        split <;> simp only [others, ih]

theorem repeatedNames_perm {names names' : List String} (h : names.Perm names') :
    (repeatedNames [] names).Perm (repeatedNames [] names') := by
  rw [List.perm_iff_count]
  intro a
  rw [count_repeatedNames, count_repeatedNames, h.count_eq a]

section Rearranged

variable {s s' : Schema} (h : s.commands.Perm s'.commands)

include h

theorem Schema.errors_eq_nil_iff_of_perm : s.errors = [] ↔ s'.errors = [] := by
  have names : (s.commands.filterMap (·.properName?)).Perm
      (s'.commands.filterMap (·.properName?)) := h.filterMap _
  rw [errors_eq_nil_iff, errors_eq_nil_iff, names.nodup_iff]
  exact and_congr_left fun _ => ⟨fun each v hv => each v (h.mem_iff.mpr hv),
    fun each v hv => each v (h.mem_iff.mp hv)⟩

/-- If all commands have names, the errors are the same, each as often. -/
theorem Schema.errors_perm (named : ∀ v ∈ s.commands, ∃ name, v.properName? = some name) :
    s.errors.Perm s'.errors := by
  have named' : ∀ v ∈ s'.commands, ∃ name, v.properName? = some name :=
    fun v hv => named v (h.mem_iff.mpr hv)
  have commands : s.commandErrors.Perm s'.commandErrors := by
    rw [commandErrors_eq_flatMap named, commandErrors_eq_flatMap named']
    exact h.flatMap_right _
  exact commands.append ((repeatedNames_perm (h.filterMap _)).map _)

end Rearranged

/-! ## Compiled schemas -/

theorem Schema.compile_eq_ok_iff {s : Schema} : (∃ cs, s.compile = .ok cs) ↔ s.errors = [] := by
  unfold compile
  cases s.errors <;> simp

/-- The commands of a schema compile to the compiled ones wherever they stand. -/
theorem Schema.map_compile_eq {s : Schema} {cmds : List CompiledCommand}
    (h : s.results = cmds.map .ok) : s.commands.map (·.compile 0) = cmds.map .ok := by
  rw [← List.forall₂_eq_eq_eq, List.forall₂_map_left_iff, List.forall₂_map_right_iff]
  exact (forall₂_commands h).imp fun v c hc => hc 0

/-- Tables of the same commands bind calls alike. -/
theorem Schema.collect_parse_perm {cmds cmds' : List CompiledCommand} (h : cmds.Perm cmds')
    (distinct : (cmds.map (·.signature.name)).Nodup) (name : String) (call : Call) :
    (collect cmds).parse name call = (collect cmds').parse name call := by
  have names := h.map (·.signature.name)
  have distinct' : (cmds'.map (·.signature.name)).Nodup := names.nodup_iff.mp distinct
  by_cases hname : name ∈ cmds.map (·.signature.name)
  · obtain ⟨c, hc, rfl⟩ := List.mem_map.mp hname
    rw [collect_parse distinct hc, collect_parse distinct' (h.mem_iff.mp hc)]
  · rw [collect_parse_of_not_mem distinct hname,
      collect_parse_of_not_mem distinct' (mt names.mem_iff.mpr hname)]

/-- **The order of commands has no meaning.** If the commands of a schema are rearranged, it
compiles exactly if it did before. Then the signatures are rearranged like the commands: whichever
command comes to stand at a place, its signature does too. Every call of every name is bound to the
same value or refused for the same reason. The errors of commands that all have names are the same,
each as often. -/
theorem Schema.compile_perm {s s' : Schema} (h : s.commands.Perm s'.commands) :
    ((∃ cs, s.compile = .ok cs) ↔ ∃ cs', s'.compile = .ok cs') ∧
      (s.docFault? = none ↔ s'.docFault? = none) ∧
      (∀ cs cs', s.compile = .ok cs → s'.compile = .ok cs' →
        cs.signatures.Perm cs'.signatures ∧
          (∀ i j : Nat, s.commands[i]? = s'.commands[j]? → cs.signatures[i]? = cs'.signatures[j]?) ∧
          ∀ name call, cs.parse name call = cs'.parse name call) ∧
      ((∀ v ∈ s.commands, ∃ name, v.name = some name ∧ ∃ c ∈ name.toList, Text.isBlank c = false) →
        s.errors.Perm s'.errors) := by
  refine ⟨?_, ?_, fun cs cs' hcs hcs' => ?_, fun named => ?_⟩
  · rw [compile_eq_ok_iff, compile_eq_ok_iff, errors_eq_nil_iff_of_perm h]
  · rw [← documentable_iff, ← documentable_iff]
    exact ⟨fun each v hv => each v (h.mem_iff.mpr hv), fun each v hv => each v (h.mem_iff.mp hv)⟩
  · obtain ⟨cmds, hcmds, distinct, rfl⟩ := exists_commands hcs
    obtain ⟨cmds', hcmds', -, rfl⟩ := exists_commands hcs'
    have compiled := map_compile_eq hcmds
    have compiled' := map_compile_eq hcmds'
    have injective : Function.Injective
        (.ok : CompiledCommand → Except (List SchemaError) CompiledCommand) :=
      fun _ _ => Except.ok.inj
    have perm : cmds.Perm cmds' := by
      rw [← List.map_perm_map_iff injective, ← compiled, ← compiled']
      exact h.map _
    refine ⟨perm.map _, fun i j hij => ?_, collect_parse_perm perm distinct⟩
    have same : (cmds.map (.ok : CompiledCommand → Except (List SchemaError) _))[i]? =
        (cmds'.map .ok)[j]? := by
      rw [← compiled, ← compiled', List.getElem?_map, List.getElem?_map, hij]
    rw [List.getElem?_map, List.getElem?_map] at same
    show (cmds.map (·.signature))[i]? = (cmds'.map (·.signature))[j]?
    rw [List.getElem?_map, List.getElem?_map, Option.map_injective injective same]
  · exact errors_perm h fun v hv => Variant.properName?_isSome_iff.mpr (named v hv)

/-- A command without fields. -/
def stopCommand : Variant := { name := some "stop" }

/-- Two commands in either order, and three of which two have one name. -/
theorem playStop_rearranged :
    (∃ cs cs', Schema.compile ⟨[playCommand, stopCommand]⟩ = .ok cs ∧
      Schema.compile ⟨[stopCommand, playCommand]⟩ = .ok cs' ∧
        cs.signatures[0]? = cs'.signatures[1]? ∧
        ∀ name call, cs.parse name call = cs'.parse name call) ∧
      (Schema.errors ⟨[playCommand, stopCommand, playCommand]⟩).Perm
        (Schema.errors ⟨[stopCommand, playCommand, playCommand]⟩) := by
  have swap : [playCommand, stopCommand].Perm [stopCommand, playCommand] := .swap ..
  obtain ⟨-, -, same, -⟩ := @Schema.compile_perm ⟨_⟩ ⟨_⟩ swap
  obtain ⟨-, -, -, errors⟩ :=
    @Schema.compile_perm ⟨_⟩ ⟨_⟩ (swap.append_right [playCommand])
  have compiles : Schema.compile ⟨[playCommand, stopCommand]⟩ = .ok _ := rfl
  have compiles' : Schema.compile ⟨[stopCommand, playCommand]⟩ = .ok _ := rfl
  obtain ⟨-, places, calls⟩ := same _ _ compiles compiles'
  refine ⟨⟨_, _, compiles, compiles', places 0 1 rfl, calls⟩, errors ?_⟩
  have play := Variant.properName?_isSome_iff.mp ⟨"play", (rfl : playCommand.properName? = _)⟩
  have stop := Variant.properName?_isSome_iff.mp ⟨"stop", (rfl : stopCommand.properName? = _)⟩
  exact List.forall_mem_cons.mpr
    ⟨play, List.forall_mem_cons.mpr ⟨stop, List.forall_mem_singleton.mpr play⟩⟩

end CommandCompiler
