import CommandCompiler.Proofs.Slots
import CommandCompiler.Proofs.Text
import Mathlib.Data.List.Nodup
/-!
# CommandCompiler.Proofs.WellFormed

**Which commands have no errors.** `Variant.WellFormed` says what a command must be
like, without reference to the scans that look for errors:

* `Text.IsName`, `IsFieldName` : what a name is, and what a field may be called;
* `Field.HasShortForm` : which short names a field may have;
* `Variant.WellFormed` : the command as a whole.

Each scan reports nothing exactly when its part of this is so. The scans for
repeated names remember what they have seen; their lemmas are stated for any
such memory, which is what the induction needs. `Variant.errors_eq_nil_iff` puts
the scans together.
-/

namespace CommandCompiler

/-! ## Well-formed commands -/

/-- An identifier that is not a keyword. -/
def Text.IsName (s : String) : Prop := Text.isIdentifier s ∧ s ∉ Text.keywords

/-- A name that a field may have: not one that starts like the names of the system's own, and not
one that every command value has anyway. -/
structure IsFieldName (name : String) : Prop where
  isName : Text.IsName name
  noUnderscore : ¬ ['_'] <+: name.toList
  noModel : ¬ "model_".toList <+: name.toList
  notReserved : name ∉ reservedNames

/-- Whether a field may have this short name: it is a flag, and the short name is one ASCII letter
or digit. -/
def Field.HasShortForm (f : Field) (short : String) : Prop :=
  Role.flag.IsStrongest f.roles ∧ ∃ c : Char, c.isAlphanum ∧ short.toList = [c]

/-- A command that nothing is wrong with. -/
structure Variant.WellFormed (v : Variant) : Prop where
  named : ∃ name, v.name = some name ∧ ∃ c ∈ name.toList, Text.isBlank c = false
  className : ∀ name, v.className = some name → Text.IsName name
  fieldNames : ∀ f ∈ v.fields, IsFieldName f.name
  distinct : (v.fields.map (·.name)).Nodup
  kinds : ∀ f ∈ v.fields, ∃ k, f.HasKind k
  /-- No required field comes after one that is not. -/
  ordered : v.fields.Pairwise fun f g => g.IsRequired → f.IsRequired
  shorts : ∀ f ∈ v.fields, ∀ short, f.short = some short → f.HasShortForm short
  shortsDistinct : (v.fields.filterMap (·.short)).Nodup

/-! ## Names -/

theorem Text.isName_iff {s : String} : Text.isName s = true ↔ Text.IsName s := by
  simp [Text.isName, Text.IsName]

/-- A command has a proper name when not all of the name it is given is blank. -/
theorem Variant.properName?_isSome_iff {v : Variant} :
    (∃ name, v.properName? = some name) ↔
      ∃ name, v.name = some name ∧ ∃ c ∈ name.toList, Text.isBlank c = false := by
  unfold properName?
  cases v.name with
  | none => simp
  | some name =>
      have blank : Text.trim name = "" ↔ ¬ ∃ c ∈ name.toList, Text.isBlank c = false := by
        rw [Text.trim_eq_empty_iff]
        simp
      by_cases h : Text.trim name = ""
      · simpa [h] using blank.mp h
      · simpa [h] using not_not.mp (mt blank.mpr h)

theorem commandNameErrors_eq_nil_iff {v : Variant} {position : Int} :
    commandNameErrors v position = [] ↔ ∃ name, v.properName? = some name := by
  unfold commandNameErrors
  cases v.properName? <;> simp

theorem classNameErrors_eq_nil_iff {c : CommandLabel} {v : Variant} :
    classNameErrors c v = [] ↔ ∀ name, v.className = some name → Text.IsName name := by
  unfold classNameErrors
  cases v.className with
  | none => simp
  | some name => simp [Text.isName_iff]

/-- A field's name has no faults exactly when the field may have it. -/
theorem fieldNameFaults_eq_nil_iff {c : CommandLabel} {name : String} :
    fieldNameFaults c name = [] ↔ IsFieldName name := by
  have head : (name.toList.head? != some '_') = true ↔ ¬ ['_'] <+: name.toList := by
    cases name.toList with
    | nil => simp
    | cons c cs =>
        rw [List.head?_cons, bne_iff_ne, Ne, Option.some_inj, List.cons_prefix_cons,
          and_iff_left List.nil_prefix, eq_comm]
  have form : isFieldName name = true ↔ Text.IsName name ∧ ¬ ['_'] <+: name.toList := by
    rw [isFieldName, Bool.and_eq_true, Text.isName_iff, head]
  have reserved :
      isReserved name = false ↔ ¬ "model_".toList <+: name.toList ∧ name ∉ reservedNames := by
    rw [isReserved, Bool.or_eq_false_iff, ← Bool.not_eq_true, List.isPrefixOf_iff_prefix]
    simp
  constructor
  · intro h
    unfold fieldNameFaults at h
    split at h
    · cases h
    · rename_i hform
      split at h
      · cases h
      · rename_i hres
        obtain ⟨hname, hunder⟩ := form.mp (by simpa using hform)
        obtain ⟨hmodel, hres⟩ := reserved.mp (by simpa using hres)
        exact ⟨hname, hunder, hmodel, hres⟩
  · intro h
    simp [fieldNameFaults, form.mpr ⟨h.isName, h.noUnderscore⟩,
      reserved.mpr ⟨h.noModel, h.notReserved⟩]

/-! ## Repeated names -/

/-- Among names that do not repeat, a name is met for the second time when it is among them. -/
theorem isSecond_iff_mem {before : List String} (h : before.Nodup) {name : String} :
    isSecond before name = true ↔ name ∈ before := by
  have once : before.count name ≤ 1 := List.nodup_iff_count_le_one.mp h name
  rw [isSecond, beq_iff_eq, ← List.count_pos_iff]
  omega

/-- After names that do not repeat, the scan of the field names reports nothing exactly when all of
them are well-formed and new. -/
theorem fieldNameErrors_eq_nil_iff {c : CommandLabel} {before : List String} {fs : List Field}
    (h : before.Nodup) :
    fieldNameErrors c before fs = [] ↔
      (∀ f ∈ fs, IsFieldName f.name) ∧ (fs.map (·.name)).Nodup ∧ ∀ f ∈ fs, f.name ∉ before := by
  induction fs generalizing before with
  | nil => simp [fieldNameErrors]
  | cons f fs ih =>
      rw [fieldNameErrors, List.append_eq_nil_iff, List.append_eq_nil_iff,
        fieldNameFaults_eq_nil_iff, List.forall_mem_cons, List.forall_mem_cons, List.map_cons,
        List.nodup_cons]
      by_cases hmem : f.name ∈ before
      · simp [(isSecond_iff_mem h).mpr hmem, hmem]
      · have first : isSecond before f.name = false := by
          simpa using fun hs => hmem ((isSecond_iff_mem h).mp hs)
        rw [ih (List.nodup_cons.mpr ⟨hmem, h⟩), first]
        simp only [Bool.false_eq_true, if_false, true_and, List.mem_cons, not_or, hmem,
          not_false_eq_true, List.mem_map, not_exists, not_and]
        constructor
        · rintro ⟨hf, hfs, distinct, new⟩
          exact ⟨⟨hf, hfs⟩, ⟨fun g hg => (new g hg).1, distinct⟩, fun g hg => (new g hg).2⟩
        · rintro ⟨⟨hf, hfs⟩, ⟨other, distinct⟩, new⟩
          exact ⟨hf, hfs, distinct, fun g hg => ⟨other g hg, new g hg⟩⟩

/-! ## Short names -/

theorem isShort_iff {short : String} :
    isShort short = true ↔ ∃ c : Char, c.isAlphanum ∧ short.toList = [c] := by
  unfold isShort
  split
  · rename_i c hc
    simp [hc]
  · rename_i h
    simp only [Bool.false_eq_true, false_iff, not_exists, not_and]
    exact fun c _ hc => h c hc

/-- The scan of the short names reports nothing exactly when each belongs to a field that may be a
flag, has the right form, and is new. A field without any role may be a flag. -/
theorem shortErrors_eq_nil_iff {c : CommandLabel} {taken : List String} {fs : List Field} :
    shortErrors c taken fs = [] ↔
      (∀ f ∈ fs, ∀ short, f.short = some short →
        (f.roles ≠ [] → Role.flag.IsStrongest f.roles) ∧ isShort short = true) ∧
      (fs.filterMap (·.short)).Nodup ∧ ∀ short ∈ fs.filterMap (·.short), short ∉ taken := by
  induction fs generalizing taken with
  | nil => simp [shortErrors]
  | cons f fs ih =>
      rw [shortErrors, List.forall_mem_cons]
      cases hs : f.short with
      | none => simp [ih, hs]
      | some short =>
          simp only [List.filterMap_cons_some hs, Option.some.injEq, forall_eq',
            List.nodup_cons, List.forall_mem_cons, ← Role.effective?_eq_some_iff]
          by_cases hf : f.roles ≠ [] ∧ Role.effective? f.roles ≠ some .flag
          · simp [hf]
          · have flag : f.roles ≠ [] → Role.effective? f.roles = some .flag := by
              intro hr
              by_contra hne
              exact hf ⟨hr, hne⟩
            rw [if_neg hf]
            cases hform : isShort short with
            | false => simp
            | true =>
                by_cases hmem : short ∈ taken
                · simp [hmem]
                · -- The rest must also differ from this short name.
                  simp only [Bool.not_true, Bool.false_eq_true, if_false, hmem, List.nil_append,
                    ih, List.mem_cons, not_or, true_and, not_false_eq_true,
                    ← Role.effective?_eq_some_iff]
                  constructor
                  · rintro ⟨forms, distinct, new⟩
                    exact ⟨⟨⟨flag, trivial⟩, forms⟩,
                      ⟨fun hshort => (new short hshort).1 rfl, distinct⟩, fun s hs => (new s hs).2⟩
                  · rintro ⟨⟨-, forms⟩, ⟨other, distinct⟩, new⟩
                    exact ⟨forms, distinct,
                      fun s hs => ⟨fun heq => other (heq ▸ hs), new s hs⟩⟩

/-! ## The command as a whole -/

/-- A command has no errors exactly when it is well-formed. -/
theorem Variant.errors_eq_nil_iff {v : Variant} {position : Int} :
    v.errors position = [] ↔ v.WellFormed := by
  simp only [errors, List.append_eq_nil_iff, commandNameErrors_eq_nil_iff,
    properName?_isSome_iff, classNameErrors_eq_nil_iff,
    fieldNameErrors_eq_nil_iff List.nodup_nil, shortErrors_eq_nil_iff, layOut_fst_eq_nil_iff,
    List.not_mem_nil, not_false_eq_true, implies_true, and_true, Bool.false_eq_true,
    false_implies, true_and]
  constructor
  · rintro ⟨⟨⟨⟨named, className⟩, fieldNames, distinct⟩, shorts, shortsDistinct⟩, kinds, ordered⟩
    refine ⟨named, className, fieldNames, distinct, kinds, ordered, ?_, shortsDistinct⟩
    intro f hf short hs
    obtain ⟨flag, form⟩ := shorts f hf short hs
    -- A field of some kind has a role, so only a flag may have the short name.
    obtain ⟨k, r, hr, -⟩ := kinds f hf
    exact ⟨flag (List.ne_nil_of_mem hr.1), isShort_iff.mp form⟩
  · intro h
    refine ⟨⟨⟨⟨h.named, h.className⟩, h.fieldNames, h.distinct⟩, ?_, h.shortsDistinct⟩,
      h.kinds, h.ordered⟩
    intro f hf short hs
    obtain ⟨flag, form⟩ := h.shorts f hf short hs
    exact ⟨fun _ => flag, isShort_iff.mpr form⟩

/-- Whether a command is well-formed is found out by looking for errors. -/
instance (v : Variant) : Decidable v.WellFormed :=
  decidable_of_iff (v.errors 0 = []) Variant.errors_eq_nil_iff

/-- A command that compiles has a proper name and no errors, and consists of its slots. -/
theorem Variant.compile_eq_ok_iff {v : Variant} {position : Int} {c : CompiledCommand} :
    v.compile position = .ok c ↔
      ∃ name, v.properName? = some name ∧ v.errors position = [] ∧
        c = v.assemble name (layOut (v.label position) 0 false v.fields).2 := by
  unfold compile
  cases v.properName? with
  | none => simp
  | some name =>
      cases v.errors position with
      | nil => simp [eq_comm]
      | cons e es => simp

/-- A command with errors compiles to nothing else. -/
theorem Variant.compile_eq_error {v : Variant} {position : Int} (h : v.errors position ≠ []) :
    v.compile position = .error (v.errors position) := by
  unfold compile
  cases he : v.errors position with
  | nil => exact absurd he h
  | cons e es => cases v.properName? <;> rfl

end CommandCompiler
