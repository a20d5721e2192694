import CommandCompiler.Proofs.Diagnostics
/-!
# CommandCompiler.Proofs.ShortNames

**Which short names are refused.** The scan over the fields remembers short names,
and what it remembers decides what it reports. Which fields enter this memory is
the point: those that are refused for their roles or for the form of their short
names do not, and those that are refused because another field has the same short
name do.

* `Field.HasOtherRole`, `IsShortForm`, `Field.Takes` : the fields that take a short
  name away from those after them;
* `Field.IsRefused` : whether the short name of a field is refused, told by the
  fields before it;
* `ShortReport` : what is said of such a field;
* `Remembers` : the memory holds the short names that the fields before have taken.
  Each step keeps this (`exists_shortErrors_cons`), and nothing else about the
  memory counts (`forall₂_shortErrors`).
-/

namespace CommandCompiler

/-! ## Fields with short names -/

/-- Whether a field has roles, and the strongest of them is not that of a flag. -/
def Field.HasOtherRole (f : Field) : Prop := f.roles ≠ [] ∧ ¬ Role.flag.IsStrongest f.roles

instance (f : Field) : Decidable f.HasOtherRole := inferInstanceAs (Decidable (_ ∧ _))

/-- Whether a short name is one ASCII letter or digit. -/
def IsShortForm (short : String) : Prop := ∃ c : Char, c.isAlphanum ∧ short.toList = [c]

instance (short : String) : Decidable (IsShortForm short) := decidable_of_iff _ isShort_iff

/-- Whether a field takes a short name: it has it, may be a flag, and the form is right. -/
def Field.Takes (f : Field) (short : String) : Prop :=
  f.short = some short ∧ ¬ f.HasOtherRole ∧ IsShortForm short

instance (f : Field) (short : String) : Decidable (f.Takes short) :=
  inferInstanceAs (Decidable (_ ∧ _))

/-- Whether a field has a short name that it may not have: because of its roles, because of the form
of the name, or because one of the fields before it has taken the name. -/
def Field.IsRefused (f : Field) (earlier : List Field) : Prop :=
  ∃ short ∈ f.short, f.HasOtherRole ∨ ¬ IsShortForm short ∨ ∃ g ∈ earlier, g.Takes short

instance (f : Field) (earlier : List Field) : Decidable (f.IsRefused earlier) :=
  inferInstanceAs (Decidable (∃ short ∈ f.short, _))

/-- What is said of a field whose short name is refused. Its roles are looked at before the form of
the name, and the form before other fields. -/
inductive ShortReport (c : CommandLabel) (f : Field) : SchemaError → Prop
  | withoutFlag (other : f.HasOtherRole) : ShortReport c f (.shortWithoutFlag c f.name)
  | malformed {short : String} (has : f.short = some short) (flag : ¬ f.HasOtherRole)
      (form : ¬ IsShortForm short) : ShortReport c f (.malformedShort c f.name short)
  | repeated {short : String} (takes : f.Takes short) :
      ShortReport c f (.repeatedShort c f.name short)

/-! ## One field after another -/

section Step

variable {c : CommandLabel} {taken : List String} {f : Field} {fs : List Field} {short : String}

/-- The scan asks for the role of a field in other words. -/
theorem Field.hasOtherRole_iff :
    f.HasOtherRole ↔ f.roles ≠ [] ∧ Role.effective? f.roles ≠ some .flag := by
  simp only [HasOtherRole, Ne, Role.effective?_eq_some_iff]

theorem shortErrors_cons_none (h : f.short = none) :
    shortErrors c taken (f :: fs) = shortErrors c taken fs := by
  simp only [shortErrors, h]

/-- A field that is no flag is reported, and takes nothing. -/
theorem shortErrors_cons_otherRole (h : f.short = some short) (other : f.HasOtherRole) :
    shortErrors c taken (f :: fs) =
      .shortWithoutFlag c f.name :: shortErrors c taken fs := by
  simp only [shortErrors, h]
  rw [if_pos (Field.hasOtherRole_iff.mp other)]

/-- A malformed short name is reported, and is not taken. -/
theorem shortErrors_cons_malformed (h : f.short = some short) (flag : ¬ f.HasOtherRole)
    (form : ¬ IsShortForm short) :
    shortErrors c taken (f :: fs) =
      .malformedShort c f.name short :: shortErrors c taken fs := by
  have malformed : (!isShort short) = true := by
    simpa using mt isShort_iff.mp form
  simp only [shortErrors, h]
  rw [if_neg (mt Field.hasOtherRole_iff.mpr flag), if_pos malformed]

/-- A short name that a field takes is reported if it is taken already, and is taken in any case. -/
theorem shortErrors_cons_takes (h : f.Takes short) :
    shortErrors c taken (f :: fs) =
      (if short ∈ taken then [.repeatedShort c f.name short] else []) ++
        shortErrors c (short :: taken) fs := by
  obtain ⟨has, flag, form⟩ := h
  have wellFormed : ¬ (!isShort short) = true := by
    simpa using isShort_iff.mpr form
  simp only [shortErrors, has]
  rw [if_neg (mt Field.hasOtherRole_iff.mpr flag), if_neg wellFormed]

end Step

/-! ## The memory of the scan -/

/-- The short names that the fields before have taken are remembered, and no others. -/
def Remembers (taken : List String) (before : List Field) : Prop :=
  ∀ short, short ∈ taken ↔ ∃ f ∈ before, f.Takes short

theorem remembers_nil : Remembers [] [] := by
  simp [Remembers]

/-- What the next field takes is added to what is remembered. -/
theorem Remembers.concat {taken : List String} {before : List Field} {f : Field}
    (h : Remembers taken before) (new : List String)
    (takes : ∀ short, short ∈ new ↔ f.Takes short) :
    Remembers (new ++ taken) (before ++ [f]) := by
  intro short
  rw [List.mem_append, h short, takes short]
  simp only [List.mem_append, List.mem_singleton, or_and_right, exists_or, exists_eq_left]
  exact or_comm

/-- What is done with one field: at most one thing is said, just if its short name is refused, and
what it takes is added to the memory. -/
theorem exists_shortErrors_cons {taken : List String} {before : List Field}
    (h : Remembers taken before) (c : CommandLabel) (f : Field) (fs : List Field) :
    ∃ said new, shortErrors c taken (f :: fs) = said ++ shortErrors c (new ++ taken) fs ∧
      (∀ short, short ∈ new ↔ f.Takes short) ∧
      if f.IsRefused before then ∃ e, said = [e] ∧ ShortReport c f e else said = [] := by
  cases has : f.short with
  | none =>
      have accepted : ¬ f.IsRefused before := by simp [Field.IsRefused, has]
      have nothing (short : String) : ¬ f.Takes short := by simp [Field.Takes, has]
      exact ⟨[], [], shortErrors_cons_none has, by simpa using nothing, by rw [if_neg accepted]⟩
  | some short =>
      have refused_iff : f.IsRefused before ↔
          f.HasOtherRole ∨ ¬ IsShortForm short ∨ short ∈ taken := by
        simp [Field.IsRefused, has, h short]
      -- A field takes no other short name than its own.
      have takes_iff (s : String) :
          f.Takes s ↔ s = short ∧ ¬ f.HasOtherRole ∧ IsShortForm short := by
        simp only [Field.Takes, has, Option.some.injEq]
        constructor <;> rintro ⟨rfl, rest⟩ <;> exact ⟨rfl, rest⟩
      by_cases other : f.HasOtherRole
      · refine ⟨[_], [], shortErrors_cons_otherRole has other, by simp [takes_iff, other], ?_⟩
        rw [if_pos (refused_iff.mpr (.inl other))]
        exact ⟨_, rfl, .withoutFlag other⟩
      by_cases form : IsShortForm short
      · have takes : f.Takes short := ⟨has, other, form⟩
        refine ⟨_, [short], shortErrors_cons_takes takes, by simp [takes_iff, other, form], ?_⟩
        by_cases mem : short ∈ taken
        · rw [if_pos (refused_iff.mpr (.inr (.inr mem))), if_pos mem]
          exact ⟨_, rfl, .repeated takes⟩
        · rw [if_neg (by simp [refused_iff, other, form, mem]), if_neg mem]
      · refine ⟨[_], [], shortErrors_cons_malformed has other form, by simp [takes_iff, form], ?_⟩
        rw [if_pos (refused_iff.mpr (.inr (.inl form)))]
        exact ⟨_, rfl, .malformed has other form⟩

/-! ## All fields -/

/-- The fields that are reported are those whose short names are refused. -/
theorem forall₂_shortErrors {c : CommandLabel} {taken : List String} {before : List Field}
    (h : Remembers taken before) (fs : List Field) :
    List.Forall₂ (fun p e => ShortReport c p.2 e)
      ((withEarlier before fs).filter fun p => p.2.IsRefused p.1) (shortErrors c taken fs) := by
  induction fs generalizing taken before with
  | nil => exact .nil
  | cons f fs ih =>
      obtain ⟨said, new, step, takes, outcome⟩ := exists_shortErrors_cons h c f fs
      have rest := ih (h.concat new takes)
      rw [withEarlier_cons, step]
      split at outcome
      · rename_i refused
        obtain ⟨e, rfl, report⟩ := outcome
        rw [List.filter_cons_of_pos (by simpa using refused)]
        exact .cons report rest
      · rename_i accepted
        subst outcome
        rw [List.filter_cons_of_neg (by simpa using accepted)]
        exact rest

/-- What is said of a field leads to it. -/
theorem ShortReport.pointsTo {c : CommandLabel} {f : Field} {e : SchemaError}
    (h : ShortReport c f e) : e.PointsTo c f.name := by
  cases h <;> exact SchemaError.pointsTo_iff.mpr ⟨rfl, rfl⟩

/-- **The short names that are refused are reported, one report for each such field.** The reports
are in the order of the fields, lead to them, and say of each field what is wrong with its own short
name. Nothing else is reported of short names. -/
theorem Variant.filter_invalidShortFlag_errors (v : Variant) (position : Int) :
    List.Forall₂
      (fun p e => ShortReport (v.label position) p.2 e ∧ e.PointsTo (v.label position) p.2.name)
      ((withEarlier [] v.fields).filter fun p => p.2.IsRefused p.1)
      ((v.errors position).filter (·.kind = .invalidShortFlag)) := by
  have all : (shortErrors (v.label position) [] v.fields).filter (·.kind = .invalidShortFlag) =
      shortErrors (v.label position) [] v.fields :=
    List.filter_eq_self.mpr fun e he => by simpa using kind_of_mem_shortErrors he
  simp only [errors, List.filter_append]
  rw [filter_kind_eq_nil (fun _ => kind_of_mem_commandNameErrors) (by decide),
    filter_kind_eq_nil (fun _ => kind_of_mem_classNameErrors) (by decide),
    filter_kind_eq_nil (fun _ => kind_of_mem_fieldNameErrors) (by decide), all,
    filter_kind_eq_nil (fun _ => kind_of_mem_layOut) (by decide), List.append_nil]
  exact (forall₂_shortErrors remembers_nil v.fields).imp fun p e h => ⟨h, h.pointsTo⟩

/-- A required field does not take its short name, but a field without any role does. -/
example (c : CommandLabel) (t : TypeRef) :
    shortErrors c []
      [{ name := "song", type := t, roles := [.required], short := some "s" },
       { name := "speed", type := t, short := some "s" },
       { name := "slow", type := t, roles := [.flag], short := some "s" }] =
      [.shortWithoutFlag c "song", .repeatedShort c "slow" "s"] := rfl

end CommandCompiler
