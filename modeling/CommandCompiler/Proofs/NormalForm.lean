import CommandCompiler.Compiled
import CommandCompiler.Proofs.Text
/-!
# CommandCompiler.Proofs.NormalForm

**What the compiler sees of a schema.** Of the roles of a field it sees which ones
there are, and of the name of a command what stands between the blanks around it.
A schema has a normal form (`Schema.normal`) that holds no more than that, and
compiles like it: to the same errors and, without errors, to the same signatures
and bindings (`Schema.errors_normal`, `Schema.compile_normal`).

Each scan of the fields is compared with its run on their normal forms, by
induction on the fields; what a field contributes to it is said once, by
`Field.classify_normal` and `Field.slot_normal`.
-/

namespace CommandCompiler

/-! ## Fields -/

/-- Roles, each once, strongest first. -/
def Role.normal (roles : List Role) : List Role := precedence.filter (· ∈ roles)

@[simp] theorem Role.mem_normal {roles : List Role} {r : Role} : r ∈ normal roles ↔ r ∈ roles := by
  simp [normal, r.mem_precedence]

@[simp] theorem Role.effective?_normal (roles : List Role) :
    effective? (normal roles) = effective? roles := by
  simp only [effective?, mem_normal]

@[simp] theorem Role.normal_eq_nil_iff {roles : List Role} : normal roles = [] ↔ roles = [] := by
  rw [← effective?_eq_none_iff, effective?_normal, effective?_eq_none_iff]

/-- Roles have the same normal form if they are the same up to order and repetition. -/
theorem Role.normal_eq_iff {roles roles' : List Role} :
    normal roles = normal roles' ↔ ∀ r, r ∈ roles ↔ r ∈ roles' := by
  constructor
  · intro h r
    rw [← mem_normal, h, mem_normal]
  · intro h
    simp only [normal, h]

namespace Field

/-- A field with its roles in their normal form. -/
def normal (f : Field) : Field := { f with roles := Role.normal f.roles }

@[simp] theorem classify_normal (f : Field) : f.normal.classify = f.classify := by
  simp [classify, normal]

@[simp] theorem slot_normal (f : Field) (index : Nat) (k : ArgKind) :
    f.normal.slot index k = f.slot index k := by
  rcases k with a | a | (_ | a) <;> rfl

end Field

/-! ## The scans of the fields -/

theorem fieldNameErrors_normal (c : CommandLabel) (before : List String) (fs : List Field) :
    fieldNameErrors c before (fs.map Field.normal) = fieldNameErrors c before fs := by
  induction fs generalizing before with
  | nil => rfl
  | cons f fs ih =>
      simp only [List.map_cons, fieldNameErrors, ih]
      rfl

theorem shortErrors_normal (c : CommandLabel) (taken : List String) (fs : List Field) :
    shortErrors c taken (fs.map Field.normal) = shortErrors c taken fs := by
  induction fs generalizing taken with
  | nil => rfl
  | cons f fs ih =>
      simp only [List.map_cons, shortErrors, Field.normal, ih, Role.effective?_normal, ne_eq,
        Role.normal_eq_nil_iff]

theorem layOut_normal (c : CommandLabel) (index : Nat) (late : Bool) (fs : List Field) :
    layOut c index late (fs.map Field.normal) = layOut c index late fs := by
  induction fs generalizing index late with
  | nil => rfl
  | cons f fs ih =>
      simp only [List.map_cons, layOut, Field.classify_normal, Field.slot_normal, ih]
      rfl

/-! ## Commands -/

namespace Variant

/-- A command without the blanks around its name, and its fields in their normal forms. -/
def normal (v : Variant) : Variant :=
  { v with name := v.name.map Text.trim, fields := v.fields.map Field.normal }

@[simp] theorem properName?_normal (v : Variant) : v.normal.properName? = v.properName? := by
  cases h : v.name <;> simp [properName?, normal, h]

@[simp] theorem label_normal (v : Variant) (position : Int) :
    v.normal.label position = v.label position := by
  rw [label, properName?_normal, label]

theorem errors_normal (v : Variant) (position : Int) :
    v.normal.errors position = v.errors position := by
  have name : commandNameErrors v.normal position = commandNameErrors v position := by
    rw [commandNameErrors, properName?_normal, commandNameErrors]
  have className (c : CommandLabel) : classNameErrors c v.normal = classNameErrors c v := rfl
  have fields : v.normal.fields = v.fields.map Field.normal := rfl
  simp only [errors, label_normal, name, className, fields, fieldNameErrors_normal,
    shortErrors_normal, layOut_normal]

theorem compile_normal (v : Variant) (position : Int) :
    v.normal.compile position = v.compile position := by
  have assemble (name : String) (slots : List Slot) :
      v.normal.assemble name slots = v.assemble name slots := rfl
  have fields : v.normal.fields = v.fields.map Field.normal := rfl
  simp only [compile, properName?_normal, errors_normal, label_normal, assemble, fields,
    layOut_normal]

theorem docFault?_normal (v : Variant) (position : Int) :
    v.normal.docFault? position = v.docFault? position := by
  rw [docFault?, compilation, compile_normal, docFault?, compilation]

end Variant

/-! ## Schemas -/

/-- What is told of each command at its position is told of the normal forms if each of them is told
the same. -/
theorem Variant.mapIdx_normal {α : Type} {f : Nat → Variant → α} (h : ∀ i v, f i v.normal = f i v)
    (vs : List Variant) : (vs.map Variant.normal).mapIdx f = vs.mapIdx f := by
  refine List.ext_getElem (by simp) ?_
  intro i _ _
  simp [h]

namespace Schema

/-- A schema with its commands in their normal forms. -/
def normal (s : Schema) : Schema := ⟨s.commands.map Variant.normal⟩

theorem errors_normal (s : Schema) : s.normal.errors = s.errors := by
  have own : s.normal.commandErrors = s.commandErrors := by
    rw [commandErrors, normal, Variant.mapIdx_normal fun i v => v.errors_normal i, commandErrors]
  have names : s.normal.duplicateErrors = s.duplicateErrors := by
    simp [duplicateErrors, normal, List.filterMap_map]
  rw [errors, own, names, errors]

theorem compile_normal (s : Schema) : s.normal.compile = s.compile := by
  have results : s.normal.results = s.results := by
    rw [Schema.results, normal, Variant.mapIdx_normal fun i v => v.compile_normal i,
      Schema.results]
  rw [compile, errors_normal, results, compile]

theorem docFault?_normal (s : Schema) : s.normal.docFault? = s.docFault? := by
  have faults (i : Nat) (v : Variant) :
      (v.normal.docFault? i).map (i, ·) = (v.docFault? i).map (i, ·) := by
    rw [Variant.docFault?_normal]
  rw [docFault?, normal, Variant.mapIdx_normal faults, docFault?]

end Schema

end CommandCompiler
