import CommandCompiler.Proofs.Classification
import CommandCompiler.Variant.Compile
/-!
# CommandCompiler.Proofs.Slots

**What laying out the fields of a command does**, one field at a time, and what
it has done when nothing was wrong.

* `layOut_cons_invalid`, `layOut_cons_late`, `layOut_cons_required`,
  `layOut_cons_other` : all that can happen to one field. Everything else about
  `layOut` is derived from these four;
* `layOut_fst_eq_nil_iff` : when nothing is wrong with any field;
* `LaidOut` : fields and their slots, side by side. The index of a slot is the
  number of positional fields before it, which the derivation carries along, so
  that every statement about slots is an induction on it;
* `LaidOut.map_eq`, `LaidOut.exists_of_mem` : what holds of each field and its
  slot holds of all of them, in order. Whatever is read off slots rests on these.
-/

namespace CommandCompiler

/-- How many positions an argument takes. -/
def ArgKind.width (k : ArgKind) : Nat := if k.isPositional then 1 else 0

/-- Whether a field is required, by its strongest role. -/
def Field.IsRequired (f : Field) : Prop := Role.required.IsStrongest f.roles

/-- Whether a field is matched by its place in a call, by its strongest role. -/
def Field.isPositional (f : Field) : Bool :=
  match Role.effective? f.roles with
  | some .required | some .optional => true
  | _ => false

/-- A required role, and no other, makes a required argument. -/
theorem Role.Makes.eq_required_iff {r : Role} {t : TypeRef} {k : ArgKind} (h : r.Makes t k) :
    r = .required ↔ ∃ a, k = .required a := by
  cases h <;> simp

/-- A field of some kind is required exactly when the kind is. -/
theorem Field.HasKind.isRequired_iff {f : Field} {k : ArgKind} (h : f.HasKind k) :
    f.IsRequired ↔ ∃ a, k = .required a := by
  obtain ⟨r, hr, hm⟩ := h
  rw [← hm.eq_required_iff]
  constructor
  · exact hr.unique
  · rintro rfl
    exact hr

theorem Role.Makes.isPositional_eq {r : Role} {t : TypeRef} {k : ArgKind} (h : r.Makes t k) :
    k.isPositional = (match some r with
      | some Role.required | some Role.optional => true
      | _ => false) := by
  cases h <;> rfl

/-- A field of some kind is matched by its place exactly when the kind takes a position. -/
theorem Field.HasKind.isPositional_eq {f : Field} {k : ArgKind} (h : f.HasKind k) :
    f.isPositional = k.isPositional := by
  obtain ⟨r, hr, hm⟩ := h
  rw [isPositional, Role.effective?_eq_some_iff.mpr hr, hm.isPositional_eq]

/-! ## The slot of one field -/

theorem Field.slot_param_name (f : Field) (index : Nat) (k : ArgKind) :
    (f.slot index k).param.name = f.name := by
  cases k with
  | required a | optional a => rfl
  | flag type => cases type <;> rfl

theorem Field.slot_reader_field (f : Field) (index : Nat) (k : ArgKind) :
    (f.slot index k).reader.field = f.name := by
  cases k with
  | required a | optional a => rfl
  | flag type => cases type <;> rfl

/-- The reader of a field reads a position exactly when the field takes one. -/
theorem Field.slot_reader_index? (f : Field) (index : Nat) (k : ArgKind) :
    (f.slot index k).reader.index? = if k.isPositional then some (index : Int) else none := by
  cases k with
  | required a | optional a => rfl
  | flag type => cases type <;> rfl

/-! ## One field after another -/

section Step

variable {c : CommandLabel} {index : Nat} {late : Bool} {f : Field} {fs : List Field}

/-- A field that is no argument is an error and takes no slot. -/
theorem layOut_cons_invalid {cause : Unclassified} (h : f.classify = .error cause) :
    layOut c index late (f :: fs) =
      (.unclassified c.name? f.name cause :: (layOut c index late fs).1,
        (layOut c index late fs).2) := by
  simp [layOut, h]

/-- A required field that comes too late is an error and takes no slot. -/
theorem layOut_cons_late {a : ArgType} (h : f.HasKind (.required a)) :
    layOut c index true (f :: fs) =
      (.misplacedRequired c f.name :: (layOut c index true fs).1, (layOut c index true fs).2) := by
  simp [layOut, Field.classify_eq_ok_iff.mpr h]

/-- A required field in time takes the next position. -/
theorem layOut_cons_required {a : ArgType} (h : f.HasKind (.required a)) :
    layOut c index false (f :: fs) =
      ((layOut c (index + 1) false fs).1,
        f.slot index (.required a) :: (layOut c (index + 1) false fs).2) := by
  simp [layOut, Field.classify_eq_ok_iff.mpr h]

/-- Any other field takes as many positions as it needs, and it is late after it. -/
theorem layOut_cons_other {k : ArgKind} (h : f.HasKind k) (hf : ¬ f.IsRequired) :
    layOut c index late (f :: fs) =
      ((layOut c (index + k.width) true fs).1,
        f.slot index k :: (layOut c (index + k.width) true fs).2) := by
  have hk := Field.classify_eq_ok_iff.mpr h
  cases k with
  | required a => exact absurd (h.isRequired_iff.mpr ⟨a, rfl⟩) hf
  | optional a => simp [layOut, hk, ArgKind.width, ArgKind.isPositional]
  | flag type => simp [layOut, hk, ArgKind.width, ArgKind.isPositional]

end Step

/-! ## All fields -/

/-- Nothing is wrong with the fields exactly when each is an argument of some kind, and no required
one comes late or after one that is not required. -/
theorem layOut_fst_eq_nil_iff {c : CommandLabel} {index : Nat} {late : Bool} {fs : List Field} :
    (layOut c index late fs).1 = [] ↔
      (∀ f ∈ fs, ∃ k, f.HasKind k) ∧ (late = true → ∀ f ∈ fs, ¬ f.IsRequired) ∧
        fs.Pairwise fun f g => g.IsRequired → f.IsRequired := by
  induction fs generalizing index late with
  | nil => simp [layOut]
  | cons f fs ih =>
      rw [List.forall_mem_cons, List.forall_mem_cons, List.pairwise_cons]
      cases hf : f.classify with
      | error cause =>
          have none : ¬ ∃ k, f.HasKind k := by
            rintro ⟨k, hk⟩
            rw [← Field.classify_eq_ok_iff, hf] at hk
            cases hk
          simp [layOut_cons_invalid hf, none]
      | ok k =>
          have hk : f.HasKind k := Field.classify_eq_ok_iff.mp hf
          by_cases hr : f.IsRequired
          · obtain ⟨a, rfl⟩ := hk.isRequired_iff.mp hr
            cases late with
            | true => simp [layOut_cons_late hk, hr]
            | false =>
                rw [layOut_cons_required hk, ih]
                simp only [reduceCtorEq, false_implies, true_and, hr, implies_true]
                exact and_congr_left fun _ => (and_iff_right ⟨_, hk⟩).symm
          · rw [layOut_cons_other hk hr, ih]
            -- What follows a field that is not required is late, whatever was before.
            simp only [hr, imp_false, not_false_eq_true, true_and, true_implies]
            constructor
            · rintro ⟨kinds, late, order⟩
              exact ⟨⟨⟨k, hk⟩, kinds⟩, fun _ => late, late, order⟩
            · rintro ⟨⟨-, kinds⟩, -, late, order⟩
              exact ⟨kinds, late, order⟩

/-- Fields and their slots, the first position being `index`: every field has the slot of its kind,
at the number of positional fields before it. -/
inductive LaidOut : Nat → List Field → List Slot → Prop
  | nil (index : Nat) : LaidOut index [] []
  | cons {index : Nat} {f : Field} {k : ArgKind} {fs : List Field} {slots : List Slot}
      (kind : f.HasKind k) (rest : LaidOut (index + k.width) fs slots) :
      LaidOut index (f :: fs) (f.slot index k :: slots)

/-- Where nothing is wrong, every field has its slot. -/
theorem laidOut_layOut {c : CommandLabel} {index : Nat} {late : Bool} {fs : List Field}
    (h : (layOut c index late fs).1 = []) : LaidOut index fs (layOut c index late fs).2 := by
  induction fs generalizing index late with
  | nil => exact .nil index
  | cons f fs ih =>
      cases hf : f.classify with
      | error cause => simp [layOut_cons_invalid hf] at h
      | ok k =>
          have hk : f.HasKind k := Field.classify_eq_ok_iff.mp hf
          by_cases hr : f.IsRequired
          · obtain ⟨a, rfl⟩ := hk.isRequired_iff.mp hr
            cases late with
            | true => simp [layOut_cons_late hk] at h
            | false =>
                rw [layOut_cons_required hk] at h ⊢
                exact .cons hk (ih h)
          · rw [layOut_cons_other hk hr] at h ⊢
            exact .cons hk (ih h)

namespace LaidOut

variable {index : Nat} {fs : List Field} {slots : List Slot}

theorem length_eq (h : LaidOut index fs slots) : slots.length = fs.length := by
  induction h with
  | nil => rfl
  | cons _ _ ih => rw [List.length_cons, List.length_cons, ih]

/-- A slot stands at the place of its field, and its index is the number of positional fields
before it. -/
theorem getElem?_eq (h : LaidOut index fs slots) {j : Nat} {f : Field} (hf : fs[j]? = some f) :
    ∃ k, f.HasKind k ∧
      slots[j]? = some (f.slot (index + (fs.take j).countP (·.isPositional)) k) := by
  induction h generalizing j with
  | nil => simp at hf
  | @cons index g k fs slots kind rest ih =>
      cases j with
      | zero =>
          obtain rfl : g = f := by simpa using hf
          exact ⟨k, kind, by simp⟩
      | succ j =>
          obtain ⟨l, hl, hslot⟩ := ih (by simpa using hf)
          have position : index + k.width + (fs.take j).countP (·.isPositional) =
              index + ((g :: fs).take (j + 1)).countP (·.isPositional) := by
            rw [List.take_succ_cons, List.countP_cons, kind.isPositional_eq, ArgKind.width]
            omega
          exact ⟨l, hl, by rw [List.getElem?_cons_succ, hslot, position]⟩

/-- What is the same for every slot and its field, is so for all of them in order. -/
theorem map_eq {α : Type} {g : Slot → α} {g' : Field → α} (h : LaidOut index fs slots)
    (each : ∀ f ∈ fs, ∀ index k, f.HasKind k → g (f.slot index k) = g' f) :
    slots.map g = fs.map g' := by
  induction h with
  | nil => rfl
  | @cons index f k fs slots kind rest ih =>
      rw [List.forall_mem_cons] at each
      rw [List.map_cons, List.map_cons, each.1 index k kind, ih each.2]

/-- Slots keep the names of their fields, on both sides. -/
theorem map_param_name (h : LaidOut index fs slots) :
    slots.map (·.param.name) = fs.map (·.name) :=
  h.map_eq fun f _ index k _ => f.slot_param_name index k

theorem map_field (h : LaidOut index fs slots) :
    slots.map (·.reader.field) = fs.map (·.name) :=
  h.map_eq fun f _ index k _ => f.slot_reader_field index k

/-- Every slot belongs to a field of its kind. -/
theorem exists_of_mem (h : LaidOut index fs slots) {s : Slot} (hs : s ∈ slots) :
    ∃ f ∈ fs, ∃ index k, f.HasKind k ∧ s = f.slot index k := by
  induction h with
  | nil => cases hs
  | @cons index f k fs slots kind rest ih =>
      rcases List.mem_cons.mp hs with rfl | hs
      · exact ⟨f, List.mem_cons_self .., index, k, kind, rfl⟩
      · obtain ⟨g, hg, found⟩ := ih hs
        exact ⟨g, List.mem_cons_of_mem _ hg, found⟩

end LaidOut

end CommandCompiler
