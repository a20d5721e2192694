import CommandCompiler.Proofs.Refusal
import CommandCompiler.Proofs.RoundTrip
/-!
# CommandCompiler.Proofs.Extension

**Fields that are added at the end do not disturb those before them.** A command
with fewer fields, the first ones of a command that compiles, compiles to the first
part of what the longer one compiles to, and its calls are answered with the first
part of the answer.

* `CompiledCommand.take` : the first part of a compiled command;
* `Command.restrict` : a command value with some of its fields only;
* `Variant.WellFormed.of_append`, `LaidOut.take` : every rule for a command is about
  one field or about a field and those before it, and so is the place of its slot;
* `FirstRefused.of_take` : the first parameter that is refused is the same, however
  many come after it.
-/

namespace CommandCompiler

/-- A compiled command with its first `n` parameters, readers and fields of the class only. -/
def CompiledCommand.take (n : Nat) (c : CompiledCommand) : CompiledCommand :=
  { signature := { c.signature with params := c.signature.params.take n }
    binding :=
      { c.binding with
        readers := c.binding.readers.take n
        model := { c.binding.model with fields := c.binding.model.fields.take n } } }

/-- A command value with only those of its fields that have one of these names. -/
def Command.restrict (names : List String) (x : Command) : Command :=
  { x with fields := x.fields.filter fun e => e.1 ∈ names }

/-! ## The shorter command compiles -/

/-- Whatever is asked of the fields of a command, holds of the first of them. -/
theorem Variant.WellFormed.of_append {v : Variant} {xs ys : List Field} (h : v.WellFormed)
    (hv : v.fields = xs ++ ys) : ({ v with fields := xs } : Variant).WellFormed := by
  obtain ⟨named, className, fieldNames, distinct, kinds, ordered, shorts, shortsDistinct⟩ := h
  rw [hv] at fieldNames distinct kinds ordered shorts shortsDistinct
  rw [List.map_append] at distinct
  rw [List.filterMap_append] at shortsDistinct
  rw [List.pairwise_append] at ordered
  exact
    { named, className
      fieldNames := (List.forall_mem_append.mp fieldNames).1
      distinct := distinct.of_append_left
      kinds := (List.forall_mem_append.mp kinds).1
      ordered := ordered.1
      shorts := (List.forall_mem_append.mp shorts).1
      shortsDistinct := shortsDistinct.of_append_left }

namespace LaidOut

variable {index : Nat} {slots : List Slot}

/-- Fields have their slots whatever comes after them. -/
theorem take {xs ys : List Field} (h : LaidOut index (xs ++ ys) slots) :
    LaidOut index xs (slots.take xs.length) := by
  induction xs generalizing index slots with
  | nil => exact .nil index
  | cons f xs ih =>
      cases h with
      | cons kind rest => exact .cons kind (ih rest)

/-- A field is of one kind, so there is one way to lay fields out. -/
theorem unique {fs : List Field} {slots' : List Slot} (h : LaidOut index fs slots)
    (h' : LaidOut index fs slots') : slots = slots' := by
  induction h generalizing slots' with
  | nil =>
      cases h'
      rfl
  | @cons index f k fs slots kind rest ih =>
      cases h' with
      | @cons _ _ k' _ _ kind' rest' =>
          have same : Except.ok k = Except.ok k' :=
            (Field.classify_eq_ok_iff.mpr kind).symm.trans (Field.classify_eq_ok_iff.mpr kind')
          obtain rfl := Except.ok.inj same
          rw [ih rest']

end LaidOut

/-- A well-formed command compiles to what its slots make of it. -/
theorem Variant.compile_of_laidOut {v : Variant} {name : String} {slots : List Slot}
    (hname : v.properName? = some name) (hw : v.WellFormed) (h : LaidOut 0 v.fields slots)
    (position : Int) : v.compile position = .ok (v.assemble name slots) := by
  have none : (layOut (v.label position) 0 false v.fields).1 = [] :=
    layOut_fst_eq_nil_iff.mpr ⟨hw.kinds, by simp, hw.ordered⟩
  refine compile_eq_ok_iff.mpr ⟨name, hname, errors_eq_nil_iff.mpr hw, ?_⟩
  rw [h.unique (laidOut_layOut none)]

/-- What is put together from the first slots of a command is the first part of what is put together
from all of them. -/
theorem Variant.assemble_take {v : Variant} {xs ys : List Field} {slots : List Slot}
    (hw : v.WellFormed) (hv : v.fields = xs ++ ys) (h : LaidOut 0 v.fields slots)
    (name : String) :
    ({ v with fields := xs } : Variant).assemble name (slots.take xs.length) =
      (v.assemble name slots).take xs.length := by
  have first : LaidOut 0 xs (slots.take xs.length) := LaidOut.take (hv ▸ h)
  have fields := assemble_fields name (hw.of_append hv) first
  rw [List.map_take, ← assemble_fields name hw h] at fields
  unfold CompiledCommand.take
  rw [← fields]
  simp only [assemble, CommandModel.ofReaders, List.map_take]

/-- The first fields of a command that compiles make up a command that compiles. -/
theorem Variant.compile_take {v : Variant} {position : Int} {c : CompiledCommand}
    (h : v.compile position = .ok c) {xs ys : List Field} (hv : v.fields = xs ++ ys) :
    ({ v with fields := xs } : Variant).compile position = .ok (c.take xs.length) := by
  obtain ⟨name, slots, hname, hw, hl, rfl⟩ := exists_slots h
  have hname' : ({ v with fields := xs } : Variant).properName? = some name := hname
  have first : LaidOut 0 xs (slots.take xs.length) := LaidOut.take (hv ▸ hl)
  rw [compile_of_laidOut hname' (hw.of_append hv) first position, assemble_take hw hv hl]

/-! ## Its calls are answered with the first part of the answer -/

/-- Parameters are matched whatever comes after them. -/
theorem matchFrom_take (index : Nat) (params : List Parameter) (call : Call) (n : Nat) :
    matchFrom index (params.take n) call = (matchFrom index params call).take n := by
  induction n generalizing index params with
  | zero => rfl
  | succ n ih =>
      cases params with
      | nil => rfl
      | cons p params => rw [matchFrom_cons, List.take_succ_cons, List.take_succ_cons,
          matchFrom_cons, ih]

/-- What is refused first among the first parameters, is refused first among all of them. -/
theorem FirstRefused.of_take {ms before : List (Parameter × Option Value)} {n : Nat}
    {p : Parameter} {arg : Option Value} (h : FirstRefused (ms.take n) before p arg) :
    FirstRefused ms before p arg := by
  obtain ⟨⟨after, split⟩, accepted, refused⟩ := h
  refine ⟨⟨after ++ ms.drop n, ?_⟩, accepted, refused⟩
  calc ms
    _ = ms.take n ++ ms.drop n := (List.take_append_drop n ms).symm
    _ = before ++ (p, arg) :: (after ++ ms.drop n) := by
      rw [split, List.append_assoc, List.cons_append]

/-- Of items with distinct keys, those with the first keys are the first items. -/
theorem filter_key_mem {α : Type} {key : α → String} {as : List α} {names more : List String}
    (h : as.map key = names ++ more) (distinct : (names ++ more).Nodup) :
    (as.filter fun a => key a ∈ names) = as.take names.length := by
  obtain ⟨first, rest, rfl, rfl, rfl⟩ := List.map_eq_append_iff.mp h
  have kept : (first.filter fun a => key a ∈ first.map key) = first :=
    List.filter_eq_self.mpr fun a ha => decide_eq_true (List.mem_map_of_mem ha)
  have dropped : (rest.filter fun a => key a ∈ first.map key) = [] := by
    rw [List.filter_eq_nil_iff]
    intro a ha
    rw [decide_eq_true_eq]
    intro shared
    exact (List.nodup_append.mp distinct).2.2 _ shared _ (List.mem_map_of_mem ha) rfl
  rw [List.filter_append, kept, dropped, List.append_nil, List.length_map, List.take_left]

/-- The fields of a value that a call supplies have the names of the declared fields. -/
theorem Variant.fieldsOf_map_fst {v : Variant} {position : Int} {c : CompiledCommand}
    (h : v.compile position = .ok c) (call : Call) :
    (c.signature.fieldsOf call).map (·.1) = v.fields.map (·.name) := by
  obtain ⟨-, names, -⟩ := names_of_compile h
  rw [← names, ← Signature.matched_map_fst _ call, Signature.fieldsOf, List.map_map, List.map_map]
  rfl

/-- **Fields that are added at the end do not disturb those before them.** The first fields of a
command that compiles make up a command that compiles, to the first part of what the longer one
compiles to. Where its calls are refused, those of the longer one are refused for the same reason;
where those of the longer one are bound to a value, its own are bound to this value without the
fields that were added. -/
theorem Variant.compile_append {v : Variant} {position : Int} {c : CompiledCommand}
    (h : v.compile position = .ok c) {xs ys : List Field} (hv : v.fields = xs ++ ys) :
    ({ v with fields := xs } : Variant).compile position = .ok (c.take xs.length) ∧
      ∀ call,
        (∀ e, (c.take xs.length).binding.bind call = .error e → c.binding.bind call = .error e) ∧
        ∀ x, c.binding.bind call = .ok x →
          (c.take xs.length).binding.bind call = .ok (x.restrict (xs.map (·.name))) := by
  have shorter := compile_take h hv
  have matched (call : Call) : (c.take xs.length).signature.matched call =
      (c.signature.matched call).take xs.length :=
    matchFrom_take 0 c.signature.params call xs.length
  refine ⟨shorter, fun call => ⟨fun e he => ?_, fun x hx => ?_⟩⟩
  -- What is refused is the same parameter for both, with the same ones before it.
  · rcases bind_cases shorter call with ⟨-, bound⟩ | ⟨before, p, arg, first, refused⟩
    · rw [bound] at he
      cases he
    · rw [matched call] at first
      rw [← he, refused]
      exact bind_of_firstRefused h first.of_take
  -- What conforms to more parameters conforms to the first of them.
  · obtain ⟨conforms, rfl⟩ := (bind_eq_ok_iff h).mp hx
    have conforms' : (c.take xs.length).signature.Conforms call := by
      rw [Signature.Conforms, matched call]
      exact fun m hm => conforms m (List.mem_of_mem_take hm)
    have names := fieldsOf_map_fst h call
    have distinct := (names_of_compile h).1
    rw [hv, List.map_append] at names distinct
    have fields : (c.take xs.length).signature.fieldsOf call =
        (c.signature.fieldsOf call).filter fun e => e.1 ∈ xs.map (·.name) := by
      rw [filter_key_mem names distinct, List.length_map, Signature.fieldsOf, matched call,
        List.map_take, Signature.fieldsOf]
    rw [Command.restrict, ← fields]
    exact (bind_eq_ok_iff shorter).mpr ⟨conforms', rfl⟩

theorem playCommand_shortened :
    ∃ c, playCommand.compile 0 = .ok c ∧
      playCommand.fields = playCommand.fields.take 2 ++ playCommand.fields.drop 2 ∧
      (∃ c', ({ playCommand with fields := playCommand.fields.take 2 } : Variant).compile 0 =
          .ok c' ∧
        c'.signature.params.map (·.name) = ["song", "loud"] ∧
        ∃ x, c'.binding.bind ⟨[.str "Tosca", .null], [("loud", .null)], none⟩ = .ok x ∧
          x.fields = [("song", .string "Tosca"), ("loud", .bool true)]) ∧
      ∃ e, c.binding.bind ⟨[.bool true, .int 4], [], none⟩ = .error (.call e) ∧
        e.fault.msg = "Command 'play' got bool True for positional argument 'song'." := by
  have compiles : playCommand.compile 0 = .ok _ := rfl
  have fields : playCommand.fields = playCommand.fields.take 2 ++ playCommand.fields.drop 2 := rfl
  obtain ⟨shorter, answers⟩ := Variant.compile_append compiles fields
  have bound := (answers ⟨[.str "Tosca", .null], [("loud", .null)], none⟩).2 _ rfl
  have refused := (answers ⟨[.bool true, .int 4], [], none⟩).1 (.call _) rfl
  exact ⟨_, compiles, fields, ⟨_, shorter, rfl, _, bound, rfl⟩, _, refused, by decide +kernel⟩

end CommandCompiler
