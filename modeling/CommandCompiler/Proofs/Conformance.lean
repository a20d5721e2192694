import CommandCompiler.Proofs.Construction
import CommandCompiler.Proofs.Dispatch
/-!
# CommandCompiler.Proofs.Conformance

**A signature says which calls can be bound, and to what.** Nothing of readers
and kinds of values is needed to predict this:

* `Signature.matched` : the parameters, each with the argument that a call
  supplies for it;
* `Parameter.accepts`, `Signature.Conforms` : whether a call supplies what the
  signature asks for;
* `Parameter.valueOf`, `Signature.fieldsOf` : the fields that it supplies.

One slot is compared with its parameter (`Field.read_slot_eq_ok_iff`), then all
slots with all parameters (`LaidOut.readAll_eq_ok_iff`), and then a command with
its signature (`Variant.bind_eq_ok_iff`). The last step is the lookup of the
command by its name (`CompiledSchema.parse_iff_conforms`).
-/

namespace CommandCompiler

/-! ## What a signature asks for -/

/-- Whether a value looks like this. Null looks like nothing. -/
def Shape.fits : Shape → Value → Bool
  | .string, .str _ | .boolean, .bool _ => true
  | _, _ => false

/-- A value of some shape, as a field holds it. -/
def Value.asField : Value → FieldValue
  | .str s => .string s
  | .bool b => .bool b
  | _ => .absent

namespace Parameter

/-- The argument that a call supplies for a parameter, given the number of positional parameters
before it. -/
def argument? (p : Parameter) (before : Nat) (call : Call) : Option Value :=
  if p.role.isPositional then call.positional[before]? else call.named.lookup p.name

/-- Whether a parameter may be supplied like this: a required one must be, and any other may be
missing or null. -/
def accepts (p : Parameter) (arg : Option Value) : Bool :=
  match p.role, arg with
  | .required, none => false
  | .required, some v => p.shape.fits v
  | _, none | _, some .null => true
  | .switch, some v => Shape.boolean.fits v
  | _, some v => p.shape.fits v

/-- What the field of a parameter holds when it is supplied like this. A switch is off when it is
missing and on when it has no value. -/
def valueOf (p : Parameter) (arg : Option Value) : FieldValue :=
  match p.role, arg with
  | .switch, none => .bool false
  | .switch, some .null => .bool true
  | _, none => .absent
  | _, some v => v.asField

end Parameter

/-- Parameters, each with the argument that a call supplies for it. The positional ones are matched
in order with the positions from `index` on. -/
def matchFrom (index : Nat) (params : List Parameter) (call : Call) :
    List (Parameter × Option Value) :=
  params.mapIdx fun j p =>
    (p, p.argument? (index + (params.take j).countP (·.role.isPositional)) call)

namespace Signature

/-- The parameters of a command, each with the argument that a call supplies for it. -/
def matched (s : Signature) (call : Call) : List (Parameter × Option Value) :=
  matchFrom 0 s.params call

/-- Whether a call supplies every parameter as it may be. -/
def Conforms (s : Signature) (call : Call) : Prop :=
  ∀ m ∈ s.matched call, m.1.accepts m.2 = true

instance (s : Signature) (call : Call) : Decidable (s.Conforms call) :=
  inferInstanceAs (Decidable (∀ m ∈ s.matched call, _))

/-- One field for each parameter, in order, holding what a call supplies for it. -/
def fieldsOf (s : Signature) (call : Call) : List (String × FieldValue) :=
  (s.matched call).map fun m => (m.1.name, m.1.valueOf m.2)

end Signature

/-! ## One slot -/

/-- An argument type takes the values of its shape, as they are. -/
theorem ArgType.accept?_eq (a : ArgType) (v : Value) :
    a.accept? v = if a.shape.fits v then some v.asField else none := by
  cases a <;> cases v <;> rfl

/-- A value of the right type passes as it is, and no other passes. -/
theorem Reader.check_eq_ok_iff {call : Call} {command : String} {a : ArgType} {place : ArgPlace}
    {v : Value} {x : FieldValue} :
    check call command a place v = .ok x ↔ a.shape.fits v = true ∧ x = v.asField := by
  rw [check, ArgType.accept?_eq]
  cases a.shape.fits v with
  | true => simp [eq_comm]
  | false => cases v.display? <;> simp

theorem Call.argument?_natCast (c : Call) (n : Nat) : c.argument? n = c.positional[n]? := rfl

/-- A field's reader reads a call exactly when the call supplies the parameter of the field as it
may be, and it reads what is supplied. -/
theorem Field.read_slot_eq_ok_iff {f : Field} {index : Nat} {k : ArgKind} {call : Call}
    {command : String} {x : FieldValue} :
    (f.slot index k).reader.read call command = .ok x ↔
      (f.slot index k).param.accepts ((f.slot index k).param.argument? index call) = true ∧
        x = (f.slot index k).param.valueOf ((f.slot index k).param.argument? index call) := by
  -- Without a value the reader and the parameter decide each for itself; a value is left to the
  -- same check on both sides.
  have missing {y : FieldValue} {accepted : Bool} (h : accepted = true) :
      (.ok y : Except ReadError FieldValue) = .ok x ↔ accepted = true ∧ x = y := by
    simp [h, eq_comm]
  cases k with
  | required a =>
      simp only [slot, Reader.read, Call.at?, Call.argument?_natCast, Parameter.argument?,
        ParamRole.isPositional, if_true]
      cases call.positional[index]? with
      | none => simp [Parameter.accepts]
      | some v =>
          cases v with
          | null => cases a <;> simp [Parameter.accepts, ArgType.shape, Shape.fits]
          | _ => exact Reader.check_eq_ok_iff
  | optional a =>
      simp only [slot, Reader.read, Call.at?, Call.argument?_natCast, Parameter.argument?,
        ParamRole.isPositional, if_true]
      cases call.positional[index]? with
      | none => exact missing rfl
      | some v =>
          cases v with
          | null => exact missing rfl
          | _ => exact Reader.check_eq_ok_iff
  | flag type =>
      cases type with
      | none | some a =>
          simp only [slot, Reader.read, Call.flag?, Parameter.argument?, ParamRole.isPositional,
            Bool.false_eq_true, if_false]
          cases call.named.lookup f.name with
          | none => exact missing rfl
          | some v =>
              cases v with
              | null => exact missing rfl
              | _ => exact Reader.check_eq_ok_iff

/-! ## All slots -/

/-- Matching goes from parameter to parameter, and from position to position where one is taken. -/
theorem matchFrom_cons (index : Nat) (p : Parameter) (ps : List Parameter) (call : Call) :
    matchFrom index (p :: ps) call =
      (p, p.argument? index call) ::
        matchFrom (index + if p.role.isPositional then 1 else 0) ps call := by
  rw [matchFrom, List.mapIdx_cons, List.take_zero, List.countP_nil, Nat.add_zero, matchFrom]
  congr 2
  funext j q
  -- Whatever comes before the later parameters, the first one does too.
  rw [List.take_succ_cons, List.countP_cons, Nat.add_assoc, Nat.add_comm (List.countP _ _)]

theorem Field.slot_param_width (f : Field) (index : Nat) (k : ArgKind) :
    (if (f.slot index k).param.role.isPositional then 1 else 0) = k.width := by
  cases k with
  | required a | optional a => rfl
  | flag type => cases type <;> rfl

theorem Binding.readAll_cons_eq_ok_iff {call : Call} {command : String} {r : Reader}
    {rs : List Reader} {es : List (String × FieldValue)} :
    readAll call command (r :: rs) = .ok es ↔
      ∃ x xs, r.read call command = .ok x ∧ readAll call command rs = .ok xs ∧
        (r.field, x) :: xs = es := by
  rw [readAll]
  cases r.read call command with
  | error e => simp
  | ok x => cases readAll call command rs <;> simp

/-- What can be read of a call is what it supplies for the parameters, if each may be supplied like
this. -/
theorem LaidOut.readAll_eq_ok_iff {index : Nat} {fs : List Field} {slots : List Slot}
    (h : LaidOut index fs slots) {call : Call} {command : String}
    {es : List (String × FieldValue)} :
    Binding.readAll call command (slots.map (·.reader)) = .ok es ↔
      (∀ m ∈ matchFrom index (slots.map (·.param)) call, m.1.accepts m.2 = true) ∧
        es = (matchFrom index (slots.map (·.param)) call).map fun m =>
          (m.1.name, m.1.valueOf m.2) := by
  induction h generalizing es with
  | nil => cases es <;> simp [Binding.readAll, matchFrom]
  | @cons index f k fs slots kind rest ih =>
      rw [List.map_cons, List.map_cons, matchFrom_cons, Field.slot_param_width,
        List.forall_mem_cons, List.map_cons, Field.slot_param_name, Binding.readAll_cons_eq_ok_iff,
        Field.slot_reader_field]
      simp only [Field.read_slot_eq_ok_iff, ih]
      constructor
      · rintro ⟨x, xs, ⟨accepted, rfl⟩, ⟨rest, rfl⟩, rfl⟩
        exact ⟨⟨accepted, rest⟩, rfl⟩
      · rintro ⟨⟨accepted, rest⟩, rfl⟩
        exact ⟨_, _, ⟨accepted, rfl⟩, ⟨rest, rfl⟩, rfl⟩

/-! ## What is read, the kind of value may hold -/

/-- What a parameter accepts, the field of the class that its reader fills may hold. -/
theorem Field.holds_valueOf {f : Field} {index : Nat} {k : ArgKind} {arg : Option Value}
    (h : (f.slot index k).param.accepts arg = true) :
    (ModelField.ofReader (f.slot index k).reader).Holds ((f.slot index k).param.valueOf arg) := by
  cases k with
  | required a =>
      cases arg with
      | none => cases h
      | some v => cases a <;> cases v <;> first | rfl | cases h
  | optional a =>
      cases arg with
      | none => rfl
      | some v => cases a <;> cases v <;> first | rfl | cases h
  | flag type =>
      cases type with
      | none =>
          cases arg with
          | none => rfl
          | some v => cases v <;> first | rfl | cases h
      | some a =>
          cases arg with
          | none => rfl
          | some v => cases a <;> cases v <;> first | rfl | cases h

theorem LaidOut.hold {index : Nat} {fs : List Field} {slots : List Slot}
    (h : LaidOut index fs slots) {call : Call}
    (accepted : ∀ m ∈ matchFrom index (slots.map (·.param)) call, m.1.accepts m.2 = true) :
    Hold (slots.map fun s => .ofReader s.reader)
      ((matchFrom index (slots.map (·.param)) call).map fun m => (m.1.name, m.1.valueOf m.2)) := by
  induction h with
  | nil => exact .nil
  | @cons index f k fs slots kind rest ih =>
      rw [List.map_cons, matchFrom_cons, Field.slot_param_width, List.forall_mem_cons] at accepted
      rw [List.map_cons, List.map_cons, matchFrom_cons, Field.slot_param_width, List.map_cons]
      refine .cons ⟨?_, Field.holds_valueOf accepted.1⟩ (ih accepted.2)
      rw [ModelField.ofReader_name, Field.slot_param_name, Field.slot_reader_field]

/-! ## Calls of a command -/

theorem Binding.bind_eq_ok_iff {b : Binding} {call : Call} {x : Command} :
    b.bind call = .ok x ↔
      ∃ es, readAll call b.command b.readers = .ok es ∧
        b.model.construct (entriesOf es) = .pass x := by
  unfold bind
  cases readAll call b.command b.readers with
  | error e => simp
  | ok es =>
      simp only [Except.ok.injEq, exists_eq_left']
      cases b.model.construct (entriesOf es) <;> simp

/-- A command that compiles binds the calls that conform to its signature, and no others. -/
theorem Variant.bind_eq_ok_iff {v : Variant} {position : Int} {c : CompiledCommand}
    (h : v.compile position = .ok c) {call : Call} {x : Command} :
    c.binding.bind call = .ok x ↔
      c.signature.Conforms call ∧
        x = ⟨c.binding.model.className, c.signature.name, c.signature.fieldsOf call⟩ := by
  have sound := sound_of_compile h
  obtain ⟨name, slots, -, hw, hl, rfl⟩ := exists_slots h
  have read {es : List (String × FieldValue)} :
      Binding.readAll call name (slots.map (·.reader)) = .ok es ↔
        (v.assemble name slots).signature.Conforms call ∧
          es = (v.assemble name slots).signature.fieldsOf call := hl.readAll_eq_ok_iff
  -- Whatever has been read, a value can be constructed from it.
  have built (conforms : (v.assemble name slots).signature.Conforms call) :
      (v.assemble name slots).binding.model.construct
          (Binding.entriesOf ((v.assemble name slots).signature.fieldsOf call)) =
        .pass ⟨(v.assemble name slots).binding.model.className, name,
          (v.assemble name slots).signature.fieldsOf call⟩ := by
    refine CommandModel.construct_of_hold sound ?_
    rw [assemble_fields name hw hl]
    exact hl.hold conforms
  rw [Binding.bind_eq_ok_iff]
  constructor
  · rintro ⟨es, hes, hx⟩
    obtain ⟨conforms, rfl⟩ := read.mp hes
    rw [built conforms] at hx
    cases hx
    exact ⟨conforms, rfl⟩
  · rintro ⟨conforms, rfl⟩
    exact ⟨_, read.mpr ⟨conforms, rfl⟩, built conforms⟩

/-- **The signature alone says which calls can be bound, and to what.** In a schema that compiles, a
call of a command becomes a command value exactly when it conforms to the command's signature, and
the value then has one field for each parameter, in order, as the call supplies it. -/
theorem CompiledSchema.parse_iff_conforms {s : Schema} {cs : CompiledSchema}
    (h : s.compile = .ok cs) {sig : Signature} (hs : sig ∈ cs.signatures) (call : Call) :
    ((∃ x, cs.parse sig.name call = .ok x) ↔ sig.Conforms call) ∧
      ∀ x, cs.parse sig.name call = .ok x →
        x.command = sig.name ∧ x.fields = sig.fieldsOf call := by
  obtain ⟨v, -, position, c, hc, rfl, hbinding⟩ := exists_command h hs
  rw [parse_eq_bind hbinding]
  constructor
  · constructor
    · rintro ⟨x, hx⟩
      exact ((Variant.bind_eq_ok_iff hc).mp hx).1
    · intro conforms
      exact ⟨_, (Variant.bind_eq_ok_iff hc).mpr ⟨conforms, rfl⟩⟩
  · intro x hx
    obtain ⟨-, rfl⟩ := (Variant.bind_eq_ok_iff hc).mp hx
    exact ⟨rfl, rfl⟩

theorem playSignature_predicts :
    ∃ cs, Schema.compile ⟨[playCommand]⟩ = .ok cs ∧ playSignature ∈ cs.signatures ∧
      (∃ x, cs.parse "play" ⟨[.str "Tosca", .null, .bool true], [("loud", .null)], none⟩ = .ok x ∧
        x.fields = [("song", .string "Tosca"), ("loud", .bool true), ("room", .absent),
          ("mode", .absent), ("again", .bool true)]) ∧
      ¬ ∃ x, cs.parse "play" ⟨[.null], [("loud", .null)], none⟩ = .ok x := by
  have compiles : Schema.compile ⟨[playCommand]⟩ = .ok _ := rfl
  have mem : playSignature ∈ [playSignature] := List.mem_singleton_self _
  have predicts := CompiledSchema.parse_iff_conforms compiles mem
  refine ⟨_, compiles, mem, ?_, ?_⟩
  · obtain ⟨accepts, fields⟩ :=
      predicts ⟨[.str "Tosca", .null, .bool true], [("loud", .null)], none⟩
    obtain ⟨x, hx⟩ := accepts.mpr (by decide)
    exact ⟨x, hx, (fields x hx).2⟩
  · exact mt (predicts ⟨[.null], [("loud", .null)], none⟩).1.mp (by decide)

end CommandCompiler
