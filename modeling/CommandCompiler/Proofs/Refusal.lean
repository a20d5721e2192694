import CommandCompiler.Proofs.Conformance
import CommandCompiler.Proofs.Literals
/-!
# CommandCompiler.Proofs.Refusal

**Which error a call gets that cannot be bound.** The parameters are looked at in
the order of the signature, and the first one that is not supplied as it may be
decides; whatever comes after it is not looked at.

* `FirstRefused` : the first such parameter;
* `Parameter.Blames` : the report that belongs to it, told by its role, its shape
  and the argument alone;
* `Parameter.refusal` : what its reader says (`Field.read_slot_of_refused`), which
  is this report (`Parameter.blames_refusal`) where there can be one: a report on a
  value shows it, so there is none where the value cannot be written out
  (`playSignature_unwritten`).

A call whose arguments can all be read is bound (`Variant.bind_eq_ok_iff`), so no
error ever comes from the construction of the value.
-/

namespace CommandCompiler

/-! ## Reports -/

/-- The headline of a report on a value that does not look like this. -/
def Shape.expectation : Shape → String
  | .string => "Expected a string"
  | .boolean => "Expected a boolean"

/-- How a report names the argument for a parameter. -/
def Parameter.argumentText (p : Parameter) : String :=
  match p.role with
  | .required | .optional => s!"positional argument '{p.name}'"
  | .switch => s!"switch '--{p.name}'"
  | .named => s!"flag '--{p.name}'"

/-- Whether a parameter must be supplied and is not: null counts as nothing. -/
def Parameter.Misses (p : Parameter) (arg : Option Value) : Prop :=
  p.role = .required ∧ (arg = none ∨ arg = some .null)

/-- The report on a call of a command in which a parameter is supplied as it may not be. The
parameter has `index` positional ones before it. -/
structure Parameter.Blames (p : Parameter) (command : String) (index : Nat) (arg : Option Value)
    (e : CallError) : Prop where
  kind_iff : e.fault.kind = .missingPositional ↔ p.Misses arg
  missing : p.Misses arg →
    e.fault.label = "Missing required positional argument" ∧
      e.fault.msg = s!"Command '{command}' expects '{p.name}' at position {index}."
  mismatch : ¬ p.Misses arg →
    e.fault.kind = .typeMismatch ∧ e.fault.label = p.shape.expectation ∧
      ∃ v shown, arg = some v ∧ v.display? = some shown ∧
        e.fault.msg = s!"Command '{command}' got {v.typeName} {shown} for {p.argumentText}."

/-- The first of several parameters that is not supplied as it may be, with those before it. -/
structure FirstRefused (ms before : List (Parameter × Option Value)) (p : Parameter)
    (arg : Option Value) : Prop where
  split : ∃ after, ms = before ++ (p, arg) :: after
  accepted : ∀ m ∈ before, m.1.accepts m.2 = true
  refused : p.accepts arg = false

/-- If not all parameters are supplied as they may be, there is a first one that is not. -/
theorem exists_firstRefused {ms : List (Parameter × Option Value)}
    (h : ¬ ∀ m ∈ ms, m.1.accepts m.2 = true) : ∃ before p arg, FirstRefused ms before p arg := by
  have found : (ms.find? fun m => !m.1.accepts m.2).isSome := by
    simpa [List.find?_isSome] using h
  obtain ⟨⟨p, arg⟩, hfind⟩ := Option.isSome_iff_exists.mp found
  obtain ⟨refused, before, after, rfl, accepted⟩ := List.find?_eq_some_iff_append.mp hfind
  exact ⟨before, p, arg, ⟨after, rfl⟩, by simpa using accepted, by simpa using refused⟩

/-! ## What a reader says -/

/-- The type of the arguments of a shape. -/
def Shape.argType : Shape → ArgType
  | .string => .string
  | .boolean => .bool

/-- Where the argument for a parameter stands. -/
def Parameter.place (p : Parameter) : ArgPlace :=
  match p.role with
  | .required | .optional => .positional p.name
  | .switch => .switch p.name
  | .named => .flag p.name

/-- What is said about a call that supplies a parameter as it may not be. -/
def Parameter.refusal (p : Parameter) (command : String) (index : Nat) (span : Option Span) :
    Option Value → ReadError
  | none | some .null => .call ⟨.missingPositional command p.name index, span⟩
  | some v =>
    match v.display? with
    | some shown => .call ⟨.typeMismatch command p.shape.argType v shown p.place, span⟩
    | none => .unwritten

theorem Parameter.place_text (p : Parameter) : p.place.text = p.argumentText := by
  unfold place argumentText
  cases p.role <;> rfl

/-- Only a required parameter is refused for want of a value. -/
theorem Parameter.misses_of_refused {p : Parameter} {arg : Option Value}
    (refused : p.accepts arg = false) (h : arg = none ∨ arg = some .null) : p.Misses arg := by
  refine ⟨?_, h⟩
  unfold accepts at refused
  rcases h with rfl | rfl <;> cases role : p.role <;> simp_all

/-- Where the argument can be shown, what is said is the report on the parameter. -/
theorem Parameter.blames_refusal {p : Parameter} {arg : Option Value}
    (refused : p.accepts arg = false) (writable : ∀ v ∈ arg, v.IsWritable) (command : String)
    (index : Nat) (span : Option Span) :
    ∃ e, p.refusal command index span arg = .call e ∧ p.Blames command index arg e ∧
      e.span = span := by
  have missing (h : arg = none ∨ arg = some .null) :
      p.Blames command index arg ⟨.missingPositional command p.name index, span⟩ := by
    have misses := misses_of_refused refused h
    exact ⟨iff_of_true rfl misses, fun _ => ⟨rfl, rfl⟩, fun not => absurd misses not⟩
  have mismatch (v : Value) (shown : String) (h : arg = some v) (null : v ≠ .null)
      (display : v.display? = some shown) :
      p.Blames command index arg
        ⟨.typeMismatch command p.shape.argType v shown p.place, span⟩ := by
    have supplied : ¬ p.Misses arg := by
      rintro ⟨-, absent | absent⟩ <;> simp_all
    refine ⟨iff_of_false nofun supplied, fun misses => absurd misses supplied,
      fun _ => ⟨rfl, ?_, v, shown, h, display, ?_⟩⟩
    · cases p.shape <;> rfl
    · rw [← place_text]
      rfl
  cases arg with
  | none => exact ⟨_, rfl, missing (.inl rfl), rfl⟩
  | some v =>
      by_cases null : v = .null
      · subst null
        exact ⟨_, rfl, missing (.inr rfl), rfl⟩
      · obtain ⟨shown, display⟩ := Value.exists_display?_iff.mpr (writable v rfl)
        refine ⟨_, ?_, mismatch v shown rfl null display, rfl⟩
        rw [refusal, display]
        exact null

/-- Where the argument cannot be shown, there is no report. -/
theorem Parameter.refusal_of_not_writable {v : Value} (h : ¬ v.IsWritable) (p : Parameter)
    (command : String) (index : Nat) (span : Option Span) :
    p.refusal command index span (some v) = .unwritten := by
  have display : v.display? = none := Value.display?_eq_none_iff.mpr h
  rw [refusal, display]
  rintro rfl
  cases display

theorem ArgType.argType_shape (a : ArgType) : a.shape.argType = a := by cases a <;> rfl

/-- A value that does not look like the argument type is refused. -/
theorem Reader.check_of_not_fits {call : Call} {command : String} {a : ArgType} {place : ArgPlace}
    {v : Value} (h : a.shape.fits v = false) :
    check call command a place v =
      .error (match v.display? with
        | some shown => .call ⟨.typeMismatch command a.shape.argType v shown place, call.head⟩
        | none => .unwritten) := by
  rw [check, ArgType.accept?_eq, h, ArgType.argType_shape]
  cases v.display? <;> rfl

/-- A field's reader refuses what the parameter of the field does not accept, and says why. -/
theorem Field.read_slot_of_refused {f : Field} {index : Nat} {k : ArgKind} {call : Call}
    {command : String}
    (h : (f.slot index k).param.accepts ((f.slot index k).param.argument? index call) = false) :
    (f.slot index k).reader.read call command =
      .error ((f.slot index k).param.refusal command index call.head
        ((f.slot index k).param.argument? index call)) := by
  cases k with
  | required a =>
      simp only [slot, Reader.read, Call.at?, Call.argument?_natCast, Parameter.argument?,
        ParamRole.isPositional, if_true] at h ⊢
      cases hv : call.positional[index]? with
      | none => rfl
      | some v =>
          rw [hv] at h
          cases v with
          | null => rfl
          | _ => exact Reader.check_of_not_fits h
  | optional a =>
      simp only [slot, Reader.read, Call.at?, Call.argument?_natCast, Parameter.argument?,
        ParamRole.isPositional, if_true] at h ⊢
      cases hv : call.positional[index]? with
      | none =>
          rw [hv] at h
          cases h
      | some v =>
          rw [hv] at h
          cases v with
          | null => cases h
          | _ => exact Reader.check_of_not_fits h
  | flag type =>
      cases type with
      | none | some a =>
          simp only [slot, Reader.read, Call.flag?, Parameter.argument?, ParamRole.isPositional,
            Bool.false_eq_true, if_false] at h ⊢
          cases hv : call.named.lookup f.name with
          | none =>
              rw [hv] at h
              cases h
          | some v =>
              rw [hv] at h
              cases v with
              | null => cases h
              | _ => exact Reader.check_of_not_fits h

/-! ## All parameters -/

/-- The first parameter that is refused decides what is said. -/
theorem LaidOut.readAll_of_firstRefused {index : Nat} {fs : List Field} {slots : List Slot}
    (h : LaidOut index fs slots) {call : Call} {command : String}
    {before : List (Parameter × Option Value)} {p : Parameter} {arg : Option Value}
    (first : FirstRefused (matchFrom index (slots.map (·.param)) call) before p arg) :
    Binding.readAll call command (slots.map (·.reader)) =
      .error (p.refusal command (index + before.countP (·.1.role.isPositional)) call.head
        arg) := by
  obtain ⟨⟨after, split⟩, accepted, refused⟩ := first
  induction h generalizing before with
  | nil => cases before <;> cases split
  | @cons index f k fs slots kind rest ih =>
      rw [List.map_cons, matchFrom_cons, Field.slot_param_width] at split
      rw [List.map_cons, Binding.readAll]
      cases before with
      | nil =>
          injection split with same _
          injection same with hp harg
          subst hp harg
          rw [Field.read_slot_of_refused refused]
          rfl
      | cons m before =>
          injection split with same split
          subst same
          rw [List.forall_mem_cons] at accepted
          rw [Field.read_slot_eq_ok_iff.mpr ⟨accepted.1, rfl⟩, ih accepted.2 split,
            List.countP_cons, Field.slot_param_width, Nat.add_assoc, Nat.add_comm k.width]

theorem Binding.bind_of_readAll {b : Binding} {call : Call} {e : ReadError}
    (h : readAll call b.command b.readers = .error e) : b.bind call = .error (.read e) := by
  rw [bind, h]

/-- A command that compiles refuses what does not conform to its signature for the first parameter
that is refused. -/
theorem Variant.bind_of_firstRefused {v : Variant} {position : Int} {c : CompiledCommand}
    (h : v.compile position = .ok c) {call : Call} {before : List (Parameter × Option Value)}
    {p : Parameter} {arg : Option Value}
    (first : FirstRefused (c.signature.matched call) before p arg) :
    c.binding.bind call =
      .error (.read (p.refusal c.signature.name (before.countP (·.1.role.isPositional)) call.head
        arg)) := by
  obtain ⟨name, slots, -, -, hl, rfl⟩ := exists_slots h
  have read : Binding.readAll call name (slots.map (·.reader)) = .error _ :=
    hl.readAll_of_firstRefused first
  rw [Nat.zero_add] at read
  exact Binding.bind_of_readAll read

/-- What a command that compiles does with a call: it binds what conforms to its signature, and
refuses anything else for the first parameter that is refused. -/
theorem Variant.bind_cases {v : Variant} {position : Int} {c : CompiledCommand}
    (h : v.compile position = .ok c) (call : Call) :
    (c.signature.Conforms call ∧
        c.binding.bind call =
          .ok ⟨c.binding.model.className, c.signature.name, c.signature.fieldsOf call⟩) ∨
      ∃ before p arg, FirstRefused (c.signature.matched call) before p arg ∧
        c.binding.bind call =
          .error (.read (p.refusal c.signature.name (before.countP (·.1.role.isPositional))
            call.head arg)) := by
  by_cases conforms : c.signature.Conforms call
  · exact .inl ⟨conforms, (bind_eq_ok_iff h).mpr ⟨conforms, rfl⟩⟩
  · obtain ⟨before, p, arg, first⟩ := exists_firstRefused conforms
    exact .inr ⟨before, p, arg, first, bind_of_firstRefused h first⟩

/-- **A call that cannot be bound is refused for the first parameter that it does not supply as it
may be**, in the order of the signature. It never fails later than in the reading of its arguments.
The report tells whether a required argument is missing, at which position, or which type was
expected of which argument, and it stands where the call stands. Only if a whole number in this
argument has more digits than are written, there is no report. -/
theorem CompiledSchema.parse_refused {s : Schema} {cs : CompiledSchema} (h : s.compile = .ok cs)
    {sig : Signature} (hs : sig ∈ cs.signatures) {call : Call}
    (refused : ∀ x, cs.parse sig.name call ≠ .ok x) :
    ∃ before p arg, FirstRefused (sig.matched call) before p arg ∧
      ((∀ v ∈ arg, v.IsWritable) →
        ∃ e, cs.parse sig.name call = .error (.call e) ∧
          p.Blames sig.name (before.countP (·.1.role.isPositional)) arg e ∧ e.span = call.head) ∧
      ((∃ v ∈ arg, ¬ v.IsWritable) → cs.parse sig.name call = .error (.read .unwritten)) := by
  obtain ⟨v, -, position, c, hc, rfl, hbinding⟩ := exists_command h hs
  rw [parse_eq_bind hbinding] at refused ⊢
  have violated : ¬ c.signature.Conforms call := fun conforms =>
    refused _ ((Variant.bind_eq_ok_iff hc).mpr ⟨conforms, rfl⟩)
  obtain ⟨before, p, arg, first⟩ := exists_firstRefused violated
  rw [Variant.bind_of_firstRefused hc first]
  refine ⟨before, p, arg, first, fun writable => ?_, ?_⟩
  · obtain ⟨e, said, blames, span⟩ := Parameter.blames_refusal first.refused writable
      c.signature.name (before.countP (·.1.role.isPositional)) call.head
    exact ⟨e, by rw [said], blames, span⟩
  · rintro ⟨v, rfl, unwritten⟩
    rw [Parameter.refusal_of_not_writable unwritten]

/-- The first of two arguments that are refused is reported. -/
theorem playSignature_refuses :
    ∃ cs, Schema.compile ⟨[playCommand]⟩ = .ok cs ∧ playSignature ∈ cs.signatures ∧
      (∀ x, cs.parse "play" ⟨[.str "Tosca", .int 3], [("loud", .str "yes")], some ⟨0, 4⟩⟩ ≠
        .ok x) ∧
      ∃ e, cs.parse "play" ⟨[.str "Tosca", .int 3], [("loud", .str "yes")], some ⟨0, 4⟩⟩ =
          .error (.call e) ∧
        e.labeled = ⟨"Expected a boolean",
          "Command 'play' got str 'yes' for switch '--loud'.", some ⟨0, 4⟩⟩ := by
  have compiles : Schema.compile ⟨[playCommand]⟩ = .ok _ := rfl
  have mem : playSignature ∈ [playSignature] := List.mem_singleton_self _
  refine ⟨_, compiles, mem, nofun, ?_⟩
  obtain ⟨before, p, arg, first, reported, unreported⟩ :=
    @CompiledSchema.parse_refused _ _ compiles _ mem
      ⟨[.str "Tosca", .int 3], [("loud", .str "yes")], some ⟨0, 4⟩⟩ nofun
  by_cases writable : ∀ v ∈ arg, v.IsWritable
  · obtain ⟨e, he, -⟩ := reported writable
    refine ⟨e, he, ?_⟩
    cases he
    decide +kernel
  · simp only [not_forall, exists_prop] at writable
    cases unreported writable

/-- A number that is too long to be written out is refused where a text is required. -/
theorem playSignature_refuses_long {n : Int} (long : ¬ (Value.int n).IsWritable) :
    ∃ cs, Schema.compile ⟨[playCommand]⟩ = .ok cs ∧ playSignature ∈ cs.signatures ∧
      cs.parse "play" ⟨[.int n], [], none⟩ = .error (.read .unwritten) := by
  have compiles : Schema.compile ⟨[playCommand]⟩ = .ok _ := rfl
  have mem : playSignature ∈ [playSignature] := List.mem_singleton_self _
  have read : Reader.read (.requiredPositional "song" 0 .string) ⟨[.int n], [], none⟩ "play" =
      .error .unwritten := by
    show (match Value.display? (.int n) with | some _ => _ | none => _) = _
    rw [Value.display?_eq_none_iff.mpr long]
  refine ⟨_, compiles, mem, ?_⟩
  refine (CompiledSchema.parse_eq_bind rfl _).trans (Binding.bind_of_readAll ?_)
  show Binding.readAll _ "play" (.requiredPositional "song" 0 .string :: _) = _
  rw [Binding.readAll, read]

/-- **Not every call that cannot be bound gets a report**: this one gets neither a command value nor
a report. -/
theorem playSignature_unwritten :
    ∃ cs, Schema.compile ⟨[playCommand]⟩ = .ok cs ∧ playSignature ∈ cs.signatures ∧
      (∀ x, cs.parse "play" ⟨[.int (10 ^ 4300 : Nat)], [], none⟩ ≠ .ok x) ∧
      ∀ e, cs.parse "play" ⟨[.int (10 ^ 4300 : Nat)], [], none⟩ ≠ .error (.call e) := by
  have long : ¬ (Value.int (10 ^ 4300 : Nat)).IsWritable := by
    rw [Value.isWritable_int, Int.natAbs_natCast, Decimal.Numeral.mostDigits]
    exact Nat.lt_irrefl _
  obtain ⟨cs, compiles, mem, parse⟩ := playSignature_refuses_long long
  refine ⟨cs, compiles, mem, ?_⟩
  rw [parse]
  exact ⟨nofun, nofun⟩

end CommandCompiler
