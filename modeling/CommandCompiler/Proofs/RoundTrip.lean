import CommandCompiler.Proofs.Conformance
import Mathlib.Data.List.DropRight
/-!
# CommandCompiler.Proofs.RoundTrip

**A command value can be laid out as a call that gives it back.** There are two
such calls, and others between them:

* `Signature.layout` : every parameter is supplied, with null where the value
  holds nothing;
* `Signature.shortLayout` : what may be left out is left out.

Both are cases of `Signature.callOf`, which supplies some positional and some
named parameters. What matters is `Signature.Supplies`: a parameter that is not
supplied must be one that the value leaves unset. Then every parameter carries
what the value holds (`Signature.Supplies.carriedBy`), and a call that does so
is bound to the value (`Variant.bind_eq_ok_of_carriedBy`).
-/

namespace CommandCompiler

/-! ## Layouts -/

/-- What a command value holds in the field of a name. -/
def Command.get (c : Command) (name : String) : FieldValue := (c.fields.lookup name).getD .absent

/-- Whether a command value holds for a parameter what it holds without an argument: false for a
switch, and nothing for any other. -/
def Command.leavesUnset (c : Command) (p : Parameter) : Bool :=
  match p.role with
  | .switch => c.get p.name == .bool false
  | _ => c.get p.name == .absent

namespace Signature

/-- The parameters that a call may supply by place. -/
def positionalParams (s : Signature) : List Parameter := s.params.filter (·.role.isPositional)

/-- The call that supplies these parameters from a command value. -/
def callOf (positional named : List Parameter) (c : Command) (head : Option Span) : Call :=
  { positional := positional.map fun p => (c.get p.name).toValue
    named := named.map fun p => (p.name, (c.get p.name).toValue)
    head }

/-- A command value as a call that supplies every parameter. -/
def layout (s : Signature) (c : Command) (head : Option Span) : Call :=
  callOf s.positionalParams s.flags c head

/-- A command value as a call that leaves out the positional parameters that are unset at the end,
and the flags that are unset. -/
def shortLayout (s : Signature) (c : Command) (head : Option Span) : Call :=
  callOf (s.positionalParams.rdropWhile c.leavesUnset) (s.flags.filter (!c.leavesUnset ·)) c head

end Signature

/-! ## What is supplied -/

/-- Whether an argument stands for what a command value holds for a parameter: it is that, or it is
missing and the parameter is unset. -/
def Command.CarriedBy (c : Command) (p : Parameter) (arg : Option Value) : Prop :=
  arg = some (c.get p.name).toValue ∨ arg = none ∧ c.leavesUnset p = true

/-- The elements of a kind come in a filtered list at the number of such elements before. -/
theorem getElem?_filter_countP {α : Type} {q : α → Bool} {as : List α} {j : Nat} {a : α}
    (ha : as[j]? = some a) (hq : q a = true) :
    (as.filter q)[(as.take j).countP q]? = some a := by
  induction as generalizing j with
  | nil => cases ha
  | cons b as ih =>
      cases j with
      | zero =>
          obtain rfl : b = a := by simpa using ha
          simp [hq]
      | succ j =>
          have ha : as[j]? = some a := by simpa using ha
          cases hb : q b with
          | true => simpa [hb] using ih ha
          | false => simpa [hb] using ih ha

/-- What was at a position is still there when something is dropped at the end, unless it was
dropped itself. -/
theorem getElem?_rdropWhile {α : Type} {q : α → Bool} {as : List α} {j : Nat} {a : α}
    (ha : as[j]? = some a) :
    (as.rdropWhile q)[j]? = some a ∨ (as.rdropWhile q)[j]? = none ∧ q a = true := by
  induction as using List.reverseRecOn with
  | nil => cases ha
  | append_singleton as b ih =>
      rw [List.rdropWhile_concat]
      split
      · rename_i hb
        rcases Nat.lt_or_ge j as.length with hj | hj
        · exact ih (by rwa [List.getElem?_append_left hj] at ha)
        · rw [List.getElem?_append_right hj] at ha
          obtain rfl : a = b := List.mem_singleton.mp (List.mem_of_getElem? ha)
          have short := (List.rdropWhile_prefix q (l := as)).length_le
          exact .inr ⟨List.getElem?_eq_none (Nat.le_trans short hj), hb⟩
      · exact .inl ha

namespace Signature

/-- Whether it is enough to supply these parameters of a command value: the positional ones stand
at their positions, and those that are not supplied are unset. -/
structure Supplies (s : Signature) (c : Command) (positional named : List Parameter) : Prop where
  byPlace : ∀ j p, s.params[j]? = some p → p.role.isPositional = true →
    let i := (s.params.take j).countP (·.role.isPositional)
    positional[i]? = some p ∨ positional[i]? = none ∧ c.leavesUnset p = true
  byName : ∀ p ∈ s.params, p.role.isPositional = false → p ∈ named ∨ c.leavesUnset p = true
  sublist : named.Sublist s.params

theorem carriedBy_getElem? {positional : List Parameter} {c : Command} {p : Parameter} {i : Nat}
    (h : positional[i]? = some p ∨ positional[i]? = none ∧ c.leavesUnset p = true) :
    c.CarriedBy p (positional.map fun p => (c.get p.name).toValue)[i]? := by
  rw [List.getElem?_map]
  rcases h with there | ⟨missing, unset⟩
  · rw [there]
    exact .inl rfl
  · rw [missing]
    exact .inr ⟨rfl, unset⟩

theorem carriedBy_lookup {params named : List Parameter} {c : Command} {p : Parameter}
    (distinct : (params.map (·.name)).Nodup) (sublist : named.Sublist params) (hp : p ∈ params)
    (h : p ∈ named ∨ c.leavesUnset p = true) :
    c.CarriedBy p ((named.map fun p => (p.name, (c.get p.name).toValue)).lookup p.name) := by
  by_cases hnamed : p ∈ named
  · have keys : ((named.map fun p => (p.name, (c.get p.name).toValue)).map (·.1)).Nodup := by
      simpa [Function.comp_def] using distinct.sublist (sublist.map (·.name))
    exact .inl (lookup_of_mem keys (List.mem_map.mpr ⟨p, hnamed, rfl⟩))
  · refine .inr ⟨?_, h.resolve_left hnamed⟩
    rw [List.lookup_eq_none_iff]
    intro e he
    obtain ⟨q, hq, rfl⟩ := List.mem_map.mp he
    rw [bne_iff_ne]
    -- Another parameter of the same name would be this one.
    intro heq
    exact hnamed (List.inj_on_of_nodup_map distinct hp (sublist.subset hq) heq ▸ hq)

/-- A call that supplies enough of a command value carries all of it. -/
theorem Supplies.carriedBy {s : Signature} {c : Command} {positional named : List Parameter}
    (h : s.Supplies c positional named) (distinct : (s.params.map (·.name)).Nodup)
    {head : Option Span} {m : Parameter × Option Value}
    (hm : m ∈ s.matched (callOf positional named c head)) : c.CarriedBy m.1 m.2 := by
  obtain ⟨j, hj, rfl⟩ := List.mem_mapIdx.mp hm
  have hp : s.params[j]? = some s.params[j] := List.getElem?_eq_getElem hj
  rw [Nat.zero_add]
  unfold Parameter.argument?
  cases hrole : s.params[j].role.isPositional with
  | true => exact carriedBy_getElem? (h.byPlace j _ hp hrole)
  | false =>
      have mem := List.getElem_mem hj
      exact carriedBy_lookup distinct h.sublist mem (h.byName _ mem hrole)

/-- It is enough to supply everything. -/
theorem supplies_all (s : Signature) (c : Command) :
    s.Supplies c s.positionalParams s.flags where
  byPlace j p hp hrole := .inl (getElem?_filter_countP hp hrole)
  byName p hp hrole := .inl (List.mem_filter.mpr ⟨hp, by simp [hrole]⟩)
  sublist := List.filter_sublist

/-- It is enough to supply what is set, and what stands before it. -/
theorem supplies_short (s : Signature) (c : Command) :
    s.Supplies c (s.positionalParams.rdropWhile c.leavesUnset)
      (s.flags.filter (!c.leavesUnset ·)) where
  byPlace j p hp hrole := getElem?_rdropWhile (getElem?_filter_countP hp hrole)
  -- A flag that is not supplied has been filtered out, and only those that are unset are.
  byName p hp hrole := by
    cases unset : c.leavesUnset p with
    | true => exact .inr rfl
    | false =>
        have flag : p ∈ s.flags := List.mem_filter.mpr ⟨hp, by simp [hrole]⟩
        exact .inl (List.mem_filter.mpr ⟨flag, by simp [unset]⟩)
  sublist := List.filter_sublist.trans List.filter_sublist

end Signature

/-! ## What is carried is read back -/

/-- An argument that stands for what the field of a slot may hold is accepted, and gives just
this. -/
theorem Field.accepts_of_carriedBy {f : Field} {index : Nat} {k : ArgKind} {c : Command}
    {arg : Option Value} (carried : c.CarriedBy (f.slot index k).param arg)
    (holds : (ModelField.ofReader (f.slot index k).reader).Holds (c.get f.name)) :
    (f.slot index k).param.accepts arg = true ∧
      (f.slot index k).param.valueOf arg = c.get f.name := by
  unfold Command.CarriedBy Command.leavesUnset at carried
  rw [Field.slot_param_name] at carried
  generalize c.get f.name = x at carried holds ⊢
  -- Given a value, its type must be right; given none, the value must be what is assumed then.
  rcases carried with rfl | ⟨rfl, unset⟩
  · cases k with
    | required a | optional a =>
        cases a <;> cases x <;> first | exact ⟨rfl, rfl⟩ | cases holds
    | flag type =>
        cases type with
        | none => cases x <;> first | exact ⟨rfl, rfl⟩ | cases holds
        | some a => cases a <;> cases x <;> first | exact ⟨rfl, rfl⟩ | cases holds
  · cases k with
    | required a =>
        obtain rfl : x = .absent := beq_iff_eq.mp unset
        cases holds
    | optional a =>
        obtain rfl : x = .absent := beq_iff_eq.mp unset
        exact ⟨rfl, rfl⟩
    | flag type =>
        cases type with
        | none =>
            obtain rfl : x = .bool false := beq_iff_eq.mp unset
            exact ⟨rfl, rfl⟩
        | some a =>
            obtain rfl : x = .absent := beq_iff_eq.mp unset
            exact ⟨rfl, rfl⟩

/-- Where the names of the fields are distinct, each field is found under its name. -/
theorem Command.get_of_mem {c : Command} (distinct : (c.fields.map (·.1)).Nodup)
    {e : String × FieldValue} (he : e ∈ c.fields) : c.get e.1 = e.2 := by
  rw [get, lookup_of_mem distinct he, Option.getD_some]

theorem Command.fields_eq {c : Command} (distinct : (c.fields.map (·.1)).Nodup) :
    c.fields = (c.fields.map (·.1)).map fun name => (name, c.get name) := by
  rw [List.map_map]
  conv_lhs => rw [← List.map_id c.fields]
  refine List.map_congr_left fun e he => ?_
  rw [id, Function.comp_apply, get_of_mem distinct he]

/-- A value of a kind holds in each field what the field may hold. -/
theorem CommandModel.Inhabits.holds_get {m : CommandModel} {c : Command} (h : m.Inhabits c)
    (distinct : (m.fields.map (·.name)).Nodup) {f : ModelField} (hf : f ∈ m.fields) :
    f.Holds (c.get f.name) := by
  obtain ⟨i, hi, rfl⟩ := List.mem_iff_getElem.mp hf
  have hj : i < c.fields.length := h.fields.length_eq ▸ hi
  obtain ⟨name, holds⟩ := h.fields.get hi hj
  have keys : (c.fields.map (·.1)).Nodup := h.fields.map_fst ▸ distinct
  rw [List.get_eq_getElem, List.get_eq_getElem] at name
  rw [← name, Command.get_of_mem keys (List.getElem_mem hj)]
  exact holds

/-- Matching keeps the parameters in their order. -/
theorem Signature.matched_map_fst (s : Signature) (call : Call) :
    (s.matched call).map (·.1) = s.params := by
  refine List.ext_getElem (by simp [matched, matchFrom]) fun j _ _ => ?_
  simp [matched, matchFrom]

/-- Where a call carries a value of the kind of a compiled command, the parameter accepts what it
gets, and gives what the value holds. -/
theorem Variant.accepts_of_carriedBy {v : Variant} {position : Int} {cmd : CompiledCommand}
    (h : v.compile position = .ok cmd) {c : Command} (hc : cmd.binding.model.Inhabits c)
    {call : Call} {m : Parameter × Option Value} (hm : m ∈ cmd.signature.matched call)
    (carried : c.CarriedBy m.1 m.2) :
    m.1.accepts m.2 = true ∧ m.1.valueOf m.2 = c.get m.1.name := by
  have sound := sound_of_compile h
  have hp : m.1 ∈ cmd.signature.params := by
    rw [← Signature.matched_map_fst _ call]
    exact List.mem_map_of_mem hm
  obtain ⟨name, slots, -, hw, hl, rfl⟩ := exists_slots h
  obtain ⟨s, hs, heq⟩ := List.mem_map.mp hp
  obtain ⟨f, -, i, k, -, rfl⟩ := hl.exists_of_mem hs
  -- The parameter and the field of the class belong to the same slot.
  have hf : ModelField.ofReader (f.slot i k).reader ∈
      (v.assemble name slots).binding.model.fields := by
    rw [assemble_fields name hw hl]
    exact List.mem_map.mpr ⟨_, hs, rfl⟩
  have holds := hc.holds_get sound.distinct hf
  rw [ModelField.ofReader_name, Field.slot_reader_field] at holds
  rw [← heq] at carried ⊢
  rw [Field.slot_param_name]
  exact Field.accepts_of_carriedBy carried holds

/-- A command that compiles binds every call that carries a value of its kind, to this value. -/
theorem Variant.bind_eq_ok_of_carriedBy {v : Variant} {position : Int} {cmd : CompiledCommand}
    (h : v.compile position = .ok cmd) {c : Command} (hc : cmd.binding.model.Inhabits c)
    {call : Call} (carried : ∀ m ∈ cmd.signature.matched call, c.CarriedBy m.1 m.2) :
    cmd.binding.bind call = .ok c := by
  have read : ∀ m ∈ cmd.signature.matched call,
      m.1.accepts m.2 = true ∧ m.1.valueOf m.2 = c.get m.1.name :=
    fun m hm => accepts_of_carriedBy h hc hm (carried m hm)
  obtain ⟨distinct, paramNames, fieldNames⟩ := names_of_compile h
  have names : c.fields.map (·.1) = cmd.signature.params.map (·.name) := by
    rw [hc.fields.map_fst, fieldNames, paramNames]
  rw [← paramNames, ← names] at distinct
  have fields : cmd.signature.fieldsOf call = c.fields := by
    rw [Command.fields_eq distinct, names, ← Signature.matched_map_fst _ call, List.map_map,
      List.map_map, Signature.fieldsOf]
    exact List.map_congr_left fun m hm => by simp [(read m hm).2]
  have command : cmd.signature.name = cmd.binding.model.command := by
    obtain ⟨name, slots, -, -, -, rfl⟩ := exists_slots h
    rfl
  rw [bind_eq_ok_iff h, fields, command, ← hc.className, ← hc.command]
  exact ⟨fun m hm => (read m hm).1, rfl⟩

/-- **Every command value is laid out as calls that give it back.** In a schema that compiles, each
command has a kind of value; any value of the kind that can be constructed, from whatever is given,
is what both of its layouts stand for. -/
theorem CompiledSchema.parse_layout {s : Schema} {cs : CompiledSchema} (h : s.compile = .ok cs)
    {sig : Signature} (hs : sig ∈ cs.signatures) :
    ∃ m, cs.commandType? sig.name = some m ∧
      ∀ c, (∃ entries, m.construct entries = .pass c) → ∀ head,
        cs.parse sig.name (sig.layout c head) = .ok c ∧
          cs.parse sig.name (sig.shortLayout c head) = .ok c := by
  obtain ⟨v, -, position, cmd, hcmd, rfl, hbinding⟩ := exists_command h hs
  refine ⟨cmd.binding.model, by rw [commandType?, hbinding]; rfl, fun c hc head => ?_⟩
  have inhabits := (CommandModel.exists_construct_iff (Variant.sound_of_compile hcmd)).mp hc
  obtain ⟨distinct, paramNames, -⟩ := Variant.names_of_compile hcmd
  rw [← paramNames] at distinct
  rw [parse_eq_bind hbinding, parse_eq_bind hbinding]
  exact ⟨Variant.bind_eq_ok_of_carriedBy hcmd inhabits fun m hm =>
      (cmd.signature.supplies_all c).carriedBy distinct hm,
    Variant.bind_eq_ok_of_carriedBy hcmd inhabits fun m hm =>
      (cmd.signature.supplies_short c).carriedBy distinct hm⟩

theorem playSignature_lays_out :
    ∃ cs m c, Schema.compile ⟨[playCommand]⟩ = .ok cs ∧ playSignature ∈ cs.signatures ∧
      cs.commandType? "play" = some m ∧
      m.construct [(.str "again", .bool false), (.str "song", .str "Tosca")] = .pass c ∧
      cs.parse "play" ⟨[.str "Tosca", .null, .bool false], [("loud", .bool false), ("mode", .null)],
        none⟩ = .ok c ∧
      cs.parse "play" ⟨[.str "Tosca", .null, .bool false], [], none⟩ = .ok c := by
  have compiles : Schema.compile ⟨[playCommand]⟩ = .ok _ := rfl
  have mem : playSignature ∈ [playSignature] := List.mem_singleton_self _
  obtain ⟨m, hm, laidOut⟩ := CompiledSchema.parse_layout compiles mem
  cases hm
  have built := laidOut _ ⟨[(.str "again", .bool false), (.str "song", .str "Tosca")], rfl⟩ none
  exact ⟨_, _, _, compiles, mem, rfl, rfl, built.1, built.2⟩

end CommandCompiler
