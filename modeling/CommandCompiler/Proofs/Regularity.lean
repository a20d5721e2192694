import CommandCompiler.Proofs.Dispatch
import CommandCompiler.Proofs.Alignment
/-!
# CommandCompiler.Proofs.Regularity

**What the host may rely on in a signature**, whatever roles the fields of the
command have, in whatever number and order. `Signature.Regular` says it in terms
of the signature alone.

All of it is read off the slots of the command. A parameter has its role from the
strongest role of its field (`Field.HasKind.slot_role_iff`) and its short name
from the field as it is (`Field.HasKind.slot_short`): a field that is not a flag
has no short name, so that none is dropped on the way. The fields of a command
that compiles are in order, and with them the parameters.
-/

namespace CommandCompiler

/-- A signature that the host can rely on. -/
structure Signature.Regular (s : Signature) : Prop where
  /-- No required parameter comes after one that is not. -/
  ordered : s.params.Pairwise fun p q => q.role = .required → p.role = .required
  requiredFirst : s.params = s.requiredPositional ++ s.params.filter (·.role != .required)
  /-- Every parameter is in one of the three groups, and in each they keep their order. -/
  grouped : (s.requiredPositional ++ s.optionalPositional ++ s.flags).Perm s.params
  inOrder : s.requiredPositional.Sublist s.params ∧ s.optionalPositional.Sublist s.params ∧
    s.flags.Sublist s.params
  distinct : (s.params.map (·.name)).Nodup
  switches : ∀ p ∈ s.params, p.role = .switch → p.shape = .boolean
  shorts : ∀ p ∈ s.params, ∀ short, p.short = some short →
    (p.role = .switch ∨ p.role = .named) ∧ ∃ c : Char, c.isAlphanum ∧ short.toList = [c]
  shortsDistinct : (s.params.filterMap (·.short)).Nodup

/-! ## Groups -/

/-- Where no item of a kind comes after one of another kind, those of the kind are the first. -/
theorem eq_filter_append_filter {α : Type} {kind : α → Bool} {as : List α}
    (h : as.Pairwise fun a b => kind b = true → kind a = true) :
    as = as.filter kind ++ as.filter fun a => !kind a := by
  induction as with
  | nil => rfl
  | cons a as ih =>
      rw [List.pairwise_cons] at h
      by_cases ha : kind a = true
      · simpa [ha] using ih h.2
      · have none : ∀ b ∈ as, ¬ kind b = true := by
          intro b hb hkind
          exact ha (h.1 b hb hkind)
        have others : ∀ b ∈ as, (!kind b) = true := by
          intro b hb
          simpa using none b hb
        simp [ha, List.filter_eq_nil_iff.mpr none, List.filter_eq_self.mpr others]

/-- What is not required is optional or a flag. -/
theorem Signature.perm_groups (s : Signature) :
    (s.requiredPositional ++ s.optionalPositional ++ s.flags).Perm s.params := by
  have others : (s.optionalPositional ++ s.flags).Perm
      (s.params.filter fun p => !(p.role == .required)) := by
    have optional : s.optionalPositional =
        (s.params.filter fun p => !(p.role == .required)).filter (·.role == .optional) := by
      rw [List.filter_filter, optionalPositional]
      exact List.filter_congr fun p _ => by cases p.role <;> rfl
    have flags : s.flags =
        (s.params.filter fun p => !(p.role == .required)).filter fun p =>
          !(p.role == .optional) := by
      rw [List.filter_filter, Signature.flags]
      exact List.filter_congr fun p _ => by cases p.role <;> rfl
    rw [optional, flags]
    exact List.filter_append_perm _ _
  rw [List.append_assoc]
  exact (others.append_left _).trans (List.filter_append_perm _ _)

/-! ## Parameters and their fields -/

namespace Field.HasKind

variable {f : Field} {k : ArgKind}

/-- The parameter of a field is required exactly if the field is. -/
theorem slot_role_iff (h : f.HasKind k) (index : Nat) :
    (f.slot index k).param.role = .required ↔ f.IsRequired := by
  rw [h.isRequired_iff]
  cases k with
  | required a | optional a => simp [slot]
  | flag type => cases type <;> simp [slot]

/-- A field whose strongest role is that of a flag is a switch or has a named value. -/
theorem slot_role_of_flag (h : f.HasKind k) (flag : Role.flag.IsStrongest f.roles) (index : Nat) :
    (f.slot index k).param.role = .switch ∨ (f.slot index k).param.role = .named := by
  obtain ⟨r, hr, hm⟩ := h
  obtain rfl := hr.unique flag
  generalize f.type = t at hm
  cases hm with
  | switch => exact .inl rfl
  | named a => exact .inr rfl

/-- The short name of a field reaches the host, if the field may have it at all. -/
theorem slot_short (h : f.HasKind k)
    (form : ∀ short, f.short = some short → f.HasShortForm short) (index : Nat) :
    (f.slot index k).param.short = f.short := by
  cases hs : f.short with
  | none =>
      cases k with
      | required a | optional a => rfl
      | flag type => cases type <;> exact hs
  | some short =>
      -- Only a flag has a short name, and the slot of a flag keeps it.
      have role := h.slot_role_of_flag (form short hs).1 index
      cases k with
      | required a | optional a => simp [slot] at role
      | flag type => cases type <;> exact hs

end Field.HasKind

/-- A switch carries no value but whether it is there. -/
theorem Field.slot_shape_of_switch {f : Field} {index : Nat} {k : ArgKind}
    (h : (f.slot index k).param.role = .switch) : (f.slot index k).param.shape = .boolean := by
  cases k with
  | required a | optional a => simp [slot] at h
  | flag type =>
      cases type with
      | none => rfl
      | some a => simp [slot] at h

/-! ## Signatures of commands that compile -/

/-- The signature of a command that compiles is regular. -/
theorem Variant.regular_of_compile {v : Variant} {position : Int} {c : CompiledCommand}
    (h : v.compile position = .ok c) : c.signature.Regular := by
  obtain ⟨distinct, names, -⟩ := names_of_compile h
  obtain ⟨name, slots, -, hw, hl, rfl⟩ := exists_slots h
  have ordered : (slots.map (·.param)).Pairwise fun p q =>
      q.role = .required → p.role = .required := by
    have roles : slots.map (·.param.role = .required) = v.fields.map (·.IsRequired) :=
      hl.map_eq fun f _ index k hk => propext (hk.slot_role_iff index)
    have fields : (v.fields.map (·.IsRequired)).Pairwise fun P Q => Q → P :=
      List.pairwise_map.mpr hw.ordered
    rw [← roles, List.pairwise_map] at fields
    exact List.pairwise_map.mpr fields
  have shorts : slots.map (·.param.short) = v.fields.map (·.short) :=
    hl.map_eq fun f hf index k hk => hk.slot_short (hw.shorts f hf) index
  constructor
  case ordered => exact ordered
  case requiredFirst => exact eq_filter_append_filter (ordered.imp fun hpq => by simpa using hpq)
  case grouped => exact Signature.perm_groups _
  case inOrder => exact ⟨List.filter_sublist, List.filter_sublist, List.filter_sublist⟩
  case distinct => exact names ▸ distinct
  case switches =>
    intro p hp hrole
    obtain ⟨s, hs, rfl⟩ := List.mem_map.mp hp
    obtain ⟨f, -, index, k, -, rfl⟩ := hl.exists_of_mem hs
    exact Field.slot_shape_of_switch hrole
  case shorts =>
    intro p hp short hshort
    obtain ⟨s, hs, rfl⟩ := List.mem_map.mp hp
    obtain ⟨f, hf, index, k, hk, rfl⟩ := hl.exists_of_mem hs
    rw [hk.slot_short (hw.shorts f hf)] at hshort
    obtain ⟨flag, form⟩ := hw.shorts f hf short hshort
    exact ⟨hk.slot_role_of_flag flag index, form⟩
  case shortsDistinct =>
    have same : (slots.map (·.param)).filterMap (·.short) = v.fields.filterMap (·.short) := calc
      _ = (slots.map (·.param.short)).filterMap id := by simp [List.filterMap_map]
      _ = (v.fields.map (·.short)).filterMap id := by rw [shorts]
      _ = v.fields.filterMap (·.short) := by simp [List.filterMap_map]
    show ((slots.map (·.param)).filterMap (·.short)).Nodup
    exact same ▸ hw.shortsDistinct

/-- **The host can rely on every signature of a schema that compiles.** The required parameters come
first, the three groups of parameters make up all of them in their order, names and short names are
distinct, switches are boolean, and only flags have short names, each of one ASCII letter or
digit. -/
theorem CompiledSchema.regular_of_mem_signatures {s : Schema} {cs : CompiledSchema}
    (h : s.compile = .ok cs) {sig : Signature} (hs : sig ∈ cs.signatures) : sig.Regular := by
  obtain ⟨v, -, position, c, hc, rfl, -⟩ := exists_command h hs
  exact Variant.regular_of_compile hc

theorem playSignature_regular :
    ∃ cs, Schema.compile ⟨[playCommand]⟩ = .ok cs ∧ playSignature ∈ cs.signatures ∧
      playSignature.Regular := by
  have compiles : Schema.compile ⟨[playCommand]⟩ = .ok _ := rfl
  have mem : playSignature ∈ [playSignature] := List.mem_singleton_self _
  exact ⟨_, compiles, mem, CompiledSchema.regular_of_mem_signatures compiles mem⟩

end CommandCompiler
