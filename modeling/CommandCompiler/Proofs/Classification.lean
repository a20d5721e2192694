import CommandCompiler.SchemaError
/-!
# CommandCompiler.Proofs.Classification

**The table of roles and types.** A field is an argument of some kind exactly
when the strongest of its roles and its declared type stand in one row of a
table:

* `Role.IsStrongest` : the role that counts among several, by `Role.strength`;
* `Role.Makes` : the rows of the table;
* `Field.HasKind` : a field and its row;
* `Field.IsInvalid` : a field that is in no row, and the category of its error.

`Field.classify_eq_ok_iff` says that classifying a field reads this table, for
every list of roles and every type tree. `Field.classify_iff` says the same in
terms of which roles are given, and which error there is for a field without a
row: it depends on whether there is a role at all, then on the type
(`Field.kind_of_classify`).
-/

namespace CommandCompiler

/-! ## The strongest role -/

/-- How strong a role is. -/
def Role.strength : Role → Nat
  | required => 2
  | optional => 1
  | flag => 0

/-- Whether a role is among some roles, and none of them is stronger. -/
def Role.IsStrongest (r : Role) (roles : List Role) : Prop :=
  r ∈ roles ∧ ∀ s ∈ roles, s.strength ≤ r.strength

instance (r : Role) (roles : List Role) : Decidable (r.IsStrongest roles) :=
  inferInstanceAs (Decidable (_ ∧ _))

theorem Role.strength_injective {r s : Role} (h : r.strength = s.strength) : r = s := by
  cases r <;> cases s <;> simp [strength] at h <;> rfl

/-- Among some roles at most one is the strongest. -/
theorem Role.IsStrongest.unique {r s : Role} {roles : List Role} (hr : r.IsStrongest roles)
    (hs : s.IsStrongest roles) : r = s :=
  strength_injective (Nat.le_antisymm (hs.2 r hr.1) (hr.2 s hs.1))

/-- The effective role as a chain of questions. -/
theorem Role.effective?_eq (roles : List Role) :
    effective? roles =
      if required ∈ roles then some required
      else if optional ∈ roles then some optional
      else if flag ∈ roles then some flag
      else none := by
  by_cases hr : required ∈ roles <;> by_cases ho : optional ∈ roles <;>
    by_cases hf : flag ∈ roles <;> simp [effective?, precedence, hr, ho, hf]

/-- The effective role is the strongest one, in whatever order and however often the roles are
given. -/
theorem Role.effective?_eq_some_iff {roles : List Role} {r : Role} :
    effective? roles = some r ↔ r.IsStrongest roles := by
  have strongest {s : Role} (h : effective? roles = some s) : s.IsStrongest roles := by
    refine ⟨effective?_mem h, fun t ht => ?_⟩
    rw [effective?_eq] at h
    cases s <;> cases t <;> grind [strength]
  refine ⟨strongest, fun h => ?_⟩
  cases he : effective? roles with
  | none =>
      rw [effective?_eq_none_iff] at he
      subst he
      exact absurd h.1 List.not_mem_nil
  | some s => rw [h.unique (strongest he)]

/-! ## The table -/

/-- What kind of argument a role makes of a declared type. There is no row for any other type, in
particular none for an `Optional` inside an `Optional`. -/
inductive Role.Makes : Role → TypeRef → ArgKind → Prop
  | required (a : ArgType) : Makes .required (.primitive a.primitive) (.required a)
  | optional (a : ArgType) : Makes .optional (.optional (.primitive a.primitive)) (.optional a)
  | switch : Makes .flag (.primitive .bool) (.flag none)
  | named (a : ArgType) : Makes .flag (.optional (.primitive a.primitive)) (.flag (some a))

/-- Whether a field is an argument of a kind, by its strongest role and its type. -/
def Field.HasKind (f : Field) (k : ArgKind) : Prop :=
  ∃ r : Role, r.IsStrongest f.roles ∧ r.Makes f.type k

/-- The types that resolve to an argument type: its primitive type, bare or in one `Optional`. -/
theorem TypeRef.resolve?_eq_some_iff {t : TypeRef} {r : Resolved} :
    t.resolve? = some r ↔
      t = if r.isOptional then .optional (.primitive r.argType.primitive)
        else .primitive r.argType.primitive := by
  obtain ⟨isOptional, a⟩ := r
  cases t with
  | primitive p =>
      cases isOptional <;>
        simp [resolve?, unwrap, ArgType.ofPrimitive?_eq_some_iff]
  | optional inner =>
      cases inner <;> cases isOptional <;>
        simp [resolve?, unwrap, ArgType.ofPrimitive?_eq_some_iff]
  | list element => cases isOptional <;> simp [resolve?, unwrap]
  | map key value => cases isOptional <;> simp [resolve?, unwrap]
  | named name => cases isOptional <;> simp [resolve?, unwrap]

/-- A type in a row of the table resolves, and the role makes of it what the row says. -/
theorem Role.Makes.exists_resolved {r : Role} {t : TypeRef} {k : ArgKind} (h : r.Makes t k) :
    ∃ x, t.resolve? = some x ∧ r.apply x = .ok k := by
  cases h with
  | required a => exact ⟨⟨false, a⟩, TypeRef.resolve?_eq_some_iff.mpr rfl, rfl⟩
  | optional a => exact ⟨⟨true, a⟩, TypeRef.resolve?_eq_some_iff.mpr rfl, rfl⟩
  | switch => exact ⟨⟨false, .bool⟩, rfl, rfl⟩
  | named a => exact ⟨⟨true, a⟩, TypeRef.resolve?_eq_some_iff.mpr rfl, rfl⟩

/-- What a role makes of a type that resolves stands in the table. -/
theorem Role.makes_of_apply {r : Role} {t : TypeRef} {x : Resolved} {k : ArgKind}
    (ht : t.resolve? = some x) (h : r.apply x = .ok k) : r.Makes t k := by
  rw [TypeRef.resolve?_eq_some_iff] at ht
  subst ht
  obtain ⟨isOptional, a⟩ := x
  cases r with
  | required =>
      cases isOptional with
      | false => cases h; exact .required a
      | true => cases h
  | optional =>
      cases isOptional with
      | false => cases h
      | true => cases h; exact .optional a
  | flag =>
      cases isOptional with
      | false =>
          cases a with
          | string => cases h
          | bool => cases h; exact .switch
      | true => cases h; exact .named a

/-- Classifying a field reads its row of the table. -/
theorem Field.classify_eq_ok_iff {f : Field} {k : ArgKind} :
    f.classify = .ok k ↔ f.HasKind k := by
  constructor
  · intro h
    unfold classify at h
    split at h
    · cases h
    · rename_i role hrole
      split at h
      · cases h
      · rename_i x hx
        exact ⟨role, Role.effective?_eq_some_iff.mp hrole, Role.makes_of_apply hx h⟩
  · rintro ⟨role, hrole, hmakes⟩
    obtain ⟨x, hx, happly⟩ := hmakes.exists_resolved
    simp only [classify, Role.effective?_eq_some_iff.mpr hrole, hx, happly]

/-- The role of the row in which a kind of argument stands. -/
def ArgKind.role : ArgKind → Role
  | required _ => .required
  | optional _ => .optional
  | flag _ => .flag

/-- The type of the row in which a kind of argument stands. -/
def ArgKind.declaredType : ArgKind → TypeRef
  | required a => .primitive a.primitive
  | optional a | flag (some a) => .optional (.primitive a.primitive)
  | flag none => .primitive .bool

/-- Each kind of argument stands in one row. -/
theorem Role.makes_iff {r : Role} {t : TypeRef} {k : ArgKind} :
    r.Makes t k ↔ r = k.role ∧ t = k.declaredType := by
  constructor
  · intro h
    cases h <;> exact ⟨rfl, rfl⟩
  · rintro ⟨rfl, rfl⟩
    cases k with
    | required a => exact .required a
    | optional a => exact .optional a
    | flag type =>
        cases type with
        | none => exact .switch
        | some a => exact .named a

theorem Field.hasKind_iff {f : Field} {k : ArgKind} :
    f.HasKind k ↔ k.role.IsStrongest f.roles ∧ f.type = k.declaredType := by
  simp only [HasKind, Role.makes_iff]
  constructor
  · rintro ⟨r, hr, rfl, ht⟩
    exact ⟨hr, ht⟩
  · rintro ⟨hr, ht⟩
    exact ⟨_, hr, rfl, ht⟩

/-! ## Roles as they are given -/

namespace Role

variable {roles : List Role}

theorem isStrongest_required_iff : required.IsStrongest roles ↔ required ∈ roles :=
  ⟨And.left, fun h => ⟨h, fun s _ => by cases s <;> decide⟩⟩

theorem isStrongest_optional_iff :
    optional.IsStrongest roles ↔ optional ∈ roles ∧ required ∉ roles := by
  refine and_congr_right fun _ => ⟨fun weaker h => ?_, fun h s hs => ?_⟩
  · exact absurd (weaker required h) (by decide)
  · cases s with
    | required => exact absurd hs h
    | optional | flag => decide

/-- A flag is the strongest role only where there is no other. -/
theorem isStrongest_flag_iff :
    flag.IsStrongest roles ↔ roles ≠ [] ∧ ∀ r ∈ roles, r = flag := by
  constructor
  · rintro ⟨given, weaker⟩
    refine ⟨List.ne_nil_of_mem given, fun r hr => strength_injective ?_⟩
    exact Nat.le_antisymm (weaker r hr) (Nat.zero_le _)
  · rintro ⟨some, only⟩
    obtain ⟨r, hr⟩ := List.exists_mem_of_ne_nil roles some
    exact ⟨only r hr ▸ hr, fun s hs => Nat.le_of_eq (congrArg strength (only s hs))⟩

end Role

/-! ## Fields that are no arguments -/

/-- The types that an argument may have. -/
def TypeRef.argumentTypes : List TypeRef :=
  [.primitive .string, .primitive .bool, .optional (.primitive .string),
    .optional (.primitive .bool)]

theorem TypeRef.mem_argumentTypes_iff {t : TypeRef} :
    t ∈ argumentTypes ↔ ∃ r, t.resolve? = some r := by
  simp only [resolve?_eq_some_iff]
  constructor
  · intro h
    simp only [argumentTypes, List.mem_cons, List.not_mem_nil, or_false] at h
    rcases h with rfl | rfl | rfl | rfl
    · exact ⟨⟨false, .string⟩, rfl⟩
    · exact ⟨⟨false, .bool⟩, rfl⟩
    · exact ⟨⟨true, .string⟩, rfl⟩
    · exact ⟨⟨true, .bool⟩, rfl⟩
  · rintro ⟨⟨isOptional, a⟩, rfl⟩
    cases isOptional <;> cases a <;> decide

theorem TypeRef.not_mem_argumentTypes_iff {t : TypeRef} :
    t ∉ argumentTypes ↔ t.resolve? = none := by
  rw [mem_argumentTypes_iff, not_exists, Option.eq_none_iff_forall_ne_some]

/-- A role that makes nothing of a type that an argument may have does not go with this type. -/
theorem Role.kind_of_apply {r : Role} {x : Resolved} {cause : Unclassified}
    (h : r.apply x = .error cause) : cause.kind = .roleTypeMismatch := by
  unfold apply at h
  split at h <;> cases h <;> rfl

/-- What is wrong with a field that is no argument: it has no role; or it has one, but a type that
no argument has; or else its role does not go with its type. -/
theorem Field.kind_of_classify {f : Field} {cause : Unclassified}
    (h : f.classify = .error cause) :
    cause.kind =
      if f.roles = [] then .missingRole
      else if f.type ∉ TypeRef.argumentTypes then .unsupportedType
      else .roleTypeMismatch := by
  unfold classify at h
  split at h
  · rename_i none
    cases h
    rw [if_pos (Role.effective?_eq_none_iff.mp none)]
    rfl
  · rename_i role given
    rw [if_neg (List.ne_nil_of_mem (Role.effective?_mem given))]
    split at h
    · rename_i none
      cases h
      rw [if_pos (TypeRef.not_mem_argumentTypes_iff.mpr none)]
      rfl
    · rename_i x resolved
      have supported : f.type ∈ TypeRef.argumentTypes :=
        TypeRef.mem_argumentTypes_iff.mpr ⟨x, resolved⟩
      rw [if_neg (not_not_intro supported)]
      exact Role.kind_of_apply h

/-- Only a field with a role and a type that an argument may have is an argument. -/
theorem Field.HasKind.supported {f : Field} {k : ArgKind} (h : f.HasKind k) :
    f.roles ≠ [] ∧ f.type ∈ TypeRef.argumentTypes := by
  obtain ⟨r, hr, hm⟩ := h
  obtain ⟨x, hx, -⟩ := hm.exists_resolved
  exact ⟨List.ne_nil_of_mem hr.1, TypeRef.mem_argumentTypes_iff.mpr ⟨x, hx⟩⟩

/-- Whether a field of a command is no argument, and its error is of this category. -/
def Field.IsInvalid (f : Field) (command : Option String) (kind : SchemaErrorKind) : Prop :=
  ∃ cause, f.classify = .error cause ∧
    (SchemaError.unclassified command f.name cause).kind = kind

/-- A field is invalid exactly if it is in no row of the table, and then in the way that
`kind_of_classify` says. -/
theorem Field.isInvalid_iff {f : Field} {command : Option String} {kind : SchemaErrorKind} :
    f.IsInvalid command kind ↔
      (∀ k, ¬ f.HasKind k) ∧
        kind =
          if f.roles = [] then .missingRole
          else if f.type ∉ TypeRef.argumentTypes then .unsupportedType
          else .roleTypeMismatch := by
  simp only [← classify_eq_ok_iff]
  constructor
  · rintro ⟨cause, h, rfl⟩
    exact ⟨fun k => by rw [h]; exact nofun, kind_of_classify h⟩
  · rintro ⟨noRow, rfl⟩
    cases h : f.classify with
    | ok k => exact absurd h (noRow k)
    | error cause => exact ⟨cause, h, kind_of_classify h⟩

section Invalid

variable {f : Field} {command : Option String}

theorem Field.isInvalid_missingRole_iff :
    f.IsInvalid command .missingRole ↔ f.roles = [] := by
  have noRow (empty : f.roles = []) (k : ArgKind) (hk : f.HasKind k) : False :=
    hk.supported.1 empty
  rw [isInvalid_iff]
  grind

theorem Field.isInvalid_unsupportedType_iff :
    f.IsInvalid command .unsupportedType ↔
      f.roles ≠ [] ∧ f.type ∉ TypeRef.argumentTypes := by
  have noRow (unsupported : f.type ∉ TypeRef.argumentTypes) (k : ArgKind) (hk : f.HasKind k) :
      False := unsupported hk.supported.2
  rw [isInvalid_iff]
  grind

theorem Field.isInvalid_roleTypeMismatch_iff :
    f.IsInvalid command .roleTypeMismatch ↔
      f.roles ≠ [] ∧ f.type ∈ TypeRef.argumentTypes ∧ ∀ k, ¬ f.HasKind k := by
  rw [isInvalid_iff]
  grind

end Invalid

/-- **Classifying a field reads the table of roles and types.** It depends on which roles are given,
whatever their order and number, and on the declared type. A field that is in no row of the table
is invalid: for want of a role before anything else, then for its type, and in all other cases
because its role does not go with its type. -/
theorem Field.classify_iff (f : Field) (command : Option String) :
    (∀ a, f.classify = .ok (.required a) ↔
        .required ∈ f.roles ∧ f.type = .primitive a.primitive) ∧
      (∀ a, f.classify = .ok (.optional a) ↔
        (.optional ∈ f.roles ∧ .required ∉ f.roles) ∧
          f.type = .optional (.primitive a.primitive)) ∧
      (f.classify = .ok (.flag none) ↔
        (f.roles ≠ [] ∧ ∀ r ∈ f.roles, r = .flag) ∧ f.type = .primitive .bool) ∧
      (∀ a, f.classify = .ok (.flag (some a)) ↔
        (f.roles ≠ [] ∧ ∀ r ∈ f.roles, r = .flag) ∧
          f.type = .optional (.primitive a.primitive)) ∧
      (f.IsInvalid command .missingRole ↔ f.roles = []) ∧
      (f.IsInvalid command .unsupportedType ↔
        f.roles ≠ [] ∧ f.type ∉ TypeRef.argumentTypes) ∧
      (f.IsInvalid command .roleTypeMismatch ↔
        f.roles ≠ [] ∧ f.type ∈ TypeRef.argumentTypes ∧ ∀ k, f.classify ≠ .ok k) := by
  have row {k : ArgKind} {given : Prop} (h : k.role.IsStrongest f.roles ↔ given) :
      f.classify = .ok k ↔ given ∧ f.type = k.declaredType := by
    rw [classify_eq_ok_iff, hasKind_iff, h]
  refine ⟨fun a => row Role.isStrongest_required_iff, fun a => row Role.isStrongest_optional_iff,
    row Role.isStrongest_flag_iff, fun a => row Role.isStrongest_flag_iff,
    isInvalid_missingRole_iff, isInvalid_unsupportedType_iff, ?_⟩
  simp only [ne_eq, classify_eq_ok_iff]
  exact isInvalid_roleTypeMismatch_iff

/-- A weaker role does not rescue a type that goes with it, but not with the strongest one. -/
example : ({ name := "loud", type := .optional (.primitive .bool), roles := [.flag, .required] } :
    Field).classify = .error .requiredWrapped := rfl

end CommandCompiler
