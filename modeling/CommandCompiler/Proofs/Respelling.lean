import CommandCompiler.Proofs.NormalForm
import CommandCompiler.Proofs.TwoDecodings
import CommandCompiler.Proofs.TypeSpelling
import CommandCompiler.SchemaFile
/-!
# CommandCompiler.Proofs.Respelling

**Documents that spell the same schema differently.** In documents of one shape
(`Schema.Respelled`) three things may vary:

* the roles of a field, up to which words they are: their order, how often each is
  given, a word alone for a list of it, and the short forms, which are understood
  in a word alone and in a list (`Role.Respelled`);
* the blanks around the name of a command (`Value.SameName`);
* the blanks between the pieces of a type that is written as text, and `Option` for
  `Optional` (`TypeRef.SameSpelling`).

Either neither of two such documents is a schema, or both are, and then these have
one normal form (`Schema.decoder_alike`), which is all that is compiled
(`Schema.compile_normal`).
-/

namespace CommandCompiler

variable {ρ : Nat → Nat}

/-! ## Documents of one shape -/

namespace Value

/-- Whether two mappings have the same keys in the same order, and under each key values in a
relation. -/
def EntriesBy (R : Value → Value → Value → Prop) (entries entries' : List (Value × Value)) : Prop :=
  List.Forall₂ (fun e e' => e.1 = e'.1 ∧ R e.1 e.2 e'.2) entries entries'

/-- Two mappings with entries in a relation, or one value of any kind with two numberings. -/
inductive MappingBy (ρ : Nat → Nat) (R : Value → Value → Value → Prop) : Value → Value → Prop
  | same (v : Value) : MappingBy ρ R v (v.renumber ρ)
  | mapping {entries entries' : List (Value × Value)} (number number' : Option Nat)
      (h : EntriesBy R entries entries') :
      MappingBy ρ R (.mapping entries number) (.mapping entries' number')

/-- Two lists with items in a relation, or one value of any kind with two numberings. -/
inductive ListBy (ρ : Nat → Nat) (R : Value → Value → Prop) : Value → Value → Prop
  | same (v : Value) : ListBy ρ R v (v.renumber ρ)
  | list {vs vs' : List Value} (h : List.Forall₂ R vs vs') : ListBy ρ R (.list vs) (.list vs')

/-- Whether two values hold the same text with any blanks before and after it. -/
def SameName (v v' : Value) : Prop :=
  ∃ core s s', v.text = .pass s ∧ v'.text = .pass s' ∧ Text.Padded core s ∧ Text.Padded core s'

end Value

/-- A role word without its short form. -/
def Role.inFull : Value → Value
  | .str s => .str (unabbreviate s)
  | v => v

/-- The words that roles are given by, without short forms. The members of a set have none. -/
def Role.wordsOf? : Value → Option (List Value)
  | .null => some []
  | .str s => some [inFull (.str s)]
  | .list vs => some (vs.map inFull)
  | .set vs => some vs
  | _ => none

/-- Whether roles are given by the same words, in whatever order and however often. -/
def Role.Respelled (ρ : Nat → Nat) (v v' : Value) : Prop :=
  ∃ ws ws', wordsOf? v = some ws ∧ wordsOf? v' = some ws' ∧
    ∀ w, w ∈ ws' ↔ w ∈ ws.map (Value.renumber ρ)

/-- Whether two values are texts of a type, up to blanks and the words for types that may be
absent. -/
def TypeRef.Respelled (v v' : Value) : Prop :=
  ∃ s s', v = .str s ∧ v' = .str s' ∧ SameSpelling s s'

/-- What may stand under one key of a field in two documents. -/
def Field.MemberRespelled (ρ : Nat → Nat) (key v v' : Value) : Prop :=
  v' = v.renumber ρ ∨ (key = .str "role" ∨ key = .str "roles") ∧ Role.Respelled ρ v v' ∨
    key = .str "type" ∧ TypeRef.Respelled v v'

/-- What may stand for one field in two documents. -/
def Field.Respelled (ρ : Nat → Nat) : Value → Value → Prop :=
  Value.MappingBy ρ (Field.MemberRespelled ρ)

/-- What may stand under one key of a command in two documents. -/
def Variant.MemberRespelled (ρ : Nat → Nat) (key v v' : Value) : Prop :=
  v' = v.renumber ρ ∨ key = .str "name" ∧ v.SameName v' ∨
    key = .str "fields" ∧ v.ListBy ρ (Field.Respelled ρ) v'

/-- What may stand for one command in two documents. -/
def Variant.Respelled (ρ : Nat → Nat) : Value → Value → Prop :=
  Value.MappingBy ρ (Variant.MemberRespelled ρ)

/-- What may stand under one key of two documents. -/
def Schema.MemberRespelled (ρ : Nat → Nat) (key v v' : Value) : Prop :=
  v' = v.renumber ρ ∨ key = .str "commands" ∧ v.ListBy ρ (Variant.Respelled ρ) v'

/-- Whether two documents spell the same. Their mappings may have different numbers, but those that
differ in one document differ in the other. -/
def Schema.Respelled (v v' : Value) : Prop :=
  ∃ ρ, Function.Injective ρ ∧ Value.MappingBy ρ (Schema.MemberRespelled ρ) v v'

/-! ## Lists of images -/

/-- There is a list of images just if each item has one. -/
theorem exists_forall₂_iff {α β : Type} {R : α → β → Prop} {as : List α} :
    (∃ bs, List.Forall₂ R as bs) ↔ ∀ a ∈ as, ∃ b, R a b := by
  induction as with
  | nil => simp
  | cons a as ih =>
      rw [List.forall_mem_cons, ← ih]
      simp only [List.forall₂_cons_left_iff]
      constructor
      · rintro ⟨_, b, bs, hb, hbs, rfl⟩
        exact ⟨⟨b, hb⟩, bs, hbs⟩
      · rintro ⟨⟨b, hb⟩, bs, hbs⟩
        exact ⟨_, b, bs, hb, hbs, rfl⟩

theorem map_eq_map_iff {α β : Type} {g : α → β} {as bs : List α} :
    as.map g = bs.map g ↔ List.Forall₂ (fun a b => g a = g b) as bs := by
  rw [← List.forall₂_eq_eq_eq, List.forall₂_map_left_iff, List.forall₂_map_right_iff]

/-! ## Roles -/

namespace Role

theorem ofWord_eq (v : Value) : ofWord v = ofValue (inFull v) := by
  cases v <;> rfl

/-- Roles are decoded word by word. -/
theorem listOfValue_eq_pass_iff_words {v : Value} {ws : List Value} (hv : wordsOf? v = some ws)
    {roles : List Role} :
    listOfValue v = .pass roles ↔ List.Forall₂ (fun w r => ofValue w = .pass r) ws roles := by
  cases v with
  | null =>
      cases hv
      simp [listOfValue, eq_comm]
  | str s =>
      cases hv
      simp only [listOfValue, Checked.all_eq_pass_iff, List.forall₂_cons_left_iff,
        List.forall₂_nil_left_iff, ofWord_eq]
  | list vs =>
      cases hv
      rw [listOfValue, Checked.all_eq_pass_iff, List.forall₂_map_left_iff]
      simp only [ofWord_eq]
  | set vs =>
      cases hv
      exact Checked.all_eq_pass_iff
  | _ => cases hv

/-- There are roles if every word is one, and they are those of the words. -/
theorem mem_of_words {ws : List Value} {roles : List Role}
    (h : List.Forall₂ (fun w r => ofValue w = .pass r) ws roles) (r : Role) :
    r ∈ roles ↔ ∃ w ∈ ws, ofValue w = .pass r := by
  induction h with
  | nil => simp
  | cons hw _ ih => simp [hw, ih, eq_comm]

/-- Roles that are given by the same words have one normal form. -/
theorem Respelled.listOfValue_alike {v v' : Value} (h : Respelled ρ v v') :
    (listOfValue v).Alike (fun rs rs' => normal rs = normal rs') (listOfValue v') := by
  obtain ⟨ws, ws', hv, hv', same⟩ := h
  have renumber (w : Value) : ofValue (w.renumber ρ) = ofValue w := Value.wordOf_renumber _ w
  have roles (r : Role) : (∃ w ∈ ws, ofValue w = .pass r) ↔ ∃ w ∈ ws', ofValue w = .pass r := by
    simp [same, renumber]
  have passes : (∀ w ∈ ws, ∃ r, ofValue w = .pass r) ↔ ∀ w ∈ ws', ∃ r, ofValue w = .pass r := by
    simp [same, renumber]
  have words {v : Value} {ws : List Value} (hv : wordsOf? v = some ws) :
      (∃ rs, listOfValue v = .pass rs) ↔ ∀ w ∈ ws, ∃ r, ofValue w = .pass r := by
    simp only [listOfValue_eq_pass_iff_words hv, exists_forall₂_iff]
  refine .of_pass (fun rs hrs => ?_) fun rs' hrs' => ?_
  · obtain ⟨rs', hrs'⟩ := (words hv').mpr (passes.mp ((words hv).mp ⟨rs, hrs⟩))
    refine ⟨rs', hrs', normal_eq_iff.mpr fun r => ?_⟩
    rw [mem_of_words ((listOfValue_eq_pass_iff_words hv).mp hrs), roles,
      mem_of_words ((listOfValue_eq_pass_iff_words hv').mp hrs')]
  · exact (words hv).mpr (passes.mpr ((words hv').mp ⟨rs', hrs'⟩))

/-- Roles in mappings with other numbers are the same. -/
theorem listOfValue_renumber (v : Value) :
    (listOfValue v).Alike (fun rs rs' => normal rs = normal rs') (listOfValue (v.renumber ρ)) := by
  have inFull_renumber (w : Value) : inFull (w.renumber ρ) = (inFull w).renumber ρ := by
    cases w <;> rfl
  cases hv : wordsOf? v with
  | some ws =>
      refine Respelled.listOfValue_alike ⟨ws, ws.map (Value.renumber ρ), hv, ?_, fun _ => Iff.rfl⟩
      cases v with
      | list vs | set vs =>
          cases hv
          simp [wordsOf?, Value.renumber, Value.renumberItems_eq_map, inFull_renumber]
      | _ => cases hv <;> rfl
  | none =>
      cases v with
      | null | str _ | list _ | set _ => cases hv
      | _ => exact .fail

end Role

/-! ## Names and types -/

theorem Value.textOrNull_of_text {v : Value} {s : String} (h : v.text = .pass s) :
    v.textOrNull = .pass (some s) := by
  cases v with
  | null => cases h
  | _ => exact congrArg (Checked.map some) h

theorem Value.SameName.textOrNull_alike {v v' : Value} (h : SameName v v') :
    v.textOrNull.Alike (fun o o' => o.map Text.trim = o'.map Text.trim) v'.textOrNull := by
  obtain ⟨core, s, s', hs, hs', padded, padded'⟩ := h
  rw [textOrNull_of_text hs, textOrNull_of_text hs']
  refine .pass ?_
  rw [Option.map_some, padded.trim_eq, ← padded'.trim_eq, Option.map_some]

/-- Two texts of a type give the same type, or both none. -/
theorem TypeRef.Respelled.decoder_alike {v v' : Value} (h : Respelled v v') :
    (decoder v).Alike ρ Eq (decoder v') := by
  obtain ⟨s, s', rfl, rfl, same⟩ := h
  cases hs : parse s with
  | ok t =>
      have hs' : parse s' = .ok t := parse_of_sameSpelling same hs
      simp only [decoder, hs, hs']
      exact .of (.pass rfl)
  | error e =>
      cases hs' : parse s' with
      | ok t =>
          rw [parse_of_sameSpelling same.symm hs'] at hs
          cases hs
      | error e' =>
          simp only [decoder, hs, hs']
          exact .of .fail

theorem TypeRef.decoder_renumber (inj : Function.Injective ρ) (v : Value) :
    (decoder v).Alike ρ Eq (decoder (v.renumber ρ)) := by
  cases v with
  | str s => exact Respelled.decoder_alike ⟨s, s, rfl, rfl, rfl⟩
  | _ => exact objectDecoder_alike inj none _

/-! ## Mappings and lists -/

namespace Value

section Mappings

variable {R : Value → Value → Value → Prop} {entries entries' : List (Value × Value)}

theorem EntriesBy.map_fst (h : EntriesBy R entries entries') :
    entries.map (·.1) = entries'.map (·.1) := by
  induction h with
  | nil => rfl
  | cons h _ ih => rw [List.map_cons, h.1, ih, List.map_cons]

/-- Under a key of both mappings stand values in the relation, or there is none. -/
theorem EntriesBy.valueAt? (h : EntriesBy R entries entries') (key : String) :
    Option.Rel (R (.str key)) (valueAt? key entries) (valueAt? key entries') := by
  induction h with
  | nil => exact .none
  | @cons e e' _ _ h _ ih =>
      obtain ⟨k, v⟩ := e
      obtain ⟨k', v'⟩ := e'
      obtain ⟨rfl, hv⟩ := h
      cases k with
      | str s =>
          by_cases same : s = key
          · subst same
            simpa [CommandCompiler.valueAt?] using Option.Rel.some hv
          · simpa [CommandCompiler.valueAt?, same] using ih
      | _ => exact ih

theorem entriesBy_renumber (same : ∀ k v, R k v (v.renumber ρ)) (entries : List (Value × Value)) :
    EntriesBy R entries (renumberEntries ρ entries) := by
  rw [EntriesBy, renumberEntries_eq_map, List.forall₂_map_right_iff, List.forall₂_same]
  intro e _
  exact ⟨rfl, same e.1 e.2⟩

/-- Decoders of mappings are alike on two values if they are on the entries of mappings, and fail on
everything else. -/
theorem MappingBy.decoder_alike {α : Type} {S : α → α → Prop} {decode : Value → Decoder α}
    (same : ∀ k v, R k v (v.renumber ρ))
    (mappings : ∀ entries entries' number number', EntriesBy R entries entries' →
      (decode (.mapping entries number)).Alike ρ S (decode (.mapping entries' number')))
    (others : ∀ v, (∀ entries number, v ≠ .mapping entries number) →
      decode v = .of (.issue .modelType)) {v v' : Value} (h : MappingBy ρ R v v') :
    (decode v).Alike ρ S (decode v') := by
  cases h with
  | mapping number number' h => exact mappings _ _ _ _ h
  | same =>
      cases v with
      | mapping entries number => exact mappings _ _ _ _ (entriesBy_renumber same entries)
      | _ =>
          rw [others _ (by simp), others _ (by simp [renumber])]
          exact .of .fail

end Mappings

theorem listBy_of_or {R : Value → Value → Prop} {v v' : Value}
    (h : v' = v.renumber ρ ∨ v.ListBy ρ R v') : v.ListBy ρ R v' := by
  rcases h with rfl | h
  · exact .same v
  · exact h

/-- Lists are decoded alike if their items are. -/
theorem ListBy.itemsDecoder_alike {α : Type} {S : α → α → Prop} {R : Value → Value → Prop}
    {decode : Value → Decoder α} (same : ∀ v, R v (v.renumber ρ))
    (items : ∀ v v', R v v' → (decode v).Alike ρ S (decode v')) {v v' : Value}
    (h : ListBy ρ R v v') :
    (itemsDecoder decode v).Alike ρ (List.Forall₂ S) (itemsDecoder decode v') := by
  have renumbered (vs : List Value) : List.Forall₂ R vs (renumberItems ρ vs) := by
    rw [renumberItems_eq_map, List.forall₂_map_right_iff, List.forall₂_same]
    exact fun v _ => same v
  cases h with
  | list h => exact .all h items 0
  | same =>
      cases v with
      | list vs | set vs => exact .all (renumbered vs) items 0
      | _ => exact .of .fail

end Value

/-! ## Documents -/

section Documents

variable {v v' : Value}

/-- The roles of both fields stand under the same key. -/
theorem Field.rolesKey_eq {entries entries' : List (Value × Value)}
    (h : Value.EntriesBy (MemberRespelled ρ) entries entries') :
    rolesKey entries = rolesKey entries' := by
  have role : (valueAt? "role" entries).isSome = (valueAt? "role" entries').isSome := by
    have found := h.valueAt? "role"
    generalize valueAt? "role" entries = v, valueAt? "role" entries' = v' at found
    cases found <;> rfl
  rw [rolesKey, role, rolesKey]

/-- Fields that are spelled differently have one normal form. -/
theorem Field.Respelled.decoder_alike (inj : Function.Injective ρ) (h : Respelled ρ v v') :
    (decoder v).Alike ρ (fun f f' => f.normal = f'.normal) (decoder v') := by
  refine Value.MappingBy.decoder_alike (fun _ _ => .inl rfl) (fun entries entries' _ _ h => ?_)
    (fun v other => ?_) h
  · have name (w w' : Value) (hw : MemberRespelled ρ (.str "name") w w') :
        (Decoder.of w.text).Alike ρ Eq (.of w'.text) :=
      .ofRenumber Value.text_renumber (by simpa [MemberRespelled] using hw)
    have type (w w' : Value) (hw : MemberRespelled ρ (.str "type") w w') :
        (TypeRef.decoder w).Alike ρ Eq (TypeRef.decoder w') := by
      obtain rfl | hw : w' = w.renumber ρ ∨ TypeRef.Respelled w w' := by
        simpa [MemberRespelled] using hw
      · exact TypeRef.decoder_renumber inj w
      · exact hw.decoder_alike
    have roles (w w' : Value) (hw : MemberRespelled ρ (.str (rolesKey entries)) w w') :
        (Decoder.of (Role.listOfValue w)).Alike ρ (fun rs rs' => Role.normal rs = Role.normal rs')
          (.of (Role.listOfValue w')) := by
      have noType : rolesKey entries ≠ "type" := by
        unfold rolesKey
        split <;> decide
      rcases hw with rfl | ⟨-, hw⟩ | ⟨key, -⟩
      · exact .of (Role.listOfValue_renumber w)
      · exact .of hw.listOfValue_alike
      · exact absurd (Value.str.inj key) noType
    have usage (w w' : Value) (hw : MemberRespelled ρ (.str "usage") w w') :
        (Decoder.of w.textOrNull).Alike ρ Eq (.of w'.textOrNull) :=
      .ofRenumber Value.textOrNull_renumber (by simpa [MemberRespelled] using hw)
    have short (w w' : Value) (hw : MemberRespelled ρ (.str "short") w w') :
        (Decoder.of w.textOrNull).Alike ρ Eq (.of w'.textOrNull) :=
      .ofRenumber Value.textOrNull_renumber (by simpa [MemberRespelled] using hw)
    have mk : Relator.LiftFun Eq (Relator.LiftFun Eq (Relator.LiftFun
        (fun rs rs' => Role.normal rs = Role.normal rs')
        (Relator.LiftFun Eq (Relator.LiftFun Eq fun f f' => f.normal = f'.normal))))
        Field.mk Field.mk := by
      rintro _ _ rfl _ _ rfl _ _ roles _ _ rfl _ _ rfl
      simp only [normal, roles]
    simp only [decoder, Value.of_member, Value.of_memberOr, ← rolesKey_eq h]
    refine .closed h.map_fst _ ?_
    refine .seq (.seq (.seq (.seq (.map mk ?_) ?_) ?_) ?_) ?_
    · exact .member (h.valueAt? _) name
    · exact .member (h.valueAt? _) type
    · exact .memberOr (h.valueAt? _) rfl roles
    · exact .memberOr (h.valueAt? _) rfl usage
    · exact .memberOr (h.valueAt? _) rfl short
  · cases v with
    | mapping entries number => exact absurd rfl (other entries number)
    | _ => rfl

/-- Commands that are spelled differently have one normal form. -/
theorem Variant.Respelled.decoder_alike (inj : Function.Injective ρ) (h : Respelled ρ v v') :
    (decoder v).Alike ρ (fun u u' => u.normal = u'.normal) (decoder v') := by
  refine Value.MappingBy.decoder_alike (fun _ _ => .inl rfl) (fun entries entries' _ _ h => ?_)
    (fun v other => ?_) h
  · have name (w w' : Value) (hw : MemberRespelled ρ (.str "name") w w') :
        (Decoder.of w.textOrNull).Alike ρ (fun o o' => o.map Text.trim = o'.map Text.trim)
          (.of w'.textOrNull) := by
      obtain rfl | hw : w' = w.renumber ρ ∨ w.SameName w' := by
        simpa [MemberRespelled] using hw
      · exact (Decoder.Alike.ofRenumber Value.textOrNull_renumber rfl).imp fun _ _ => congrArg _
      · exact .of hw.textOrNull_alike
    have usage (w w' : Value) (hw : MemberRespelled ρ (.str "usage") w w') :
        (Decoder.of w.textOrNull).Alike ρ Eq (.of w'.textOrNull) :=
      .ofRenumber Value.textOrNull_renumber (by simpa [MemberRespelled] using hw)
    have className (w w' : Value) (hw : MemberRespelled ρ (.str "variant") w w') :
        (Decoder.of w.textOrNull).Alike ρ Eq (.of w'.textOrNull) :=
      .ofRenumber Value.textOrNull_renumber (by simpa [MemberRespelled] using hw)
    have fields (w w' : Value) (hw : MemberRespelled ρ (.str "fields") w w') :
        (Value.itemsDecoder Field.decoder w).Alike ρ
          (List.Forall₂ fun f f' => f.normal = f'.normal)
          (Value.itemsDecoder Field.decoder w') := by
      have list : w.ListBy ρ (Field.Respelled ρ) w' :=
        Value.listBy_of_or (by simpa [MemberRespelled] using hw)
      exact list.itemsDecoder_alike .same fun _ _ h => h.decoder_alike inj
    have mk : Relator.LiftFun (fun o o' => o.map Text.trim = o'.map Text.trim)
        (Relator.LiftFun Eq (Relator.LiftFun Eq (Relator.LiftFun
          (List.Forall₂ fun f f' => f.normal = f'.normal) fun u u' => u.normal = u'.normal)))
        Variant.mk Variant.mk := by
      rintro _ _ name _ _ rfl _ _ rfl _ _ fields
      simp only [normal, name, map_eq_map_iff.mpr fields]
    simp only [decoder, Value.of_memberOr]
    refine .closed h.map_fst _ ?_
    refine .seq (.seq (.seq (.map mk ?_) ?_) ?_) ?_
    · exact .memberOr (h.valueAt? _) rfl name
    · exact .memberOr (h.valueAt? _) rfl usage
    · exact .memberOr (h.valueAt? _) rfl className
    · exact .memberOr (h.valueAt? _) .nil fields
  · cases v with
    | mapping entries number => exact absurd rfl (other entries number)
    | _ => rfl

/-- Schemas that are spelled differently have one normal form. -/
theorem Schema.decoder_alike (inj : Function.Injective ρ)
    (h : v.MappingBy ρ (MemberRespelled ρ) v') :
    (decoder v).Alike ρ (fun s s' => s.normal = s'.normal) (decoder v') := by
  refine Value.MappingBy.decoder_alike (fun _ _ => .inl rfl) (fun entries entries' _ _ h => ?_)
    (fun v other => ?_) h
  · have commands (w w' : Value) (hw : MemberRespelled ρ (.str "commands") w w') :
        (Value.itemsDecoder Variant.decoder w).Alike ρ
          (List.Forall₂ fun u u' => u.normal = u'.normal)
          (Value.itemsDecoder Variant.decoder w') := by
      have list : w.ListBy ρ (Variant.Respelled ρ) w' :=
        Value.listBy_of_or (by simpa [MemberRespelled] using hw)
      exact list.itemsDecoder_alike .same fun _ _ h => h.decoder_alike inj
    have mk : Relator.LiftFun (List.Forall₂ fun u u' : Variant => u.normal = u'.normal)
        (fun s s' => s.normal = s'.normal) Schema.mk Schema.mk := by
      intro _ _ commands
      simp only [normal, map_eq_map_iff.mpr commands]
    simp only [decoder]
    refine .closed h.map_fst _ (.map mk ?_)
    exact .memberOr (h.valueAt? _) .nil commands
  · cases v with
    | mapping entries number => exact absurd rfl (other entries number)
    | _ => rfl

/-- What is alike as a value is alike as a document. -/
theorem Schema.ofDocument_mapping_alike {R : Schema → Schema → Prop}
    {entries entries' : List (Value × Value)} {number number' : Option Nat}
    (h : (ofValue (.mapping entries number)).Alike R (ofValue (.mapping entries' number'))) :
    ((∃ e, ofDocument (.mapping entries number) = .error e) ∧
        ∃ e, ofDocument (.mapping entries' number') = .error e) ∨
      ∃ s s', ofDocument (.mapping entries number) = .ok s ∧
        ofDocument (.mapping entries' number') = .ok s' ∧ R s s' := by
  simp only [ofDocument]
  generalize ofValue (.mapping entries number) = c, ofValue (.mapping entries' number') = c' at h
  cases h with
  | pass h => exact .inr ⟨_, _, rfl, rfl, h⟩
  | fail => exact .inl ⟨⟨_, rfl⟩, _, rfl⟩

/-- **Spellings of one schema compile alike.** Of two documents that spell the same, either none is
a schema, or both are. Then the errors in both are the same, and what they are compiled to: the
signatures, and for each name the readers and the kind of value with its class name and fields. -/
theorem Schema.compile_respelled (h : Respelled v v') :
    ((∃ e, ofDocument v = .error e) ∧ ∃ e, ofDocument v' = .error e) ∨
      ∃ s s', ofDocument v = .ok s ∧ ofDocument v' = .ok s' ∧
        s.errors = s'.errors ∧ s.compile = s'.compile ∧ s.docFault? = s'.docFault? := by
  have loaded : ((∃ e, ofDocument v = .error e) ∧ ∃ e, ofDocument v' = .error e) ∨
      ∃ s s', ofDocument v = .ok s ∧ ofDocument v' = .ok s' ∧ s.normal = s'.normal := by
    obtain ⟨ρ, inj, h⟩ := h
    have alike : (ofValue v).Alike (fun s s' => s.normal = s'.normal) (ofValue v') :=
      (decoder_alike inj h).run
    cases h with
    | mapping number number' h => exact ofDocument_mapping_alike alike
    | same =>
        cases v with
        | null => exact .inr ⟨⟨[]⟩, ⟨[]⟩, rfl, rfl, rfl⟩
        | mapping entries number => exact ofDocument_mapping_alike alike
        | _ => exact .inl ⟨⟨_, rfl⟩, _, rfl⟩
  refine loaded.imp_right ?_
  rintro ⟨s, s', hs, hs', same⟩
  refine ⟨s, s', hs, hs', ?_, ?_, ?_⟩
  · rw [← s.errors_normal, same, s'.errors_normal]
  · rw [← s.compile_normal, same, s'.compile_normal]
  · rw [← s.docFault?_normal, same, s'.docFault?_normal]

end Documents

/-- A field in a document. -/
def cardOf (type : String) (role : Value) : Value :=
  .mapping [(.str "name", .str "card"), (.str "type", .str type), (.str "role", role)]

/-- A document with one command, which has one field. -/
def cardDocument (name : String) (field : Value) : Value :=
  .mapping [(.str "commands", .list
    [.mapping [(.str "name", .str name), (.str "fields", .list [field])]])]

/-- A document and another spelling of it. -/
theorem cardDocument_respelled :
    ∃ s s',
      Schema.ofDocument (cardDocument "play" (cardOf "Optional<String>"
        (.list [.str "flag", .str "optional", .str "flag"]))) = .ok s ∧
      Schema.ofDocument (cardDocument " play\t" (cardOf "Option < String >"
        (.list [.str "opt", .str "flag"]))) = .ok s' ∧
      s.errors = s'.errors ∧ s.compile = s'.compile ∧ s.docFault? = s'.docFault? := by
  have name : (Value.str "play").SameName (.str " play\t") :=
    ⟨"play", "play", " play\t", rfl, rfl, ⟨[], [], nofun, nofun, rfl⟩,
      [' '], ['\t'], by simp [Text.isBlank], by simp [Text.isBlank], rfl⟩
  have type : TypeRef.Respelled (.str "Optional<String>") (.str "Option < String >") :=
    ⟨_, _, rfl, rfl, by decide⟩
  have roles : Role.Respelled id (.list [.str "flag", .str "optional", .str "flag"])
      (.list [.str "opt", .str "flag"]) := by
    refine ⟨[.str "flag", .str "optional", .str "flag"], [.str "optional", .str "flag"], rfl, rfl,
      fun w => ?_⟩
    simp only [List.map_cons, List.map_nil, Value.renumber, List.mem_cons]
    tauto
  have field : Field.Respelled id
      (cardOf "Optional<String>" (.list [.str "flag", .str "optional", .str "flag"]))
      (cardOf "Option < String >" (.list [.str "opt", .str "flag"])) :=
    .mapping none none (.cons ⟨rfl, .inl rfl⟩ (.cons ⟨rfl, .inr (.inr ⟨rfl, type⟩)⟩
      (.cons ⟨rfl, .inr (.inl ⟨.inl rfl, roles⟩)⟩ .nil)))
  have document {field field' : Value} (h : Field.Respelled id field field') :
      Schema.Respelled (cardDocument "play" field) (cardDocument " play\t" field') :=
    ⟨id, Function.injective_id, .mapping none none (.cons ⟨rfl, .inr ⟨rfl, .list (.cons
      (.mapping none none (.cons ⟨rfl, .inr (.inl ⟨rfl, name⟩)⟩
        (.cons ⟨rfl, .inr (.inr ⟨rfl, .list (.cons h .nil)⟩)⟩ .nil))) .nil)⟩⟩ .nil)⟩
  obtain ⟨⟨e, he⟩, -⟩ | loaded := Schema.compile_respelled (document field)
  · cases he
  · exact loaded

/-- The short forms of role words are not understood in a set: of two documents that differ only in
that, one is a schema and the other is not. -/
theorem cardDocument_setInShort :
    (∃ e, Schema.ofDocument (cardDocument "play" (cardOf "String" (.set [.str "req"]))) =
      .error e) ∧
    ∃ s, Schema.ofDocument (cardDocument "play" (cardOf "String" (.set [.str "required"]))) =
      .ok s :=
  ⟨⟨_, rfl⟩, _, rfl⟩

end CommandCompiler
