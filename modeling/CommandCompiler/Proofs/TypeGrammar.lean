import CommandCompiler.Proofs.TypeTokens
import CommandCompiler.TypeRef.Parser
/-!
# CommandCompiler.Proofs.TypeGrammar

**Tokens are parsed by the grammar of types.** The grammar is an inductive
relation that knows nothing of levels, fuel and tokens left over:

* `TypeRef.Spells` : the tokens that spell a type;
* `TypeRef.Listed` : the tokens that spell the parameters of a type;
* `TypeRef.Applies` : the type that a word with parameters is.

`ofTokens_eq_ok_cases` says once what the parser can do where it succeeds, and
`commaSeparated_eq_ok_iff` what it does with a list of parameters if it reads
each of them by the grammar. By induction on the levels, it reads a type exactly
if the type is spelled at the front of the tokens and is not too deep
(`ofTokens_eq_ok_iff`).
-/

namespace CommandCompiler

/-- The primitive type of a name is the one that has it. -/
theorem Primitive.ofName?_eq_some_iff {w : String} {p : Primitive} :
    Primitive.ofName? w = some p ↔ p.name = w :=
  Text.find?_word_eq_some_iff Primitive.ofName?_name

namespace TypeRef

/-! ## The grammar -/

/-- The words that cannot name a type: those of the primitive types and of the types that take
parameters. -/
def reservedWords : List String :=
  ["String", "Int", "Float", "Decimal", "Bool", "Bytes", "Timestamp", "Datetime", "Optional",
   "Option", "List", "Map"]

/-- How many types with parameters stand inside one another, on the longest path into a type. -/
def depth : TypeRef → Nat
  | primitive _ | named _ => 0
  | list element => element.depth + 1
  | map key value => max key.depth value.depth + 1
  | optional inner => inner.depth + 1

/-- The tokens that spell a type. -/
inductive Spells : TypeRef → List TypeToken → Prop
  | primitive (p : Primitive) : Spells (primitive p) [.word p.name]
  | list {element : TypeRef} {ts : List TypeToken} (h : Spells element ts) :
      Spells (list element) (.word "List" :: .openAngle :: (ts ++ [.closeAngle]))
  | map {key value : TypeRef} {ts us : List TypeToken} (hk : Spells key ts)
      (hv : Spells value us) :
      Spells (map key value) (.word "Map" :: .openAngle :: (ts ++ .comma :: us ++ [.closeAngle]))
  | optional {w : String} {inner : TypeRef} {ts : List TypeToken} (hw : isOptionalWord w = true)
      (h : Spells inner ts) :
      Spells (optional inner) (.word w :: .openAngle :: (ts ++ [.closeAngle]))
  | named {name : String} (h : name ∉ reservedWords) : Spells (named name) [.word name]

/-- The type that a word with parameters is. -/
inductive Applies : String → List TypeRef → TypeRef → Prop
  | list (element : TypeRef) : Applies "List" [element] (list element)
  | map (key value : TypeRef) : Applies "Map" [key, value] (map key value)
  | optional {w : String} (hw : isOptionalWord w = true) (inner : TypeRef) :
      Applies w [inner] (optional inner)

/-- The tokens that spell one type or more, with commas in between. -/
inductive Listed : List TypeRef → List TypeToken → Prop
  | last {t : TypeRef} {us : List TypeToken} (h : Spells t us) : Listed [t] us
  | cons {t : TypeRef} {ts : List TypeRef} {us vs : List TypeToken} (h : Spells t us)
      (rest : Listed ts vs) : Listed (t :: ts) (us ++ .comma :: vs)

/-! ## Words -/

/-- What is reserved are the names of the primitive types and the words that need parameters. -/
theorem mem_reservedWords_iff {w : String} :
    w ∈ reservedWords ↔ (∃ p : Primitive, p.name = w) ∨ isGenericWord w = true := by
  have parts : reservedWords =
      Primitive.all.map Primitive.name ++ ["Optional", "Option", "List", "Map"] := rfl
  rw [parts, List.mem_append, List.mem_map]
  simp [isGenericWord, isOptionalWord, Primitive.mem_all, or_assoc]

/-- A word without parameters is the primitive type of this name, or the type named so if the word
is not reserved. -/
theorem ofWord_eq_ok_iff {w : String} {t : TypeRef} :
    ofWord w = .ok t ↔ (∃ p, p.name = w ∧ t = primitive p) ∨ w ∉ reservedWords ∧ t = named w := by
  rw [mem_reservedWords_iff]
  unfold ofWord
  cases h : Primitive.ofName? w with
  | some p =>
      obtain rfl := Primitive.ofName?_eq_some_iff.mp h
      have same (q : Primitive) : q.name = p.name ↔ q = p := by
        rw [← Primitive.ofName?_eq_some_iff, Primitive.ofName?_name, Option.some_inj]
        exact eq_comm
      simp [same, @eq_comm _ t]
  | none =>
      have other (p : Primitive) : p.name ≠ w := by
        intro hp
        simp [Primitive.ofName?_eq_some_iff.mpr hp] at h
      cases isGenericWord w <;> simp [other, @eq_comm _ t]

theorem spells_of_ofWord {w : String} {t : TypeRef} (h : ofWord w = .ok t) :
    Spells t [.word w] ∧ t.depth = 0 := by
  obtain ⟨p, rfl, rfl⟩ | ⟨hw, rfl⟩ := ofWord_eq_ok_iff.mp h
  · exact ⟨.primitive p, rfl⟩
  · exact ⟨.named hw, rfl⟩

/-! ## Words with parameters -/

theorem ofGeneric_eq_ok_iff {w : String} {params : List TypeRef} {t : TypeRef} :
    ofGeneric w params = .ok t ↔ Applies w params t := by
  constructor
  · intro h
    unfold ofGeneric at h
    split at h
    · rename_i hw
      split at h
      · cases h
        exact .optional hw _
      · cases h
    split at h
    · subst_vars
      split at h
      · cases h
        exact .list _
      · cases h
    split at h
    · subst_vars
      split at h
      · cases h
        exact .map _ _
      · cases h
    · cases h
  · intro h
    cases h with
    | list element => rfl
    | map key value => rfl
    | optional hw inner => simp [ofGeneric, hw]

namespace Applies

variable {w : String} {params : List TypeRef} {t : TypeRef}

theorem spells {us : List TypeToken} (h : Applies w params t) (hl : Listed params us) :
    Spells t (.word w :: .openAngle :: (us ++ [.closeAngle])) := by
  cases h with
  | list element =>
      cases hl with
      | last he => exact .list he
      | cons he rest => cases rest
  | map key value =>
      cases hl with
      | cons hk rest =>
          cases rest with
          | last hv => exact .map hk hv
          | cons hv rest => cases rest
  | optional hw inner =>
      cases hl with
      | last hi => exact .optional hw hi
      | cons hi rest => cases rest

theorem depth_ne_zero (h : Applies w params t) : t.depth ≠ 0 := by
  cases h <;> simp [depth]

/-- A type is one level deeper than the deepest of its parameters. -/
theorem depth_le_iff {levels : Nat} (h : Applies w params t) :
    t.depth ≤ levels + 1 ↔ ∀ p ∈ params, p.depth ≤ levels := by
  cases h with
  | list element => simp [depth]
  | map key value =>
      rw [depth, Nat.add_le_add_iff_right, Nat.max_le]
      simp
  | optional hw inner => simp [depth]

end Applies

/-- A type is spelled by a word, or by a word and its parameters in brackets. -/
theorem Spells.word_or_brackets {t : TypeRef} {ts : List TypeToken} (h : Spells t ts) :
    (∃ w, ts = [.word w] ∧ ofWord w = .ok t ∧ t.depth = 0) ∨
      ∃ w params us, ts = .word w :: .openAngle :: (us ++ [.closeAngle]) ∧ Applies w params t ∧
        Listed params us := by
  cases h with
  | primitive p => exact .inl ⟨_, rfl, ofWord_eq_ok_iff.mpr (.inl ⟨p, rfl, rfl⟩), rfl⟩
  | named h => exact .inl ⟨_, rfl, ofWord_eq_ok_iff.mpr (.inr ⟨h, rfl⟩), rfl⟩
  | list h => exact .inr ⟨_, _, _, rfl, .list _, .last h⟩
  | map hk hv => exact .inr ⟨_, _, _, rfl, .map _ _, .cons hk (.last hv)⟩
  | optional hw h => exact .inr ⟨_, _, _, rfl, .optional hw _, .last h⟩

/-! ## The parser -/

theorem ofTokens_word {levels : Nat} {w : String} {rest : List TypeToken}
    (h : rest.head? ≠ some .openAngle) :
    ofTokens levels (.word w :: rest) = (·, rest) <$> ofWord w := by
  cases rest with
  | nil => cases levels <;> simp [ofTokens]
  | cons t rest => cases levels <;> cases t <;> simp_all [ofTokens]

/-- A type is read from a word that no bracket follows, or from a word and the parameters in the
brackets after it, which may be one level less deep. -/
theorem ofTokens_eq_ok_cases {levels : Nat} {ts rest : List TypeToken} {t : TypeRef} :
    ofTokens levels ts = .ok (t, rest) ↔
      (∃ w, ts = .word w :: rest ∧ rest.head? ≠ some .openAngle ∧ ofWord w = .ok t) ∨
        ∃ n w inner params, levels = n + 1 ∧ ts = .word w :: .openAngle :: inner ∧
          commaSeparated (ofTokens n) inner.length inner = .ok (params, .closeAngle :: rest) ∧
          Applies w params t := by
  constructor
  · intro h
    unfold ofTokens at h
    split at h
    · cases h
    · split at h
      · cases h
      · split at h
        · cases h
        · rename_i params rest' hparams
          split at h
          · cases h
          · rename_i rest'' hclose
            obtain ⟨t, ht, heq⟩ := map_eq_ok_iff.mp h
            cases heq
            cases rest' with
            | nil => cases hclose
            | cons c rest' =>
              cases c <;> cases hclose
              exact .inr ⟨_, _, _, params, rfl, rfl, hparams, ofGeneric_eq_ok_iff.mp ht⟩
    · rename_i w rest' hopen
      obtain ⟨t, ht, heq⟩ := map_eq_ok_iff.mp h
      cases heq
      refine .inl ⟨w, rfl, ?_, ht⟩
      rw [ne_eq, List.head?_eq_some_iff]
      rintro ⟨rest', hrest'⟩
      exact hopen rest' hrest'
    · cases h
  · rintro (⟨w, rfl, hrest, ht⟩ | ⟨n, w, inner, params, rfl, rfl, hparams, happ⟩)
    · rw [ofTokens_word hrest, ht]
      rfl
    · simp only [ofTokens, hparams, expectClose, ofGeneric_eq_ok_iff.mpr happ]
      rfl

/-- Parameters up to a closing bracket are read if each of them is read where it is spelled, and
there is fuel for all tokens. A type that is no more than a word must not be followed by a bracket;
a comma and a closing bracket are none. -/
theorem commaSeparated_eq_ok_iff {levels : Nat}
    (item : ∀ {ts : List TypeToken} {t : TypeRef} {rest : List TypeToken},
      ofTokens levels ts = .ok (t, rest) ↔ t.depth ≤ levels ∧
        (t.depth = 0 → rest.head? ≠ some .openAngle) ∧ ∃ us, Spells t us ∧ ts = us ++ rest)
    {fuel : Nat} {ts rest : List TypeToken} {params : List TypeRef} (hf : ts.length ≤ fuel) :
    commaSeparated (ofTokens levels) fuel ts = .ok (params, .closeAngle :: rest) ↔
      (∀ p ∈ params, p.depth ≤ levels) ∧
        ∃ us, Listed params us ∧ ts = us ++ .closeAngle :: rest := by
  induction fuel generalizing ts params with
  | zero =>
    obtain rfl := List.length_eq_zero_iff.mp (Nat.le_zero.mp hf)
    simp [commaSeparated]
  | succ fuel ih =>
    constructor
    · intro h
      rw [commaSeparated] at h
      split at h
      · cases h
      · rename_i t rest' ht
        obtain ⟨hd, -, us, hus, rfl⟩ := item.mp ht
        split at h
        · cases h
        · rename_i more rest'' hmore
          cases h
          have shorter : rest'.length ≤ fuel := by
            simp only [List.length_append, List.length_cons] at hf
            omega
          obtain ⟨hds, vs, hvs, rfl⟩ := (ih shorter).mp hmore
          exact ⟨List.forall_mem_cons.mpr ⟨hd, hds⟩, _, .cons hus hvs, by simp⟩
      · rename_i t rest' _ ht
        cases h
        obtain ⟨hd, -, us, hus, rfl⟩ := item.mp ht
        exact ⟨by simpa using hd, us, .last hus, rfl⟩
    · rintro ⟨hd, us, hl, rfl⟩
      rw [commaSeparated]
      cases hl with
      | @last t us h =>
        have first : ofTokens levels (us ++ .closeAngle :: rest) = .ok (t, .closeAngle :: rest) :=
          item.mpr ⟨hd t (by simp), by simp, us, h, rfl⟩
        rw [first]
      | @cons t params us vs h hl =>
        rw [List.forall_mem_cons] at hd
        have first : ofTokens levels (us ++ .comma :: vs ++ .closeAngle :: rest) =
            .ok (t, .comma :: (vs ++ .closeAngle :: rest)) :=
          item.mpr ⟨hd.1, by simp, us, h, by simp⟩
        have shorter : (vs ++ .closeAngle :: rest).length ≤ fuel := by
          simp only [List.length_append, List.length_cons] at hf ⊢
          omega
        have others : commaSeparated (ofTokens levels) fuel (vs ++ .closeAngle :: rest) =
            .ok (params, .closeAngle :: rest) :=
          (ih shorter).mpr ⟨hd.2, vs, hl, rfl⟩
        rw [first]
        simp only [others]

/-- The parser reads a type exactly where it is spelled at the front of the tokens, if its levels
suffice and what is left does not go on with the parameters of a type that is only a word. -/
theorem ofTokens_eq_ok_iff {levels : Nat} {ts : List TypeToken} {t : TypeRef}
    {rest : List TypeToken} :
    ofTokens levels ts = .ok (t, rest) ↔ t.depth ≤ levels ∧
      (t.depth = 0 → rest.head? ≠ some .openAngle) ∧ ∃ us, Spells t us ∧ ts = us ++ rest := by
  -- Types in brackets are read with one level less, which is where the hypothesis is used.
  induction levels using Nat.strongRecOn generalizing ts t rest with
  | ind levels ih =>
      have parameters {n : Nat} (hn : levels = n + 1) {inner : List TypeToken}
          {params : List TypeRef} :
          commaSeparated (ofTokens n) inner.length inner = .ok (params, .closeAngle :: rest) ↔
            (∀ p ∈ params, p.depth ≤ n) ∧
              ∃ us, Listed params us ∧ inner = us ++ .closeAngle :: rest :=
        commaSeparated_eq_ok_iff (ih n (by omega)) (Nat.le_refl inner.length)
      rw [ofTokens_eq_ok_cases]
      constructor
      · rintro (⟨w, rfl, hrest, ht⟩ | ⟨n, w, inner, params, rfl, rfl, hparams, happ⟩)
        · obtain ⟨spells, depth⟩ := spells_of_ofWord ht
          exact ⟨depth ▸ Nat.zero_le _, fun _ => hrest, _, spells, rfl⟩
        · obtain ⟨hd, us, hl, rfl⟩ := (parameters rfl).mp hparams
          exact ⟨happ.depth_le_iff.mpr hd, fun h => absurd h happ.depth_ne_zero, _,
            happ.spells hl, by simp⟩
      · rintro ⟨hd, hrest, us, hs, rfl⟩
        obtain ⟨w, rfl, ht, depth⟩ | ⟨w, params, inner, rfl, happ, hl⟩ := hs.word_or_brackets
        · exact .inl ⟨w, rfl, hrest depth, ht⟩
        · obtain ⟨n, rfl⟩ : ∃ n, levels = n + 1 := by
            have := happ.depth_ne_zero
            exact ⟨levels - 1, by omega⟩
          refine .inr ⟨n, w, inner ++ .closeAngle :: rest, params, rfl, by simp, ?_, happ⟩
          exact (parameters rfl).mpr ⟨happ.depth_le_iff.mp hd, inner, hl, rfl⟩

end TypeRef

end CommandCompiler
