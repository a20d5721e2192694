import CommandCompiler.Proofs.TypeGrammar
/-!
# CommandCompiler.Proofs.TypeText

**A text is parsed to the one type it spells.** The types that have texts are the
canonical ones (`TypeRef.Canonical`), and a text spells such a type if the tokens
of the type are written in it, up to the two words for types that may be absent
(`TypeRef.SpelledBy`).

Both halves of the parser meet in `parse_eq_ok_iff`: the scan reads tokens where
they are written if no two of them are words side by side, and there are none in
what the grammar spells (`Spells.isChain_apart`). That the text of a type spells
it is seen without a parser (`written_format`), so that nothing more is needed
for the way back from a text to its type.
-/

namespace CommandCompiler

/-- The token that a token is another spelling of: `Option` means `Optional`. -/
def TypeToken.plain : TypeToken → TypeToken
  | word w => word (if w = "Option" then "Optional" else w)
  | t => t

namespace TypeToken

theorem eq_of_plain_eq_symbol {t u : TypeToken} (h : t.plain = u) (hu : u.isWord = false) :
    t = u := by
  cases t with
  | word w =>
      subst h
      cases hu
  | openAngle | closeAngle | comma => exact h

theorem eq_of_plain_eq_word {t : TypeToken} {w : String} (h : t.plain = .word w)
    (hw : w ≠ "Optional") : t = .word w := by
  cases t with
  | word v =>
      simp only [plain, word.injEq] at h
      split at h
      · exact absurd h.symm hw
      · rw [h]
  | openAngle | closeAngle | comma => cases h

theorem exists_of_plain_eq_optional {t : TypeToken} (h : t.plain = .word "Optional") :
    ∃ w, t = .word w ∧ TypeRef.isOptionalWord w = true := by
  cases t with
  | word v =>
      refine ⟨v, rfl, ?_⟩
      simp only [plain, word.injEq] at h
      split at h
      · subst_vars
        rfl
      · subst h
        rfl
  | openAngle | closeAngle | comma => cases h

/-- Tokens that are other spellings of a word and brackets after it are such tokens themselves. -/
theorem exists_of_map_plain {head : TypeToken} {ts inner : List TypeToken}
    (h : ts.map plain = head :: .openAngle :: (inner ++ [.closeAngle])) :
    ∃ t us, ts = t :: .openAngle :: (us ++ [.closeAngle]) ∧ t.plain = head ∧
      us.map plain = inner := by
  obtain ⟨t, ts, rfl, ht, h⟩ := List.map_eq_cons_iff.mp h
  obtain ⟨a, ts, rfl, ha, h⟩ := List.map_eq_cons_iff.mp h
  obtain ⟨us, bs, rfl, hus, h⟩ := List.map_eq_append_iff.mp h
  obtain ⟨b, rfl, hb⟩ := List.map_eq_singleton_iff.mp h
  obtain rfl := eq_of_plain_eq_symbol ha rfl
  obtain rfl := eq_of_plain_eq_symbol hb rfl
  exact ⟨t, us, rfl, ht, hus⟩

end TypeToken

namespace TypeRef

/-! ## The texts of types -/

/-- The names of the named types in a type. -/
def names : TypeRef → List String
  | primitive _ => []
  | list element => element.names
  | map key value => key.names ++ value.names
  | optional inner => inner.names
  | named name => [name]

/-- A type that a text can spell: its names are words that mean nothing else, and no more than 32
types with parameters stand inside one another. -/
structure Canonical (t : TypeRef) : Prop where
  names : ∀ name ∈ t.names, Text.IsWord name ∧ name ∉ reservedWords
  depth : t.depth ≤ 32

instance : DecidablePred Canonical := fun t =>
  decidable_of_iff ((∀ name ∈ t.names, Text.IsWord name ∧ name ∉ reservedWords) ∧ t.depth ≤ 32)
    ⟨fun h => ⟨h.1, h.2⟩, fun h => ⟨h.names, h.depth⟩⟩

/-- The tokens of the text of a type. -/
def tokens : TypeRef → List TypeToken
  | primitive p => [.word p.name]
  | list element => .word "List" :: .openAngle :: (element.tokens ++ [.closeAngle])
  | map key value =>
    .word "Map" :: .openAngle :: (key.tokens ++ .comma :: value.tokens ++ [.closeAngle])
  | optional inner => .word "Optional" :: .openAngle :: (inner.tokens ++ [.closeAngle])
  | named name => [.word name]

/-- Whether a text spells a type: the tokens of the type are written in it, with any blanks before,
between and after them, where `Option` may stand for `Optional`. -/
def SpelledBy (t : TypeRef) (s : String) : Prop :=
  ∃ ts : List TypeToken, ts.map TypeToken.plain = t.tokens ∧ TypeToken.Written ts s.toList

/-! ## The tokens that spell a type -/

section Spells

variable {t : TypeRef} {ts : List TypeToken}

theorem Spells.map_plain (h : Spells t ts) : ts.map TypeToken.plain = t.tokens := by
  induction h with
  | primitive p => cases p <;> rfl
  | list h ih => simp [tokens, TypeToken.plain, ih]
  | map hk hv ihk ihv => simp [tokens, TypeToken.plain, ihk, ihv]
  | optional hw h ih =>
      simp only [isOptionalWord, Bool.or_eq_true, beq_iff_eq] at hw
      rcases hw with rfl | rfl <;> simp [tokens, TypeToken.plain, ih]
  | @named name h =>
      have other : name ≠ "Option" := by
        rintro rfl
        exact h (by decide)
      simp [tokens, TypeToken.plain, other]

theorem Spells.names_not_reserved (h : Spells t ts) : ∀ name ∈ t.names, name ∉ reservedWords := by
  induction h with
  | primitive p => nofun
  | list h ih | optional hw h ih => exact ih
  | map hk hv ihk ihv => exact List.forall_mem_append.mpr ⟨ihk, ihv⟩
  | named h => simpa [names] using h

/-- The tokens of a type spell it, also where some of them stand in the other spelling. -/
theorem spells_of_map_plain (h : ts.map TypeToken.plain = t.tokens)
    (free : ∀ name ∈ t.names, name ∉ reservedWords) : Spells t ts := by
  induction t generalizing ts with
  | primitive p =>
      obtain ⟨u, rfl, hu⟩ := List.map_eq_singleton_iff.mp h
      obtain rfl := TypeToken.eq_of_plain_eq_word hu (by cases p <;> decide)
      exact .primitive p
  | list element ih =>
      obtain ⟨u, us, rfl, hu, hus⟩ := TypeToken.exists_of_map_plain h
      obtain rfl := TypeToken.eq_of_plain_eq_word hu (by decide)
      exact .list (ih hus free)
  | map key value ihk ihv =>
      obtain ⟨freeKey, freeValue⟩ := List.forall_mem_append.mp free
      obtain ⟨u, us, rfl, hu, hus⟩ := TypeToken.exists_of_map_plain h
      obtain rfl := TypeToken.eq_of_plain_eq_word hu (by decide)
      obtain ⟨ks, us, rfl, hks, hus⟩ := List.map_eq_append_iff.mp hus
      obtain ⟨c, vs, rfl, hc, hvs⟩ := List.map_eq_cons_iff.mp hus
      obtain rfl := TypeToken.eq_of_plain_eq_symbol hc rfl
      exact .map (ihk hks freeKey) (ihv hvs freeValue)
  | optional inner ih =>
      obtain ⟨u, us, rfl, hu, hus⟩ := TypeToken.exists_of_map_plain h
      obtain ⟨w, rfl, hw⟩ := TypeToken.exists_of_plain_eq_optional hu
      exact .optional hw (ih hus free)
  | named name =>
      have free : name ∉ reservedWords := free name (List.mem_singleton_self name)
      obtain ⟨u, rfl, hu⟩ := List.map_eq_singleton_iff.mp h
      have plain : name ≠ "Optional" := by
        rintro rfl
        exact free (by decide)
      obtain rfl := TypeToken.eq_of_plain_eq_word hu plain
      exact .named free

/-- A type is spelled by its own tokens, unless a name in it means something else. -/
theorem spells_tokens (free : ∀ name ∈ t.names, name ∉ reservedWords) : Spells t t.tokens := by
  induction t with
  | primitive p => exact .primitive p
  | list element ih => exact .list (ih free)
  | map key value ihk ihv =>
      obtain ⟨freeKey, freeValue⟩ := List.forall_mem_append.mp free
      exact .map (ihk freeKey) (ihv freeValue)
  | optional inner ih => exact .optional rfl (ih free)
  | named name => exact .named (free name (List.mem_singleton_self name))

theorem Canonical.spells_tokens (h : t.Canonical) : Spells t t.tokens :=
  TypeRef.spells_tokens fun name hn => (h.names name hn).2

/-- No two words stand side by side in what spells a type. -/
theorem Spells.isChain_apart (h : Spells t ts) : ts.IsChain TypeToken.Apart := by
  induction h with
  | primitive p => exact .singleton _
  | named h => exact .singleton _
  | list h ih | optional hw h ih =>
      simp [List.isChain_cons, List.isChain_append, TypeToken.Apart, TypeToken.isWord, ih]
  | map hk hv ihk ihv =>
      simp [List.isChain_cons, List.isChain_append, TypeToken.Apart, TypeToken.isWord, ihk, ihv]

/-- The words that spell a type are words exactly if the names in it are: all others are
reserved. -/
theorem Spells.words_iff (h : Spells t ts) :
    (∀ w, .word w ∈ ts → Text.IsWord w) ↔ ∀ name ∈ t.names, Text.IsWord name := by
  have reserved {w : String} (hw : w ∈ reservedWords) : Text.IsWord w := by
    have each : ∀ w ∈ reservedWords, Text.IsWord w := by decide
    exact each w hw
  have brackets {w : String} (hw : w ∈ reservedWords) {us : List TypeToken} :
      (∀ v, .word v ∈ .word w :: .openAngle :: (us ++ [.closeAngle]) → Text.IsWord v) ↔
        ∀ v, .word v ∈ us → Text.IsWord v := by
    simp [or_imp, forall_and, reserved hw]
  induction h with
  | primitive p => simpa [names] using reserved (mem_reservedWords_iff.mpr (.inl ⟨p, rfl⟩))
  | named h => simp [names]
  | list h ih => exact (brackets (by decide)).trans ih
  | map hk hv ihk ihv =>
      rw [brackets (by decide)]
      simp [or_imp, forall_and, names, ihk, ihv]
  | optional hw h ih =>
      refine (brackets (mem_reservedWords_iff.mpr (.inr ?_))).trans ih
      simp [isGenericWord, hw]

end Spells

/-! ## Parsing a text -/

/-- All of the tokens are a type if one is read from them and nothing is left. -/
theorem ofAllTokens_eq_ok_iff {ts : List TypeToken} {t : TypeRef} :
    ofAllTokens ts = .ok t ↔ ofTokens maxDepth ts = .ok (t, []) := by
  unfold ofAllTokens
  split <;> simp [*]

/-- A text is parsed to a type if it can be scanned and the tokens are all of a type. -/
theorem parse_eq_ok_iff_scan {s : String} {t : TypeRef} :
    parse s = .ok t ↔ ∃ ts, TypeToken.scan s = .ok ts ∧ ofTokens maxDepth ts = .ok (t, []) := by
  unfold parse tokenize
  cases TypeToken.scan s with
  | error c => simp [Except.bind]
  | ok ts =>
      cases ts with
      | nil => simp [ofTokens, Except.bind]
      | cons u ts => simpa [Except.bind] using @ofAllTokens_eq_ok_iff (u :: ts) t

/-- Tokens that spell a canonical type are scanned where they are written. -/
theorem Canonical.scan_eq {s : String} {t : TypeRef} {ts : List TypeToken} (h : t.Canonical)
    (spells : Spells t ts) (written : TypeToken.Written ts s.toList) :
    TypeToken.scan s = .ok ts :=
  have words := spells.words_iff.mpr fun name hn => (h.names name hn).1
  TypeToken.scanFrom_of_written written words spells.isChain_apart

/-- A text is parsed to a type exactly if the type is canonical and the text spells it. -/
theorem parse_eq_ok_iff {s : String} {t : TypeRef} :
    parse s = .ok t ↔ t.Canonical ∧ t.SpelledBy s := by
  rw [parse_eq_ok_iff_scan]
  constructor
  · rintro ⟨ts, hscan, hparse⟩
    obtain ⟨depth, -, us, spells, rfl⟩ := ofTokens_eq_ok_iff.mp hparse
    rw [List.append_nil] at hscan
    obtain ⟨written, words⟩ := TypeToken.written_of_scanFrom (.inl rfl) hscan
    have names := spells.words_iff.mp words
    exact ⟨⟨fun name h => ⟨names name h, spells.names_not_reserved name h⟩, depth⟩, us,
      spells.map_plain, written⟩
  · rintro ⟨canonical, ts, plain, written⟩
    -- All tokens belong to the type, so that nothing is left that could go on with it.
    have spells : Spells t ts :=
      spells_of_map_plain plain fun name h => (canonical.names name h).2
    refine ⟨ts, canonical.scan_eq spells written, ?_⟩
    exact ofTokens_eq_ok_iff.mpr ⟨canonical.depth, nofun, ts, spells, by simp⟩

/-! ## Writing a text -/

theorem written_brackets {w : String} {ts : List TypeToken} {s : String}
    (h : TypeToken.Written ts s.toList) :
    TypeToken.Written (.word w :: .openAngle :: (ts ++ [.closeAngle]))
      (w ++ "<" ++ s ++ ">").toList := by
  have := ((TypeToken.Written.token (.word w)).append (.token .openAngle)).append
    (h.append (.token .closeAngle))
  simpa [TypeToken.text] using this

/-- The tokens of a type are written in its text. -/
theorem written_format (t : TypeRef) : TypeToken.Written t.tokens t.format.toList := by
  induction t with
  | primitive p => exact .token (.word p.name)
  | named name => exact .token (.word name)
  | list element ih | optional inner ih => exact written_brackets ih
  | map key value ihk ihv =>
      have comma : TypeToken.Written [.comma] ", ".toList :=
        (TypeToken.Written.token .comma).append (.nil (List.forall_mem_singleton.mpr rfl))
      have inside : TypeToken.Written (key.tokens ++ .comma :: value.tokens)
          (key.format ++ ", " ++ value.format).toList := by
        simpa using (ihk.append comma).append ihv
      simpa [format, tokens] using written_brackets (w := "Map") inside

/-- The text of a canonical type spells it. -/
theorem Canonical.spelledBy_format {t : TypeRef} (h : t.Canonical) : t.SpelledBy t.format :=
  ⟨t.tokens, h.spells_tokens.map_plain, written_format t⟩

/-! ## Texts and types -/

/-- **Text and type are inverse on the canonical types, and on no others.** Exactly the canonical
types are parsed back from their texts, and the parser gives no other types; so any text that it
accepts has the same type as the text of its type. -/
theorem parse_format_inverse :
    (∀ t : TypeRef, parse t.format = .ok t ↔ t.Canonical) ∧
      ∀ (s : String) (t : TypeRef), parse s = .ok t → t.Canonical ∧ parse t.format = parse s := by
  have back {t : TypeRef} (h : t.Canonical) : parse t.format = .ok t :=
    parse_eq_ok_iff.mpr ⟨h, h.spelledBy_format⟩
  refine ⟨fun t => ⟨fun h => (parse_eq_ok_iff.mp h).1, back⟩, fun s t h => ?_⟩
  have canonical : t.Canonical := (parse_eq_ok_iff.mp h).1
  exact ⟨canonical, (back canonical).trans h.symm⟩

/-- A text in another spelling than that of its type. -/
theorem parse_format_optionMap :
    parse (map (primitive .string) (optional (named "Card"))).format =
      parse "Map<String,Option< Card >>" :=
  (parse_format_inverse.2 "Map<String,Option< Card >>"
    (map (primitive .string) (optional (named "Card"))) (by decide)).2

/-- **The parser accepts exactly its grammar.** A text is parsed to a type if and only if the type
is canonical and the text spells it, and is rejected if it spells no canonical type. The tokens of a
canonical type are those that its own text is scanned to. -/
theorem parse_iff_spelled (s : String) :
    (∀ t : TypeRef, parse s = .ok t ↔ t.Canonical ∧ t.SpelledBy s) ∧
      ((∃ fault, parse s = .error fault) ↔ ¬ ∃ t : TypeRef, t.Canonical ∧ t.SpelledBy s) ∧
      ∀ t : TypeRef, t.Canonical → TypeToken.scan t.format = .ok t.tokens := by
  refine ⟨fun t => parse_eq_ok_iff, ?_, fun t h => ?_⟩
  · have accepted (t : TypeRef) : parse s = .ok t ↔ t.Canonical ∧ t.SpelledBy s := parse_eq_ok_iff
    simp only [← accepted]
    cases parse s <;> simp
  · exact h.scan_eq h.spells_tokens (written_format t)

/-- A text with blanks between its tokens, and the tokens of its type. -/
theorem parse_spaced_optionList :
    parse "\tList < Option<Card>\u2003> " = .ok (list (optional (named "Card"))) ∧
      TypeToken.scan (list (optional (named "Card"))).format =
        .ok [.word "List", .openAngle, .word "Optional", .openAngle, .word "Card", .closeAngle,
          .closeAngle] := by
  obtain ⟨accepted, -, tokens⟩ := parse_iff_spelled "\tList < Option<Card>\u2003> "
  have canonical : (list (optional (named "Card"))).Canonical := by decide
  refine ⟨(accepted _).mpr ⟨canonical, ?_⟩, tokens _ canonical⟩
  exact ⟨[.word "List", .openAngle, .word "Option", .openAngle, .word "Card", .closeAngle,
    .closeAngle], rfl, (TypeToken.written_of_scanFrom (.inl rfl) rfl).1⟩

end TypeRef

end CommandCompiler
