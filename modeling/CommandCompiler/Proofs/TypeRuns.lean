import CommandCompiler.Proofs.TypeSpelling
import Mathlib.Data.List.SplitBy
/-!
# CommandCompiler.Proofs.TypeRuns

**Tokens are the runs of a text.** A text is cut into runs of word characters, as
long as they can be, and single other characters (`Text.runs`), without a look at
what a token is. It can be read if each character is blank, a symbol or a word
character, and no run starts with a digit (`TypeToken.Readable`).

A scan that succeeds gives the runs that are not blank, so that nothing but blanks
is lost (`TypeToken.map_text_of_scan`). A scan that fails does so at the first
character with which the text up to there can no longer be read
(`TypeToken.exists_of_scanFrom_error`). `TypeRef.tokenize_exact` puts both together
with the one case that only the parser looks at, a text without any token.

A character that belongs to no word parts the text: what stands before it and what
stands after it is cut, and can be read, on its own (`Text.runs_append_cons`,
`TypeToken.readable_append_cons_iff`). All inductions rest on that.
-/

namespace CommandCompiler

namespace Text

/-- No digit starts a word. -/
theorem isWordStart_eq_false_of_isDigit {c : Char} (h : c.isDigit) : isWordStart c = false := by
  rw [isDigit_iff] at h
  by_contra start
  rw [Bool.not_eq_false, isWordStart_iff, isAlpha_iff, isUpper_iff, isLower_iff] at start
  rcases start with (start | start) | rfl
  · omega
  · omega
  · exact absurd h (by decide)

/-! ## Runs -/

/-- A text cut wherever two characters side by side are not both word characters. The parts are the
runs of word characters, as long as they can be, and every other character on its own. -/
def runs (cs : List Char) : List (List Char) :=
  cs.splitBy fun c d => isWordChar c && isWordChar d

/-- Whether something in a run is not blank. -/
def isInked (r : List Char) : Bool := r.any (!isBlank ·)

section Runs

variable {w cs : List Char}

theorem runs_of_wordChars (hw : ∀ c ∈ w, isWordChar c) (hne : w ≠ []) : runs w = [w] := by
  refine List.splitBy_of_isChain hne ?_
  rw [List.isChain_iff_forall_rel_of_append_cons_cons]
  rintro c d before after rfl
  simp [hw c (by simp), hw d (by simp)]

/-- A character that belongs to no word is cut off on both sides. -/
theorem runs_append_cons {c : Char} (hc : isWordChar c = false) (before after : List Char) :
    runs (before ++ c :: after) = runs before ++ [c] :: runs after := by
  rw [runs, List.splitBy_append_cons after (by simp [hc])]
  exact congrArg _ (List.splitBy_append (l := [c]) (by simp [hc]))

/-- A text starts as some run of it does. -/
theorem exists_mem_runs_cons (c : Char) (cs : List Char) :
    ∃ r ∈ runs (c :: cs), r.head? = some c := by
  have hne : runs (c :: cs) ≠ [] := List.splitBy_ne_nil.mpr (List.cons_ne_nil c cs)
  refine ⟨(runs (c :: cs)).head hne, List.head_mem hne, ?_⟩
  rw [List.head?_eq_some_head (List.ne_nil_of_mem_splitBy (List.head_mem hne)), Option.some_inj]
  exact List.head_head_splitBy _ (List.cons_ne_nil c cs)

/-- A word that ends is the one run of it. -/
theorem endRun_eq_runs (hw : ∀ c ∈ w, isWordChar c) (rest : List String) :
    endRun w rest = ((runs w).filter isInked).map .ofList ++ rest := by
  unfold endRun
  split
  · subst_vars
    rfl
  · rename_i hne
    obtain ⟨c, w, rfl⟩ := List.exists_cons_of_ne_nil hne
    have inked : isInked (c :: w) = true := by
      simp [isInked, isBlank_eq_false_of_isWordChar (hw c (by simp))]
    rw [runs_of_wordChars hw hne, List.filter_singleton, inked]
    rfl

/-- The pieces of a text are the runs that are not blank. -/
theorem piecesFrom_eq_runs (hw : ∀ c ∈ w, isWordChar c) :
    piecesFrom w cs = ((runs (w ++ cs)).filter isInked).map .ofList := by
  -- The word that has been read may go on, so that it is cut together with what follows.
  induction cs generalizing w with
  | nil => simpa [piecesFrom] using endRun_eq_runs hw []
  | cons c cs ih =>
      rw [piecesFrom]
      split
      · rename_i word
        have longer : ∀ d ∈ w ++ [c], isWordChar d :=
          List.forall_mem_append.mpr ⟨hw, List.forall_mem_singleton.mpr word⟩
        simpa using ih longer
      · rename_i noWord
        rw [runs_append_cons (by simpa using noWord)]
        split
        · rename_i blank
          simp [endRun_eq_runs hw, ih (w := []), isInked, blank]
        · rename_i notBlank
          simp [endRun_eq_runs hw, ih (w := []), isInked, notBlank]

end Runs

end Text

namespace TypeToken

/-! ## Texts that can be read -/

/-- Whether each character of a text belongs to a token or stands between tokens: it is blank, a
symbol or a word character, and no run of word characters starts with a digit. -/
structure Readable (cs : List Char) : Prop where
  known : ∀ c ∈ cs, Text.isBlank c ∨ c ∈ ['<', '>', ','] ∨ Text.isWordChar c
  starts : ∀ r ∈ Text.runs cs, ∀ c ∈ r.head?, ¬ c.isDigit

section Readable

variable {c : Char} {cs : List Char}

theorem Readable.nil : Readable [] := ⟨nofun, nofun⟩

/-- What stands before and after a character that belongs to no word is read on its own. -/
theorem readable_append_cons_iff (hc : Text.isWordChar c = false) {before after : List Char} :
    Readable (before ++ c :: after) ↔
      Readable before ∧ (Text.isBlank c ∨ c ∈ ['<', '>', ',']) ∧ Readable after := by
  have noDigit : ¬ c.isDigit := by
    intro digit
    rw [Text.isWordChar_iff.mpr (.inr digit)] at hc
    cases hc
  constructor
  · rintro ⟨known, starts⟩
    rw [Text.runs_append_cons hc] at starts
    simp only [List.forall_mem_append, List.forall_mem_cons] at known starts
    obtain ⟨knownBefore, knownHere, knownAfter⟩ := known
    obtain ⟨startsBefore, -, startsAfter⟩ := starts
    exact ⟨⟨knownBefore, startsBefore⟩, by simpa [hc] using knownHere, ⟨knownAfter, startsAfter⟩⟩
  · rintro ⟨before, known, after⟩
    constructor
    · rw [List.forall_mem_append, List.forall_mem_cons]
      exact ⟨before.known, known.imp_right .inl, after.known⟩
    · rw [Text.runs_append_cons hc, List.forall_mem_append, List.forall_mem_cons]
      exact ⟨before.starts, by simpa using noDigit, after.starts⟩

/-- A word can be read. -/
theorem readable_word {w : List Char} (hw : w = [] ∨ Text.IsWord (.ofList w)) : Readable w := by
  rcases hw with rfl | ⟨c, cs, hw, start, rest⟩
  · exact .nil
  · rw [String.toList_ofList] at hw
    subst hw
    have chars : ∀ d ∈ c :: cs, Text.isWordChar d :=
      List.forall_mem_cons.mpr ⟨Text.isWordChar_of_isWordStart start, rest⟩
    refine ⟨fun d hd => .inr (.inr (chars d hd)), ?_⟩
    rw [Text.runs_of_wordChars chars (List.cons_ne_nil c cs), List.forall_mem_singleton]
    rintro _ ⟨⟩ digit
    rw [Text.isWordStart_eq_false_of_isDigit digit] at start
    cases start

theorem not_readable_of_isDigit (hc : c.isDigit) (cs : List Char) : ¬ Readable (c :: cs) := by
  intro h
  obtain ⟨r, hr, first⟩ := Text.exists_mem_runs_cons c cs
  exact h.starts r hr c first hc

end Readable

/-! ## One character -/

section Step

variable {w cs : List Char} {c d : Char}

theorem isSome_symbol?_iff : (symbol? c).isSome ↔ c ∈ ['<', '>', ','] := by
  unfold symbol?
  grind

/-- What a scan that fails does with one character: it goes on with it, or the character is the one
that belongs to no token. -/
theorem scanFrom_cons_eq_error (h : scanFrom w (c :: cs) = .error d) :
    (Text.isWordChar c ∧ (w ≠ [] ∨ Text.isWordStart c) ∧ scanFrom (w ++ [c]) cs = .error d) ∨
      (Text.isWordChar c = false ∧ (Text.isBlank c ∨ c ∈ ['<', '>', ',']) ∧
        scanFrom [] cs = .error d) ∨
      d = c ∧ ((w = [] ∧ c.isDigit) ∨
        Text.isWordChar c = false ∧ ¬ (Text.isBlank c ∨ c ∈ ['<', '>', ','])) := by
  have failed {ε α β : Type} {f : α → β} {r : Except ε α} {e : ε} (h : f <$> r = .error e) :
      r = .error e := by
    cases r <;> cases h
    rfl
  rw [scanFrom] at h
  split at h
  · rename_i word
    split at h
    · rename_i noStart
      cases h
      exact .inr (.inr ⟨rfl, .inl ⟨noStart.1,
        (Text.isWordChar_iff.mp word).resolve_left noStart.2⟩⟩)
    · exact .inl ⟨word, by grind, h⟩
  · rename_i noWord
    have noWord : Text.isWordChar c = false := by simpa using noWord
    split at h
    · rename_i blank
      exact .inr (.inl ⟨noWord, .inl blank, failed h⟩)
    · rename_i notBlank
      split at h
      · rename_i t symbol
        exact .inr (.inl ⟨noWord, .inr (isSome_symbol?_iff.mp (by simp [symbol])), failed h⟩)
      · rename_i noSymbol
        cases h
        have noSymbol : c ∉ ['<', '>', ','] := by
          rw [← isSome_symbol?_iff, noSymbol]
          exact Bool.false_ne_true
        exact .inr (.inr ⟨rfl, .inr ⟨noWord, not_or.mpr ⟨notBlank, noSymbol⟩⟩⟩)

end Step

/-! ## Scans -/

section Scan

variable {w cs : List Char} {ts : List TypeToken}

/-- What is scanned can be read. -/
theorem readable_of_scanFrom (hw : w = [] ∨ Text.IsWord (.ofList w)) (h : scanFrom w cs = .ok ts) :
    Readable (w ++ cs) := by
  -- What goes on a word stays with it; any other character parts what was read from the rest.
  induction cs generalizing w ts with
  | nil => simpa using readable_word hw
  | cons c cs ih =>
      obtain ⟨hc, start, h⟩ | ⟨hc, us, hus, -⟩ | ⟨t, us, ht, hus, -⟩ := scanFrom_cons_eq_ok h
      · simpa using ih (.inr (isWord_concat hw hc start)) h
      · have noWord : Text.isWordChar c = false := by
          by_contra word
          simp [Text.isBlank_eq_false_of_isWordChar (eq_true_of_ne_false word)] at hc
        exact (readable_append_cons_iff noWord).mpr ⟨readable_word hw, .inl hc, ih (.inl rfl) hus⟩
      · have symbol : c ∈ ['<', '>', ','] := isSome_symbol?_iff.mp (by simp [ht])
        exact (readable_append_cons_iff (symbol?_eq_some ht).2.1).mpr
          ⟨readable_word hw, .inr symbol, ih (.inl rfl) hus⟩

/-- A scan fails in a text that cannot be read, at the first character with which it cannot. -/
theorem exists_of_scanFrom_error {c : Char} (hw : w = [] ∨ Text.IsWord (.ofList w))
    (h : scanFrom w cs = .error c) :
    ¬ Readable (w ++ cs) ∧ ∃ before after, cs = before ++ c :: after ∧ Readable (w ++ before) ∧
      ¬ Readable (w ++ (before ++ [c])) := by
  induction cs generalizing w with
  | nil => cases h
  | cons d cs ih =>
      obtain ⟨hd, start, h⟩ | ⟨noWord, known, h⟩ | ⟨rfl, ⟨rfl, digit⟩ | ⟨noWord, unknown⟩⟩ :=
        scanFrom_cons_eq_error h
      · obtain ⟨whole, before, after, rfl, first, next⟩ := ih (.inr (isWord_concat hw hd start)) h
        exact ⟨by simpa using whole, d :: before, after, rfl, by simpa using first,
          by simpa using next⟩
      · obtain ⟨whole, before, after, rfl, first, next⟩ := ih (.inl rfl) h
        refine ⟨?_, d :: before, after, rfl, ?_, ?_⟩
        · rw [readable_append_cons_iff noWord]
          exact fun h => whole h.2.2
        · exact (readable_append_cons_iff noWord).mpr ⟨readable_word hw, known, first⟩
        · rw [List.cons_append, readable_append_cons_iff noWord]
          exact fun h => next h.2.2
      · have spoils (rest : List Char) := not_readable_of_isDigit digit rest
        exact ⟨spoils cs, [], cs, rfl, .nil, spoils []⟩
      · have spoils (rest : List Char) : ¬ Readable (w ++ c :: rest) := by
          rw [readable_append_cons_iff noWord]
          exact fun h => unknown h.2.1
        exact ⟨spoils cs, [], cs, rfl, by simpa using readable_word hw, spoils []⟩

/-- Where tokens are written, they are the text without its blanks. -/
theorem Written.flatMap_text (h : Written ts cs) (words : ∀ w, word w ∈ ts → Text.IsWord w) :
    ts.flatMap (·.text.toList) = cs.filter (!Text.isBlank ·) := by
  induction h with
  | nil blank => simpa [List.filter_eq_nil_iff] using blank
  | @cons gap cs t ts blank rest ih =>
      have gap : gap.filter (!Text.isBlank ·) = [] := by
        simpa [List.filter_eq_nil_iff] using blank
      have token : ∀ c ∈ t.text.toList, Text.isBlank c = false := by
        cases t with
        | word w =>
            obtain ⟨c, v, hc, start, rest⟩ := words w (List.mem_cons_self ..)
            rw [text, hc, List.forall_mem_cons]
            have chars {d : Char} (h : Text.isWordChar d) := Text.isBlank_eq_false_of_isWordChar h
            exact ⟨chars (Text.isWordChar_of_isWordStart start), fun d hd => chars (rest d hd)⟩
        | openAngle | closeAngle | comma => exact List.forall_mem_singleton.mpr rfl
      have token : t.text.toList.filter (!Text.isBlank ·) = t.text.toList := by
        rw [List.filter_eq_self]
        exact fun c hc => by simp [token c hc]
      rw [List.flatMap_cons, ih fun w hw => words w (List.mem_cons_of_mem t hw), List.filter_append,
        List.filter_append, gap, token, List.nil_append]

/-- The tokens of a text are its runs without the blank ones, and nothing but blanks is lost. -/
theorem map_text_of_scan {s : String} (h : scan s = .ok ts) :
    ts.map text = ((Text.runs s.toList).filter Text.isInked).map .ofList ∧
      ts.flatMap (·.text.toList) = s.toList.filter (!Text.isBlank ·) := by
  obtain ⟨written, words⟩ := written_of_scanFrom (.inl rfl) h
  exact ⟨(piecesFrom_of_scanFrom h).symm.trans (Text.piecesFrom_eq_runs nofun),
    written.flatMap_text words⟩

/-- Only a blank text has no tokens. -/
theorem scan_eq_nil_iff {s : String} : scan s = .ok [] ↔ ∀ c ∈ s.toList, Text.isBlank c := by
  constructor
  · intro h
    cases (written_of_scanFrom (.inl rfl) h).1 with
    | nil blank => exact blank
  · intro blank
    simpa [scan, scanFrom, endWord] using @scanFrom_blanks _ [] blank

end Scan

end TypeToken

namespace Text

/-- What is named of a character in a text starts with it, and is one code point. -/
theorem withGuarded_names {c : Char} {s : String} (h : c ∈ s.toList) :
    (withGuarded c s).toList.head? = some c ∧
      (codePoints (withGuarded c s).toList).length = 1 := by
  unfold withGuarded
  split
  · rename_i guard
    obtain ⟨before, after, hs, new⟩ := List.eq_append_cons_of_mem h
    have dropped : s.toList.dropWhile (· ≠ c) = c :: after := by
      rw [hs, List.dropWhile_append_of_pos fun d hd => by simpa using ne_of_mem_of_not_mem hd new]
      simp
    rw [String.toList_ofList, dropped]
    cases after <;> simp [codePoints, guard]
  · simp [codePoints]

end Text

namespace TypeRef

theorem tokenize_eq_ok_iff {s : String} {ts : List TypeToken} :
    tokenize s = .ok ts ↔ TypeToken.scan s = .ok ts ∧ ts ≠ [] := by
  unfold tokenize
  cases TypeToken.scan s with
  | error c => simp
  | ok us =>
      cases us with
      | nil => simp
      | cons t us =>
          simp only [Except.ok.injEq, iff_self_and]
          rintro rfl
          exact List.cons_ne_nil t us

/-- A text that is not blank has no tokens only because of a character that it names. -/
theorem tokenize_eq_error {s : String} {fault : Fault} (h : tokenize s = .error fault)
    (inked : ¬ ∀ c ∈ s.toList, Text.isBlank c) :
    ∃ c, TypeToken.scan s = .error c ∧ fault = .unexpectedCharacter c := by
  unfold tokenize at h
  split at h
  · rename_i c hc
    cases h
    exact ⟨c, hc, rfl⟩
  · rename_i hnil
    exact absurd (TypeToken.scan_eq_nil_iff.mp hnil) inked
  · cases h

/-- **Tokens are the runs of a text.** There are tokens exactly if the text is not blank and can be
read. They are its runs but for the blank ones, so that all of the text is in them but its blanks.
Otherwise, of a text that is not blank, the one character is named with which the text up to there
can no longer be read. A type is parsed from the tokens alone. -/
theorem tokenize_exact (s : String) :
    ((∃ ts, tokenize s = .ok ts) ↔
      (¬ ∀ c ∈ s.toList, Text.isBlank c) ∧ TypeToken.Readable s.toList) ∧
    (∀ ts, tokenize s = .ok ts →
      ts.map TypeToken.text = ((Text.runs s.toList).filter Text.isInked).map .ofList ∧
        ts.flatMap (·.text.toList) = s.toList.filter (!Text.isBlank ·)) ∧
    (∀ fault, tokenize s = .error fault → (¬ ∀ c ∈ s.toList, Text.isBlank c) →
      ∃ c before after named, s.toList = before ++ c :: after ∧
        TypeToken.Readable before ∧ ¬ TypeToken.Readable (before ++ [c]) ∧
        fault.message s = s!"Unexpected character {Text.quote named} in type '{s}'" ∧
        named.toList.head? = some c ∧ (Text.codePoints named.toList).length = 1) ∧
    parse s = (tokenize s).bind ofAllTokens := by
  refine ⟨?_, ?_, ?_, rfl⟩
  · simp only [tokenize_eq_ok_iff]
    constructor
    · rintro ⟨ts, scanned, hne⟩
      refine ⟨fun blank => hne ?_, TypeToken.readable_of_scanFrom (.inl rfl) scanned⟩
      rw [TypeToken.scan_eq_nil_iff.mpr blank] at scanned
      exact (Except.ok.inj scanned).symm
    · rintro ⟨inked, readable⟩
      cases scanned : TypeToken.scan s with
      | error c => exact absurd readable (TypeToken.exists_of_scanFrom_error (.inl rfl) scanned).1
      | ok ts =>
          refine ⟨ts, rfl, ?_⟩
          rintro rfl
          exact inked (TypeToken.scan_eq_nil_iff.mp scanned)
  · intro ts h
    exact TypeToken.map_text_of_scan (tokenize_eq_ok_iff.mp h).1
  · intro fault h inked
    obtain ⟨c, scanned, rfl⟩ := tokenize_eq_error h inked
    obtain ⟨-, before, after, hs, readable, spoiled⟩ :=
      TypeToken.exists_of_scanFrom_error (.inl rfl) scanned
    have hc : c ∈ s.toList := by simp [hs]
    exact ⟨c, before, after, Text.withGuarded c s, hs, readable, spoiled, rfl,
      Text.withGuarded_names hc⟩

/-- A text with a blank inside of brackets, and one in which a word starts with a digit. -/
theorem tokenize_digitStart :
    ["Map", "<", "Card", ",", "X_1", ">"] =
        ((Text.runs "Map<Card,\u2003X_1>".toList).filter Text.isInked).map .ofList ∧
      ∃ (c : Char) (before after : List Char) (named : String),
        "Map<Card, 1_X>".toList = before ++ c :: after ∧
        TypeToken.Readable before ∧ ¬ TypeToken.Readable (before ++ [c]) ∧
        named.toList.head? = some c ∧ (Text.codePoints named.toList).length = 1 := by
  obtain ⟨-, read, -⟩ := tokenize_exact "Map<Card,\u2003X_1>"
  obtain ⟨-, -, refused, -⟩ := tokenize_exact "Map<Card, 1_X>"
  refine
    ⟨(read [.word "Map", .openAngle, .word "Card", .comma, .word "X_1", .closeAngle] rfl).1, ?_⟩
  have inked : ¬ ∀ c ∈ "Map<Card, 1_X>".toList, Text.isBlank c := fun blank =>
    absurd (blank 'M' (by decide)) (by decide)
  obtain ⟨c, before, after, named, hs, readable, spoiled, -, first, one⟩ :=
    refused (.unexpectedCharacter '1') rfl inked
  exact ⟨c, before, after, named, hs, readable, spoiled, first, one⟩

end TypeRef

end CommandCompiler
