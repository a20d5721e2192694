import CommandCompiler.Proofs.Text
import CommandCompiler.TypeRef.Token
import Mathlib.Data.List.Chain
/-!
# CommandCompiler.Proofs.TypeTokens

**Scanning reads what is written.** Nothing of the scan is needed to say what
stands in a text:

* `TypeToken.Written` : the texts in which given tokens are written, with any
  blanks before, between and after them;
* `TypeToken.Apart` : the tokens that need no blank between them.

What a scan can do with one character is said once (`scanFrom_cons_eq_ok`). The
tokens that it gives are written in the text (`written_of_scanFrom`), and tokens
are given where they are written, unless two of them are words side by side
(`scanFrom_of_written`).
-/

namespace CommandCompiler

/-- A function is applied to the result of what succeeds, and to nothing else. -/
theorem map_eq_ok_iff {ε α β : Type} {f : α → β} {r : Except ε α} {b : β} :
    f <$> r = .ok b ↔ ∃ a, r = .ok a ∧ f a = b := by
  cases r with
  | error e => exact ⟨nofun, nofun⟩
  | ok a =>
      constructor
      · intro h
        exact ⟨a, rfl, Except.ok.inj h⟩
      · rintro ⟨_, ⟨⟩, rfl⟩
        rfl

namespace TypeToken

/-! ## What is written in a text -/

/-- Texts in which tokens are written one after another, with any blanks before, between and after
them. -/
inductive Written : List TypeToken → List Char → Prop
  | nil {gap : List Char} (blank : ∀ c ∈ gap, Text.isBlank c) : Written [] gap
  | cons {gap cs : List Char} {t : TypeToken} {ts : List TypeToken}
      (blank : ∀ c ∈ gap, Text.isBlank c) (rest : Written ts cs) :
      Written (t :: ts) (gap ++ (t.text.toList ++ cs))

/-- Whether a token is a word. -/
def isWord : TypeToken → Bool
  | word _ => true
  | openAngle | closeAngle | comma => false

/-- Whether two tokens are told apart without a blank between them. -/
def Apart (a b : TypeToken) : Prop := ¬ (a.isWord = true ∧ b.isWord = true)

/-! ## One character -/

section Step

variable {w cs : List Char} {c : Char} {t : TypeToken}

/-- The character of a symbol is all of the symbol, and is neither part of a word nor blank. -/
theorem symbol?_eq_some (h : symbol? c = some t) :
    (t.text.toList = [c] ∧ t.isWord = false) ∧
      Text.isWordChar c = false ∧ Text.isBlank c = false := by
  have cases : c = '<' ∨ c = '>' ∨ c = ',' := by
    unfold symbol? at h
    grind
  rcases cases with rfl | rfl | rfl <;> cases h <;> decide

theorem scanFrom_cons_wordChar (hc : Text.isWordChar c) (hw : w ≠ [] ∨ Text.isWordStart c) :
    scanFrom w (c :: cs) = scanFrom (w ++ [c]) cs := by
  have goesOn : ¬ (w = [] ∧ ¬ Text.isWordStart c = true) := by
    rintro ⟨rfl, hs⟩
    exact hw.elim (fun h => h rfl) hs
  rw [scanFrom, if_pos hc, if_neg goesOn]

theorem scanFrom_cons_blank (hc : Text.isBlank c) :
    scanFrom w (c :: cs) = endWord w <$> scanFrom [] cs := by
  have noWord : ¬ Text.isWordChar c = true := by
    intro h
    simp [Text.isBlank_eq_false_of_isWordChar h] at hc
  rw [scanFrom, if_neg noWord, if_pos hc]

theorem scanFrom_cons_symbol (hc : symbol? c = some t) :
    scanFrom w (c :: cs) = (fun ts => endWord w (t :: ts)) <$> scanFrom [] cs := by
  obtain ⟨-, noWord, notBlank⟩ := symbol?_eq_some hc
  simp [scanFrom, noWord, notBlank, hc]

/-- What a scan that succeeds does with one character. -/
theorem scanFrom_cons_eq_ok {ts : List TypeToken} (h : scanFrom w (c :: cs) = .ok ts) :
    (Text.isWordChar c ∧ (w ≠ [] ∨ Text.isWordStart c) ∧ scanFrom (w ++ [c]) cs = .ok ts) ∨
      (Text.isBlank c ∧ ∃ us, scanFrom [] cs = .ok us ∧ ts = endWord w us) ∨
      ∃ t us, symbol? c = some t ∧ scanFrom [] cs = .ok us ∧ ts = endWord w (t :: us) := by
  rw [scanFrom] at h
  split at h
  · rename_i word
    split at h
    · cases h
    · rename_i goesOn
      exact .inl ⟨word, by grind, h⟩
  · split at h
    · rename_i blank
      obtain ⟨us, hus, rfl⟩ := map_eq_ok_iff.mp h
      exact .inr (.inl ⟨blank, us, hus, rfl⟩)
    · split at h
      · rename_i t ht
        obtain ⟨us, hus, rfl⟩ := map_eq_ok_iff.mp h
        exact .inr (.inr ⟨t, us, ht, hus, rfl⟩)
      · cases h

end Step

/-! ## Writing tokens -/

theorem Written.cons_blank {c : Char} {ts : List TypeToken} {cs : List Char}
    (hc : Text.isBlank c) (h : Written ts cs) : Written ts (c :: cs) := by
  cases h with
  | nil blank => exact .nil (List.forall_mem_cons.mpr ⟨hc, blank⟩)
  | @cons gap _ _ _ blank rest =>
    exact @Written.cons (c :: gap) _ _ _ (List.forall_mem_cons.mpr ⟨hc, blank⟩) rest

theorem Written.cons_token {t : TypeToken} {ts : List TypeToken} {cs : List Char}
    (h : Written ts cs) : Written (t :: ts) (t.text.toList ++ cs) :=
  @Written.cons [] _ _ _ nofun h

theorem Written.token (t : TypeToken) : Written [t] t.text.toList := by
  simpa using (Written.nil (nofun : ∀ c ∈ [], Text.isBlank c)).cons_token (t := t)

/-- Texts are written one after another as their tokens are. -/
theorem Written.append {ts us : List TypeToken} {cs ds : List Char} (h : Written ts cs)
    (h' : Written us ds) : Written (ts ++ us) (cs ++ ds) := by
  induction h with
  | @nil gap blank =>
      induction gap with
      | nil => exact h'
      | cons c gap ih =>
          rw [List.forall_mem_cons] at blank
          exact (ih blank.2).cons_blank blank.1
  | cons blank rest ih => simpa using Written.cons blank ih

/-! ## What is scanned is written -/

/-- After a word that ends here, what follows is written as before. -/
theorem Written.endWord {w cs : List Char} {ts : List TypeToken} (h : Written ts cs) :
    Written (endWord w ts) (w ++ cs) := by
  unfold TypeToken.endWord
  split
  · subst_vars
    exact h
  · simpa [text] using h.cons_token (t := .word (.ofList w))

theorem isWord_of_mem_endWord {v : List Char} {ts : List TypeToken}
    (hv : v = [] ∨ Text.IsWord (.ofList v)) (h : ∀ w, word w ∈ ts → Text.IsWord w) :
    ∀ w, word w ∈ endWord v ts → Text.IsWord w := by
  unfold endWord
  split
  · exact h
  · rename_i hne
    intro w hw
    rcases List.mem_cons.mp hw with heq | hw
    · cases heq
      exact hv.resolve_left hne
    · exact h w hw

/-- A word with one more character is a word. -/
theorem isWord_concat {w : List Char} {c : Char} (hw : w = [] ∨ Text.IsWord (.ofList w))
    (hc : Text.isWordChar c) (start : w ≠ [] ∨ Text.isWordStart c) :
    Text.IsWord (.ofList (w ++ [c])) := by
  rcases hw with rfl | ⟨d, ds, hw, hd, hds⟩
  · exact ⟨c, [], by simp, start.resolve_left (· rfl), nofun⟩
  · rw [String.toList_ofList] at hw
    subst hw
    refine ⟨d, ds ++ [c], by simp, hd, fun e he => ?_⟩
    rcases List.mem_append.mp he with he | he
    · exact hds e he
    · rwa [List.mem_singleton.mp he]

/-- The scan of what follows the word `v`, if it succeeds, gives tokens that are written in `v` and
what follows it, and each word among them is one. -/
theorem written_of_scanFrom {v cs : List Char} {ts : List TypeToken}
    (hv : v = [] ∨ Text.IsWord (.ofList v)) (h : scanFrom v cs = .ok ts) :
    Written ts (v ++ cs) ∧ ∀ w, word w ∈ ts → Text.IsWord w := by
  -- `v` is the word that has been read so far, and grows while the characters get fewer.
  induction cs generalizing v ts with
  | nil =>
      cases h
      exact ⟨Written.endWord (.nil nofun), isWord_of_mem_endWord hv nofun⟩
  | cons c cs ih =>
      obtain ⟨hc, start, h⟩ | ⟨hc, us, hus, rfl⟩ | ⟨t, us, ht, hus, rfl⟩ := scanFrom_cons_eq_ok h
      · simpa using ih (.inr (isWord_concat hv hc start)) h
      · obtain ⟨written, words⟩ := ih (.inl rfl) hus
        exact ⟨(written.cons_blank hc).endWord, isWord_of_mem_endWord hv words⟩
      · obtain ⟨written, words⟩ := ih (.inl rfl) hus
        obtain ⟨⟨text, noWord⟩, -⟩ := symbol?_eq_some ht
        have written : Written (t :: us) (c :: cs) := by
          simpa [text] using written.cons_token (t := t)
        refine ⟨written.endWord, isWord_of_mem_endWord hv fun w hw => ?_⟩
        rcases List.mem_cons.mp hw with rfl | hw
        · cases noWord
        · exact words w hw

/-! ## What is written is scanned -/

theorem scanFrom_blanks {gap cs : List Char} (blank : ∀ c ∈ gap, Text.isBlank c) :
    scanFrom [] (gap ++ cs) = scanFrom [] cs := by
  induction gap with
  | nil => rfl
  | cons c gap ih =>
      rw [List.forall_mem_cons] at blank
      rw [List.cons_append, scanFrom_cons_blank blank.1, ih blank.2]
      exact id_map _

/-- A word that has begun goes on with word characters. -/
theorem scanFrom_wordChars {w v cs : List Char} (hw : w ≠ [])
    (hv : ∀ c ∈ v, Text.isWordChar c) : scanFrom w (v ++ cs) = scanFrom (w ++ v) cs := by
  induction v generalizing w with
  | nil => simp
  | cons c v ih =>
      rw [List.forall_mem_cons] at hv
      rw [List.cons_append, scanFrom_cons_wordChar hv.1 (.inl hw), ih (by simp) hv.2]
      simp

/-- A word ends where no character of a word follows. -/
theorem scanFrom_eq_endWord {w cs : List Char}
    (hcs : ∀ c ∈ cs.head?, Text.isWordChar c = false) :
    scanFrom w cs = endWord w <$> scanFrom [] cs := by
  cases cs with
  | nil => rfl
  | cons c cs =>
      have noWord : Text.isWordChar c = false := hcs c rfl
      by_cases hb : Text.isBlank c
      · rw [scanFrom_cons_blank hb, scanFrom_cons_blank hb]
        exact congrArg _ (id_map _).symm
      · cases hs : symbol? c with
        | none => simp [scanFrom, noWord, hb, hs]
        | some t =>
            rw [scanFrom_cons_symbol hs, scanFrom_cons_symbol hs, ← comp_map]
            rfl

theorem scanFrom_word {w : String} {cs : List Char} (hw : Text.IsWord w)
    (hcs : ∀ c ∈ cs.head?, Text.isWordChar c = false) :
    scanFrom [] (w.toList ++ cs) = (word w :: ·) <$> scanFrom [] cs := by
  obtain ⟨c, v, hc, start, rest⟩ := hw
  have ends : endWord w.toList = (word w :: ·) := by
    funext ts
    rw [endWord, if_neg (by simp [hc]), String.ofList_toList]
  rw [← ends, ← scanFrom_eq_endWord hcs, hc, List.cons_append,
    scanFrom_cons_wordChar (Text.isWordChar_of_isWordStart start) (.inr start)]
  exact scanFrom_wordChars (by simp) rest

/-- Where a word is not written first, no character of a word comes first. -/
theorem Written.head_not_wordChar {ts : List TypeToken} {cs : List Char} (h : Written ts cs)
    (hts : ∀ t ∈ ts.head?, t.isWord = false) : ∀ c ∈ cs.head?, Text.isWordChar c = false := by
  have blank {c : Char} (hc : Text.isBlank c) : Text.isWordChar c = false := by
    by_contra h
    simp [Text.isBlank_eq_false_of_isWordChar (eq_true_of_ne_false h)] at hc
  intro c hc
  cases h with
  | nil gap => exact blank (gap c (List.mem_of_mem_head? hc))
  | @cons gap cs t ts hgap rest =>
      cases gap with
      | cons d gap =>
          obtain rfl : d = c := by simpa using hc
          exact blank (hgap d (List.mem_cons_self ..))
      | nil =>
          cases t with
          | word w => cases hts _ rfl
          | openAngle | closeAngle | comma =>
              obtain rfl := Option.some.inj hc
              decide

/-- Tokens are scanned where they are written, unless two words stand beside each other. -/
theorem scanFrom_of_written {ts : List TypeToken} {cs : List Char} (h : Written ts cs)
    (words : ∀ w, word w ∈ ts → Text.IsWord w) (apart : ts.IsChain Apart) :
    scanFrom [] cs = .ok ts := by
  induction h with
  | nil blank => simpa [scanFrom, endWord] using @scanFrom_blanks _ [] blank
  | @cons gap cs t ts blank rest ih =>
      rw [List.isChain_cons] at apart
      have ih := ih (fun w hw => words w (List.mem_cons_of_mem _ hw)) apart.2
      rw [scanFrom_blanks blank]
      cases t with
      | word w =>
          have next : ∀ u ∈ ts.head?, u.isWord = false := fun u hu => by
            simpa [Apart, isWord] using apart.1 u hu
          rw [text, scanFrom_word (words w (List.mem_cons_self ..)) (rest.head_not_wordChar next),
            ih]
          rfl
      | openAngle | closeAngle | comma =>
          show scanFrom [] (_ :: cs) = _
          rw [scanFrom_cons_symbol rfl, ih]
          rfl

end TypeToken

end CommandCompiler
