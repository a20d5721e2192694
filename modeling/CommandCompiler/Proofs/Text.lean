import CommandCompiler.Text.Blank
import CommandCompiler.Text.CodePoint
import CommandCompiler.Text.Identifier
import CommandCompiler.Text.Utf8
import Mathlib.Data.List.DropRight
/-!
# CommandCompiler.Proofs.Text

What the names of commands, of fields and of types are made of, and how texts are
held.

* `trim_eq_empty_iff` : trimming leaves nothing of a text exactly when all of it
  is blank;
* `Padded` : texts with blanks around them, which is what trimming takes off and
  all that it takes off (`Padded.trim_eq`, `padded_trim`);
* `isUpper_iff`, `isLower_iff`, `isDigit_iff` : the ASCII letters and digits as ranges;
* `IsWord` : the words of type expressions, none of whose characters is blank;
* `hasHalf_eq_false_of_isName` : a name holds no half of a surrogate pair, so it
  can always be looked at as a key;
* `IsHeld` : texts as they come from outside, and none of them is held as another
  (`holdText_injective`);
* `Utf8.spellingFault?_eq_none_iff` : which texts UTF-8 can spell.
-/

namespace CommandCompiler.Text

/-! ## Blank texts -/

theorem dropBlanks_eq_nil_iff {cs : List Char} : dropBlanks cs = [] ↔ ∀ c ∈ cs, isBlank c :=
  List.dropWhile_eq_nil_iff

/-- Trimming leaves nothing exactly when there is nothing but blanks. -/
theorem trim_eq_empty_iff {s : String} : trim s = "" ↔ ∀ c ∈ s.toList, isBlank c := by
  have ends : trim s = "" ↔ ∀ c ∈ dropBlanks s.toList, isBlank c := by
    rw [trim, ← String.toList_inj]
    simp [dropTrailingBlanks, dropBlanks_eq_nil_iff]
  have again : dropBlanks (dropBlanks s.toList) = dropBlanks s.toList :=
    List.dropWhile_idempotent isBlank _
  rw [ends, ← dropBlanks_eq_nil_iff, again, dropBlanks_eq_nil_iff]

/-! ## Texts between blanks -/

/-- Whether a text is another one with any blanks before and after it. -/
def Padded (core s : String) : Prop :=
  ∃ before after : List Char, (∀ c ∈ before, isBlank c) ∧ (∀ c ∈ after, isBlank c) ∧
    s.toList = before ++ core.toList ++ after

theorem dropBlanks_append_of_blank {before cs : List Char} (h : ∀ c ∈ before, isBlank c) :
    dropBlanks (before ++ cs) = dropBlanks cs :=
  List.dropWhile_append_of_pos h

theorem dropTrailingBlanks_append_of_blank {cs after : List Char} (h : ∀ c ∈ after, isBlank c) :
    dropTrailingBlanks (cs ++ after) = dropTrailingBlanks cs := by
  rw [dropTrailingBlanks, List.reverse_append,
    dropBlanks_append_of_blank fun c hc => h c (List.mem_reverse.mp hc), ← dropTrailingBlanks]

/-- Trimming takes off what a text is padded with. -/
theorem Padded.trim_eq {core s : String} (h : Padded core s) : trim s = trim core := by
  obtain ⟨before, after, hb, ha, hs⟩ := h
  rw [trim, trim, hs, List.append_assoc, dropBlanks_append_of_blank hb]
  congr 1
  by_cases blank : dropBlanks core.toList = []
  · rw [dropBlanks_append_of_blank (dropBlanks_eq_nil_iff.mp blank), blank,
      dropBlanks_eq_nil_iff.mpr ha]
  · have kept : dropBlanks (core.toList ++ after) = dropBlanks core.toList ++ after := by
      rw [dropBlanks, List.dropWhile_append, if_neg (by simpa [dropBlanks] using blank)]
      rfl
    rw [kept, dropTrailingBlanks_append_of_blank ha]

theorem exists_dropBlanks (cs : List Char) :
    ∃ before, (∀ c ∈ before, isBlank c) ∧ cs = before ++ dropBlanks cs :=
  ⟨cs.takeWhile isBlank, fun _ => List.mem_takeWhile_imp, List.takeWhile_append_dropWhile.symm⟩

/-- What is left without leading blanks is the trimmed text, and blanks after it. -/
theorem exists_trim_append (s : String) :
    ∃ after, (∀ c ∈ after, isBlank c) ∧ dropBlanks s.toList = (trim s).toList ++ after := by
  obtain ⟨after, ha, back⟩ := exists_dropBlanks (dropBlanks s.toList).reverse
  refine ⟨after.reverse, fun c hc => ha c (List.mem_reverse.mp hc), ?_⟩
  rw [← List.reverse_inj, back]
  simp [trim, dropTrailingBlanks]

/-- A text is what trimming leaves of it, with blanks before and after. -/
theorem padded_trim (s : String) : Padded (trim s) s := by
  obtain ⟨before, hb, front⟩ := exists_dropBlanks s.toList
  obtain ⟨after, ha, back⟩ := exists_trim_append s
  exact ⟨before, after, hb, ha, by rw [List.append_assoc, ← back, ← front]⟩

/-- A trimmed text does not start with a blank. -/
theorem isBlank_head_trim {s : String} {c : Char} (h : (trim s).toList.head? = some c) :
    isBlank c = false := by
  obtain ⟨after, -, back⟩ := exists_trim_append s
  have first : (dropBlanks s.toList).head? = some c := by
    rw [back, List.head?_append, h]
    rfl
  have := List.head?_dropWhile_not isBlank s.toList
  rw [← dropBlanks, first] at this
  simpa using this

@[simp] theorem trim_trim (s : String) : trim (trim s) = trim s := (padded_trim s).trim_eq.symm

/-! ## ASCII letters and digits -/

theorem isUpper_iff {c : Char} : c.isUpper ↔ 65 ≤ c.toNat ∧ c.toNat ≤ 90 := by
  show (decide (c.val ≥ 'A'.val ∧ c.val ≤ 'Z'.val)) = true ↔ _
  rw [decide_eq_true_eq, ge_iff_le, UInt32.le_iff_toNat_le, UInt32.le_iff_toNat_le]
  rfl

theorem isLower_iff {c : Char} : c.isLower ↔ 97 ≤ c.toNat ∧ c.toNat ≤ 122 := by
  show (c.val ≥ 'a'.val && c.val ≤ 'z'.val) = true ↔ _
  rw [Bool.and_eq_true, decide_eq_true_eq, decide_eq_true_eq, ge_iff_le,
    UInt32.le_iff_toNat_le, UInt32.le_iff_toNat_le]
  rfl

theorem isDigit_iff {c : Char} : c.isDigit ↔ 48 ≤ c.toNat ∧ c.toNat ≤ 57 :=
  Char.isDigit_iff_toNat

theorem isAlpha_iff {c : Char} : c.isAlpha ↔ c.isUpper ∨ c.isLower := by
  rw [← Bool.or_eq_true]
  rfl

theorem isAlphanum_iff {c : Char} : c.isAlphanum ↔ c.isAlpha ∨ c.isDigit := by
  rw [← Bool.or_eq_true]
  rfl

theorem isWordStart_iff {c : Char} : isWordStart c ↔ c.isAlpha ∨ c = '_' := by
  rw [isWordStart, Bool.or_eq_true, beq_iff_eq]

theorem isWordChar_iff {c : Char} : isWordChar c ↔ isWordStart c ∨ c.isDigit := by
  rw [isWordChar, Bool.or_eq_true, beq_iff_eq, isAlphanum_iff, isWordStart_iff, or_right_comm]

/-! ## Words -/

/-- What is found for a word, among things that are told apart by their words, is what the word
belongs to. -/
theorem find?_word_eq_some_iff {α : Type} {word : α → String} {all : List α}
    (apart : ∀ a, all.find? (word · == word a) = some a) {w : String} {a : α} :
    all.find? (word · == w) = some a ↔ word a = w := by
  constructor
  · intro h
    have found := List.find?_some h
    exact eq_of_beq found
  · rintro rfl
    exact apart a

/-- A word: an ASCII letter or underscore, and any number of ASCII letters, digits and underscores
after it. -/
def IsWord (s : String) : Prop :=
  ∃ c cs, s.toList = c :: cs ∧ isWordStart c ∧ ∀ d ∈ cs, isWordChar d

instance : DecidablePred IsWord := fun s =>
  match h : s.toList with
  | [] => isFalse (by simp [IsWord, h])
  | c :: cs => decidable_of_iff (isWordStart c ∧ cs.all isWordChar) (by simp [IsWord, h])

/-- The word characters as the ranges that they are. -/
theorem toNat_of_isWordChar {c : Char} (h : isWordChar c) :
    65 ≤ c.toNat ∧ c.toNat ≤ 90 ∨ 97 ≤ c.toNat ∧ c.toNat ≤ 122 ∨
      48 ≤ c.toNat ∧ c.toNat ≤ 57 ∨ c.toNat = 95 := by
  simp only [isWordChar_iff, isWordStart_iff, isAlpha_iff, isUpper_iff, isLower_iff,
    isDigit_iff] at h
  rcases h with ((h | h) | rfl) | h
  · exact .inl h
  · exact .inr (.inl h)
  · exact .inr (.inr (.inr rfl))
  · exact .inr (.inr (.inl h))

/-- The word characters are ASCII. -/
theorem toNat_lt_of_isWordChar {c : Char} (h : isWordChar c) : c.toNat < 0x80 := by
  have := toNat_of_isWordChar h
  omega

/-- No character of a word is blank. -/
theorem isBlank_eq_false_of_isWordChar {c : Char} (h : isWordChar c) : isBlank c = false := by
  have := toNat_of_isWordChar h
  simp only [isBlank, Bool.or_eq_false_iff, Bool.and_eq_false_iff, decide_eq_false_iff_not,
    beq_eq_false_iff_ne]
  omega

theorem isWordChar_of_isWordStart {c : Char} (h : isWordStart c) : isWordChar c :=
  isWordChar_iff.mpr (.inl h)

/-! ## Names as keys -/

theorem lt_of_inRanges {ranges : List (Nat × Nat)} {n bound : Nat} (h : inRanges ranges n)
    (hb : ranges.all (·.2 < bound)) : n < bound := by
  simp only [inRanges, List.any_eq_true, Bool.and_eq_true, decide_eq_true_eq] at h
  obtain ⟨r, hr, -, hn⟩ := h
  exact Nat.lt_of_le_of_lt hn (by simpa using List.all_eq_true.mp hb r hr)

/-- The characters of identifiers lie below the block of those that do not stand for
themselves. -/
theorem isReserved_eq_false_of_isIdentifierChar {c : Char} (h : isIdentifierChar c) :
    isReserved c = false := by
  have word (h : isWordChar c) : c.toNat < 0x10D7FF :=
    Nat.lt_trans (toNat_lt_of_isWordChar h) (by decide)
  have below : c.toNat < 0x10D7FF := by
    simp only [isIdentifierChar, isIdentifierStart, Bool.or_eq_true, Bool.and_eq_true] at h
    rcases h with (h | h | ⟨-, h⟩) | ⟨-, h⟩
    · exact word h
    · exact word (isWordChar_of_isWordStart h)
    · exact lt_of_inRanges h (by decide +kernel)
    · exact lt_of_inRanges h (by decide +kernel)
  simp only [isReserved, Bool.and_eq_false_iff, decide_eq_false_iff_not]
  exact .inl (Nat.not_le_of_lt below)

/-- No character is half a surrogate pair. -/
theorem isHalf_toNat (c : Char) : isHalf c.toNat = false := by
  have := c.valid
  simp only [isHalf, Bool.and_eq_false_iff, decide_eq_false_iff_not, Char.toNat]
  rcases this with h | h
  · left
    omega
  · right
    omega

/-- A name holds no half of a surrogate pair. -/
theorem hasHalf_eq_false_of_isName {s : String} (h : isName s) : hasHalf s = false := by
  have plain : ∀ c ∈ s.toList, isReserved c = false := by
    simp only [isName, isIdentifier, Bool.and_eq_true] at h
    obtain ⟨h, -⟩ := h
    split at h
    · cases h
    · rename_i c cs hs
      rw [hs]
      simp only [Bool.and_eq_true, List.all_eq_true] at h
      intro d hd
      refine isReserved_eq_false_of_isIdentifierChar ?_
      rcases List.mem_cons.mp hd with rfl | hd
      · exact isIdentifierChar_of_start h.1
      · exact h.2 d hd
  rw [hasHalf, codePoints_of_plain plain]
  simp [isHalf_toNat]

/-! ## Texts from outside -/

theorem codePoints_cons_plain {c : Char} (h : isReserved c = false) (cs : List Char) :
    codePoints (c :: cs) = c.toNat :: codePoints cs := by
  have point : pointOf c = c.toNat := by simp [pointOf, h]
  cases cs with
  | nil => simp [codePoints, point]
  | cons d cs =>
      have other : c ≠ guardChar := by
        rintro rfl
        exact absurd h (by decide)
      simp [codePoints, point, other]

/-- The code points that a text from outside is held with are its own. -/
theorem codePoints_holdText (s : String) :
    codePoints (holdText s).toList = s.toList.map Char.toNat := by
  rw [holdText, String.toList_ofList]
  induction s.toList with
  | nil => rfl
  | cons c cs ih =>
      rw [List.flatMap_cons, List.map_cons, ← ih, holdChar]
      cases h : isReserved c with
      | true => simp [codePoints]
      | false => exact codePoints_cons_plain h _

theorem hold_toNat (c : Char) : hold c.toNat = holdChar c := by
  simp [hold, isHalf_toNat, Char.ofNat_toNat]

/-- No two texts from outside are held alike. -/
theorem holdText_injective : Function.Injective holdText := by
  have toNat_injective : Function.Injective Char.toNat := fun c d h => by
    rw [← Char.ofNat_toNat c, h, Char.ofNat_toNat]
  intro s s' h
  have points : s.toList.map Char.toNat = s'.toList.map Char.toNat := by
    rw [← codePoints_holdText, ← codePoints_holdText, h]
  exact String.toList_inj.mp (List.map_injective_iff.mpr toNat_injective points)

/-- A text as it is held when it comes from outside. -/
def IsHeld (s : String) : Prop := ∃ p : String, holdText p = s

theorem isHeld_holdText (p : String) : IsHeld (holdText p) := ⟨p, rfl⟩

/-- A text of characters that stand for themselves is held as it is. -/
theorem isHeld_of_plain {s : String} (h : s.toList.any isReserved = false) : IsHeld s := by
  have each : ∀ c ∈ s.toList, holdChar c = [c] := fun c hc => by
    simp [holdChar, Bool.eq_false_iff.mpr (List.any_eq_false.mp h c hc)]
  refine ⟨s, ?_⟩
  rw [holdText, List.flatMap_congr each, List.flatMap_singleton', String.ofList_toList]

/-- A text from outside holds no half of a surrogate pair. -/
theorem hasHalf_eq_false_of_isHeld {s : String} (h : IsHeld s) : hasHalf s = false := by
  obtain ⟨p, rfl⟩ := h
  rw [hasHalf, codePoints_holdText]
  simp [isHalf_toNat]

/-- UTF-8 can spell a text just if there is no half of a surrogate pair in it. -/
theorem Utf8.spellingFault?_eq_none_iff {s : String} :
    spellingFault? s = none ↔ hasHalf s = false := by
  have scan (position : Nat) (ns : List Nat) :
      firstFault (fun _ => false) position ns = none ↔ ns.any isHalf = false := by
    induction ns generalizing position with
    | nil => simp [firstFault]
    | cons n ns ih => cases h : isHalf n <;> simp [firstFault, h, ih]
  exact scan 0 _

end CommandCompiler.Text
