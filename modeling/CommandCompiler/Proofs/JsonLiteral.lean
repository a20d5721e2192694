import CommandCompiler.Json.Parser
import CommandCompiler.Json.Printer
import CommandCompiler.Proofs.Text
/-!
# CommandCompiler.Proofs.JsonLiteral

**String literals are read as the texts that they are written for**, whatever
follows them. Each way to write a character (`escape_cases`) has a lemma that says
what the reader does with it; together they are one step (`stringBody_escape`), and
the run over a text is an induction on its characters
(`stringBody_flatMap_escape`).

An escape of one code unit is read with an eye on what follows: after the first
half of a surrogate pair, another escape may be the second. No character is such
a half, so that nothing but the escapes of one character is ever joined.
-/

namespace CommandCompiler.Json

/-- What a character can be written as: by the letter of its escape, as itself, or by its code
point. -/
theorem escape_cases (c : Char) :
    (∃ x, escape c = ['\\', x] ∧ namedEscape? x = some c) ∨
      (escape c = [c] ∧ c ≠ '"' ∧ c ≠ '\\' ∧ ' ' ≤ c ∧ c ≤ '~') ∨
      escape c = pointEscape c.toNat := by
  unfold escape
  split_ifs with quote backslash newline carriageReturn tab backspace feed printable
  · exact .inl ⟨_, rfl, by rw [quote]; rfl⟩
  · exact .inl ⟨_, rfl, by rw [backslash]; rfl⟩
  · exact .inl ⟨_, rfl, by rw [newline]; rfl⟩
  · exact .inl ⟨_, rfl, by rw [carriageReturn]; rfl⟩
  · exact .inl ⟨_, rfl, by rw [tab]; rfl⟩
  · exact .inl ⟨_, rfl, by rw [backspace]; rfl⟩
  · exact .inl ⟨_, rfl, by rw [feed]; rfl⟩
  · exact .inr (.inl ⟨rfl, quote, backslash, printable⟩)
  · exact .inr (.inr rfl)

/-- Four digits are read as the code unit that they spell. -/
theorem exists_unit?_fixed {n : Nat} (hn : n < 0x10000) :
    ∃ a b c d, Text.Hex.fixed 4 n = [a, b, c, d] ∧ unit? a b c d = some n := by
  obtain ⟨a, b, c, d, digits⟩ := List.length_eq_four.mp (Text.Hex.length_fixed 4 n)
  refine ⟨a, b, c, d, digits, ?_⟩
  have all : [a, b, c, d].all Text.Hex.isDigit = true := by
    rw [← digits, List.all_eq_true]
    exact fun c => Text.Hex.isDigit_of_mem_fixed
  rw [unit?, if_pos all, ← digits, Text.Hex.value_fixed]
  exact congrArg some (Nat.mod_eq_of_lt hn)

section StringBody

variable {opening n m : Nat} {tail : List Char}

/-- An escape of a code unit is read on its own, unless it may be the first half of a pair and the
escape of a second half follows. -/
theorem stringBody_alone {a b c d : Char} (unit : unit? a b c d = some n) (ht : tail ≠ [])
    (alone : isHigh n = true → ∀ a' b' c' d' tail',
      tail = '\\' :: 'u' :: a' :: b' :: c' :: d' :: tail' →
        ∃ m, unit? a' b' c' d' = some m ∧ isLow m = false) :
    stringBody opening ('\\' :: 'u' :: a :: b :: c :: d :: tail) =
      consPoint n (stringBody opening tail) := by
  obtain ⟨e, rest, rfl⟩ := List.exists_cons_of_ne_nil ht
  -- The reader has an eye on an escape that follows, but only the first half of a pair needs it.
  by_cases next : ∃ a' b' c' d' e' rest',
      e = '\\' ∧ rest = 'u' :: a' :: b' :: c' :: d' :: e' :: rest'
  · obtain ⟨a', b', c', d', e', rest', rfl, rfl⟩ := next
    rw [stringBody, unit]
    cases high : isHigh n with
    | false => simp [high]
    | true =>
        obtain ⟨m, unit', low⟩ := alone high _ _ _ _ _ rfl
        simp [high, unit', low]
  · rw [stringBody, unit]
    exact fun a' b' c' d' e' rest' he hr => next ⟨a', b', c', d', e', rest', he, hr⟩

theorem stringBody_unit (hn : n < 0x10000) (alone : isHigh n = false) (ht : tail ≠ []) :
    stringBody opening (unitEscape n ++ tail) = consPoint n (stringBody opening tail) := by
  obtain ⟨a, b, c, d, digits, unit⟩ := exists_unit?_fixed hn
  rw [unitEscape, digits]
  exact stringBody_alone unit ht fun high => absurd high (by simp [alone])

theorem stringBody_joined {a b c d a' b' c' d' : Char} (unit : unit? a b c d = some n)
    (hn : isHigh n) (unit' : unit? a' b' c' d' = some m) (hm : isLow m) (ht : tail ≠ []) :
    stringBody opening
        ('\\' :: 'u' :: a :: b :: c :: d :: '\\' :: 'u' :: a' :: b' :: c' :: d' :: tail) =
      consPoint (pairPoint n m) (stringBody opening tail) := by
  obtain ⟨e, rest, rfl⟩ := List.exists_cons_of_ne_nil ht
  rw [stringBody, unit]
  simp only [hn, unit', hm, if_true]

theorem stringBody_pair (hn : isHigh n) (hm : isLow m) (ht : tail ≠ []) :
    stringBody opening (unitEscape n ++ (unitEscape m ++ tail)) =
      consPoint (pairPoint n m) (stringBody opening tail) := by
  have bounds : n < 0x10000 ∧ m < 0x10000 := by
    simp only [isHigh, isLow, Bool.and_eq_true, decide_eq_true_eq] at hn hm
    omega
  obtain ⟨a, b, c, d, digits, unit⟩ := exists_unit?_fixed bounds.1
  obtain ⟨a', b', c', d', digits', unit'⟩ := exists_unit?_fixed bounds.2
  rw [unitEscape, unitEscape, digits, digits']
  exact stringBody_joined unit hn unit' hm ht

theorem stringBody_named {c x : Char} (hc : namedEscape? c = some x) :
    stringBody opening ('\\' :: c :: tail) = consPoint x.toNat (stringBody opening tail) := by
  have other : c ≠ 'u' := by
    rintro rfl
    cases hc
  rw [stringBody, hc]
  · exact fun _ _ _ _ _ _ _ _ _ _ h => absurd h other
  · exact fun _ _ _ _ _ _ h => absurd h other
  · exact other

/-- A character that is written as itself is read as itself. -/
theorem stringBody_self {c : Char} (hq : c ≠ '"') (hb : c ≠ '\\') (hc : 0x20 ≤ c.toNat)
    (plain : Text.isReserved c = false) :
    stringBody opening (c :: tail) = consPoint c.toNat (stringBody opening tail) := by
  have held : Text.hold c.toNat = [c] := by
    rw [Text.hold_toNat, Text.holdChar, if_neg (by simp [plain])]
  rw [stringBody, if_neg (Nat.not_lt.mpr hc), consPoint, held]
  · rfl
  -- no other way to read the character is left
  all_goals simp [hq, hb]

/-- A code point beyond ASCII is written by one code unit or by two, and is read from them. -/
theorem stringBody_pointEscape {c : Char} (ht : tail ≠ []) :
    stringBody opening (pointEscape c.toNat ++ tail) =
      consPoint c.toNat (stringBody opening tail) := by
  have whole := Text.isHalf_toNat c
  have bound : c.toNat < 0x110000 := by
    rcases c.valid with h | h
    · exact Nat.lt_trans h (by decide)
    · exact h.2
  unfold pointEscape
  split
  · rename_i hn
    refine stringBody_unit hn ?_ ht
    simp only [Text.isHalf, isHigh, Bool.and_eq_false_iff, decide_eq_false_iff_not] at whole ⊢
    omega
  · rename_i hn
    generalize c.toNat = n at *
    have point :
        pairPoint (0xD800 + (n - 0x10000) / 0x400) (0xDC00 + (n - 0x10000) % 0x400) = n := by
      unfold pairPoint
      omega
    rw [List.append_assoc, stringBody_pair _ _ ht, point]
    · simp only [isHigh, Bool.and_eq_true, decide_eq_true_eq]
      omega
    · simp only [isLow, Bool.and_eq_true, decide_eq_true_eq]
      omega

/-- What a character is written as is read as the character. -/
theorem stringBody_escape (c : Char) (ht : tail ≠ []) :
    stringBody opening (escape c ++ tail) = consPoint c.toNat (stringBody opening tail) := by
  obtain ⟨x, escaped, named⟩ | ⟨escaped, quote, backslash, low, high⟩ | escaped := escape_cases c
  · rw [escaped]
    exact stringBody_named named
  · have low : 0x20 ≤ c.toNat := low
    have high : c.toNat ≤ 0x7E := high
    rw [escaped]
    refine stringBody_self quote backslash low ?_
    simp only [Text.isReserved, Bool.and_eq_false_iff, decide_eq_false_iff_not]
    omega
  · rw [escaped]
    exact stringBody_pointEscape ht

/-- The escapes of characters are read as what holds them, up to a closing quote. -/
theorem stringBody_flatMap_escape (cs rest : List Char) :
    stringBody opening (cs.flatMap escape ++ '"' :: rest) =
      .ok (cs.flatMap Text.holdChar, rest) := by
  induction cs with
  | nil => rfl
  | cons c cs ih =>
      rw [List.flatMap_cons, List.append_assoc, stringBody_escape c (by simp), ih, consPoint,
        Text.hold_toNat]
      rfl

end StringBody

/-- A text from outside is written character by character. -/
theorem literal_holdText (p : String) :
    literal (Text.holdText p) = '"' :: (p.toList.flatMap escape ++ ['"']) := by
  have each (c : Char) : escapePoint c.toNat = escape c := by
    rw [escapePoint, Text.isHalf_toNat, Char.ofNat_toNat]
    rfl
  rw [literal, Text.codePoints_holdText, List.flatMap_map]
  simp only [each]
  rfl

/-- A literal, after its opening quote, is read as the text that it is a literal of. -/
theorem exists_body_of_isHeld {s : String} (h : Text.IsHeld s) (rest : List Char) :
    ∃ body, literal s ++ rest = '"' :: body ∧
      ∀ opening, stringBody opening body = .ok (s.toList, rest) := by
  obtain ⟨p, rfl⟩ := h
  refine ⟨p.toList.flatMap escape ++ '"' :: rest, ?_, fun opening => ?_⟩
  · simp [literal_holdText]
  · rw [stringBody_flatMap_escape, Text.holdText, String.toList_ofList]

end CommandCompiler.Json
