import CommandCompiler.Artifact
import CommandCompiler.Proofs.JsonDocument
/-!
# CommandCompiler.Proofs.ArtifactCharacters

**Artifacts are one line of printable ASCII, without a blank between the parts.**
What stands outside of string literals is told by a look at quotes and backslashes
alone (`Json.withoutLiterals`), so that a quote in the wrong place would show.

A piece of text is *tidy* if it is printable, starts and ends outside of literals,
and has only brackets, colons and commas between them (`Json.Tidy`). Literals are
tidy whatever they are literals of (`Json.tidy_literal`): no escape has a quote in
it that ends the literal. Pieces after one another are tidy if each of them is, and
arrays and objects are put together from their parts in this way.
-/

namespace CommandCompiler

namespace Json

/-! ## Outside of literals -/

/-- What is left of a text without its string literals; `inside` says whether it starts in one.
Inside, a backslash takes the next character with it, and a quote that is not taken is the end. -/
def withoutLiterals : (inside : Bool) → List Char → List Char
  | _, [] => []
  | false, c :: cs => if c = '"' then withoutLiterals true cs else c :: withoutLiterals false cs
  | true, '\\' :: _ :: cs => withoutLiterals true cs
  | true, c :: cs => withoutLiterals (c != '"') cs

/-- The characters that stand between the literals of a document of texts, arrays and objects. -/
def marks : List Char := ['[', ']', '\x7b', '\x7d', ':', ',']

/-- Whether a character is printable ASCII. -/
def IsPrintable (c : Char) : Prop := ' ' ≤ c ∧ c ≤ '~'

instance : DecidablePred IsPrintable := fun c => inferInstanceAs (Decidable (' ' ≤ c ∧ c ≤ '~'))

/-- Whether a piece of text is printable, starts and ends outside of literals, and has only marks
between them. -/
structure Tidy (cs : List Char) : Prop where
  printable : ∀ c ∈ cs, IsPrintable c
  outside : ∃ ms, (∀ m ∈ ms, m ∈ marks) ∧
    ∀ rest, withoutLiterals false (cs ++ rest) = ms ++ withoutLiterals false rest

namespace Tidy

variable {cs ds : List Char}

theorem append (h : Tidy cs) (h' : Tidy ds) : Tidy (cs ++ ds) where
  printable := List.forall_mem_append.mpr ⟨h.printable, h'.printable⟩
  outside := by
    obtain ⟨ms, hms, outside⟩ := h.outside
    obtain ⟨ns, hns, outside'⟩ := h'.outside
    refine ⟨ms ++ ns, List.forall_mem_append.mpr ⟨hms, hns⟩, fun rest => ?_⟩
    rw [List.append_assoc, outside, outside', List.append_assoc]

theorem mark {m : Char} (h : m ∈ marks) : Tidy [m] where
  printable := by
    have all : marks.all (decide <| IsPrintable ·) = true := by decide
    exact List.forall_mem_singleton.mpr (of_decide_eq_true (List.all_eq_true.mp all m h))
  outside := by
    have noQuote : m ≠ '"' := by
      rintro rfl
      revert h
      decide
    refine ⟨[m], List.forall_mem_singleton.mpr h, fun rest => ?_⟩
    simp [withoutLiterals, noQuote]

/-- A mark in front of a piece of text. -/
theorem cons {m : Char} (h : m ∈ marks) (h' : Tidy cs) : Tidy (m :: cs) := (mark h).append h'

end Tidy

/-! ## Inside of literals -/

section Literals

variable {rest : List Char}

/-- Characters that are neither quotes nor backslashes neither end a literal nor take others with
them. -/
theorem withoutLiterals_append_of_plain {cs : List Char} (h : ∀ c ∈ cs, c ≠ '"' ∧ c ≠ '\\') :
    withoutLiterals true (cs ++ rest) = withoutLiterals true rest := by
  induction cs with
  | nil => rfl
  | cons c cs ih =>
      obtain ⟨⟨quote, backslash⟩, h⟩ := List.forall_mem_cons.mp h
      have inside : (c != '"') = true := by simpa using quote
      rw [List.cons_append, withoutLiterals, inside]
      · exact ih h
      · exact fun _ _ taken => absurd taken backslash

/-- The digits of an escape are printable, and are neither quotes nor backslashes. -/
theorem digit_plain {n : Nat} {c : Char} (h : c ∈ Text.Hex.fixed 4 n) :
    IsPrintable c ∧ c ≠ '"' ∧ c ≠ '\\' := by
  have digit : (Text.Hex.digitValue? c).isSome := Text.Hex.isDigit_of_mem_fixed h
  have range : 0x30 ≤ c.toNat ∧ c.toNat ≤ 0x39 ∨ 0x41 ≤ c.toNat ∧ c.toNat ≤ 0x46 ∨
      0x61 ≤ c.toNat ∧ c.toNat ≤ 0x66 := by
    simp only [Text.Hex.digitValue?] at digit
    split_ifs at digit with decimal upper lower
    · exact .inl decimal
    · exact .inr (.inl upper)
    · exact .inr (.inr lower)
    · cases digit
  have low : 0x20 ≤ c.toNat := by omega
  have high : c.toNat ≤ 0x7E := by omega
  refine ⟨⟨low, high⟩, ?_, ?_⟩
  · rintro rfl
    exact absurd range (by decide)
  · rintro rfl
    exact absurd range (by decide)

/-- Whether characters of a literal are printable, and leave the reader inside of the literal. -/
structure Stays (cs : List Char) : Prop where
  printable : ∀ c ∈ cs, IsPrintable c
  inside : ∀ rest, withoutLiterals true (cs ++ rest) = withoutLiterals true rest

theorem Stays.append {cs ds : List Char} (h : Stays cs) (h' : Stays ds) : Stays (cs ++ ds) where
  printable := List.forall_mem_append.mpr ⟨h.printable, h'.printable⟩
  inside rest := by rw [List.append_assoc, h.inside, h'.inside]

theorem Stays.flatMap {α : Type} {f : α → List Char} (h : ∀ a, Stays (f a)) (as : List α) :
    Stays (as.flatMap f) := by
  induction as with
  | nil => exact ⟨nofun, fun _ => rfl⟩
  | cons a as ih => exact (h a).append ih

theorem stays_unitEscape (n : Nat) : Stays (unitEscape n) where
  printable := by
    rw [unitEscape, List.forall_mem_cons, List.forall_mem_cons]
    exact ⟨by decide, by decide, fun c hc => (digit_plain hc).1⟩
  inside rest := by
    show withoutLiterals true (Text.Hex.fixed 4 n ++ rest) = withoutLiterals true rest
    exact withoutLiterals_append_of_plain fun c hc => (digit_plain hc).2

theorem stays_pointEscape (n : Nat) : Stays (pointEscape n) := by
  unfold pointEscape
  split
  · exact stays_unitEscape n
  · exact (stays_unitEscape _).append (stays_unitEscape _)

/-- What a character is written as does not end the literal. -/
theorem stays_escape (c : Char) : Stays (escape c) := by
  -- A quote is only ever written after a backslash, which takes it along.
  obtain ⟨x, escaped, named⟩ | ⟨escaped, quote, backslash, printable⟩ | escaped := escape_cases c
  · have printable : IsPrintable x := by
      unfold namedEscape? at named
      split at named
      case h_9 => cases named
      all_goals decide
    rw [escaped]
    exact ⟨by simpa using ⟨by decide, printable⟩, fun rest => rfl⟩
  · rw [escaped]
    refine ⟨List.forall_mem_singleton.mpr printable, fun rest => ?_⟩
    exact withoutLiterals_append_of_plain (List.forall_mem_singleton.mpr ⟨quote, backslash⟩)
  · rw [escaped]
    exact stays_pointEscape c.toNat

theorem stays_escapePoint (n : Nat) : Stays (escapePoint n) := by
  unfold escapePoint
  split
  · exact stays_unitEscape n
  · exact stays_escape _

/-- A literal is tidy, whatever it is the literal of. -/
theorem tidy_literal (s : String) : Tidy (literal s) := by
  have body := Stays.flatMap stays_escapePoint (Text.codePoints s.toList)
  constructor
  · rw [literal, List.forall_mem_append, List.forall_mem_cons]
    exact ⟨⟨by decide, body.printable⟩, List.forall_mem_singleton.mpr (by decide)⟩
  · refine ⟨[], List.forall_mem_nil _, fun rest => ?_⟩
    simp [literal, withoutLiterals, body.inside]

end Literals

/-! ## Documents -/

section Documents

variable {fs : List (String × Json)} {vs : List Json}

theorem tidy_itemChars (h : ∀ v ∈ vs, Tidy v.chars) : Tidy (itemChars vs) := by
  induction vs with
  | nil => exact .mark (by decide)
  | cons v vs ih =>
      obtain ⟨hv, h⟩ := List.forall_mem_cons.mp h
      exact (hv.cons (by decide)).append (ih h)

theorem tidy_arr (h : ∀ v ∈ vs, Tidy v.chars) : Tidy (chars (.arr vs)) := by
  cases vs with
  | nil => exact .cons (by decide) (.mark (by decide))
  | cons v vs =>
      obtain ⟨hv, h⟩ := List.forall_mem_cons.mp h
      exact (hv.cons (by decide)).append (tidy_itemChars h)

theorem Tidy.fieldText {f : String × Json} {rest : List Char} (h : Tidy f.2.chars)
    (hr : Tidy rest) : Tidy (Json.fieldText f rest) :=
  (tidy_literal f.1).append ((h.append hr).cons (by decide))

theorem tidy_fieldChars (h : ∀ f ∈ fs, Tidy f.2.chars) : Tidy (fieldChars fs) := by
  induction fs with
  | nil => exact .mark (by decide)
  | cons f fs ih =>
      obtain ⟨hf, h⟩ := List.forall_mem_cons.mp h
      rw [fieldChars_cons]
      exact (hf.fieldText (ih h)).cons (by decide)

theorem tidy_obj (h : ∀ f ∈ fs, Tidy f.2.chars) : Tidy (chars (.obj fs)) := by
  cases fs with
  | nil => exact .cons (by decide) (.mark (by decide))
  | cons f fs =>
      obtain ⟨hf, h⟩ := List.forall_mem_cons.mp h
      rw [chars_obj_cons]
      exact (hf.fieldText (tidy_fieldChars h)).cons (by decide)

end Documents

end Json

/-! ## Artifacts -/

open Json

theorem Parameter.tidy_toJson (p : Parameter) : Tidy p.toJson.chars := by
  have text (s : String) : Tidy (Json.str s).chars := tidy_literal s
  refine tidy_obj ?_
  rw [List.forall_mem_append, List.forall_mem_append]
  refine ⟨⟨?_, ?_⟩, ?_⟩
  · simp only [List.forall_mem_cons]
    exact ⟨text p.name, text p.role.tag, text p.shape.tag, nofun⟩
  · split
    · nofun
    · exact List.forall_mem_singleton.mpr (text p.usage)
  · cases p.short with
    | none => nofun
    | some short => exact List.forall_mem_singleton.mpr (text short)

theorem Signature.tidy_toJson (s : Signature) : Tidy s.toJson.chars := by
  have params : Tidy (Json.arr (s.params.map Parameter.toJson)).chars :=
    tidy_arr (List.forall_mem_map.mpr fun p _ => p.tidy_toJson)
  refine tidy_obj ?_
  rw [List.forall_mem_append]
  constructor
  · simp only [List.forall_mem_cons]
    exact ⟨tidy_literal s.name, params, nofun⟩
  · split
    · nofun
    · exact List.forall_mem_singleton.mpr (tidy_literal s.usage)

namespace Artifact

theorem tidy_ofSignatures (signatures : List Signature) : Tidy (ofSignatures signatures).chars := by
  have items : Tidy (Json.arr (signatures.map Signature.toJson)).chars :=
    tidy_arr (List.forall_mem_map.mpr fun s _ => s.tidy_toJson)
  refine tidy_obj ?_
  simp only [List.forall_mem_cons]
  exact ⟨tidy_literal version, items, nofun⟩

/-- **Artifacts are compact.** Every character of an artifact is printable ASCII, and none of those
outside of string literals is a blank, whatever characters are in the texts of the signatures. Every
literal is closed: what follows an artifact is outside of literals again. -/
theorem serialize_compact (signatures : List Signature) :
    (∀ c ∈ (serialize signatures).toList, ' ' ≤ c ∧ c ≤ '~') ∧
      ' ' ∉ withoutLiterals false (serialize signatures).toList ∧
      ∀ rest, withoutLiterals false ((serialize signatures).toList ++ rest) =
        withoutLiterals false (serialize signatures).toList ++ withoutLiterals false rest := by
  -- Outside of literals there are only marks, and none of them is a blank.
  have tidy := tidy_ofSignatures signatures
  obtain ⟨ms, hms, outside⟩ := tidy.outside
  have text : (serialize signatures).toList = (ofSignatures signatures).chars := by
    rw [serialize, Json.print, String.toList_ofList]
  have left : withoutLiterals false (ofSignatures signatures).chars = ms := by
    simpa [withoutLiterals] using outside []
  rw [text, left]
  refine ⟨tidy.printable, fun blank => ?_, outside⟩
  have noBlank : ' ' ∉ marks := by decide
  exact noBlank (hms ' ' blank)

example : withoutLiterals false
    (serialize [{ name := "say \"hi there\" \\", usage := "", params := [] }]).toList =
      "\x7b:,:[\x7b:,:[]\x7d]\x7d".toList := by
  decide

end Artifact

end CommandCompiler
