import CommandCompiler.Proofs.JsonLiteral
import CommandCompiler.Proofs.TypeTokens
import Mathlib.Data.List.TakeDrop
/-!
# CommandCompiler.Proofs.JsonScalar

**String literals and numbers are read by their grammar.** The grammar says
which characters stand for what, and knows nothing of what follows them:

* `Json.Quotes` : the characters between the quotes of a string literal;
* `Json.IsWhole`, `Json.Fraction`, `Json.Exponent`, `Json.Numeral` : numbers.

What is read is in the grammar (`quotes_of_stringBody`, `numeral_of_number`).
What is in the grammar is read (`stringBody_of_quotes`, `number_of_numeral`), a
number only if nothing follows that could be part of it (`Apart`): the reader goes
on as far as it can.
-/

namespace CommandCompiler.Json

/-! ## The grammar -/

/-- The code unit of the escape at the front of a text, if it starts with one. -/
def unitAt? : List Char → Option Nat
  | '\\' :: 'u' :: a :: b :: c :: d :: _ => unit? a b c d
  | _ => none

/-- Whether a text starts with an escape for the second half of a surrogate pair. -/
def StartsLow (cs : List Char) : Prop := ∃ n, unitAt? cs = some n ∧ isLow n = true

/-- The characters between the quotes of a string literal, and the text that they stand for. An
escape for the first half of a surrogate pair makes one character with an escape for a second half
right after it; a half that stands alone is held as such. -/
inductive Quotes : List Char → List Char → Prop
  | nil : Quotes [] []
  | self {c : Char} {cs s : List Char} (quote : c ≠ '"') (backslash : c ≠ '\\')
      (control : 0x20 ≤ c.toNat) (rest : Quotes cs s) : Quotes (c :: cs) (c :: s)
  | named {x c : Char} {cs s : List Char} (h : namedEscape? x = some c) (rest : Quotes cs s) :
      Quotes ('\\' :: x :: cs) (c :: s)
  | unit {a b c d : Char} {n : Nat} {cs s : List Char} (h : unit? a b c d = some n)
      (alone : isHigh n = true → ¬ StartsLow cs) (rest : Quotes cs s) :
      Quotes ('\\' :: 'u' :: a :: b :: c :: d :: cs) (Text.hold n ++ s)
  | pair {a b c d a' b' c' d' : Char} {n m : Nat} {cs s : List Char}
      (h : unit? a b c d = some n) (high : isHigh n = true) (h' : unit? a' b' c' d' = some m)
      (low : isLow m = true) (rest : Quotes cs s) :
      Quotes ('\\' :: 'u' :: a :: b :: c :: d :: '\\' :: 'u' :: a' :: b' :: c' :: d' :: cs)
        (Text.hold (pairPoint n m) ++ s)

/-- Whether a character may stand for itself in a string literal. -/
def isPlain (c : Char) : Bool := c != '"' && c != '\\' && 0x20 ≤ c.toNat

/-- A text of such characters is written as it is. -/
theorem quotes_of_isPlain {cs : List Char} (h : cs.all isPlain) : Quotes cs cs := by
  induction cs with
  | nil => exact .nil
  | cons c cs ih =>
      simp only [List.all_cons, isPlain, Bool.and_eq_true, bne_iff_ne, decide_eq_true_eq] at h
      obtain ⟨⟨⟨quote, backslash⟩, control⟩, h⟩ := h
      exact .self quote backslash control (ih h)

/-- One digit or more. -/
def IsDigits (cs : List Char) : Prop := cs ≠ [] ∧ ∀ c ∈ cs, Decimal.isDigit c = true

/-- The whole part of a number: a zero, or digits that do not start with one. -/
def IsWhole (cs : List Char) : Prop := cs = ['0'] ∨ IsDigits cs ∧ cs.head? ≠ some '0'

/-- A fraction, which may be left out, and its digits. -/
inductive Fraction : List Char → List Char → Prop
  | none : Fraction [] []
  | digits {ds : List Char} (h : IsDigits ds) : Fraction ('.' :: ds) ds

/-- The signs that an exponent may have, and whether they make it negative. -/
def exponentSigns : List (List Char × Bool) := [([], false), (['+'], false), (['-'], true)]

/-- An exponent, which may be left out, and its value. -/
inductive Exponent : List Char → Option Int → Prop
  | none : Exponent [] none
  | digits {e : Char} {sign ds : List Char} {negative : Bool} (letter : e = 'e' ∨ e = 'E')
      (hs : (sign, negative) ∈ exponentSigns) (h : IsDigits ds) :
      Exponent (e :: (sign ++ ds)) (some (if negative then -Decimal.toNat ds else Decimal.toNat ds))

/-- The sign in front of a number. -/
def signText (negative : Bool) : List Char := if negative then ['-'] else []

/-- A number: an integer of no more digits than are read, or a floating-point number with a fraction
or an exponent. -/
inductive Numeral : List Char → Json → Prop
  | int {negative : Bool} {ds : List Char} (h : IsWhole ds)
      (short : ds.length ≤ Decimal.Numeral.mostDigits) :
      Numeral (signText negative ++ ds)
        (.int (if negative then -(Decimal.toNat ds) else Decimal.toNat ds))
  | float {negative : Bool} {ds ft fr et : List Char} {exponent : Option Int} (h : IsWhole ds)
      (hf : Fraction ft fr) (he : Exponent et exponent) (real : fr ≠ [] ∨ exponent ≠ none) :
      Numeral (signText negative ++ (ds ++ (ft ++ et)))
        (.float (Decimal.Spelling.toFloat ⟨negative, ds, fr, exponent.getD 0⟩))

/-! ## Strings -/

theorem hold_namedEscape {x c : Char} (h : namedEscape? x = some c) : Text.hold c.toNat = [c] := by
  unfold namedEscape? at h
  split at h <;> cases h <;> decide

theorem consPoint_eq_ok_iff {n : Nat} {r : Except Fault (List Char × List Char)}
    {p : List Char × List Char} :
    consPoint n r = .ok p ↔ ∃ s rest, r = .ok (s, rest) ∧ p = (Text.hold n ++ s, rest) := by
  rw [consPoint, map_eq_ok_iff]
  constructor
  · rintro ⟨⟨s, rest⟩, hr, rfl⟩
    exact ⟨s, rest, hr, rfl⟩
  · rintro ⟨s, rest, hr, rfl⟩
    exact ⟨_, hr, rfl⟩

theorem StartsLow.exists_append {cs : List Char} (h : StartsLow cs) (more : List Char) :
    ∃ a b c d n rest, cs ++ more = '\\' :: 'u' :: a :: b :: c :: d :: (rest ++ more) ∧
      unit? a b c d = some n ∧ isLow n = true := by
  obtain ⟨n, hn, low⟩ := h
  unfold unitAt? at hn
  split at hn
  · exact ⟨_, _, _, _, n, _, rfl, hn, low⟩
  · cases hn

/-- A reader that has decided where the literal goes on and what it has read before, is right if the
grammar lets this stand before the rest. -/
theorem exists_body_of_consPoint {opening n : Nat} {cs s rest : List Char}
    (h : consPoint n (stringBody opening cs) = .ok (s, rest))
    (ih : ∀ {s : List Char}, stringBody opening cs = .ok (s, rest) →
      ∃ body, cs = body ++ '"' :: rest ∧ Quotes body s) :
    ∃ body t, cs = body ++ '"' :: rest ∧ Quotes body t ∧ s = Text.hold n ++ t := by
  obtain ⟨t, _, ht, heq⟩ := consPoint_eq_ok_iff.mp h
  cases heq
  obtain ⟨body, hcs, hbody⟩ := ih ht
  exact ⟨body, t, hcs, hbody, rfl⟩

/-- What is read of a string literal is in the grammar. -/
theorem quotes_of_stringBody {opening : Nat} {cs s rest : List Char}
    (h : stringBody opening cs = .ok (s, rest)) :
    ∃ body, cs = body ++ '"' :: rest ∧ Quotes body s := by
  fun_induction stringBody opening cs generalizing s with
  | case1 | case3 | case4 | case5 | case9 | case11 | case13 | case14 => cases h
  | case2 rest =>
      cases h
      exact ⟨[], rfl, .nil⟩
  | case6 a b c d a' b' c' d' e cs n hn high m hm low ih =>
      obtain ⟨body, t, hcs, hbody, hs⟩ := exists_body_of_consPoint h ih
      refine ⟨['\\', 'u', a, b, c, d, '\\', 'u', a', b', c', d'] ++ body, ?_, ?_⟩
      · simp [hcs]
      · rw [hs]
        exact .pair hn high hm low hbody
  | case7 a b c d a' b' c' d' e cs n hn high m hm low ih =>
      obtain ⟨body, t, hcs, hbody, rfl⟩ := exists_body_of_consPoint h ih
      refine ⟨_, congrArg (_ :: _ :: _ :: _ :: _ :: _ :: ·) hcs,
        .unit hn (fun _ follows => low ?_) hbody⟩
      obtain ⟨_, _, _, _, k, tail, heq, hk, isLow⟩ := follows.exists_append ('"' :: rest)
      simp only [← hcs, List.cons.injEq, true_and] at heq
      obtain ⟨rfl, rfl, rfl, rfl, -⟩ := heq
      exact Option.some.inj (hm.symm.trans hk) ▸ isLow
  | case8 a b c d a' b' c' d' e cs n hn alone ih =>
      obtain ⟨body, t, hcs, hbody, rfl⟩ := exists_body_of_consPoint h ih
      exact ⟨_, congrArg (_ :: _ :: _ :: _ :: _ :: _ :: ·) hcs,
        .unit hn (fun high => absurd high alone) hbody⟩
  | case10 a b c d e cs other n hn ih =>
      obtain ⟨body, t, hcs, hbody, rfl⟩ := exists_body_of_consPoint h ih
      refine ⟨_, congrArg (_ :: _ :: _ :: _ :: _ :: _ :: ·) hcs,
        .unit hn (fun _ follows => ?_) hbody⟩
      -- An escape that follows would have at least the closing quote after it.
      obtain ⟨_, _, _, _, _, tail, heq, -, -⟩ := follows.exists_append ('"' :: rest)
      rw [← hcs] at heq
      cases tail with
      | nil =>
          cases heq
          exact other _ _ _ _ _ _ rfl rfl
      | cons =>
          cases heq
          exact other _ _ _ _ _ _ rfl rfl
  | case12 x cs _ _ _ c hc ih =>
      obtain ⟨body, t, rfl, hbody, rfl⟩ := exists_body_of_consPoint h ih
      rw [hold_namedEscape hc]
      exact ⟨_, rfl, .named hc hbody⟩
  | case15 c cs quote end_ _ _ _ other control ih =>
      obtain ⟨⟨t, _⟩, ht, heq⟩ := map_eq_ok_iff.mp h
      cases heq
      obtain ⟨body, rfl, hbody⟩ := ih ht
      have backslash : c ≠ '\\' := by
        rintro rfl
        cases body <;> exact other _ _ rfl rfl
      exact ⟨_, rfl, .self quote backslash (Nat.not_lt.mp control) hbody⟩

/-- If an escape follows, it is whole. -/
theorem Quotes.exists_unitAt? {cs s more tail : List Char} {a b c d : Char} (h : Quotes cs s)
    (heq : cs ++ '"' :: more = '\\' :: 'u' :: a :: b :: c :: d :: tail) :
    ∃ m, unit? a b c d = some m ∧ unitAt? cs = some m := by
  cases h with
  | nil => cases heq
  | self quote backslash => exact absurd (List.cons.inj heq).1 backslash
  | named h =>
      simp only [List.cons_append, List.cons.injEq, true_and] at heq
      rw [heq.1] at h
      cases h
  | unit h | pair h =>
      simp only [List.cons_append, List.cons.injEq, true_and] at heq
      obtain ⟨rfl, rfl, rfl, rfl, -⟩ := heq
      exact ⟨_, h, h⟩

/-- What is in the grammar is read, up to the closing quote. -/
theorem stringBody_of_quotes {opening : Nat} {cs s : List Char} (h : Quotes cs s)
    (rest : List Char) : stringBody opening (cs ++ '"' :: rest) = .ok (s, rest) := by
  induction h with
  | nil => rfl
  | @self c cs s quote backslash control _ ih =>
      rw [List.cons_append, stringBody, if_neg (Nat.not_lt.mpr control), ih]
      · rfl
      -- no other way to read the character is left
      all_goals simp [quote, backslash]
  | named h _ ih =>
      rw [List.cons_append, List.cons_append, stringBody_named h, ih, consPoint,
        hold_namedEscape h]
      rfl
  | unit h alone rest ih =>
      simp only [List.cons_append]
      rw [stringBody_alone h, ih]
      · rfl
      · simp
      · intro high a' b' c' d' tail heq
        obtain ⟨m, hm, front⟩ := rest.exists_unitAt? heq
        exact ⟨m, hm, Bool.eq_false_iff.mpr fun low => alone high ⟨m, front, low⟩⟩
  | pair h high h' low _ ih =>
      simp only [List.cons_append]
      rw [stringBody_joined h high h' low, ih]
      · rfl
      · simp

/-! ## Numbers -/

/-- What may follow a number: nothing that could be part of it. -/
def Apart (cs : List Char) : Prop :=
  ∀ c ∈ cs.head?, Decimal.isDigit c = false ∧ c ∉ ['.', 'e', 'E']

section Digits

variable {cs ds rest : List Char}

theorem eq_of_spanDigits (h : spanDigits cs = (ds, rest)) :
    cs = ds ++ rest ∧ ∀ c ∈ ds, Decimal.isDigit c = true := by
  rw [spanDigits, List.span_eq_takeWhile_dropWhile, Prod.mk.injEq] at h
  obtain ⟨rfl, rfl⟩ := h
  exact ⟨List.takeWhile_append_dropWhile.symm, fun c => List.mem_takeWhile_imp⟩

theorem spanDigits_append (h : ∀ c ∈ ds, Decimal.isDigit c = true)
    (apart : ∀ c ∈ rest.head?, Decimal.isDigit c = false) :
    spanDigits (ds ++ rest) = (ds, rest) := by
  have none : rest.takeWhile Decimal.isDigit = [] ∧ rest.dropWhile Decimal.isDigit = rest := by
    cases rest with
    | nil => exact ⟨rfl, rfl⟩
    | cons c rest => simp [apart c (by simp)]
  rw [spanDigits, List.span_eq_takeWhile_dropWhile, List.takeWhile_append_of_pos h,
    List.dropWhile_append_of_pos h, none.1, none.2, List.append_nil]

theorem isWhole_of_wholePart? (h : wholePart? cs = some (ds, rest)) :
    cs = ds ++ rest ∧ IsWhole ds := by
  unfold wholePart? at h
  split at h
  · cases h
    exact ⟨rfl, .inl rfl⟩
  · rename_i zero
    split at h
    · cases h
    · rename_i some
      obtain ⟨rfl, digits⟩ := eq_of_spanDigits (Option.some.inj h)
      have ne : ds ≠ [] := by
        rintro rfl
        exact some _ (Option.some.inj h)
      refine ⟨rfl, .inr ⟨⟨ne, digits⟩, ?_⟩⟩
      intro first
      obtain ⟨tail, rfl⟩ := List.head?_eq_some_iff.mp first
      exact zero _ rfl

theorem wholePart?_append (h : IsWhole ds) (apart : ∀ c ∈ rest.head?, Decimal.isDigit c = false) :
    wholePart? (ds ++ rest) = some (ds, rest) := by
  obtain rfl | ⟨⟨ne, digits⟩, first⟩ := h
  · rfl
  · have span := spanDigits_append digits apart
    unfold wholePart?
    split
    · rename_i heq
      cases ds with
      | nil => exact absurd rfl ne
      | cons c ds => simp_all
    · rw [span]
      split
      · rename_i empty
        exact absurd (Prod.mk.inj empty).1 ne
      · rfl

theorem fraction_of_fractionPart (h : fractionPart cs = (ds, rest)) :
    ∃ ft, cs = ft ++ rest ∧ Fraction ft ds := by
  unfold fractionPart at h
  split at h
  · split at h
    · cases h
      exact ⟨[], rfl, .none⟩
    · rename_i some
      obtain ⟨rfl, digits⟩ := eq_of_spanDigits h
      have ne : ds ≠ [] := by
        rintro rfl
        exact some _ h
      exact ⟨_, rfl, .digits ⟨ne, digits⟩⟩
  · cases h
    exact ⟨[], rfl, .none⟩

theorem fractionPart_append {ft : List Char} (h : Fraction ft ds)
    (apart : ∀ c ∈ rest.head?, Decimal.isDigit c = false ∧ c ≠ '.') :
    fractionPart (ft ++ rest) = (ds, rest) := by
  cases h with
  | none =>
      unfold fractionPart
      split
      · rename_i heq
        rw [List.nil_append] at heq
        rw [heq] at apart
        exact absurd rfl (apart '.' rfl).2
      · rfl
  | digits h =>
      rw [List.cons_append, fractionPart, spanDigits_append h.2 fun c hc => (apart c hc).1]
      split
      · rename_i empty
        exact absurd (Prod.mk.inj empty).1 h.1
      · rfl

/-- What is read of an exponent after its letter and its sign, `cs` being all of the exponent and
what follows it. -/
def afterSign (negative : Bool) (cs tail : List Char) : Option Int × List Char :=
  match spanDigits tail with
  | ([], _) => (none, cs)
  | (digits, rest) =>
    let n := Int.ofNat (Decimal.toNat digits)
    (some (if negative then -n else n), rest)

theorem afterSign_cases {negative : Bool} {tail : List Char} {exponent : Option Int}
    (h : afterSign negative cs tail = (exponent, rest)) :
    exponent = none ∧ cs = rest ∨
      ∃ ds, tail = ds ++ rest ∧ IsDigits ds ∧
        exponent = some (if negative then -Int.ofNat (Decimal.toNat ds) else Decimal.toNat ds) := by
  unfold afterSign at h
  split at h
  · cases h
    exact .inl ⟨rfl, rfl⟩
  · rename_i digits _ nonempty hs
    cases h
    obtain ⟨rfl, all⟩ := eq_of_spanDigits hs
    exact .inr ⟨digits, rfl, ⟨fun empty => nonempty empty, all⟩, rfl⟩

theorem afterSign_append {negative : Bool} (h : IsDigits ds)
    (apart : ∀ c ∈ rest.head?, Decimal.isDigit c = false) :
    afterSign negative cs (ds ++ rest) =
      (some (if negative then -Int.ofNat (Decimal.toNat ds) else Decimal.toNat ds), rest) := by
  unfold afterSign
  rw [spanDigits_append h.2 apart]
  split
  · rename_i empty
    exact absurd (Prod.mk.inj empty).1 h.1
  · rename_i heq
    cases heq
    rfl

/-- An exponent is read by its letter and the sign that follows it. -/
theorem exponentPart_cons (e : Char) (tail : List Char) :
    exponentPart (e :: tail) =
      if e = 'e' ∨ e = 'E' then
        afterSign (Decimal.Numeral.sign tail).1 (e :: tail) (Decimal.Numeral.sign tail).2
      else (none, e :: tail) := by
  have letter (a b : Option Int × List Char) :
      (if e == 'e' || e == 'E' then a else b) = if e = 'e' ∨ e = 'E' then a else b := by
    simp only [Bool.or_eq_true, beq_iff_eq]
  unfold exponentPart
  split
  · rename_i heq
    cases heq
    exact letter _ _
  · rename_i heq
    cases heq
    exact letter _ _
  · rename_i minus plus heq
    cases heq
    have unsigned : Decimal.Numeral.sign tail = (false, tail) := by
      unfold Decimal.Numeral.sign
      split
      · exact (minus _ rfl).elim
      · exact (plus _ rfl).elim
      · rfl
    rw [unsigned]
    exact letter _ _
  · rename_i heq
    cases heq

theorem exists_sign (cs : List Char) :
    ∃ sign, (sign, (Decimal.Numeral.sign cs).1) ∈ exponentSigns ∧
      cs = sign ++ (Decimal.Numeral.sign cs).2 := by
  unfold Decimal.Numeral.sign
  split
  · exact ⟨['-'], by simp [exponentSigns], rfl⟩
  · exact ⟨['+'], by simp [exponentSigns], rfl⟩
  · exact ⟨[], by simp [exponentSigns], rfl⟩

theorem sign_append {sign : List Char} {negative : Bool} (hs : (sign, negative) ∈ exponentSigns)
    (h : IsDigits ds) : Decimal.Numeral.sign (sign ++ (ds ++ rest)) = (negative, ds ++ rest) := by
  obtain ⟨c, ds, rfl⟩ := List.exists_cons_of_ne_nil h.1
  have digit : Decimal.isDigit c = true := h.2 c (List.mem_cons_self ..)
  simp only [exponentSigns, List.mem_cons, Prod.mk.injEq, List.not_mem_nil, or_false] at hs
  obtain ⟨rfl, rfl⟩ | ⟨rfl, rfl⟩ | ⟨rfl, rfl⟩ := hs
  · simp only [List.nil_append, List.cons_append]
    unfold Decimal.Numeral.sign
    split
    · rename_i heq
      cases heq
      cases digit
    · rename_i heq
      cases heq
      cases digit
    · rfl
  · rfl
  · rfl

theorem exponent_of_exponentPart {exponent : Option Int}
    (h : exponentPart cs = (exponent, rest)) : ∃ et, cs = et ++ rest ∧ Exponent et exponent := by
  have absent (h : (none, cs) = (exponent, rest)) :
      ∃ et, cs = et ++ rest ∧ Exponent et exponent := by
    cases h
    exact ⟨[], rfl, .none⟩
  cases cs with
  | nil => exact absent h
  | cons e tail =>
      rw [exponentPart_cons] at h
      split at h
      · rename_i letter
        obtain ⟨sign, hs, htail⟩ := exists_sign tail
        obtain ⟨rfl, rfl⟩ | ⟨ds, hds, digits, rfl⟩ := afterSign_cases h
        · exact absent rfl
        · rw [hds, ← List.append_assoc] at htail
          exact ⟨_, congrArg (e :: ·) htail, .digits letter hs digits⟩
      · exact absent h

theorem exponentPart_append {et : List Char} {exponent : Option Int} (h : Exponent et exponent)
    (apart : ∀ c ∈ rest.head?, Decimal.isDigit c = false ∧ ¬(c = 'e' ∨ c = 'E')) :
    exponentPart (et ++ rest) = (exponent, rest) := by
  cases h with
  | none =>
      cases rest with
      | nil => rfl
      | cons c rest => rw [List.nil_append, exponentPart_cons, if_neg (apart c rfl).2]
  | @digits e sign ds negative letter hs h =>
      rw [List.cons_append, List.append_assoc, exponentPart_cons, if_pos letter, sign_append hs h,
        afterSign_append h fun c hc => (apart c hc).1]
      rfl

end Digits

section Number

variable {cs ds ft fr et rest : List Char} {exponent : Option Int} {negative : Bool}

/-- The content of a number by its parts. -/
def numeralValue (negative : Bool) (ds fr : List Char) (exponent : Option Int) : Json :=
  if fr = [] ∧ exponent = none then
    .int (if negative then -Int.ofNat (Decimal.toNat ds) else Decimal.toNat ds)
  else .float (Decimal.Spelling.toFloat ⟨negative, ds, fr, exponent.getD 0⟩)

/-- A number is read part by part. -/
theorem magnitude?_eq {tail tail' : List Char} (hw : wholePart? cs = some (ds, tail))
    (hf : fractionPart tail = (fr, tail')) (he : exponentPart tail' = (exponent, rest)) :
    magnitude? negative cs = some (numeralValue negative ds fr exponent, rest) := by
  simp only [magnitude?, hw, hf, he, numeralValue]
  split <;> rfl

theorem exists_of_magnitude? {v : Json} (h : magnitude? negative cs = some (v, rest)) :
    ∃ ds ft fr et exponent, cs = ds ++ (ft ++ (et ++ rest)) ∧
      wholePart? cs = some (ds, ft ++ (et ++ rest)) ∧ IsWhole ds ∧ Fraction ft fr ∧
      Exponent et exponent ∧ v = numeralValue negative ds fr exponent := by
  cases hw : wholePart? cs with
  | none =>
      rw [magnitude?, hw] at h
      cases h
  | some w =>
      obtain ⟨ds, tail⟩ := w
      cases hf : fractionPart tail with
      | mk fr tail' =>
          cases he : exponentPart tail' with
          | mk exponent tail'' =>
              rw [magnitude?_eq hw hf he] at h
              cases h
              obtain ⟨rfl, whole⟩ := isWhole_of_wholePart? hw
              obtain ⟨ft, rfl, fraction⟩ := fraction_of_fractionPart hf
              obtain ⟨et, rfl, exponent⟩ := exponent_of_exponentPart he
              exact ⟨ds, ft, fr, et, _, rfl, rfl, whole, fraction, exponent, rfl⟩

/-- What follows the parts of a number does not belong to any of them. -/
theorem wholePart?_parts (hw : IsWhole ds) (hf : Fraction ft fr) (he : Exponent et exponent)
    (apart : Apart rest) :
    wholePart? (ds ++ (ft ++ (et ++ rest))) = some (ds, ft ++ (et ++ rest)) ∧
      fractionPart (ft ++ (et ++ rest)) = (fr, et ++ rest) ∧
      exponentPart (et ++ rest) = (exponent, rest) := by
  have afterExponent : ∀ c ∈ (et ++ rest).head?, Decimal.isDigit c = false ∧ c ≠ '.' := by
    cases he with
    | none =>
        intro c hc
        have := apart c hc
        simp_all
    | digits letter => rcases letter with rfl | rfl <;> simp <;> decide
  have afterFraction : ∀ c ∈ (ft ++ (et ++ rest)).head?, Decimal.isDigit c = false := by
    cases hf with
    | none => exact fun c hc => (afterExponent c hc).1
    | digits => simp; decide
  refine ⟨wholePart?_append hw afterFraction, fractionPart_append hf afterExponent,
    exponentPart_append he ?_⟩
  intro c hc
  have := apart c hc
  simp_all

/-- A number without its sign is read up to what is apart from it. -/
theorem magnitude?_append (hw : IsWhole ds) (hf : Fraction ft fr) (he : Exponent et exponent)
    (apart : Apart rest) :
    magnitude? negative (ds ++ (ft ++ (et ++ rest))) =
      some (numeralValue negative ds fr exponent, rest) := by
  obtain ⟨whole, fraction, exponent⟩ := wholePart?_parts hw hf he apart
  exact magnitude?_eq whole fraction exponent

theorem IsWhole.exists_cons (h : IsWhole ds) : ∃ c cs, ds = c :: cs ∧ Decimal.isDigit c = true := by
  obtain rfl | ⟨⟨ne, digits⟩, -⟩ := h
  · exact ⟨'0', [], rfl, rfl⟩
  · obtain ⟨c, cs, rfl⟩ := List.exists_cons_of_ne_nil ne
    exact ⟨c, cs, rfl, digits c (List.mem_cons_self ..)⟩

/-- A minus sign, and nothing else, is taken off in front of a number. -/
theorem number?_signText (negative : Bool) (h : IsWhole ds) (more : List Char) :
    number? (signText negative ++ (ds ++ more)) = magnitude? negative (ds ++ more) ∧
      wholeDigits (signText negative ++ (ds ++ more)) =
        ((wholePart? (ds ++ more)).map (·.1.length)).getD 0 := by
  cases negative with
  | true => exact ⟨rfl, rfl⟩
  | false =>
      obtain ⟨c, cs, rfl, digit⟩ := h.exists_cons
      have unsigned : c ≠ '-' := by
        rintro rfl
        cases digit
      constructor
      · simp only [signText, Bool.false_eq_true, if_false, List.nil_append, List.cons_append]
        unfold number?
        split
        · rename_i heq
          exact absurd (List.cons.inj heq).1 unsigned
        · rfl
      · simp only [signText, Bool.false_eq_true, if_false, List.nil_append, List.cons_append]
        unfold wholeDigits
        split
        · rename_i heq
          exact absurd (List.cons.inj heq).1 unsigned
        · rfl

theorem exists_signText (cs : List Char) :
    ∃ negative tail, cs = signText negative ++ tail ∧ number? cs = magnitude? negative tail ∧
      wholeDigits cs = ((wholePart? tail).map (·.1.length)).getD 0 := by
  unfold number? wholeDigits
  split
  · exact ⟨true, _, rfl, rfl, rfl⟩
  · exact ⟨false, cs, rfl, rfl, rfl⟩

/-- Integers are refused for their length only, and other numbers are not. -/
theorem number_eq_ok_iff {v : Json} :
    number cs = .ok (v, rest) ↔
      number? cs = some (v, rest) ∧
        ((∃ n, v = .int n) → wholeDigits cs ≤ Decimal.Numeral.mostDigits) := by
  unfold number
  split
  · rename_i none
    simp [none, faultAt]
  · rename_i n tail some
    rw [some]
    split
    · rename_i long
      constructor
      · nofun
      · rintro ⟨heq, short⟩
        cases heq
        exact absurd (short ⟨n, rfl⟩) (Nat.not_le.mpr long)
    · rename_i short
      constructor
      · intro h
        cases h
        exact ⟨rfl, fun _ => Nat.not_lt.mp short⟩
      · rintro ⟨heq, -⟩
        cases heq
        rfl
  · rename_i r other some
    rw [some]
    constructor
    · intro h
      cases h
      refine ⟨rfl, ?_⟩
      rintro ⟨n, rfl⟩
      exact (other n rest rfl).elim
    · rintro ⟨heq, -⟩
      cases heq
      rfl

/-- What is read of a number is in the grammar. -/
theorem numeral_of_number {v : Json} (h : number cs = .ok (v, rest)) :
    ∃ t, cs = t ++ rest ∧ Numeral t v := by
  obtain ⟨hnumber, short⟩ := number_eq_ok_iff.mp h
  obtain ⟨negative, tail, rfl, hmagnitude, hdigits⟩ := exists_signText cs
  rw [hmagnitude] at hnumber
  obtain ⟨ds, ft, fr, et, exponent, rfl, hwhole, whole, fraction, hexponent, rfl⟩ :=
    exists_of_magnitude? hnumber
  rw [hdigits, hwhole, Option.map_some, Option.getD_some] at short
  by_cases integer : fr = [] ∧ exponent = none
  · obtain ⟨rfl, rfl⟩ := integer
    have value : numeralValue negative ds [] none = .int _ := if_pos ⟨rfl, rfl⟩
    rw [value] at short ⊢
    cases fraction with
    | none =>
        cases hexponent with
        | none => exact ⟨_, by simp, .int whole (short ⟨_, rfl⟩)⟩
    | digits digits => exact absurd rfl digits.1
  · rw [numeralValue, if_neg integer]
    exact ⟨_, by simp, .float whole fraction hexponent (by simpa [imp_iff_not_or] using integer)⟩

/-- What is in the grammar is read, if what follows is apart from it. -/
theorem number_of_numeral {t : List Char} {v : Json} (h : Numeral t v) (apart : Apart rest) :
    number (t ++ rest) = .ok (v, rest) := by
  rw [number_eq_ok_iff]
  cases h with
  | @int negative ds whole short =>
      obtain ⟨sign, digits⟩ := number?_signText negative whole rest
      obtain ⟨hwhole, -, -⟩ := wholePart?_parts whole .none .none apart
      have read : magnitude? negative (ds ++ rest) =
          some (numeralValue negative ds [] none, rest) :=
        magnitude?_append whole .none .none apart
      rw [List.nil_append, List.nil_append] at hwhole
      rw [List.append_assoc, sign, digits, hwhole, read]
      exact ⟨rfl, fun _ => short⟩
  | @float negative ds ft fr et exponent whole fraction hexponent real =>
      obtain ⟨sign, -⟩ := number?_signText negative whole (ft ++ (et ++ rest))
      have read : magnitude? negative (ds ++ (ft ++ (et ++ rest))) =
          some (numeralValue negative ds fr exponent, rest) :=
        magnitude?_append whole fraction hexponent apart
      have value : numeralValue negative ds fr exponent = .float _ :=
        if_neg (by simpa [imp_iff_not_or] using real)
      simp only [List.append_assoc]
      rw [sign, read, value]
      exact ⟨rfl, nofun⟩

end Number

end CommandCompiler.Json
