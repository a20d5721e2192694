import CommandCompiler.Keyed
import CommandCompiler.Proofs.JsonLiteral
/-!
# CommandCompiler.Proofs.JsonDocument

**Documents are read back from their text.** What a reader needs to do so is a
property of one document (`Json.ReadBack`), which texts have, and which arrays and
objects have if their parts do (`ReadBack.str`, `ReadBack.arr`, `ReadBack.obj`).
So a document of known shape is seen to be read back by following its shape, and
no lemma is about all documents at once.

The fuel of the reader is no concern of those who use this: as much as there are
characters is enough, and a document is parsed with more (`ReadBack.parse_print`).
-/

namespace CommandCompiler.Json

theorem skipSpace_cons {c : Char} {cs : List Char} (h : isSpace c = false) :
    skipSpace (c :: cs) = c :: cs := by
  simp [skipSpace, h]

/-! ## Fields -/

/-- A field of an object is put in place of one with the same name. -/
theorem putField_eq_putBy (fs : List (String × Json)) (name : String) (v : Json) :
    putField fs name v = putBy (·.1) (name, v) fs := by
  induction fs with
  | nil => rfl
  | cons f fs ih =>
      rw [putField, putBy, ih]
      split
      · rename_i same
        rw [same]
      · rfl

/-- Fields with distinct names all stay. -/
theorem ofFields_eq_obj {fs : List (String × Json)} (h : (fs.map (·.1)).Nodup) :
    ofFields fs = .obj fs := by
  simp only [ofFields, putField_eq_putBy]
  exact congrArg obj (keyedBy_eq_self h)

/-- The text of a field in front of further characters. -/
def fieldText (f : String × Json) (rest : List Char) : List Char :=
  literal f.1 ++ ':' :: (f.2.chars ++ rest)

section FieldText

variable (f : String × Json) (fs : List (String × Json)) (cs rest : List Char)

theorem fieldText_append : fieldText f cs ++ rest = fieldText f (cs ++ rest) := by
  simp [fieldText]

theorem length_fieldText :
    (fieldText f rest).length = (literal f.1).length + f.2.chars.length + rest.length + 1 := by
  simp [fieldText, Nat.add_assoc]

theorem skipSpace_fieldText : skipSpace (fieldText f rest) = fieldText f rest :=
  skipSpace_cons rfl

theorem fieldChars_cons : fieldChars (f :: fs) = ',' :: fieldText f (fieldChars fs) := by
  simp [fieldChars, fieldText]

theorem chars_obj_cons : chars (.obj (f :: fs)) = '\x7b' :: fieldText f (fieldChars fs) := by
  simp [chars, fieldText]

end FieldText

/-! ## Reading back -/

/-- A document that is read back from its text, whatever follows that, by a reader with room for as
many arrays and objects as stand inside one another in it. The text of such a document starts with
a character that starts nothing but a value. -/
structure ReadBack (depth : Nat) (v : Json) : Prop where
  starts : ∃ c cs, v.chars = c :: cs ∧ c ∈ ['"', '[', '\x7b']
  reads {fuel room : Nat} {rest : List Char} (hr : depth ≤ room)
    (hf : v.chars.length ≤ fuel + 1) : value (fuel + 1) room (v.chars ++ rest) = .ok (v, rest)

namespace ReadBack

variable {depth room fuel : Nat} {rest : List Char} {v : Json}

theorem chars_length_pos (h : ReadBack depth v) : 0 < v.chars.length := by
  obtain ⟨c, cs, hc, -⟩ := h.starts
  simp [hc]

theorem value_eq (h : ReadBack depth v) (hr : depth ≤ room) (hf : v.chars.length ≤ fuel) :
    value fuel room (v.chars ++ rest) = .ok (v, rest) := by
  obtain ⟨fuel, rfl⟩ := Nat.exists_eq_add_one.mpr (Nat.lt_of_lt_of_le h.chars_length_pos hf)
  exact h.reads hr hf

theorem skipSpace_eq (h : ReadBack depth v) (rest : List Char) :
    skipSpace (v.chars ++ rest) = v.chars ++ rest := by
  obtain ⟨c, cs, hc, hmem⟩ := h.starts
  rw [hc]
  refine skipSpace_cons ?_
  simp only [List.mem_cons, List.not_mem_nil, or_false] at hmem
  rcases hmem with rfl | rfl | rfl <;> rfl

/-- A character that starts no value does not start the text. -/
theorem chars_append_ne {c : Char} (h : ReadBack depth v) (hc : c ∉ ['"', '[', '\x7b'])
    (rest tail : List Char) : v.chars ++ rest ≠ c :: tail := by
  obtain ⟨d, cs, hd, hmem⟩ := h.starts
  rw [hd, List.cons_append, ne_eq, List.cons.injEq]
  rintro ⟨rfl, -⟩
  exact hc hmem

protected theorem str {s : String} (h : Text.IsHeld s) : ReadBack depth (.str s) where
  starts := ⟨'"', _, rfl, by simp⟩
  reads {fuel room rest} hr hf := by
    obtain ⟨body, hbody, reads⟩ := exists_body_of_isHeld h rest
    rw [chars, hbody, value, reads]
    exact congrArg (fun s => Except.ok (Json.str s, rest)) String.ofList_toList

/-! ## Arrays -/

/-- Items are read up to the end of their array, if each of them is read. -/
theorem items_eq_ok {vs : List Json} (hr : depth ≤ room) (h : ∀ w ∈ v :: vs, ReadBack depth w)
    (hf : (v.chars ++ itemChars vs).length ≤ fuel) :
    items fuel room (v.chars ++ (itemChars vs ++ rest)) = .ok (v :: vs, rest) := by
  -- Every value has a character, so that the fuel for all of them is enough for the next call.
  induction vs generalizing v fuel with
  | nil =>
      have hv := h v (List.mem_singleton_self v)
      simp only [itemChars, List.length_append, List.length_singleton] at hf
      obtain ⟨fuel, rfl⟩ := Nat.exists_eq_add_one.mpr (by omega : 0 < fuel)
      rw [items, hv.value_eq hr (by omega)]
      rfl
  | cons w vs ih =>
      obtain ⟨hv, h⟩ := List.forall_mem_cons.mp h
      have hw := h w (List.mem_cons_self ..)
      have pos := hv.chars_length_pos
      simp only [itemChars, List.length_append, List.length_cons] at hf
      obtain ⟨fuel, rfl⟩ := Nat.exists_eq_add_one.mpr (by omega : 0 < fuel)
      have others : items fuel room (w.chars ++ (itemChars vs ++ rest)) = .ok (w :: vs, rest) :=
        ih h (by simp only [List.length_append]; omega)
      rw [items, hv.value_eq hr (by omega)]
      simp only [itemChars, List.cons_append, skipSpace_cons (rfl : isSpace ',' = false),
        List.append_assoc, hw.skipSpace_eq, others]
      rfl

/-- An array is what it opens with and its items, if there are any. -/
theorem value_openBracket (h : ReadBack depth v) :
    value (fuel + 1) (room + 1) ('[' :: (v.chars ++ rest)) =
      (fun p => (.arr p.1, p.2)) <$> items fuel room (v.chars ++ rest) := by
  rw [value, h.skipSpace_eq]
  split
  · rename_i empty
    exact absurd empty (h.chars_append_ne (by decide) _ _)
  · rfl

protected theorem arr {vs : List Json} (h : ∀ v ∈ vs, ReadBack depth v) :
    ReadBack (depth + 1) (.arr vs) where
  starts := by
    cases vs with
    | nil => exact ⟨'[', _, rfl, by simp⟩
    | cons v vs => exact ⟨'[', _, rfl, by simp⟩
  reads {fuel room rest} hr hf := by
    obtain ⟨room, rfl⟩ := Nat.exists_eq_add_one.mpr (Nat.lt_of_lt_of_le (Nat.succ_pos _) hr)
    cases vs with
    | nil => rfl
    | cons v vs =>
        have hv := h v (List.mem_cons_self ..)
        have read : items fuel room (v.chars ++ (itemChars vs ++ rest)) = .ok (v :: vs, rest) :=
          items_eq_ok (Nat.le_of_succ_le_succ hr) h (Nat.le_of_succ_le_succ hf)
        simp only [chars, List.cons_append, List.append_assoc, hv.value_openBracket, read]
        rfl

/-! ## Objects -/

section Field

variable {f : String × Json} (hn : Text.IsHeld f.1) (hv : ReadBack depth f.2) (hr : depth ≤ room)
  (hf : f.2.chars.length ≤ fuel)

include hn hv hr hf

theorem fields_last :
    fields (fuel + 1) room (fieldText f ('\x7d' :: rest)) = .ok ([f], rest) := by
  obtain ⟨body, hbody, reads⟩ := exists_body_of_isHeld hn (':' :: (f.2.chars ++ '\x7d' :: rest))
  rw [fieldText, hbody, fields, reads]
  simp [skipSpace_cons (rfl : isSpace ':' = false), hv.skipSpace_eq, hv.value_eq hr hf,
    skipSpace_cons (rfl : isSpace '\x7d' = false)]

theorem fields_more :
    fields (fuel + 1) room (fieldText f (',' :: rest)) =
      (fun p => (f :: p.1, p.2)) <$> fields fuel room (skipSpace rest) := by
  obtain ⟨body, hbody, reads⟩ := exists_body_of_isHeld hn (':' :: (f.2.chars ++ ',' :: rest))
  rw [fieldText, hbody, fields, reads]
  simp [skipSpace_cons (rfl : isSpace ':' = false), hv.skipSpace_eq, hv.value_eq hr hf,
    skipSpace_cons (rfl : isSpace ',' = false)]

end Field

/-- Fields are read up to the end of their object, if their contents are read. -/
theorem fields_eq_ok {f : String × Json} {fs : List (String × Json)} (hr : depth ≤ room)
    (h : ∀ g ∈ f :: fs, Text.IsHeld g.1 ∧ ReadBack depth g.2)
    (hf : (fieldText f (fieldChars fs)).length ≤ fuel) :
    fields fuel room (fieldText f (fieldChars fs ++ rest)) = .ok (f :: fs, rest) := by
  induction fs generalizing f fuel with
  | nil =>
      obtain ⟨hn, hv⟩ := h f (List.mem_singleton_self f)
      rw [length_fieldText] at hf
      obtain ⟨fuel, rfl⟩ := Nat.exists_eq_add_one.mpr (by omega : 0 < fuel)
      exact fields_last hn hv hr (by omega)
  | cons g fs ih =>
      obtain ⟨⟨hn, hv⟩, h⟩ := List.forall_mem_cons.mp h
      rw [fieldChars_cons, length_fieldText, List.length_cons] at hf
      obtain ⟨fuel, rfl⟩ := Nat.exists_eq_add_one.mpr (by omega : 0 < fuel)
      have others : fields fuel room (fieldText g (fieldChars fs ++ rest)) = .ok (g :: fs, rest) :=
        ih h (by omega)
      rw [fieldChars_cons, List.cons_append, fieldText_append,
        fields_more hn hv hr (by omega), skipSpace_fieldText, others]
      rfl

protected theorem obj {fs : List (String × Json)} (names : (fs.map (·.1)).Nodup)
    (h : ∀ f ∈ fs, Text.IsHeld f.1 ∧ ReadBack depth f.2) : ReadBack (depth + 1) (.obj fs) where
  starts := by
    cases fs with
    | nil => exact ⟨'\x7b', _, rfl, by simp⟩
    | cons f fs => exact ⟨'\x7b', _, rfl, by simp⟩
  reads {fuel room rest} hr hf := by
    obtain ⟨room, rfl⟩ := Nat.exists_eq_add_one.mpr (Nat.lt_of_lt_of_le (Nat.succ_pos _) hr)
    cases fs with
    | nil => rfl
    | cons f fs =>
        rw [chars_obj_cons] at hf ⊢
        have read : fields fuel room (fieldText f (fieldChars fs ++ rest)) = .ok (f :: fs, rest) :=
          fields_eq_ok (Nat.le_of_succ_le_succ hr) h (Nat.le_of_succ_le_succ hf)
        rw [List.cons_append, fieldText_append, value, skipSpace_fieldText]
        split
        · cases ‹_›
        · rw [read]
          exact congrArg (fun v => Except.ok (v, rest)) (ofFields_eq_obj names)

end ReadBack

/-- The text of a document that can be read back is parsed to it, unless too many arrays and objects
stand inside one another. -/
theorem ReadBack.parse_print {v : Json} {depth : Nat} (h : ReadBack depth v)
    (hd : depth ≤ deepest) : parse v.print = .ok v := by
  have start : skipSpace v.chars = v.chars := by
    simpa using h.skipSpace_eq []
  have read : value (2 * v.chars.length + 1) deepest v.chars = .ok (v, []) := by
    rw [← h.reads hd (by omega : v.chars.length ≤ 2 * v.chars.length + 1), List.append_nil]
  unfold parse
  rw [print, String.toList_ofList]
  split
  · rename_i marked
    exact absurd marked (by simpa using h.chars_append_ne (by decide) [] _)
  · rw [start, read]
    rfl

end CommandCompiler.Json
