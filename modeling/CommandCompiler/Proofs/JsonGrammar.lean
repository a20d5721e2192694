import CommandCompiler.Proofs.JsonDocument
import CommandCompiler.Proofs.JsonScalar
/-!
# CommandCompiler.Proofs.JsonGrammar

**Documents are parsed by the grammar of JSON.** The grammar is a relation between
a text and the document that is written in it, with all fields of an object in
their order, also those of one name:

* `Json.Writes`, `WritesItems`, `WritesField`, `WritesFields` : values, and what
  stands between brackets and braces;
* `Json.Spells` : a text with one value in it;
* `Json.settled` : the document where the last of several fields of one name
  counts.

The reader is measured against it function by function: one step of each reads by
the grammar if the steps with less fuel do (`Sound`, `Complete`), and so all do,
by induction on the fuel (`sound`, `complete`). A text is parsed if and only if it
is in the grammar, and to what is settled of the document (`parse_eq_ok_iff`).
-/

namespace CommandCompiler.Json

/-! ## The grammar -/

/-- Whether a text consists of characters that may stand between tokens. -/
def IsBlank (cs : List Char) : Prop := ∀ c ∈ cs, isSpace c = true

mutual

/-- A text that writes a value with arrays and objects at most `room` deep in it, itself counted. -/
inductive Writes : (room : Nat) → List Char → Json → Prop
  | word {room : Nat} {w : String} {v : Json} (h : (w, v) ∈ namedValues) : Writes room w.toList v
  | number {room : Nat} {cs : List Char} {v : Json} (h : Numeral cs v) : Writes room cs v
  | str {room : Nat} {cs s : List Char} (h : Quotes cs s) :
      Writes room ('"' :: (cs ++ ['"'])) (.str (.ofList s))
  | noItems {room : Nat} {blank : List Char} (hb : IsBlank blank) :
      Writes (room + 1) ('[' :: (blank ++ [']'])) (.arr [])
  | arr {room : Nat} {blank cs : List Char} {vs : List Json} (hb : IsBlank blank)
      (h : WritesItems room cs vs) : Writes (room + 1) ('[' :: (blank ++ cs)) (.arr vs)
  | noFields {room : Nat} {blank : List Char} (hb : IsBlank blank) :
      Writes (room + 1) ('\x7b' :: (blank ++ ['\x7d'])) (.obj [])
  | obj {room : Nat} {blank cs : List Char} {fs : List (String × Json)} (hb : IsBlank blank)
      (h : WritesFields room cs fs) : Writes (room + 1) ('\x7b' :: (blank ++ cs)) (.obj fs)

/-- A text that writes the items of an array, up to the closing bracket. -/
inductive WritesItems : (room : Nat) → List Char → List Json → Prop
  | last {room : Nat} {cs blank : List Char} {v : Json} (h : Writes room cs v)
      (hb : IsBlank blank) : WritesItems room (cs ++ (blank ++ [']'])) [v]
  | more {room : Nat} {cs before after rest : List Char} {v : Json} {vs : List Json}
      (h : Writes room cs v) (hb : IsBlank before) (ha : IsBlank after)
      (hr : WritesItems room rest vs) :
      WritesItems room (cs ++ (before ++ ',' :: (after ++ rest))) (v :: vs)

/-- A text that writes a field of an object. -/
inductive WritesField : (room : Nat) → List Char → String × Json → Prop
  | mk {room : Nat} {ns name before after cs : List Char} {v : Json} (hn : Quotes ns name)
      (hb : IsBlank before) (ha : IsBlank after) (h : Writes room cs v) :
      WritesField room ('"' :: (ns ++ '"' :: (before ++ ':' :: (after ++ cs)))) (.ofList name, v)

/-- A text that writes the fields of an object, up to the closing brace. -/
inductive WritesFields : (room : Nat) → List Char → List (String × Json) → Prop
  | last {room : Nat} {cs blank : List Char} {f : String × Json} (h : WritesField room cs f)
      (hb : IsBlank blank) : WritesFields room (cs ++ (blank ++ ['\x7d'])) [f]
  | more {room : Nat} {cs before after rest : List Char} {f : String × Json}
      {fs : List (String × Json)} (h : WritesField room cs f) (hb : IsBlank before)
      (ha : IsBlank after) (hr : WritesFields room rest fs) :
      WritesFields room (cs ++ (before ++ ',' :: (after ++ rest))) (f :: fs)

end

/-- A text that writes one document, with blanks around it and not nested too deep. -/
def Spells (text : String) (v : Json) : Prop :=
  ∃ before cs after, text.toList = before ++ (cs ++ after) ∧ IsBlank before ∧ IsBlank after ∧
    Writes deepest cs v

mutual

/-- The document in which of several fields of one name the last one counts. -/
def settled : Json → Json
  | arr items => .arr (settledItems items)
  | obj fields => ofFields (settledFields fields)
  | v => v

/-- The items of an array, settled. -/
def settledItems : List Json → List Json
  | [] => []
  | v :: rest => v.settled :: settledItems rest

/-- The contents of fields, settled. -/
def settledFields : List (String × Json) → List (String × Json)
  | [] => []
  | (name, v) :: rest => (name, v.settled) :: settledFields rest

end

/-! ## Blanks -/

theorem isSpace_iff {c : Char} : isSpace c = true ↔ c ∈ [' ', '\t', '\n', '\r'] := by
  simp [isSpace, or_assoc]

theorem skipSpace_append {blank : List Char} (h : IsBlank blank) (cs : List Char) :
    skipSpace (blank ++ cs) = skipSpace cs :=
  List.dropWhile_append_of_pos h

/-- Blanks are skipped up to a character that is none. -/
theorem skipSpace_append_cons {blank : List Char} (h : IsBlank blank) {c : Char}
    (hc : isSpace c = false) (cs : List Char) : skipSpace (blank ++ c :: cs) = c :: cs := by
  rw [skipSpace_append h, skipSpace_cons hc]

theorem exists_blank (cs : List Char) : ∃ blank, IsBlank blank ∧ cs = blank ++ skipSpace cs :=
  ⟨cs.takeWhile isSpace, fun _ => List.mem_takeWhile_imp,
    List.takeWhile_append_dropWhile.symm⟩

/-! ## Scalars -/

theorem not_mem_of_isDigit {c : Char} (digit : Decimal.isDigit c = true) {marks : List Char}
    (none : marks.all fun d => !Decimal.isDigit d) : c ∉ marks := by
  intro mem
  have other := List.all_eq_true.mp none c mem
  rw [digit] at other
  cases other

theorem afterWord?_eq_some_iff {w cs rest : List Char} :
    afterWord? w cs = some rest ↔ cs = w ++ rest := by
  induction w generalizing cs with
  | nil => simp [afterWord?]
  | cons c w ih =>
      cases cs with
      | nil => simp [afterWord?]
      | cons d cs =>
          rw [afterWord?, List.cons_append, List.cons.injEq]
          split
          · rename_i same
            simp [same, ih]
          · rename_i other
            simp [Ne.symm other]

theorem settled_of_mem_namedValues {w : String} {v : Json} (h : (w, v) ∈ namedValues) :
    v.settled = v := by
  simp only [namedValues, List.mem_cons, Prod.mk.injEq, List.not_mem_nil, or_false] at h
  rcases h with ⟨-, rfl⟩ | ⟨-, rfl⟩ | ⟨-, rfl⟩ | ⟨-, rfl⟩ | ⟨-, rfl⟩ | ⟨-, rfl⟩ <;> rfl

theorem Numeral.settled_eq {cs : List Char} {v : Json} (h : Numeral cs v) : v.settled = v := by
  cases h <;> rfl

/-- A number starts with a digit, or with a minus sign and a digit. -/
theorem Numeral.starts {cs : List Char} {v : Json} (h : Numeral cs v) :
    ∃ c tail, Decimal.isDigit c = true ∧ (cs = c :: tail ∨ cs = '-' :: c :: tail) := by
  have signed {negative : Bool} {ds : List Char} (whole : IsWhole ds) (more : List Char) :
      ∃ c tail, Decimal.isDigit c = true ∧ (signText negative ++ (ds ++ more) = c :: tail ∨
        signText negative ++ (ds ++ more) = '-' :: c :: tail) := by
    obtain ⟨c, ds, rfl, digit⟩ := whole.exists_cons
    refine ⟨c, ds ++ more, digit, ?_⟩
    cases negative with
    | false => exact .inl rfl
    | true => exact .inr rfl
  cases h with
  | @int negative ds whole => simpa using @signed negative ds whole []
  | float whole => exact signed whole _

/-- What is read of a scalar is a word or a number. -/
theorem writes_of_scalar {room : Nat} {cs rest : List Char} {v : Json}
    (h : scalar cs = .ok (v, rest)) : ∃ t, cs = t ++ rest ∧ Writes room t v ∧ v.settled = v := by
  unfold scalar at h
  split at h
  · rename_i r found
    cases h
    obtain ⟨⟨w, v'⟩, hw, hafter⟩ := List.exists_of_findSome?_eq_some found
    obtain ⟨rest', hrest, heq⟩ := Option.map_eq_some_iff.mp hafter
    cases heq
    exact ⟨_, afterWord?_eq_some_iff.mp hrest, .word hw, settled_of_mem_namedValues hw⟩
  · obtain ⟨t, rfl, numeral⟩ := numeral_of_number h
    exact ⟨t, rfl, .number numeral, numeral.settled_eq⟩

theorem scalar_word {w : String} {v : Json} (h : (w, v) ∈ namedValues) (rest : List Char) :
    scalar (w.toList ++ rest) = .ok (v, rest) := by
  simp only [namedValues, List.mem_cons, Prod.mk.injEq, List.not_mem_nil, or_false] at h
  rcases h with ⟨rfl, rfl⟩ | ⟨rfl, rfl⟩ | ⟨rfl, rfl⟩ | ⟨rfl, rfl⟩ | ⟨rfl, rfl⟩ | ⟨rfl, rfl⟩ <;> rfl

/-- No word stands at the front of a number. -/
theorem scalar_number {cs rest : List Char} {v : Json} (h : Numeral cs v) :
    scalar (cs ++ rest) = number (cs ++ rest) := by
  have none : (namedValues.findSome? fun w => (afterWord? w.1.toList (cs ++ rest)).map (w.2, ·)) =
      none := by
    obtain ⟨c, tail, digit, heq⟩ := h.starts
    have ne (d : Char) (hd : Decimal.isDigit d = false) : d ≠ c := by
      rintro rfl
      rw [digit] at hd
      cases hd
    rcases heq with rfl | rfl
    · simp [namedValues, afterWord?, ne 'n' rfl, ne 't' rfl, ne 'f' rfl, ne 'N' rfl, ne 'I' rfl,
        ne '-' rfl]
    · simp [namedValues, afterWord?, ne 'I' rfl]
  rw [scalar, none]

/-! ## What is read is in the grammar -/

/-- What is read with this fuel is in the grammar. -/
structure Sound (fuel : Nat) : Prop where
  value {room : Nat} {cs rest : List Char} {v : Json}
    (h : Json.value fuel room cs = .ok (v, rest)) :
    ∃ t raw, cs = t ++ rest ∧ Writes room t raw ∧ raw.settled = v
  items {room : Nat} {cs rest : List Char} {vs : List Json}
    (h : Json.items fuel room cs = .ok (vs, rest)) :
    ∃ t raws, cs = t ++ rest ∧ WritesItems room t raws ∧ settledItems raws = vs
  fields {room : Nat} {cs rest : List Char} {fs : List (String × Json)}
    (h : Json.fields fuel room cs = .ok (fs, rest)) :
    ∃ t raws, cs = t ++ rest ∧ WritesFields room t raws ∧ settledFields raws = fs

namespace Sound

variable {fuel room : Nat} {cs rest : List Char}

theorem value_succ (ih : Sound fuel) {v : Json}
    (h : Json.value (fuel + 1) room cs = .ok (v, rest)) :
    ∃ t raw, cs = t ++ rest ∧ Writes room t raw ∧ raw.settled = v := by
  unfold Json.value at h
  split at h
  · cases ‹_›
  · rename_i tail _
    obtain ⟨⟨s, _⟩, hs, heq⟩ := map_eq_ok_iff.mp h
    cases heq
    obtain ⟨body, rfl, quotes⟩ := quotes_of_stringBody hs
    exact ⟨_, _, by simp, .str quotes, rfl⟩
  · cases h
  · rename_i _ room tail hfuel
    cases hfuel
    obtain ⟨blank, hb, htail⟩ := exists_blank tail
    split at h
    · rename_i heq
      cases h
      rw [heq] at htail
      exact ⟨_, .arr [], by rw [htail]; simp, .noItems hb, rfl⟩
    · obtain ⟨⟨vs, _⟩, hvs, heq⟩ := map_eq_ok_iff.mp h
      cases heq
      obtain ⟨ts, raws, hts, writes, rfl⟩ := ih.items hvs
      rw [hts] at htail
      exact ⟨_, .arr raws, by rw [htail]; simp, .arr hb writes, rfl⟩
  · cases h
  · rename_i _ room tail hfuel
    cases hfuel
    obtain ⟨blank, hb, htail⟩ := exists_blank tail
    split at h
    · rename_i heq
      cases h
      rw [heq] at htail
      exact ⟨_, .obj [], by rw [htail]; simp, .noFields hb, rfl⟩
    · obtain ⟨⟨fs, _⟩, hfs, heq⟩ := map_eq_ok_iff.mp h
      cases heq
      obtain ⟨ts, raws, hts, writes, rfl⟩ := ih.fields hfs
      rw [hts] at htail
      exact ⟨_, .obj raws, by rw [htail]; simp, .obj hb writes, rfl⟩
  · obtain ⟨t, rfl, writes, settled⟩ := writes_of_scalar h
    exact ⟨t, v, rfl, writes, settled⟩

theorem items_succ (ih : Sound fuel) {vs : List Json}
    (h : Json.items (fuel + 1) room cs = .ok (vs, rest)) :
    ∃ t raws, cs = t ++ rest ∧ WritesItems room t raws ∧ settledItems raws = vs := by
  rw [Json.items] at h
  split at h
  · cases h
  · rename_i v tail hv
    obtain ⟨t, raw, rfl, writes, rfl⟩ := ih.value hv
    obtain ⟨blank, hb, htail⟩ := exists_blank tail
    split at h
    · rename_i heq
      cases h
      rw [heq] at htail
      exact ⟨_, [raw], by rw [htail]; simp, .last writes hb, rfl⟩
    · rename_i tail' heq
      rw [heq] at htail
      obtain ⟨⟨vs, _⟩, hvs, heq⟩ := map_eq_ok_iff.mp h
      cases heq
      obtain ⟨after, ha, htail'⟩ := exists_blank tail'
      obtain ⟨ts, raws, hts, writesItems, rfl⟩ := ih.items hvs
      rw [hts] at htail'
      exact ⟨_, raw :: raws, by rw [htail, htail']; simp, .more writes hb ha writesItems, rfl⟩
    · cases h

theorem fields_succ (ih : Sound fuel) {fs : List (String × Json)}
    (h : Json.fields (fuel + 1) room cs = .ok (fs, rest)) :
    ∃ t raws, cs = t ++ rest ∧ WritesFields room t raws ∧ settledFields raws = fs := by
  unfold Json.fields at h
  split at h
  · cases ‹_›
  · rename_i _ tail hfuel
    cases hfuel
    split at h
    · cases h
    · rename_i name tail hname
      obtain ⟨ns, rfl, quotes⟩ := quotes_of_stringBody hname
      obtain ⟨before, hb, htail⟩ := exists_blank tail
      split at h
      · rename_i tail' heq
        rw [heq] at htail
        obtain ⟨after, ha, htail'⟩ := exists_blank tail'
        split at h
        · cases h
        · rename_i v tail'' hv
          obtain ⟨t, raw, ht, writes, rfl⟩ := ih.value hv
          rw [ht] at htail'
          have field : WritesField room _ (.ofList name, raw) := .mk quotes hb ha writes
          obtain ⟨blank, hblank, htail''⟩ := exists_blank tail''
          split at h
          · rename_i heq'
            cases h
            rw [heq'] at htail''
            exact ⟨_, [(.ofList name, raw)], by rw [htail, htail', htail'']; simp,
              .last field hblank, rfl⟩
          · rename_i more heq'
            rw [heq'] at htail''
            obtain ⟨⟨fs, _⟩, hfs, heq''⟩ := map_eq_ok_iff.mp h
            cases heq''
            obtain ⟨blank', hblank', hmore⟩ := exists_blank more
            obtain ⟨ts, raws, hts, writesFields, rfl⟩ := ih.fields hfs
            rw [hts] at hmore
            exact ⟨_, (.ofList name, raw) :: raws, by rw [htail, htail', htail'', hmore]; simp,
              .more field hblank hblank' writesFields, rfl⟩
          · cases h
      · cases h
  · cases h

end Sound

theorem sound (fuel : Nat) : Sound fuel := by
  induction fuel with
  | zero =>
    constructor
    · intro room cs rest v h
      rw [value] at h
      cases h
    · intro room cs rest vs h
      rw [items] at h
      cases h
    · intro room cs rest fs h
      rw [fields] at h
      cases h
  | succ fuel ih => exact ⟨ih.value_succ, ih.items_succ, ih.fields_succ⟩

/-! ## What is in the grammar is read -/

/-- What may follow a value: nothing, a blank, a comma or a closing bracket or brace. -/
def Ends (cs : List Char) : Prop :=
  ∀ c ∈ cs.head?, isSpace c = true ∨ c ∈ [',', ']', '\x7d']

theorem Ends.apart {cs : List Char} (h : Ends cs) : Apart cs := by
  intro c hc
  rcases h c hc with blank | mark
  · have mem := isSpace_iff.mp blank
    simp only [List.mem_cons, List.not_mem_nil, or_false] at mem
    rcases mem with rfl | rfl | rfl | rfl <;> decide
  · simp only [List.mem_cons, List.not_mem_nil, or_false] at mark
    rcases mark with rfl | rfl | rfl <;> decide

theorem ends_append_cons {blank : List Char} (h : IsBlank blank) {c : Char}
    (hc : c ∈ [',', ']', '\x7d']) (cs : List Char) : Ends (blank ++ c :: cs) := by
  intro d hd
  cases blank with
  | nil =>
      obtain rfl : c = d := by simpa using hd
      exact .inr hc
  | cons b blank =>
      obtain rfl : b = d := by simpa using hd
      exact .inl (h b (List.mem_cons_self ..))

/-- What a value, and nothing else, starts with. -/
def Starts (cs : List Char) : Prop :=
  ∃ c tail, cs = c :: tail ∧
    (c ∈ ['"', '[', '\x7b', 'n', 't', 'f', 'N', 'I', '-'] ∨ Decimal.isDigit c = true)

/-- No blank starts a value, and neither does a closing bracket or brace. -/
theorem Starts.ne {cs : List Char} (h : Starts cs) :
    skipSpace cs = cs ∧ ∀ c tail, c ∈ [']', '\x7d', '\uFEFF'] → cs ≠ c :: tail := by
  obtain ⟨c, tail, rfl, hc⟩ := h
  have plain : isSpace c = false ∧ c ∉ [']', '\x7d', '\uFEFF'] := by
    rcases hc with mark | digit
    · simp only [List.mem_cons, List.not_mem_nil, or_false] at mark
      rcases mark with rfl | rfl | rfl | rfl | rfl | rfl | rfl | rfl | rfl <;> decide
    · rw [Bool.eq_false_iff, Ne, isSpace_iff]
      exact ⟨not_mem_of_isDigit digit (by decide), not_mem_of_isDigit digit (by decide)⟩
  refine ⟨skipSpace_cons plain.1, ?_⟩
  rintro d tail' hd heq
  rw [(List.cons.inj heq).1] at plain
  exact plain.2 hd

theorem exists_cons_of_mem_namedValues {w : String} {v : Json} (h : (w, v) ∈ namedValues) :
    ∃ c tail, w.toList = c :: tail ∧ c ∈ ['n', 't', 'f', 'N', 'I', '-'] := by
  simp only [namedValues, List.mem_cons, Prod.mk.injEq, List.not_mem_nil, or_false] at h
  rcases h with ⟨rfl, rfl⟩ | ⟨rfl, rfl⟩ | ⟨rfl, rfl⟩ | ⟨rfl, rfl⟩ | ⟨rfl, rfl⟩ | ⟨rfl, rfl⟩ <;>
    exact ⟨_, _, rfl, by decide⟩

theorem Writes.starts {room : Nat} {cs : List Char} {v : Json} (h : Writes room cs v) :
    Starts cs := by
  cases h with
  | word h =>
      obtain ⟨c, tail, hw, hc⟩ := exists_cons_of_mem_namedValues h
      refine ⟨c, tail, hw, .inl ?_⟩
      exact List.mem_cons_of_mem _ (List.mem_cons_of_mem _ (List.mem_cons_of_mem _ hc))
  | number h =>
      obtain ⟨c, tail, digit, rfl | rfl⟩ := h.starts
      · exact ⟨c, tail, rfl, .inr digit⟩
      · exact ⟨'-', _, rfl, .inl (by simp)⟩
  | str => exact ⟨'"', _, rfl, .inl (by simp)⟩
  | noItems | arr => exact ⟨'[', _, rfl, .inl (by simp)⟩
  | noFields | obj => exact ⟨'\x7b', _, rfl, .inl (by simp)⟩

theorem Starts.append {cs : List Char} (h : Starts cs) (more : List Char) :
    Starts (cs ++ more) := by
  obtain ⟨c, tail, rfl, hc⟩ := h
  exact ⟨c, tail ++ more, rfl, hc⟩

theorem WritesItems.starts {room : Nat} {cs : List Char} {vs : List Json}
    (h : WritesItems room cs vs) : Starts cs := by
  cases h with
  | last h | more h => exact h.starts.append _

theorem WritesFields.starts {room : Nat} {cs : List Char} {fs : List (String × Json)}
    (h : WritesFields room cs fs) : Starts cs := by
  cases h with
  | last h | more h =>
      cases h
      exact ⟨'"', _, rfl, .inl (by simp)⟩

/-- What starts neither a text nor a collection is a scalar. -/
theorem value_scalar {fuel room : Nat} {c : Char} {tail : List Char}
    (h : c ∉ ['"', '[', '\x7b']) : value (fuel + 1) room (c :: tail) = scalar (c :: tail) := by
  simp only [List.mem_cons, List.not_mem_nil, or_false, not_or] at h
  obtain ⟨quote, bracket, brace⟩ := h
  rw [value]
  all_goals simp [quote, bracket, brace]

/-- What is in the grammar is read, with at least as much fuel as there are characters. -/
structure Complete (fuel : Nat) : Prop where
  value {room : Nat} {cs rest : List Char} {v : Json} (h : Writes room cs v)
    (enough : cs.length ≤ fuel) (ends : Ends rest) :
    Json.value fuel room (cs ++ rest) = .ok (v.settled, rest)
  items {room : Nat} {cs rest : List Char} {vs : List Json} (h : WritesItems room cs vs)
    (enough : cs.length ≤ fuel) :
    Json.items fuel room (cs ++ rest) = .ok (settledItems vs, rest)
  fields {room : Nat} {cs rest : List Char} {fs : List (String × Json)}
    (h : WritesFields room cs fs) (enough : cs.length ≤ fuel) :
    Json.fields fuel room (cs ++ rest) = .ok (settledFields fs, rest)

namespace Complete

variable {fuel room : Nat} {cs rest : List Char}

theorem value_succ (ih : Complete fuel) {v : Json} (h : Writes room cs v)
    (enough : cs.length ≤ fuel + 1) (ends : Ends rest) :
    Json.value (fuel + 1) room (cs ++ rest) = .ok (v.settled, rest) := by
  cases h with
  | word h =>
      obtain ⟨c, tail, hw, hc⟩ := exists_cons_of_mem_namedValues h
      have other : c ∉ ['"', '[', '\x7b'] := by
        simp only [List.mem_cons, List.not_mem_nil, or_false] at hc
        rcases hc with rfl | rfl | rfl | rfl | rfl | rfl <;> decide
      have read := scalar_word h rest
      rw [hw, List.cons_append] at read ⊢
      rw [value_scalar other, read, settled_of_mem_namedValues h]
  | number h =>
      have read : scalar (cs ++ rest) = .ok (v, rest) := by
        rw [scalar_number h, number_of_numeral h ends.apart]
      rw [h.settled_eq, ← read]
      obtain ⟨c, tail, digit, rfl | rfl⟩ := h.starts
      · exact value_scalar (not_mem_of_isDigit digit (by decide))
      · exact value_scalar (by decide)
  | @str _ cs s quotes =>
      rw [List.cons_append, List.append_assoc, List.singleton_append, Json.value,
        stringBody_of_quotes quotes]
      rfl
  | @noItems room blank hb =>
      rw [List.cons_append, List.append_assoc, List.singleton_append, Json.value,
        skipSpace_append_cons hb rfl]
      rfl
  | @arr room blank cs vs hb h =>
      have enough : cs.length ≤ fuel := by
        simp only [List.length_cons, List.length_append] at enough
        omega
      obtain ⟨skip, ne⟩ := (h.starts.append rest).ne
      rw [List.cons_append, List.append_assoc, Json.value, skipSpace_append hb, skip]
      split
      · rename_i heq
        exact absurd heq (ne _ _ (by simp))
      · rw [ih.items h enough]
        rfl
  | @noFields room blank hb =>
      rw [List.cons_append, List.append_assoc, List.singleton_append, Json.value,
        skipSpace_append_cons hb rfl]
      rfl
  | @obj room blank cs fs hb h =>
      have enough : cs.length ≤ fuel := by
        simp only [List.length_cons, List.length_append] at enough
        omega
      obtain ⟨skip, ne⟩ := (h.starts.append rest).ne
      rw [List.cons_append, List.append_assoc, Json.value, skipSpace_append hb, skip]
      split
      · rename_i heq
        exact absurd heq (ne _ _ (by simp))
      · rw [ih.fields h enough]
        rfl

theorem items_succ (ih : Complete fuel) {vs : List Json} (h : WritesItems room cs vs)
    (enough : cs.length ≤ fuel + 1) :
    Json.items (fuel + 1) room (cs ++ rest) = .ok (settledItems vs, rest) := by
  cases h with
  | @last _ cs blank v h hb =>
      simp only [List.length_append, List.length_singleton] at enough
      have read : Json.value fuel room (cs ++ (blank ++ ']' :: rest)) =
          .ok (v.settled, blank ++ ']' :: rest) :=
        ih.value h (by omega) (ends_append_cons hb (by simp) _)
      rw [List.append_assoc, List.append_assoc, List.singleton_append, Json.items, read]
      simp only [skipSpace_append_cons hb (rfl : isSpace ']' = false)]
      rfl
  | @more _ cs before after more v vs h hb ha hr =>
      simp only [List.length_append, List.length_cons] at enough
      have read : Json.value fuel room (cs ++ (before ++ ',' :: (after ++ (more ++ rest)))) =
          .ok (v.settled, before ++ ',' :: (after ++ (more ++ rest))) :=
        ih.value h (by omega) (ends_append_cons hb (by simp) _)
      have others : Json.items fuel room (more ++ rest) = .ok (settledItems vs, rest) :=
        ih.items hr (by omega)
      simp only [List.append_assoc, List.cons_append]
      rw [Json.items, read]
      simp only [skipSpace_append_cons hb (rfl : isSpace ',' = false), skipSpace_append ha,
        (hr.starts.append rest).ne.1, others]
      rfl

/-- A field is read, and what follows it says whether there are more. -/
theorem fields_field (ih : Complete fuel) {f : String × Json} (h : WritesField room cs f)
    (enough : cs.length ≤ fuel + 1) (ends : Ends rest) {rest' : List Char} :
    (skipSpace rest = '\x7d' :: rest' →
      Json.fields (fuel + 1) room (cs ++ rest) = .ok ([(f.1, f.2.settled)], rest')) ∧
    (skipSpace rest = ',' :: rest' →
      Json.fields (fuel + 1) room (cs ++ rest) =
        (fun p => ((f.1, f.2.settled) :: p.1, p.2)) <$>
          Json.fields fuel room (skipSpace rest')) := by
  obtain @⟨_, ns, name, before, after, cs, v, quotes, hb, ha, h⟩ := h
  simp only [List.length_append, List.length_cons] at enough
  have read : Json.value fuel room (cs ++ rest) = .ok (v.settled, rest) :=
    ih.value h (by omega) ends
  have colon : skipSpace (before ++ ':' :: (after ++ (cs ++ rest))) =
      ':' :: (after ++ (cs ++ rest)) := skipSpace_append_cons hb rfl _
  have front : skipSpace (after ++ (cs ++ rest)) = cs ++ rest := by
    rw [skipSpace_append ha, (h.starts.append rest).ne.1]
  simp only [List.append_assoc, List.cons_append]
  rw [Json.fields, stringBody_of_quotes quotes]
  simp only [colon, front, read]
  constructor
  · intro close
    simp only [close]
  · intro comma
    simp only [comma]

theorem fields_succ (ih : Complete fuel) {fs : List (String × Json)} (h : WritesFields room cs fs)
    (enough : cs.length ≤ fuel + 1) :
    Json.fields (fuel + 1) room (cs ++ rest) = .ok (settledFields fs, rest) := by
  cases h with
  | @last _ cs blank f h hb =>
      simp only [List.length_append, List.length_singleton] at enough
      have ends : Ends (blank ++ '\x7d' :: rest) := ends_append_cons hb (by simp) _
      rw [List.append_assoc, List.append_assoc, List.singleton_append,
        (ih.fields_field h (by omega) ends).1 (skipSpace_append_cons hb rfl _)]
      rfl
  | @more _ cs before after more f fs h hb ha hr =>
      simp only [List.length_append, List.length_cons] at enough
      have ends : Ends (before ++ ',' :: (after ++ (more ++ rest))) :=
        ends_append_cons hb (by simp) _
      have others : Json.fields fuel room (more ++ rest) = .ok (settledFields fs, rest) :=
        ih.fields hr (by omega)
      simp only [List.append_assoc, List.cons_append]
      rw [(ih.fields_field h (by omega) ends).2 (skipSpace_append_cons hb rfl _),
        skipSpace_append ha, (hr.starts.append rest).ne.1, others]
      rfl

end Complete

theorem complete (fuel : Nat) : Complete fuel := by
  induction fuel with
  | zero =>
      -- Whatever is in the grammar has at least one character.
      have none {cs : List Char} (starts : Starts cs) (enough : cs.length ≤ 0) : False := by
        obtain ⟨c, tail, rfl, -⟩ := starts
        exact Nat.not_succ_le_zero _ enough
      exact ⟨fun h enough _ => (none h.starts enough).elim,
        fun h enough => (none h.starts enough).elim, fun h enough => (none h.starts enough).elim⟩
  | succ fuel ih => exact ⟨ih.value_succ, ih.items_succ, ih.fields_succ⟩

/-! ## Texts -/

/-- A text is parsed if and only if it is in the grammar, and to what is settled of the document in
it. -/
theorem parse_eq_ok_iff {text : String} {v : Json} :
    parse text = .ok v ↔ ∃ raw, Spells text raw ∧ raw.settled = v := by
  constructor
  · intro h
    unfold parse at h
    split at h
    · cases h
    · split at h
      · cases h
      · rename_i v rest hv
        split at h
        · rename_i heq
          cases h
          obtain ⟨before, hb, htext⟩ := exists_blank text.toList
          obtain ⟨t, raw, ht, writes, rfl⟩ := (sound _).value hv
          obtain ⟨after, ha, hrest⟩ := exists_blank rest
          rw [heq, List.append_nil] at hrest
          rw [ht, hrest] at htext
          exact ⟨raw, ⟨before, t, after, htext, hb, ha, writes⟩, rfl⟩
        · cases h
  · rintro ⟨raw, ⟨before, cs, after, htext, hb, ha, writes⟩, rfl⟩
    have enough : cs.length ≤ 2 * text.toList.length + 1 := by
      rw [htext, List.length_append, List.length_append]
      omega
    have ends : Ends after := by
      intro c hc
      exact .inl (ha c (List.mem_of_mem_head? hc))
    obtain ⟨skip, ne⟩ := (writes.starts.append after).ne
    have read := (complete _).value writes enough ends
    have closed : skipSpace after = [] := List.dropWhile_eq_nil_iff.mpr ha
    have marked (rest : List Char) : text.toList ≠ '\uFEFF' :: rest := by
      rw [htext]
      cases before with
      | nil => exact ne _ _ (by simp)
      | cons b before =>
          intro heq
          have blank : isSpace b = true := hb b (List.mem_cons_self ..)
          rw [(List.cons.inj heq).1] at blank
          cases blank
    unfold parse
    split
    · rename_i heq
      exact absurd heq (marked _)
    · rw [htext, skipSpace_append hb, skip, ← htext, read]
      simp only [closed]

end CommandCompiler.Json
