import CommandCompiler.Proofs.TypeText
/-!
# CommandCompiler.Proofs.TypeSpelling

**Texts in the same pieces are parsed alike.** A text falls into pieces, whatever
it is the text of: runs of word characters as long as they can be, and each other
character that is not blank on its own (`Text.pieces`). Blanks separate pieces and
mean nothing otherwise, and `Option` means `Optional`. So two texts in the same
pieces, up to that word, are parsed to the same type or to none
(`TypeRef.parse_of_sameSpelling`).

The pieces of a text that can be scanned are its tokens (`piecesFrom_of_scanFrom`),
and a text in pieces that are tokens has them written in it (`written_of_piecesFrom`).
-/

namespace CommandCompiler

namespace Text

/-- Puts the run that ends here, if there is one, before further pieces. -/
def endRun (w : List Char) (rest : List String) : List String :=
  if w = [] then rest else .ofList w :: rest

/-- The pieces of `w ++ cs`, where the run `w` of word characters has been read and may go on. -/
def piecesFrom (w : List Char) : List Char → List String
  | [] => endRun w []
  | c :: cs =>
    if isWordChar c then piecesFrom (w ++ [c]) cs
    else if isBlank c then endRun w (piecesFrom [] cs)
    else endRun w (.ofList [c] :: piecesFrom [] cs)

/-- The pieces of a text between its blanks: runs of ASCII letters, digits and underscores, as long
as they can be, and every other character on its own. -/
def pieces (s : String) : List String := piecesFrom [] s.toList

end Text

/-- The word that a word of a type is another spelling of: `Option` means `Optional`. -/
def TypeRef.plainWord (w : String) : String := if w = "Option" then "Optional" else w

/-- Whether two texts are the same up to the blanks between their pieces and the two words for
types that may be absent. -/
def TypeRef.SameSpelling (s s' : String) : Prop :=
  (Text.pieces s).map plainWord = (Text.pieces s').map plainWord

instance (s s' : String) : Decidable (TypeRef.SameSpelling s s') :=
  inferInstanceAs (Decidable (_ = _))

theorem TypeRef.SameSpelling.symm {s s' : String} (h : SameSpelling s s') : SameSpelling s' s :=
  Eq.symm h

namespace TypeToken

open Text

/-! ## Pieces and tokens -/

theorem endRun_map_text (w : List Char) (ts : List TypeToken) :
    endRun w (ts.map text) = (endWord w ts).map text := by
  unfold endRun endWord
  split <;> rfl

/-- The pieces of what can be scanned are the tokens. -/
theorem piecesFrom_of_scanFrom {w cs : List Char} {ts : List TypeToken}
    (h : scanFrom w cs = .ok ts) : piecesFrom w cs = ts.map text := by
  induction cs generalizing w ts with
  | nil =>
      cases h
      exact endRun_map_text w []
  | cons c cs ih =>
      obtain ⟨hc, -, h⟩ | ⟨hc, us, hus, rfl⟩ | ⟨t, us, ht, hus, rfl⟩ := scanFrom_cons_eq_ok h
      · rw [piecesFrom, if_pos hc, ih h]
      · have noWord : ¬ isWordChar c = true := by
          intro word
          simp [isBlank_eq_false_of_isWordChar word] at hc
        rw [piecesFrom, if_neg noWord, if_pos hc, ih hus, endRun_map_text]
      · obtain ⟨⟨text, -⟩, noWord, notBlank⟩ := symbol?_eq_some ht
        have symbol : String.ofList [c] = t.text := by rw [← text, String.ofList_toList]
        rw [piecesFrom, if_neg (by simp [noWord]), if_neg (by simp [notBlank]), ih hus, symbol,
          ← List.map_cons, endRun_map_text]

/-- Where a run ends, the tokens that are the pieces are written if those after the run are. -/
theorem written_of_endRun {w cs : List Char} {rest : List String} {ts : List TypeToken}
    (h : endRun w rest = ts.map text)
    (written : ∀ us : List TypeToken, rest = us.map text → Written us cs) :
    Written ts (w ++ cs) := by
  unfold endRun at h
  split at h
  · rename_i empty
    rw [empty, List.nil_append]
    exact written ts h
  · obtain ⟨t, us, rfl, ht, hus⟩ := List.map_eq_cons_iff.mp h.symm
    have text : t.text.toList = w := by rw [ht, String.toList_ofList]
    rw [← text]
    exact (written us hus.symm).cons_token

/-- Tokens that are the pieces of a text are written in it. -/
theorem written_of_piecesFrom {w cs : List Char} {ts : List TypeToken}
    (h : piecesFrom w cs = ts.map text) : Written ts (w ++ cs) := by
  induction cs generalizing w ts with
  | nil =>
      refine written_of_endRun h fun us hus => ?_
      rw [List.map_eq_nil_iff.mp hus.symm]
      exact .nil nofun
  | cons c cs ih =>
      rw [piecesFrom] at h
      split at h
      · simpa using ih h
      · split at h
        · rename_i blank
          exact written_of_endRun h fun us hus => (ih hus).cons_blank blank
        · refine written_of_endRun h fun us hus => ?_
          obtain ⟨t, us, rfl, ht, hus⟩ := List.map_eq_cons_iff.mp hus.symm
          have text : t.text.toList = [c] := by rw [ht, String.toList_ofList]
          have := (ih hus.symm).cons_token (t := t)
          rwa [text] at this

/-- A piece that is a token up to the two words for types that may be absent is a token itself. -/
theorem exists_of_plainWord {t : TypeToken} {p : String}
    (h : TypeRef.plainWord p = TypeRef.plainWord t.text) :
    ∃ u : TypeToken, u.text = p ∧ u.plain = t.plain := by
  cases t with
  | word w => exact ⟨.word p, rfl, congrArg word h⟩
  | openAngle | closeAngle | comma =>
      refine ⟨_, ?_, rfl⟩
      simp only [TypeRef.plainWord, text] at h ⊢
      split at h
      · simp at h
      · simpa using h.symm

theorem exists_of_map_plainWord {ts : List TypeToken} {ps : List String}
    (h : ps.map TypeRef.plainWord = (ts.map text).map TypeRef.plainWord) :
    ∃ us : List TypeToken, us.map text = ps ∧ us.map plain = ts.map plain := by
  induction ts generalizing ps with
  | nil => exact ⟨[], (List.map_eq_nil_iff.mp h).symm, rfl⟩
  | cons t ts ih =>
      obtain ⟨p, ps, rfl, hp, hps⟩ := List.map_eq_cons_iff.mp h
      obtain ⟨u, rfl, plain⟩ := exists_of_plainWord hp
      obtain ⟨us, rfl, plains⟩ := ih hps
      exact ⟨u :: us, rfl, by rw [List.map_cons, plain, plains, List.map_cons]⟩

end TypeToken

/-! ## Types -/

/-- A type that a text is parsed to is the one that each other spelling of the text is parsed to. -/
theorem TypeRef.parse_of_sameSpelling {s s' : String} {t : TypeRef} (h : SameSpelling s s')
    (parsed : parse s = .ok t) : parse s' = .ok t := by
  obtain ⟨canonical, ts, plain, written⟩ := parse_eq_ok_iff.mp parsed
  have spells : Spells t ts :=
    spells_of_map_plain plain fun name hn => (canonical.names name hn).2
  have tokens : Text.pieces s = ts.map TypeToken.text :=
    TypeToken.piecesFrom_of_scanFrom (canonical.scan_eq spells written)
  rw [SameSpelling, tokens] at h
  obtain ⟨us, pieces, plain'⟩ := TypeToken.exists_of_map_plainWord h.symm
  refine parse_eq_ok_iff.mpr ⟨canonical, us, plain'.trans plain, ?_⟩
  exact TypeToken.written_of_piecesFrom pieces.symm

end CommandCompiler
