import CommandCompiler.Proofs.TypeText
/-!
# CommandCompiler.Proofs.TypeDepth

**The limit on brackets is one on each path.** A type is read with any number of
brackets in total, as long as no more than the limit stand inside one another:

* `TypeToken.OpensInside` : whether a bracket opens where so many are open already;
* `TypeRef.opensInside_of_tooDeep` : tokens are only too deep at such a bracket;
* `TypeRef.Spells.ofTokens_tooDeep` : tokens of a type that is deeper than its
  levels are too deep, whatever stands beside the path that is.

`ofTokens_eq_tooDeep_iff` says once where this fault comes from: the brackets that
have no level left, or what is in them. Both results follow it into the brackets.
-/

namespace CommandCompiler

/-- A function is applied to no error. -/
theorem map_eq_error_iff {ε α β : Type} {f : α → β} {r : Except ε α} {e : ε} :
    f <$> r = .error e ↔ r = .error e := by
  cases r <;> simp

/-! ## Open brackets -/

namespace TypeToken

/-- Whether `n` of the brackets that are opened in these tokens are not closed in them. -/
def LeavesOpen (n : Nat) (ts : List TypeToken) : Prop :=
  ts.count openAngle = ts.count closeAngle + n

/-- Whether a word's brackets open where `n` others are open. -/
def OpensInside (n : Nat) (ts : List TypeToken) : Prop :=
  ∃ before w after, ts = before ++ word w :: openAngle :: after ∧ LeavesOpen n before

section Open

variable {m n : Nat} {ts us : List TypeToken}

theorem LeavesOpen.append (h : LeavesOpen m ts) (h' : LeavesOpen n us) :
    LeavesOpen (m + n) (ts ++ us) := by
  simp only [LeavesOpen, List.count_append] at h h' ⊢
  omega

theorem leavesOpen_brackets {w : String} (h : LeavesOpen 0 ts) :
    LeavesOpen 0 (word w :: openAngle :: (ts ++ [closeAngle])) := by
  simpa [LeavesOpen] using h

/-- What is open is open among further tokens. -/
theorem OpensInside.append_left (h : LeavesOpen m ts) (h' : OpensInside n us) :
    OpensInside (m + n) (ts ++ us) := by
  obtain ⟨before, w, after, rfl, opened⟩ := h'
  exact ⟨ts ++ before, w, after, by simp, h.append opened⟩

end Open

end TypeToken

namespace TypeRef

open TypeToken (LeavesOpen OpensInside)

/-- Every bracket that is opened in a type is closed in it. -/
theorem Spells.leavesOpen {t : TypeRef} {ts : List TypeToken} (h : Spells t ts) :
    LeavesOpen 0 ts := by
  induction h with
  | primitive p => rfl
  | named h => rfl
  | list h ih | optional hw h ih => exact TypeToken.leavesOpen_brackets ih
  | map hk hv ihk ihv =>
      have comma : LeavesOpen 0 [.comma] := rfl
      exact TypeToken.leavesOpen_brackets (ihk.append (comma.append ihv))

/-! ## Where tokens are too deep -/

section TooDeep

variable {levels : Nat} {t : TypeRef} {w : String} {ts us rest : List TypeToken}

theorem ofWord_ne_tooDeep : ofWord w ≠ .error .tooDeep := by
  unfold ofWord
  split
  · simp
  · split <;> simp

theorem ofGeneric_ne_tooDeep {params : List TypeRef} : ofGeneric w params ≠ .error .tooDeep := by
  unfold ofGeneric
  split
  · split <;> simp
  split
  · split <;> simp
  split
  · split <;> simp
  · simp

theorem expectClose_ne_tooDeep : expectClose ts ≠ .error .tooDeep := by
  unfold expectClose
  split <;> simp

/-- Tokens are too deep only by a bracket: where no level is left for it, or where something in it
is too deep. -/
theorem ofTokens_eq_tooDeep_iff :
    ofTokens levels ts = .error .tooDeep ↔
      ∃ w inner, ts = .word w :: .openAngle :: inner ∧
        ∀ n, levels = n + 1 → commaSeparated (ofTokens n) inner.length inner = .error .tooDeep := by
  constructor
  · intro h
    unfold ofTokens at h
    split at h
    · cases h
    · rename_i w inner
      refine ⟨w, inner, rfl, ?_⟩
      rintro n rfl
      dsimp only at h
      split at h
      · rename_i hp
        cases h
        exact hp
      · split at h
        · rename_i hc
          cases h
          exact absurd hc expectClose_ne_tooDeep
        · exact absurd (map_eq_error_iff.mp h) ofGeneric_ne_tooDeep
    · exact absurd (map_eq_error_iff.mp h) ofWord_ne_tooDeep
    · cases h
  · rintro ⟨w, inner, rfl, h⟩
    cases levels with
    | zero => rfl
    | succ n => rw [ofTokens, h n rfl]

/-- If each parameter is only too deep inside of brackets, so are all of them: those that are read
leave none open. -/
theorem opensInside_of_params_tooDeep {n fuel : Nat}
    (item : ∀ ts, ofTokens n ts = .error .tooDeep → OpensInside n ts)
    (h : commaSeparated (ofTokens n) fuel ts = .error .tooDeep) : OpensInside n ts := by
  induction fuel generalizing ts with
  | zero => cases h
  | succ fuel ih =>
      rw [commaSeparated] at h
      split at h
      · rename_i hitem
        cases h
        exact item ts hitem
      · rename_i t rest ht
        obtain ⟨-, -, us, spells, rfl⟩ := ofTokens_eq_ok_iff.mp ht
        split at h
        · rename_i hmore
          cases h
          have comma : LeavesOpen 0 [.comma] := rfl
          simpa using (ih hmore).append_left (spells.leavesOpen.append comma)
        · cases h
      · cases h

/-- Tokens are too deep only at a bracket that opens where as many are open as there are levels. -/
theorem opensInside_of_tooDeep (h : ofTokens levels ts = .error .tooDeep) :
    OpensInside levels ts := by
  induction levels generalizing ts with
  | zero =>
      obtain ⟨w, inner, rfl, -⟩ := ofTokens_eq_tooDeep_iff.mp h
      exact ⟨[], w, inner, rfl, rfl⟩
  | succ n ih =>
      obtain ⟨w, inner, rfl, hinner⟩ := ofTokens_eq_tooDeep_iff.mp h
      have opened : LeavesOpen 1 [.word w, .openAngle] := by simp [LeavesOpen]
      have inside : OpensInside n inner :=
        opensInside_of_params_tooDeep (fun _ => ih) (hinner n rfl)
      rw [Nat.add_comm]
      exact inside.append_left opened

/-! ## Types that are too deep -/

/-- Parameters are too deep if one of them is: those before it are read. -/
theorem Listed.commaSeparated_tooDeep {n fuel : Nat} {params : List TypeRef}
    (item : ∀ {t us rest}, Spells t us → n < t.depth → ofTokens n (us ++ rest) = .error .tooDeep)
    (h : Listed params us) (deep : ∃ p ∈ params, n < p.depth) (hf : us.length < fuel) :
    commaSeparated (ofTokens n) fuel (us ++ .closeAngle :: rest) = .error .tooDeep := by
  induction h generalizing fuel with
  | last h =>
      obtain ⟨k, rfl⟩ := Nat.exists_eq_add_one_of_ne_zero (Nat.ne_zero_of_lt hf)
      rw [commaSeparated, item h (by simpa using deep)]
  | @cons t ts us vs h tail ih =>
      obtain ⟨k, rfl⟩ := Nat.exists_eq_add_one_of_ne_zero (Nat.ne_zero_of_lt hf)
      have tokens : us ++ .comma :: vs ++ .closeAngle :: rest =
          us ++ .comma :: (vs ++ .closeAngle :: rest) := by simp
      rw [commaSeparated, tokens]
      by_cases first : n < t.depth
      · rw [item h first]
      · have read : ofTokens n (us ++ .comma :: (vs ++ .closeAngle :: rest)) =
            .ok (t, .comma :: (vs ++ .closeAngle :: rest)) :=
          ofTokens_eq_ok_iff.mpr ⟨Nat.le_of_not_lt first, by simp, us, h, rfl⟩
        have shorter : vs.length < k := by
          simp only [List.length_append, List.length_cons] at hf
          omega
        have others := ih (by simpa [first] using deep) shorter
        rw [read]
        simp only [others]

/-- A type with one path that is too deep is too deep, whatever stands beside this path. -/
theorem Spells.ofTokens_tooDeep (h : Spells t us) (deep : levels < t.depth) :
    ofTokens levels (us ++ rest) = .error .tooDeep := by
  induction levels generalizing t us rest with
  | zero =>
      obtain ⟨w, -, -, flat⟩ | ⟨w, params, inner, rfl, -, -⟩ := h.word_or_brackets
      · exact absurd flat (Nat.ne_zero_of_lt deep)
      · rfl
  | succ n ih =>
      obtain ⟨w, -, -, flat⟩ | ⟨w, params, inner, rfl, happ, hl⟩ := h.word_or_brackets
      · exact absurd flat (Nat.ne_zero_of_lt deep)
      · have deepest : ∃ p ∈ params, n < p.depth := by
          simpa using mt happ.depth_le_iff.mpr (Nat.not_le_of_lt deep)
        refine ofTokens_eq_tooDeep_iff.mpr ⟨w, inner ++ .closeAngle :: rest, by simp, ?_⟩
        rintro _ ⟨⟩
        exact hl.commaSeparated_tooDeep ih deepest (by simp)

end TooDeep

/-! ## All tokens of a text -/

section All

variable {t : TypeRef} {ts : List TypeToken}

/-- All of the tokens are a type exactly if they spell it and it is within the limit. -/
theorem ofAllTokens_eq_ok_iff_spells :
    ofAllTokens ts = .ok t ↔ Spells t ts ∧ t.depth ≤ maxDepth := by
  rw [ofAllTokens_eq_ok_iff, ofTokens_eq_ok_iff]
  constructor
  · rintro ⟨depth, -, us, spells, rfl⟩
    rw [List.append_nil]
    exact ⟨spells, depth⟩
  · rintro ⟨spells, depth⟩
    exact ⟨depth, nofun, ts, spells, (List.append_nil ts).symm⟩

theorem ofAllTokens_eq_tooDeep_iff :
    ofAllTokens ts = .error .tooDeep ↔ ofTokens maxDepth ts = .error .tooDeep := by
  unfold ofAllTokens
  split <;> simp [*]

end All

end TypeRef

end CommandCompiler
