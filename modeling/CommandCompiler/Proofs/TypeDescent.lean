import CommandCompiler.Proofs.TypeDepth
import CommandCompiler.TypeRef.Descent
/-!
# CommandCompiler.Proofs.TypeDescent

**The descent into a type is bounded.** `TypeRef.ofTokens` recurses on the levels
that are left, so that it ends and keeps to its limit by the way it is written.
`Descent.readType` counts instead, and its counter stays where it is put:

* `Descent.Reads` : what comes of it on any clock that runs for long enough;
* `Descent.counted` : what it comes to where `ofTokens` comes to something.

What a call can reach is either what the limit leaves or what the budget does
(`Descent.Reaches`), and then it does what `ofTokens` does with that many levels,
for every list of tokens and from every count, on any clock that has more ticks
than there are tokens (`readType_eq`). So it ends, and the counter is back at the
end of each type.
-/

namespace CommandCompiler

/-- A type that is read takes a token. -/
theorem TypeRef.exists_of_ofTokens {levels : Nat} {t : TypeRef} {ts rest : List TypeToken}
    (h : ofTokens levels ts = .ok (t, rest)) : ∃ used, used ≠ [] ∧ ts = used ++ rest := by
  obtain ⟨-, -, used, spells, rfl⟩ := ofTokens_eq_ok_iff.mp h
  exact ⟨used, by cases spells <;> exact List.cons_ne_nil _ _, rfl⟩

namespace Descent

open TypeRef
open TypeToken (OpensInside)

/-! ## Running it -/

/-- What comes of reading a type, if one waits for long enough. -/
def Reads (budget : Option Nat) (s : Descent) (r : Except Stop (TypeRef × Descent)) : Prop :=
  ∃ ticks, ∀ clock, ticks ≤ clock → outcome (readType clock budget) s = some r

/-- There is one outcome at most. -/
theorem Reads.unique {budget : Option Nat} {s : Descent} {r r' : Except Stop (TypeRef × Descent)}
    (h : Reads budget s r) (h' : Reads budget s r') : r = r' := by
  obtain ⟨ticks, h⟩ := h
  obtain ⟨ticks', h'⟩ := h'
  have early := h _ (Nat.le_max_left ticks ticks')
  have late := h' _ (Nat.le_max_right ticks ticks')
  exact Option.some.inj (early.symm.trans late)

/-- What a parser that counts comes to where one with levels comes to `r`. The counter is at `depth`
after a result, and `deep` is why it stops where the other one has no level left. -/
def counted {α : Type} (deep : Stop) (depth : Nat) (r : Except Fault (α × List TypeToken)) :
    Except Stop (α × Descent) :=
  match r with
  | .ok (a, left) => .ok (a, ⟨left, depth⟩)
  | .error .tooDeep => .error deep
  | .error f => .error (.fault f)

section Run

variable {α β : Type} {act : Run α} {s s' : Descent} {deep : Stop} {depth : Nat}

theorem outcome_bind_ok {a : α} (h : outcome act s = some (.ok (a, s'))) (f : α → Run β) :
    outcome (act >>= f) s = outcome (f a) s' := by
  simp only [outcome, StateT.run_bind, ExceptT.run_bind] at h ⊢
  rw [h]
  rfl

theorem outcome_bind_error {e : Stop} (h : outcome act s = some (.error e)) (f : α → Run β) :
    outcome (act >>= f) s = some (.error e) := by
  simp only [outcome, StateT.run_bind, ExceptT.run_bind] at h ⊢
  rw [h]
  rfl

/-- After a step that has an outcome, the run goes on where there is a result. -/
theorem outcome_bind_counted {r : Except Fault (α × List TypeToken)} (f : α → Run β) :
    outcome act s = some (counted deep depth r) →
      outcome (act >>= f) s =
        match r with
        | .ok (a, left) => outcome (f a) ⟨left, depth⟩
        | .error fault => some (counted deep depth (.error fault)) := by
  cases r with
  | ok r => exact fun h => outcome_bind_ok h f
  | error fault => cases fault <;> exact fun h => outcome_bind_error h f

end Run

section Steps

variable {budget : Option Nat} {deep : Stop} {depth : Nat} {ts : List TypeToken}

theorem outcome_spend (h : budget ≠ some 0) {s : Descent} :
    outcome (spend budget) s = some (.ok (budget.map (· - 1), s)) := by
  rw [spend, if_neg h]
  rfl

theorem outcome_advance (t : TypeToken) :
    outcome advance ⟨t :: ts, depth⟩ = some (.ok (t, ⟨ts, depth⟩)) :=
  rfl

theorem outcome_peek : outcome peek ⟨ts, depth⟩ = some (.ok (ts.head?, ⟨ts, depth⟩)) :=
  rfl

theorem outcome_enter (h : depth < maxDepth) :
    outcome enter ⟨ts, depth⟩ = some (.ok ((), ⟨ts, depth + 1⟩)) := by
  have : ¬ maxDepth < depth + 1 := by omega
  simp [enter, outcome, this]

theorem outcome_enter_tooDeep (h : maxDepth ≤ depth) :
    outcome enter ⟨ts, depth⟩ = some (.error (.fault .tooDeep)) := by
  have : maxDepth < depth + 1 := by omega
  simp [enter, outcome, this]

theorem outcome_leave : outcome leave ⟨ts, depth + 1⟩ = some (.ok ((), ⟨ts, depth⟩)) :=
  rfl

theorem outcome_close :
    outcome close ⟨ts, depth⟩ = some (counted deep depth (((), ·) <$> expectClose ts)) := by
  cases ts with
  | nil => rfl
  | cons t rest => cases t <;> rfl

theorem outcome_settle {α : Type} {r : Except Fault α} (h : r ≠ .error .tooDeep) :
    outcome (settle r) ⟨ts, depth⟩ = some (counted deep depth ((·, ts) <$> r)) := by
  cases r with
  | ok a => rfl
  | error fault =>
      cases fault with
      | tooDeep => exact absurd rfl h
      | _ => rfl

/-- No call is made from an empty budget. -/
theorem outcome_spend_zero {s : Descent} :
    outcome (spend (some 0)) s = some (.error .budgetSpent) :=
  rfl

end Steps

/-! ## The same with levels -/

/-- How many levels of brackets a call can read, and why it stops where there are more: the limit
leaves so many, and the budget is enough for them and the call itself; or that is all the budget is
enough for, and the limit leaves more. -/
inductive Reaches (budget : Option Nat) (depth levels : Nat) : Stop → Prop
  | limited (hl : levels = maxDepth - depth) (hb : ∀ n ∈ budget, levels < n) :
      Reaches budget depth levels (.fault .tooDeep)
  | budgeted (hl : levels < maxDepth - depth) (hb : budget = some (levels + 1)) :
      Reaches budget depth levels .budgetSpent

namespace Reaches

variable {budget : Option Nat} {deep : Stop} {depth levels : Nat}

theorem unspent (h : Reaches budget depth levels deep) : budget ≠ some 0 := by
  rintro rfl
  cases h with
  | limited hl hb => exact absurd (hb 0 rfl) (Nat.not_lt_zero _)
  | budgeted hl hb => cases hb

/-- Every call reaches something. -/
theorem exists_of_unspent (h : budget ≠ some 0) (depth : Nat) :
    ∃ levels deep, Reaches budget depth levels deep := by
  cases budget with
  | none => exact ⟨_, _, .limited rfl nofun⟩
  | some n =>
      obtain ⟨m, rfl⟩ : ∃ m, n = m + 1 := Nat.exists_eq_add_one_of_ne_zero (by simpa using h)
      by_cases hm : m < maxDepth - depth
      · exact ⟨m, _, .budgeted hm rfl⟩
      · refine ⟨_, _, .limited rfl fun k hk => ?_⟩
        obtain rfl := Option.some.inj hk
        omega

/-- Inside of brackets there is one level less, and one call less in the budget. -/
theorem inside {n : Nat} (h : Reaches budget depth (n + 1) deep) :
    depth < maxDepth ∧ Reaches (budget.map (· - 1)) (depth + 1) n deep := by
  cases h with
  | limited hl hb =>
      refine ⟨by omega, .limited (by omega) fun m hm => ?_⟩
      obtain ⟨k, hk, rfl⟩ := Option.map_eq_some_iff.mp hm
      have := hb k hk
      omega
  | budgeted hl hb =>
      subst hb
      exact ⟨by omega, .budgeted (by omega) rfl⟩

end Reaches

section Calls

variable {budget : Option Nat} {deep : Stop} {clock levels depth : Nat} {w : String}
  {ts inner : List TypeToken}

theorem readType_spent (s : Descent) :
    outcome (readType (clock + 1) (some 0)) s = some (.error .budgetSpent) := by
  rw [readType, outcome_bind_error outcome_spend_zero]

/-- Parameters are read alike if each of them is. -/
theorem readParams_eq
    (item : ∀ {clock us}, us.length < clock → outcome (readType clock budget) ⟨us, depth⟩ =
      some (counted deep depth (ofTokens levels us)))
    {fuel : Nat} (hf : ts.length ≤ fuel) (hc : ts.length + 1 < clock) :
    outcome (readParams clock budget) ⟨ts, depth⟩ =
      some (counted deep depth (commaSeparated (ofTokens levels) fuel ts)) := by
  -- What is left after a parameter is shorter, so that fuel and clock last as long as the loop.
  induction fuel generalizing ts clock with
  | zero =>
      obtain rfl := List.length_eq_zero_iff.mp (Nat.le_zero.mp hf)
      obtain ⟨clock, rfl⟩ := Nat.exists_eq_add_one_of_ne_zero (Nat.ne_zero_of_lt hc)
      rw [readParams, outcome_bind_counted _ (item (Nat.lt_of_succ_lt_succ hc))]
      cases levels <;> rfl
  | succ fuel ih =>
      obtain ⟨clock, rfl⟩ := Nat.exists_eq_add_one_of_ne_zero (Nat.ne_zero_of_lt hc)
      rw [readParams, outcome_bind_counted _ (item (Nat.lt_of_succ_lt_succ hc)), commaSeparated]
      cases h : ofTokens levels ts with
      | error fault => rfl
      | ok r =>
          obtain ⟨t, rest⟩ := r
          obtain ⟨used, nonempty, rfl⟩ := exists_of_ofTokens h
          show outcome (peek >>= _) ⟨rest, depth⟩ = _
          rw [outcome_bind_ok outcome_peek]
          cases rest with
          | nil => rfl
          | cons c rest =>
              cases c with
              | word _ | openAngle | closeAngle => rfl
              | comma =>
                  rw [List.length_append, List.length_cons] at hf hc
                  have others := @ih clock rest (by omega) (by omega)
                  rw [if_pos List.head?_cons, outcome_bind_ok (outcome_advance _),
                    outcome_bind_counted _ others]
                  dsimp only
                  cases commaSeparated (ofTokens levels) fuel rest with
                  | error fault => cases fault <;> rfl
                  | ok r => rfl

/-- Where no brackets open, it makes no difference that they are counted. -/
theorem readType_of_ne (hb : budget ≠ some 0) (h : ∀ w inner, ts ≠ .word w :: .openAngle :: inner) :
    outcome (readType (clock + 1) budget) ⟨ts, depth⟩ =
      some (counted deep depth (ofTokens levels ts)) := by
  rw [readType, outcome_bind_ok (outcome_spend hb)]
  cases ts with
  | nil => cases levels <;> rfl
  | cons t rest =>
      rw [outcome_bind_ok (outcome_advance _)]
      cases t with
      | word w =>
          have noBracket : rest.head? ≠ some .openAngle := by
            intro hr
            obtain ⟨inner, rfl⟩ := List.head?_eq_some_iff.mp hr
            exact h w inner rfl
          rw [outcome_bind_ok outcome_peek, if_neg noBracket, ofTokens_word noBracket]
          exact outcome_settle ofWord_ne_tooDeep
      | openAngle | closeAngle | comma => cases levels <;> rfl

/-- Where brackets open, they are counted while what is in them is read. -/
theorem readType_brackets (hb : budget ≠ some 0) :
    outcome (readType (clock + 1) budget) ⟨.word w :: .openAngle :: inner, depth⟩ =
      outcome (do
        enter
        let params ← readParams clock (budget.map (· - 1))
        close
        leave
        settle (ofGeneric w params)) ⟨inner, depth⟩ := by
  rw [readType, outcome_bind_ok (outcome_spend hb), outcome_bind_ok (outcome_advance _),
    outcome_bind_ok outcome_peek, if_pos List.head?_cons, outcome_bind_ok (outcome_advance _)]

/-- Brackets that are out of reach are not read, whatever is in them. -/
theorem outcome_enter_of_reaches_zero (h : Reaches budget depth 0 deep) {α : Type}
    (k : List TypeRef → Run α) :
    outcome (do
      enter
      let params ← readParams (clock + 2) (budget.map (· - 1))
      k params) ⟨inner, depth⟩ = some (.error deep) := by
  cases h with
  | limited hl hb => rw [outcome_bind_error (outcome_enter_tooDeep (by omega))]
  | budgeted hl hb =>
      subst hb
      have spent : outcome (readParams (clock + 2) (some 0)) ⟨inner, depth + 1⟩ =
          some (.error .budgetSpent) := by
        rw [readParams, outcome_bind_error (readType_spent _)]
      rw [outcome_bind_ok (outcome_enter (by omega))]
      exact outcome_bind_error spent _

/-- The parser that counts does what the parser with levels does, with as many of them as it can
reach. -/
theorem readType_eq (h : Reaches budget depth levels deep) (hc : ts.length < clock) :
    outcome (readType clock budget) ⟨ts, depth⟩ =
      some (counted deep depth (ofTokens levels ts)) := by
  induction levels using Nat.strongRecOn generalizing budget depth ts clock with
  | ind levels ih =>
      obtain ⟨clock, rfl⟩ := Nat.exists_eq_add_one_of_ne_zero (Nat.ne_zero_of_lt hc)
      by_cases brackets : ∃ w inner, ts = .word w :: .openAngle :: inner
      · obtain ⟨w, inner, rfl⟩ := brackets
        simp only [List.length_cons] at hc
        rw [readType_brackets h.unspent]
        cases levels with
        | zero =>
            obtain ⟨clock, rfl⟩ : ∃ k, clock = k + 2 := ⟨clock - 2, by omega⟩
            rw [outcome_enter_of_reaches_zero h]
            rfl
        | succ n =>
            obtain ⟨room, inside⟩ := h.inside
            have params : outcome (readParams clock (budget.map (· - 1))) ⟨inner, depth + 1⟩ =
                some (counted deep (depth + 1)
                  (commaSeparated (ofTokens n) inner.length inner)) :=
              readParams_eq (ih n (Nat.lt_succ_self n) inside) (Nat.le_refl _) (by omega)
            rw [outcome_bind_ok (outcome_enter room), outcome_bind_counted _ params, ofTokens]
            cases commaSeparated (ofTokens n) inner.length inner with
            | error fault => cases fault <;> rfl
            | ok r =>
                obtain ⟨params, rest⟩ := r
                have closed : outcome close ⟨rest, depth + 1⟩ =
                    some (counted deep (depth + 1) (((), ·) <$> expectClose rest)) := outcome_close
                show outcome (close >>= _) ⟨rest, depth + 1⟩ = _
                rw [outcome_bind_counted _ closed]
                dsimp only
                cases expectClose rest with
                | error fault => cases fault <;> rfl
                | ok rest' =>
                    show outcome (leave >>= _) ⟨rest', depth + 1⟩ = _
                    rw [outcome_bind_ok outcome_leave, outcome_settle ofGeneric_ne_tooDeep]
      · push Not at brackets
        exact readType_of_ne h.unspent brackets

end Calls

/-! ## What a descent comes to -/

section Descents

variable {budget : Option Nat} {deep : Stop} {levels depth : Nat} {t : TypeRef} {s : Descent}
  {ts : List TypeToken} {r : Except Stop (TypeRef × Descent)}

theorem counted_eq_ok_iff {α : Type} {r : Except Fault (α × List TypeToken)} {a : α} :
    counted deep depth r = .ok (a, s) ↔ r = .ok (a, s.left) ∧ s.depth = depth := by
  obtain ⟨left, counter⟩ := s
  unfold counted
  split
  · simp [eq_comm, and_assoc]
  · simp
  · simp

/-- What comes of a call, on a clock with more ticks than there are tokens. -/
theorem exists_outcome (budget : Option Nat) (depth : Nat) (ts : List TypeToken) :
    ∃ r, ∀ clock, ts.length < clock → outcome (readType clock budget) ⟨ts, depth⟩ = some r := by
  by_cases h : budget = some 0
  · subst h
    refine ⟨.error .budgetSpent, fun clock hc => ?_⟩
    obtain ⟨clock, rfl⟩ := Nat.exists_eq_add_one_of_ne_zero (Nat.ne_zero_of_lt hc)
    exact readType_spent _
  · obtain ⟨levels, deep, reaches⟩ := Reaches.exists_of_unspent h depth
    exact ⟨_, fun clock hc => readType_eq reaches hc⟩

theorem reads_iff (h : Reaches budget depth levels deep) :
    Reads budget ⟨ts, depth⟩ r ↔ r = counted deep depth (ofTokens levels ts) := by
  have comes : Reads budget ⟨ts, depth⟩ (counted deep depth (ofTokens levels ts)) :=
    ⟨ts.length + 1, fun clock hc => readType_eq h hc⟩
  constructor
  · intro hr
    exact hr.unique comes
  · rintro rfl
    exact comes

/-- A call that succeeds is that of the parser with levels, with the counter as it was. -/
theorem reads_ok_iff (h : Reaches budget depth levels deep) :
    Reads budget ⟨ts, depth⟩ (.ok (t, s)) ↔
      ofTokens levels ts = .ok (t, s.left) ∧ s.depth = depth := by
  rw [reads_iff h, eq_comm, counted_eq_ok_iff]

theorem not_reads_ok_zero : ¬ Reads (some 0) ⟨ts, depth⟩ (.ok (t, s)) := by
  rintro ⟨ticks, h⟩
  have := (readType_spent s).symm.trans (h (ticks + 1) (Nat.le_succ ticks))
  cases this

/-- Without a budget, a call reaches what the limit leaves. -/
theorem Reaches.unlimited (depth : Nat) :
    Reaches none depth (maxDepth - depth) (.fault .tooDeep) :=
  .limited rfl nofun

/-- A budget that is enough for what the limit leaves makes no difference. -/
theorem reads_some_iff_of_large {n : Nat} (h : maxDepth - depth < n) :
    Reads (some n) ⟨ts, depth⟩ r ↔ Reads none ⟨ts, depth⟩ r := by
  have reaches : Reaches (some n) depth (maxDepth - depth) (.fault .tooDeep) := by
    refine .limited rfl fun k hk => ?_
    obtain rfl := Option.some.inj hk
    exact h
  rw [reads_iff reaches, reads_iff (.unlimited depth)]

/-- A type is read within a budget if it could be read without one and is less deep than the
budget: each level takes one call, and one is for the type itself. -/
theorem reads_some_ok_iff {n : Nat} :
    Reads (some n) ⟨ts, depth⟩ (.ok (t, s)) ↔
      Reads none ⟨ts, depth⟩ (.ok (t, s)) ∧ t.depth < n := by
  by_cases hn : n = 0
  · subst hn
    simp [not_reads_ok_zero]
  · have unspent : some n ≠ some 0 := fun h => hn (Option.some.inj h)
    obtain ⟨levels, deep, reaches⟩ := Reaches.exists_of_unspent unspent depth
    have reached : t.depth ≤ levels ↔ t.depth ≤ maxDepth - depth ∧ t.depth < n := by
      cases reaches with
      | limited hl hb =>
          have := hb n rfl
          omega
      | budgeted hl hb =>
          obtain rfl := Option.some.inj hb
          omega
    rw [reads_ok_iff reaches, reads_ok_iff (.unlimited depth), ofTokens_eq_ok_iff,
      ofTokens_eq_ok_iff, reached]
    tauto

end Descents

/-- **The descent into a type is bounded.** Whatever the tokens, it ends before a clock with more
ticks than there are tokens runs out, and a type that is read takes a token and leaves the counter
as it was. A budget of 33 calls inside one another changes nothing, and within a smaller one the
types are read that are less deep. So it is the parser with levels. The limit on them is one on each
path: all types up to that depth are read, all deeper ones are too deep, and nothing is too deep
without 32 open brackets before it. -/
theorem readType_bounded (ts : List TypeToken) :
    (∀ budget depth, ∃ r, ∀ clock, ts.length < clock →
      outcome (readType clock budget) ⟨ts, depth⟩ = some r) ∧
    (∀ budget depth t s, Reads budget ⟨ts, depth⟩ (.ok (t, s)) →
      s.depth = depth ∧ ∃ used, used ≠ [] ∧ ts = used ++ s.left) ∧
    (∀ n, 33 ≤ n → ∀ r, Reads (some n) ⟨ts, 0⟩ r ↔ Reads none ⟨ts, 0⟩ r) ∧
    (∀ n t s, Reads (some n) ⟨ts, 0⟩ (.ok (t, s)) ↔
      Reads none ⟨ts, 0⟩ (.ok (t, s)) ∧ t.depth < n) ∧
    (∀ depth r, Reads none ⟨ts, depth⟩ r ↔
      r = counted (.fault .tooDeep) depth (ofTokens (maxDepth - depth) ts)) ∧
    (∀ t, ofAllTokens ts = .ok t ↔ Spells t ts ∧ t.depth ≤ 32) ∧
    (∀ t, Spells t ts → 32 < t.depth → ofAllTokens ts = .error .tooDeep) ∧
    (ofAllTokens ts = .error .tooDeep → OpensInside 32 ts) := by
  refine ⟨fun budget depth => exists_outcome budget depth ts, ?_, ?_, ?_,
    fun depth r => reads_iff (.unlimited depth), fun t => ofAllTokens_eq_ok_iff_spells, ?_, ?_⟩
  · intro budget depth t s h
    have unspent : budget ≠ some 0 := by
      rintro rfl
      exact not_reads_ok_zero h
    obtain ⟨levels, deep, reaches⟩ := Reaches.exists_of_unspent unspent depth
    obtain ⟨read, counter⟩ := (reads_ok_iff reaches).mp h
    exact ⟨counter, exists_of_ofTokens read⟩
  · intro n hn r
    exact reads_some_iff_of_large hn
  · intro n t s
    exact reads_some_ok_iff
  · intro t spells deep
    have tooDeep : ofTokens maxDepth (ts ++ []) = .error .tooDeep := spells.ofTokens_tooDeep deep
    rw [List.append_nil] at tooDeep
    exact ofAllTokens_eq_tooDeep_iff.mpr tooDeep
  · intro h
    exact opensInside_of_tooDeep (ofAllTokens_eq_tooDeep_iff.mp h)

/-- Maps whose keys and values are maps: 63 of them, but six on each path. -/
def mapTree : TypeRef := (fun t => map t t)^[6] (primitive .int)

/-- Lists inside one another. -/
def listTower : TypeRef := list^[40] (primitive .int)

/-- Many brackets beside each other are read, also where only six levels are left, and fewer inside
one another are not. -/
theorem mapTree_read_listTower_refused :
    mapTree.tokens.count .openAngle = 63 ∧ ofAllTokens mapTree.tokens = .ok mapTree ∧
      Reads (some 33) ⟨mapTree.tokens, 0⟩ (.ok (mapTree, ⟨[], 0⟩)) ∧
      (∃ used, used ≠ [] ∧ mapTree.tokens = used ++ []) ∧
      Reads none ⟨mapTree.tokens, 26⟩ (.ok (mapTree, ⟨[], 26⟩)) ∧
      (∃ r, outcome (readType 317 none) ⟨mapTree.tokens, 26⟩ = some r) ∧
      listTower.tokens.count .openAngle = 40 ∧
      ofAllTokens listTower.tokens = .error .tooDeep ∧ OpensInside 32 listTower.tokens := by
  obtain ⟨ends, restored, large, -, same, accepted, -, -⟩ := readType_bounded mapTree.tokens
  obtain ⟨-, -, -, -, -, -, refused, opens⟩ := readType_bounded listTower.tokens
  have wide : Spells mapTree mapTree.tokens := spells_tokens (by decide)
  have tall : Spells listTower listTower.tokens := spells_tokens (by decide)
  have read : ofAllTokens mapTree.tokens = .ok mapTree := (accepted mapTree).mpr ⟨wide, by decide⟩
  have within : Reads (some 33) ⟨mapTree.tokens, 0⟩ (.ok (mapTree, ⟨[], 0⟩)) := by
    rw [large 33 (Nat.le_refl 33), same, eq_comm, counted_eq_ok_iff]
    exact ⟨ofAllTokens_eq_ok_iff.mp read, rfl⟩
  have inside : Reads none ⟨mapTree.tokens, 26⟩ (.ok (mapTree, ⟨[], 26⟩)) := by
    rw [same, eq_comm, counted_eq_ok_iff]
    exact ⟨ofTokens_eq_ok_iff.mpr ⟨by decide, nofun, _, wide, (List.append_nil _).symm⟩, rfl⟩
  have tooDeep : ofAllTokens listTower.tokens = .error .tooDeep :=
    refused listTower tall (by decide)
  obtain ⟨r, comes⟩ := ends none 26
  exact ⟨by decide +kernel, read, within, (restored _ _ _ _ within).2, inside,
    ⟨r, comes 317 (by decide +kernel)⟩, by decide +kernel, tooDeep, opens tooDeep⟩

end Descent

end CommandCompiler
