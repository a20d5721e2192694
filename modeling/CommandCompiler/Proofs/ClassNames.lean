import CommandCompiler.Proofs.DispatchTable
/-!
# CommandCompiler.Proofs.ClassNames

**Which classes have legal names.** A class name that is given is checked against
the rule for names. One that a command name suggests is not, and rests on how it
is put together:

* it consists of ASCII letters and digits and does not start with a digit, so it
  is always an identifier (`isIdentifier_classNameOf`);
* it starts with a capital, as few keywords do. `classNameOf_eq_iff` says which
  command names suggest one of these: those that are the keyword, up to the case
  of its first letter, between characters that a class name leaves out.

So the rule can be broken in one way only, and it is broken in this way
(`Variant.className_of_none`).
-/

namespace CommandCompiler

/-! ## Runs of letters and digits -/

theorem capitalizeRuns_cons_of_isAlphanum {c : Char} (h : c.isAlphanum = true) (atStart : Bool)
    (cs : List Char) :
    capitalizeRuns atStart (c :: cs) =
      (if atStart then c.toUpper else c) :: capitalizeRuns false cs := by
  rw [capitalizeRuns, if_pos h]

theorem capitalizeRuns_cons_of_not_isAlphanum {c : Char} (h : c.isAlphanum = false)
    (atStart : Bool) (cs : List Char) :
    capitalizeRuns atStart (c :: cs) = capitalizeRuns true cs := by
  rw [capitalizeRuns, if_neg (by simp [h])]

theorem toUpper_of_isLower {c : Char} (h : c.isLower = true) :
    c.toUpper.isUpper = true ∧ c.toUpper.isLower = false := by
  have letters : ∀ n < 26, (Char.ofNat (97 + n)).toUpper.isUpper = true ∧
      (Char.ofNat (97 + n)).toUpper.isLower = false := by decide
  have bounds : 97 ≤ c.toNat ∧ c.toNat ≤ 122 := Text.isLower_iff.mp h
  have place : 97 + (c.toNat - 97) = c.toNat := by omega
  have upper := letters (c.toNat - 97) (by omega)
  rwa [place, Char.ofNat_toNat] at upper

theorem toUpper_of_not_isLower {c : Char} (h : ¬ c.isLower = true) : c.toUpper = c :=
  dif_neg fun small => h (Text.isLower_iff.mpr small)

theorem isLower_toUpper (c : Char) : c.toUpper.isLower = false := by
  by_cases lower : c.isLower = true
  · exact (toUpper_of_isLower lower).2
  · rw [toUpper_of_not_isLower lower]
    simpa using lower

theorem isAlphanum_of_isUpper {c : Char} (h : c.isUpper) : c.isAlphanum :=
  Text.isAlphanum_iff.mpr (.inl (Text.isAlpha_iff.mpr (.inl h)))

theorem isAlphanum_of_isLower {c : Char} (h : c.isLower) : c.isAlphanum :=
  Text.isAlphanum_iff.mpr (.inl (Text.isAlpha_iff.mpr (.inr h)))

theorem isAlphanum_toUpper (c : Char) : c.toUpper.isAlphanum = c.isAlphanum := by
  by_cases lower : c.isLower = true
  · rw [isAlphanum_of_isUpper (toUpper_of_isLower lower).1, isAlphanum_of_isLower lower]
  · rw [toUpper_of_not_isLower lower]

/-- Nothing but ASCII letters and digits is kept. -/
theorem isAlphanum_of_mem_capitalizeRuns {atStart : Bool} {cs : List Char} {c : Char}
    (h : c ∈ capitalizeRuns atStart cs) : c.isAlphanum = true := by
  induction cs generalizing atStart with
  | nil => cases h
  | cons d cs ih =>
      cases hd : d.isAlphanum with
      | false =>
          rw [capitalizeRuns_cons_of_not_isAlphanum hd] at h
          exact ih h
      | true =>
          rw [capitalizeRuns_cons_of_isAlphanum hd, List.mem_cons] at h
          rcases h with rfl | h
          · cases atStart with
            | false => exact hd
            | true => exact (isAlphanum_toUpper d).trans hd
          · exact ih h

/-- All ASCII letters and digits are kept. -/
theorem capitalizeRuns_eq_nil_iff {atStart : Bool} {cs : List Char} :
    capitalizeRuns atStart cs = [] ↔ ∀ c ∈ cs, c.isAlphanum = false := by
  induction cs generalizing atStart with
  | nil => simp [capitalizeRuns]
  | cons d cs ih =>
      cases hd : d.isAlphanum with
      | false => simp [capitalizeRuns_cons_of_not_isAlphanum hd, ih, hd]
      | true => simp [capitalizeRuns_cons_of_isAlphanum hd, hd]

/-- What comes before the first run is left out, and the first run starts with a capital. -/
theorem capitalizeRuns_true_eq_cons_iff {cs us : List Char} {u : Char} :
    capitalizeRuns true cs = u :: us ↔
      ∃ before c rest, cs = before ++ c :: rest ∧ (∀ d ∈ before, d.isAlphanum = false) ∧
        c.isAlphanum = true ∧ c.toUpper = u ∧ capitalizeRuns false rest = us := by
  constructor
  · intro h
    induction cs with
    | nil => cases h
    | cons d cs ih =>
        cases hd : d.isAlphanum with
        | false =>
            rw [capitalizeRuns_cons_of_not_isAlphanum hd] at h
            obtain ⟨before, c, rest, rfl, hbefore, found⟩ := ih h
            exact ⟨d :: before, c, rest, rfl, List.forall_mem_cons.mpr ⟨hd, hbefore⟩, found⟩
        | true =>
            rw [capitalizeRuns_cons_of_isAlphanum hd, List.cons_eq_cons] at h
            exact ⟨[], d, cs, rfl, nofun, hd, h⟩
  · rintro ⟨before, c, rest, rfl, hbefore, hc, rfl, rfl⟩
    induction before with
    | nil => exact capitalizeRuns_cons_of_isAlphanum hc true rest
    | cons d before ih =>
        rw [List.forall_mem_cons] at hbefore
        rw [List.cons_append, capitalizeRuns_cons_of_not_isAlphanum hbefore.1]
        exact ih hbefore.2

/-- What goes on without another capital is one run, with nothing to keep after it: any other run
would start with one. -/
theorem capitalizeRuns_false_eq_iff {cs us : List Char} (lower : ∀ u ∈ us, u.isLower = true) :
    capitalizeRuns false cs = us ↔
      ∃ after, cs = us ++ after ∧ ∀ d ∈ after, d.isAlphanum = false := by
  constructor
  · intro h
    induction cs generalizing us with
    | nil =>
        subst h
        exact ⟨[], rfl, nofun⟩
    | cons d cs ih =>
        cases hd : d.isAlphanum with
        | true =>
            rw [capitalizeRuns_cons_of_isAlphanum hd] at h
            subst h
            rw [List.forall_mem_cons] at lower
            obtain ⟨after, hcs, hafter⟩ := ih lower.2 rfl
            exact ⟨after, congrArg (d :: ·) hcs, hafter⟩
        | false =>
            have none : us = [] := by
              cases us with
              | nil => rfl
              | cons u us =>
                  rw [capitalizeRuns_cons_of_not_isAlphanum hd,
                    capitalizeRuns_true_eq_cons_iff] at h
                  obtain ⟨-, c, -, -, -, -, rfl, -⟩ := h
                  have small := lower _ (List.mem_cons_self ..)
                  rw [isLower_toUpper] at small
                  cases small
            subst none
            exact ⟨d :: cs, rfl, capitalizeRuns_eq_nil_iff.mp h⟩
  · rintro ⟨after, rfl, hafter⟩
    induction us with
    | nil => exact capitalizeRuns_eq_nil_iff.mpr hafter
    | cons u us ih =>
        rw [List.forall_mem_cons] at lower
        have alphanum : u.isAlphanum = true := isAlphanum_of_isLower lower.1
        rw [List.cons_append, capitalizeRuns_cons_of_isAlphanum alphanum, ih lower.2]
        rfl

/-! ## The class names that command names suggest -/

/-- A suggested class name is what is kept of the command name. It has a word in front of that if
it would not start with a letter. -/
theorem toList_classNameOf_cases (command : String) :
    (∃ c cs, capitalizeRuns true command.toList = c :: cs ∧ c.isUpper = true ∧
        (classNameOf command).toList = c :: cs) ∨
      (∀ c ∈ (capitalizeRuns true command.toList).head?, c.isDigit = true) ∧
        (classNameOf command).toList =
          'C' :: (['o', 'm', 'm', 'a', 'n', 'd'] ++ capitalizeRuns true command.toList) := by
  unfold classNameOf
  split
  · rename_i none
    simp [none]
  · rename_i c cs runs
    split
    · rename_i digit
      simp [runs, digit]
    · rename_i letter
      obtain ⟨-, d, -, -, -, hd, rfl, -⟩ := capitalizeRuns_true_eq_cons_iff.mp runs
      have upper : d.toUpper.isUpper = true := by
        have kept : d.toUpper.isAlphanum = true := (isAlphanum_toUpper d).trans hd
        simpa [Text.isAlphanum_iff, Text.isAlpha_iff, letter, isLower_toUpper] using kept
      exact .inl ⟨_, cs, runs, upper, String.toList_ofList⟩

theorem Text.isIdentifier_of_isAlphanum {s : String} {c : Char} {cs : List Char}
    (h : s.toList = c :: cs) (head : c.isAlpha = true) (rest : ∀ d ∈ cs, d.isAlphanum = true) :
    isIdentifier s = true := by
  have all : cs.all isIdentifierChar = true := by
    refine List.all_eq_true.mpr fun d hd => ?_
    simp [isIdentifierChar, isWordChar, rest d hd]
  simp [isIdentifier, h, isIdentifierStart, isWordStart, head, all]

/-- A suggested class name is an identifier. -/
theorem isIdentifier_classNameOf (command : String) :
    Text.isIdentifier (classNameOf command) = true := by
  have kept := @isAlphanum_of_mem_capitalizeRuns true command.toList
  rcases toList_classNameOf_cases command with ⟨c, cs, runs, upper, h⟩ | ⟨-, h⟩
  · refine Text.isIdentifier_of_isAlphanum h (Text.isAlpha_iff.mpr (.inl upper)) fun d hd => ?_
    exact kept (runs ▸ List.mem_cons_of_mem c hd)
  · refine Text.isIdentifier_of_isAlphanum h (by decide) fun d hd => ?_
    rcases List.mem_append.mp hd with hd | hd
    · have word : ['o', 'm', 'm', 'a', 'n', 'd'].all Char.isAlphanum = true := by decide
      exact List.all_eq_true.mp word d hd
    · exact kept hd

/-- Whether a name is a word, up to the case of its first letter, between characters that are
neither ASCII letters nor digits. -/
def Text.IsLoneWord (name word : String) : Prop :=
  ∃ before c cs after, name.toList = before ++ c :: (cs ++ after) ∧ word.toList = c.toUpper :: cs ∧
    ∀ d ∈ before ++ after, d.isAlphanum = false

/-- Whether a word is written with a capital, and with no other one. -/
structure Text.IsCapitalized (word : String) (u : Char) (us : List Char) : Prop where
  toList : word.toList = u :: us
  capital : u.isUpper = true
  lower : us.all Char.isLower = true

/-- A capitalized word is suggested by the names that consist of this one word. -/
theorem classNameOf_eq_iff {command word : String} {u : Char} {us : List Char}
    (h : Text.IsCapitalized word u us) (other : u ≠ 'C') :
    classNameOf command = word ↔ Text.IsLoneWord command word := by
  have letter : ¬ u.isDigit = true := by
    have capital := Text.isUpper_iff.mp h.capital
    rw [Text.isDigit_iff]
    omega
  have kept : classNameOf command = word ↔ capitalizeRuns true command.toList = u :: us := by
    rw [← String.toList_inj, h.toList]
    rcases toList_classNameOf_cases command with ⟨c, cs, runs, -, name⟩ | ⟨digit, name⟩
    · rw [runs, name]
    · rw [name]
      constructor
      · intro front
        exact absurd (List.cons_eq_cons.mp front).1.symm other
      · intro runs
        rw [runs] at digit
        exact absurd (digit u rfl) letter
  have alphanum {c : Char} (hc : c.toUpper = u) : c.isAlphanum = true := by
    rw [← isAlphanum_toUpper, hc, isAlphanum_of_isUpper h.capital]
  rw [kept, capitalizeRuns_true_eq_cons_iff]
  simp only [Text.IsLoneWord, h.toList, capitalizeRuns_false_eq_iff (List.all_eq_true.mp h.lower),
    List.cons_eq_cons, List.forall_mem_append]
  constructor
  · rintro ⟨before, c, rest, hcommand, hbefore, -, rfl, after, rfl, hafter⟩
    exact ⟨before, c, us, after, hcommand, ⟨rfl, rfl⟩, hbefore, hafter⟩
  · rintro ⟨before, c, cs, after, hcommand, ⟨hc, rfl⟩, hbefore, hafter⟩
    exact ⟨before, c, _, hcommand, hbefore, alphanum hc.symm, hc.symm, after, rfl, hafter⟩

/-! ## Keywords -/

/-- The keywords that start with a capital. -/
def Text.capitalKeywords : List String := ["False", "None", "True"]

theorem Text.isCapitalized_of_mem_capitalKeywords {w : String} (h : w ∈ capitalKeywords) :
    ∃ u us, IsCapitalized w u us ∧ u ≠ 'C' := by
  simp only [capitalKeywords, List.mem_cons, List.not_mem_nil, or_false] at h
  rcases h with rfl | rfl | rfl
  · exact ⟨'F', ['a', 'l', 's', 'e'], ⟨rfl, rfl, rfl⟩, by decide⟩
  · exact ⟨'N', ['o', 'n', 'e'], ⟨rfl, rfl, rfl⟩, by decide⟩
  · exact ⟨'T', ['r', 'u', 'e'], ⟨rfl, rfl, rfl⟩, by decide⟩

/-- A suggested class name starts with a capital, so it is no other keyword. -/
theorem classNameOf_mem_keywords_iff {command : String} :
    classNameOf command ∈ Text.keywords ↔
      ∃ word ∈ Text.capitalKeywords, Text.IsLoneWord command word := by
  have capital : ∃ c cs, (classNameOf command).toList = c :: cs ∧ c.isUpper = true := by
    rcases toList_classNameOf_cases command with ⟨c, cs, -, upper, name⟩ | ⟨-, name⟩
    · exact ⟨c, cs, name, upper⟩
    · exact ⟨_, _, name, by decide⟩
  have only : classNameOf command ∈ Text.keywords ↔
      classNameOf command ∈ Text.capitalKeywords := by
    obtain ⟨c, cs, name, upper⟩ := capital
    have others : Text.keywords.all (fun w => w.toList.head?.all (!·.isUpper) ||
        Text.capitalKeywords.contains w) = true := by decide
    constructor
    · intro mem
      have := List.all_eq_true.mp others _ mem
      simpa [name, upper] using this
    · intro mem
      have among : ∀ w ∈ Text.capitalKeywords, w ∈ Text.keywords := by decide
      exact among _ mem
  rw [only]
  constructor
  · intro mem
    obtain ⟨u, us, form, other⟩ := Text.isCapitalized_of_mem_capitalKeywords mem
    exact ⟨_, mem, (classNameOf_eq_iff form other).mp rfl⟩
  · rintro ⟨word, mem, lone⟩
    obtain ⟨u, us, form, other⟩ := Text.isCapitalized_of_mem_capitalKeywords mem
    rwa [(classNameOf_eq_iff form other).mpr lone]

/-! ## The classes of commands that compile -/

theorem Variant.className_of_compile {v : Variant} {position : Int} {c : CompiledCommand}
    (h : v.compile position = .ok c) :
    c.binding.model.className = v.className.getD (classNameOf c.signature.name) := by
  obtain ⟨name, -, -, rfl⟩ := compile_eq_ok_iff.mp h
  rfl

/-- **Every class has an identifier as its name, and a name that may not be used is suggested by one
kind of command names only.** The name of the class of a command that compiles is legal unless it is
suggested by the name of the command, and this is a keyword that starts with a capital, up to the
case of its first letter and to characters around it that are neither ASCII letters nor digits. -/
theorem Variant.isName_className_iff {v : Variant} {position : Int} {c : CompiledCommand}
    (h : v.compile position = .ok c) :
    Text.isIdentifier c.binding.model.className = true ∧
      (Text.IsName c.binding.model.className ↔
        ¬ (v.className = none ∧
          ∃ word ∈ Text.capitalKeywords, Text.IsLoneWord c.signature.name word)) := by
  obtain ⟨name, slots, -, wellFormed, -, -⟩ := exists_slots h
  rw [className_of_compile h]
  cases given : v.className with
  | some className =>
      have legal : Text.IsName className := wellFormed.className className given
      exact ⟨legal.1, by simpa using legal⟩
  | none =>
      have identifier := isIdentifier_classNameOf c.signature.name
      refine ⟨identifier, ?_⟩
      rw [← classNameOf_mem_keywords_iff]
      simp [Text.IsName, identifier]

/-- A command whose name is a keyword but for its case, which the class is given back. -/
theorem Variant.className_of_none :
    ∃ c, ({ name := some "none" } : Variant).compile 0 = .ok c ∧
      c.binding.model.className = "None" ∧ ¬ Text.IsName c.binding.model.className := by
  refine ⟨_, rfl, rfl, ?_⟩
  rintro ⟨-, notKeyword⟩
  exact notKeyword (by decide)

/-- A command name with a keyword in it and another one beside it, and one that is a keyword between
other characters, without and with a class name of its own. -/
theorem Variant.isName_className_lone :
    (∃ c, ({ name := some "true or false" } : Variant).compile 0 = .ok c ∧
        Text.IsName c.binding.model.className) ∧
      (∃ c, ({ name := some "«True»" } : Variant).compile 0 = .ok c ∧
        ¬ Text.IsName c.binding.model.className) ∧
      ∃ c, ({ name := some "«True»", className := some "Truth" } : Variant).compile 0 = .ok c ∧
        Text.IsName c.binding.model.className := by
  have compiles : ({ name := some "true or false" } : Variant).compile 0 = .ok _ := rfl
  have compiles' : ({ name := some "«True»" } : Variant).compile 0 = .ok _ := rfl
  have compiles'' :
    ({ name := some "«True»", className := some "Truth" } : Variant).compile 0 = .ok _ := rfl
  refine ⟨⟨_, compiles, (isName_className_iff compiles).2.mpr ?_⟩,
    ⟨_, compiles', mt (isName_className_iff compiles').2.mp ?_⟩,
    ⟨_, compiles'', (isName_className_iff compiles'').2.mpr nofun⟩⟩
  · rintro ⟨-, lone⟩
    exact absurd (classNameOf_mem_keywords_iff.mpr lone) (by decide)
  · have beside : ∀ d ∈ ['«'] ++ ['»'], d.isAlphanum = false :=
      List.forall_mem_cons.mpr ⟨by decide, List.forall_mem_singleton.mpr (by decide)⟩
    rw [not_not]
    exact ⟨rfl, "True", by decide, ['«'], 'T', ['r', 'u', 'e'], ['»'], rfl, rfl, beside⟩

end CommandCompiler
