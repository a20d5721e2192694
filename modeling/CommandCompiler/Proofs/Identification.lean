import CommandCompiler.Lint
import CommandCompiler.Proofs.Diagnostics
/-!
# CommandCompiler.Proofs.Identification

**Which messages tell the command they are about.** A message refers to a command
by its name, without the blanks around it, or by its position if it has none
(`CommandLabel.IdentifiedIn`). Errors do so except for one family: what keeps a
field of a nameless command from being an argument is told without the position.
So nameless commands at different positions have an error in common exactly if
each has a field of one name that is no argument, for one reason. Advice refers to
a command by its name as written, and so by its label only if there are no blanks
around it.

`SchemaError.IsAbout` says once which command an error belongs to; that all errors
of a command are about it is read off what its scans report
(`Variant.isAbout_of_mem_errors`).
-/

namespace CommandCompiler

/-! ## References to commands -/

/-- The beginnings of messages that refer to a command. -/
def CommandLabel.Refers : CommandLabel → String → Prop
  | named name, front =>
    front = s!"command '{name}'" ∨
      ∃ field : String, front = s!"Field '{field}' of command '{name}'"
  | unnamed position, front => front = s!"command #{position}" ∨ front = s!"Command #{position}"

/-- Whether a message goes on after its beginning with a colon or a blank. -/
def GoesOn (front message : String) : Prop :=
  ∃ rest, (rest.toList.head? = some ':' ∨ rest.toList.head? = some ' ') ∧ message = front ++ rest

/-- Whether a message refers to a command. -/
def CommandLabel.IdentifiedIn (c : CommandLabel) (message : String) : Prop :=
  ∃ front, c.Refers front ∧ GoesOn front message

theorem head?_append {a b : String} {c : Char} (h : a.toList.head? = some c) :
    (a ++ b).toList.head? = some c := by
  rw [String.toList_append, List.head?_append, h]
  rfl

theorem goesOn_colon (front : String) {rest : String} (h : rest.toList.head? = some ':') :
    GoesOn front (front ++ rest) :=
  ⟨rest, .inl h, rfl⟩

theorem goesOn_blank (front : String) {rest : String} (h : rest.toList.head? = some ' ') :
    GoesOn front (front ++ rest) :=
  ⟨rest, .inr h, rfl⟩

theorem GoesOn.append {front message : String} (h : GoesOn front message) (s : String) :
    GoesOn front (message ++ s) := by
  obtain ⟨rest, first, rfl⟩ := h
  exact ⟨rest ++ s, first.imp head?_append head?_append, String.append_assoc ..⟩

namespace CommandLabel

variable {c : CommandLabel} {message : String}

theorem refers_text (c : CommandLabel) : c.Refers c.text := by
  cases c with
  | named name => exact .inl rfl
  | unnamed position => exact .inl rfl

/-- Whether a character may stand in a number. -/
def isNumeral (c : Char) : Bool := c.isDigit || c == '-'

theorem isNumeral_of_mem_repr {i : Int} {d : Char} (h : d ∈ i.repr.toList) :
    isNumeral d = true := by
  have digits {n : Nat} (h : d ∈ n.repr.toList) : isNumeral d = true := by
    rw [Nat.toList_repr] at h
    simp [isNumeral, Nat.isDigit_of_mem_toDigits (by decide) (by decide) h]
  cases i with
  | ofNat n => exact digits h
  | negSucc n =>
      have sign : "-".toList = ['-'] := rfl
      rw [Int.repr, String.toList_append, sign, List.mem_append, List.mem_singleton] at h
      rcases h with rfl | h
      · rfl
      · exact digits h

/-- No two numbers are written alike. -/
theorem repr_injective {i j : Int} (h : i.repr = j.repr) : i = j := by
  have digits {m n : Nat} (h : m.repr = n.repr) : m = n := by
    have chars := congrArg String.toList h
    rw [Nat.toList_repr, Nat.toList_repr] at chars
    rw [← Nat.ofDigitChars_ten_toDigits (n := m), chars, Nat.ofDigitChars_ten_toDigits]
  have unsigned {m n : Nat} (h : m.repr = "-" ++ n.repr) : False := by
    have sign : '-' ∈ Nat.toDigits 10 m := by
      rw [← Nat.toList_repr, h]
      simp
    exact absurd (Nat.isDigit_of_mem_toDigits (by decide) (by decide) sign) (by decide)
  cases i with
  | ofNat m =>
      cases j with
      | ofNat n => rw [digits h]
      | negSucc n => exact (unsigned h).elim
  | negSucc m =>
      cases j with
      | ofNat n => exact (unsigned h.symm).elim
      | negSucc n => rw [Nat.succ.inj (digits ((String.append_right_inj _).mp h))]

/-- A message that refers to a nameless command has its position as the number after the word. -/
theorem IdentifiedIn.repr_eq {position : Int} (h : (unnamed position).IdentifiedIn message) :
    (message.toList.drop 9).takeWhile isNumeral = position.repr.toList := by
  obtain ⟨front, refers, rest, goesOn, rfl⟩ := h
  have words : "command #".toList.length = 9 ∧ "Command #".toList.length = 9 := by decide
  have dropped : (front ++ rest).toList.drop 9 = position.repr.toList ++ rest.toList := by
    rcases refers with rfl | rfl
    · show ("command #" ++ position.repr ++ rest).toList.drop 9 = _
      rw [String.toList_append, String.toList_append, List.append_assoc, List.drop_left' words.1]
    · show ("Command #" ++ position.repr ++ rest).toList.drop 9 = _
      rw [String.toList_append, String.toList_append, List.append_assoc, List.drop_left' words.2]
  have ended : rest.toList.takeWhile isNumeral = [] := by
    cases h : rest.toList with
    | nil => rfl
    | cons d ds =>
        rw [h] at goesOn
        have other : isNumeral d = false := by
          rcases goesOn with goesOn | goesOn
          · cases goesOn
            rfl
          · cases goesOn
            rfl
        simp [other]
  rw [dropped, List.takeWhile_append_of_pos fun d => isNumeral_of_mem_repr, ended, List.append_nil]

/-- A message about a field as such refers to no nameless command. -/
theorem not_identifiedIn_of_field {position : Int} (s : String) :
    ¬ (unnamed position).IdentifiedIn ("Field '" ++ s) := by
  rintro ⟨front, refers, rest, -, heq⟩
  have field : ("Field '" ++ s).toList.head? = some 'F' := head?_append rfl
  rcases refers with rfl | rfl
  · have lower : ("command #" ++ position.repr ++ rest).toList.head? = some 'c' :=
      head?_append (head?_append rfl)
    rw [heq] at field
    cases field.symm.trans lower
  · have upper : ("Command #" ++ position.repr ++ rest).toList.head? = some 'C' :=
      head?_append (head?_append rfl)
    rw [heq] at field
    cases field.symm.trans upper

/-- A message refers to one nameless command at most. -/
theorem IdentifiedIn.position_unique {i j : Int} (hi : (unnamed i).IdentifiedIn message)
    (hj : (unnamed j).IdentifiedIn message) : i = j := by
  have same : i.repr.toList = j.repr.toList := by rw [← hi.repr_eq, hj.repr_eq]
  exact repr_injective (String.toList_inj.mp same)

end CommandLabel

/-! ## Errors -/

/-- The categories of fields that are no arguments. -/
def classificationKinds : List SchemaErrorKind :=
  [.missingRole, .unsupportedType, .roleTypeMismatch]

namespace SchemaError

/-- Whether an error belongs to a command. -/
def IsAbout (c : CommandLabel) : SchemaError → Prop
  | missingCommandName position => c = .unnamed position
  | invalidClassName d _ | duplicateField d _ | invalidFieldName d _ | reservedFieldName d _
  | shortWithoutFlag d _ | malformedShort d _ _ | repeatedShort d _ _
  | misplacedRequired d _ => d = c
  | unclassified name _ _ => name = c.name?
  | duplicateCommandName _ => False

variable {c : CommandLabel} {e : SchemaError}

theorem IsAbout.command?_eq (h : e.IsAbout c) : e.command? = c.name? := by
  cases e with
  | missingCommandName position =>
      obtain rfl := h
      rfl
  | duplicateCommandName name => cases h
  | unclassified name field cause => exact h
  | _ =>
      obtain rfl := h
      rfl

open CommandLabel in
/-- An error refers to its command, unless the command has no name and the error says why a field is
no argument. -/
theorem IsAbout.identifiedIn_iff (h : e.IsAbout c) :
    c.IdentifiedIn e.message ↔ ¬ (c.name? = none ∧ e.kind ∈ classificationKinds) := by
  cases e with
  | missingCommandName position =>
      obtain rfl := h
      refine iff_of_true ⟨s!"Command #{position}", .inr rfl, goesOn_blank _ rfl⟩ ?_
      simp [kind, classificationKinds]
  | duplicateCommandName name => cases h
  | unclassified name field cause =>
      obtain rfl : name = c.name? := h
      have classified : cause.kind ∈ classificationKinds := cause.mem_kind
      cases c with
      | named name =>
          refine iff_of_true ⟨s!"Field '{field}' of command '{name}'", .inr ⟨field, rfl⟩,
            " " ++ cause.text, .inr (head?_append rfl), ?_⟩ (by simp [name?])
          have quote : "' " = "'" ++ " " := rfl
          show "Field '" ++ field ++ "' of command '" ++ name ++ "' " ++ cause.text =
            "Field '" ++ field ++ "' of command '" ++ name ++ "'" ++ (" " ++ cause.text)
          rw [quote, ← String.append_assoc, ← String.append_assoc]
      | unnamed position =>
          refine iff_of_false ?_ (not_not.mpr ⟨rfl, classified⟩)
          show ¬ (unnamed position).IdentifiedIn ("Field '" ++ field ++ "' " ++ cause.text)
          rw [String.append_assoc, String.append_assoc]
          exact not_identifiedIn_of_field _
  | malformedShort d field short =>
      obtain rfl := h
      refine iff_of_true ?_ (by simp [kind, classificationKinds])
      exact ⟨d.text, d.refers_text, ((((goesOn_colon _ rfl).append _).append _).append _).append _⟩
  | _ =>
      obtain rfl := h
      refine iff_of_true ⟨_, refers_text _, ?_⟩ (by simp [kind, classificationKinds])
      exact ((goesOn_colon _ rfl).append _).append _

end SchemaError

/-- Every error of a command is about it. -/
theorem Variant.isAbout_of_mem_errors {v : Variant} {position : Int} {e : SchemaError}
    (h : e ∈ v.errors position) : e.IsAbout (v.label position) := by
  simp only [errors, List.mem_append] at h
  rcases h with (((h | h) | h) | h) | h
  · unfold commandNameErrors at h
    split at h
    · cases h
    · rename_i nameless
      obtain rfl := List.mem_singleton.mp h
      rw [label, nameless]
      rfl
  · unfold classNameErrors at h
    split at h
    · cases h
    · split at h
      · cases h
      · obtain rfl := List.mem_singleton.mp h
        rfl
  · obtain ⟨f, -, rfl | rfl | rfl⟩ := mem_fieldNameErrors h <;> rfl
  · obtain ⟨f, -, short, rfl | rfl | rfl⟩ := mem_shortErrors h <;> rfl
  · obtain ⟨f, -, ⟨cause, -, rfl⟩ | rfl⟩ := mem_layOut h <;> rfl

/-! ## Advice -/

theorem Field.goesOn_of_mem_warnings {f : Field} {context : String} {w : Warning}
    (h : w ∈ f.warnings context) : GoesOn context w.message := by
  rw [warnings, List.mem_append] at h
  rcases h with h | h
  · split at h
    · obtain rfl := List.mem_singleton.mp h
      exact ((goesOn_colon _ rfl).append _).append _
    · cases h
  · split at h
    · obtain rfl := List.mem_singleton.mp h
      exact (((((goesOn_colon _ rfl).append _).append _).append _).append _).append _
    · cases h

/-- Advice on a command starts with its name as written. -/
theorem Variant.goesOn_of_mem_warnings {v : Variant} {position : Nat} {w : Warning}
    (h : w ∈ v.warnings position) : GoesOn (v.lintContext position) w.message := by
  rw [warnings, List.mem_append] at h
  rcases h with h | h
  · split at h
    · obtain rfl := List.mem_singleton.mp h
      exact goesOn_blank _ rfl
    · cases h
  · obtain ⟨f, -, h⟩ := List.mem_flatMap.mp h
    exact Field.goesOn_of_mem_warnings h

/-- A text with blanks around it in quotes does not start like the trimmed text in quotes. -/
theorem quoted_ne_quoted_trim {name : String} (padded : Text.trim name ≠ name)
    (some : Text.trim name ≠ "") (rest rest' : List Char) :
    name.toList ++ '\'' :: rest ≠ (Text.trim name).toList ++ '\'' :: rest' := by
  intro heq
  obtain ⟨before, after, hb, ha, hname⟩ := Text.padded_trim name
  cases before with
  | cons b bs =>
      cases ht : (Text.trim name).toList with
      | nil => exact some (String.toList_eq_nil_iff.mp ht)
      | cons c cs =>
          rw [hname, ht] at heq
          obtain rfl : b = c := (List.cons.inj heq).1
          have visible : Text.isBlank b = false := Text.isBlank_head_trim (by rw [ht]; rfl)
          rw [hb b (List.mem_cons_self ..)] at visible
          cases visible
  | nil =>
      rw [hname, List.nil_append, List.append_assoc] at heq
      have heq := List.append_cancel_left heq
      cases after with
      | nil =>
          rw [List.nil_append, List.append_nil] at hname
          exact padded (String.toList_inj.mp hname.symm)
      | cons a after =>
          obtain rfl : a = '\'' := (List.cons.inj heq).1
          exact absurd (ha _ (List.mem_cons_self ..)) (by decide)

theorem Variant.lintContext_eq {v : Variant} {name : String} (hv : v.name = some name)
    (some : name ≠ "") (position : Nat) :
    v.lintContext position = "command '" ++ name ++ "'" := by
  unfold lintContext
  split
  · rename_i absent
    rw [hv] at absent
    cases absent
  · rename_i empty
    rw [hv] at empty
    exact absurd (Option.some.inj empty) some
  · rename_i given
    rw [hv] at given
    cases given
    rfl

/-- A name in quotes with blanks around it is no reference to the command. -/
theorem Variant.not_refers_padded {v : Variant} {name front : String} (hv : v.name = some name)
    (padded : Text.trim name ≠ name) {position : Int} (refers : (v.label position).Refers front)
    (rest rest' : String) : "command '" ++ name ++ "'" ++ rest ≠ front ++ rest' := by
  intro heq
  have first : ("command '" ++ name ++ "'" ++ rest).toList.head? = some 'c' :=
    head?_append (head?_append (head?_append rfl))
  by_cases blank : Text.trim name = ""
  · have label : v.label position = .unnamed position := by simp [label, properName?, hv, blank]
    rw [label] at refers
    rcases refers with rfl | rfl
    · have words : "command '".toList.length = "command #".toList.length := by decide
      have heq : "command '" ++ name ++ "'" ++ rest = "command #" ++ position.repr ++ rest' := heq
      have chars := congrArg String.toList heq
      simp only [String.toList_append, List.append_assoc] at chars
      exact absurd (List.append_inj_left chars words) (by decide)
    · have capital : ("Command #" ++ position.repr ++ rest').toList.head? = some 'C' :=
        head?_append (head?_append rfl)
      rw [heq] at first
      cases first.symm.trans capital
  · have label : v.label position = .named (Text.trim name) := by
      simp [label, properName?, hv, blank]
    rw [label] at refers
    rcases refers with rfl | ⟨field, rfl⟩
    · have heq : "command '" ++ name ++ "'" ++ rest =
          "command '" ++ Text.trim name ++ "'" ++ rest' := heq
      have chars := congrArg String.toList heq
      simp only [String.toList_append, List.append_assoc] at chars
      exact quoted_ne_quoted_trim padded blank _ _ (List.append_cancel_left chars)
    · have field : ("Field '" ++ field ++ "' of command '" ++ Text.trim name ++ "'" ++
          rest').toList.head? = some 'F' :=
        head?_append (head?_append (head?_append (head?_append (head?_append rfl))))
      rw [heq] at first
      cases first.symm.trans field

/-- What starts with the name of a command as written refers to the command if there are no blanks
around the name. -/
theorem Variant.identifiedIn_iff_of_goesOn {v : Variant} {position : Nat} {message : String}
    (h : GoesOn (v.lintContext position) message) :
    (v.label position).IdentifiedIn message ↔ ∀ name ∈ v.name, Text.trim name = name := by
  have same (context : v.lintContext position = (v.label position).text) :
      (v.label position).IdentifiedIn message :=
    ⟨_, CommandLabel.refers_text _, context ▸ h⟩
  have nameless (missing : v.properName? = none) :
      s!"command #{position}" = (v.label position).text := by
    rw [label, missing]
    rfl
  cases hv : v.name with
  | none =>
      refine iff_of_true (same ?_) (by simp)
      rw [← nameless (by simp [properName?, hv]), lintContext, hv]
  | some name =>
      simp only [Option.mem_some_iff, forall_eq']
      by_cases empty : name = ""
      · subst empty
        refine iff_of_true (same ?_) rfl
        have missing : v.properName? = none := by
          rw [properName?, hv]
          rfl
        rw [← nameless missing]
        simp [lintContext, hv]
      rw [lintContext_eq hv empty] at same h
      by_cases trimmed : Text.trim name = name
      · refine iff_of_true (same ?_) trimmed
        have proper : v.properName? = some name := by simp [properName?, hv, trimmed, empty]
        rw [label, proper]
        rfl
      · refine iff_of_false ?_ trimmed
        obtain ⟨rest, -, rfl⟩ := h
        rintro ⟨front, refers, rest', -, heq⟩
        exact not_refers_padded hv trimmed refers rest rest' heq

/-! ## Nameless commands -/

/-- All that an error tells. -/
def SchemaError.report (e : SchemaError) :
    SchemaErrorKind × String × Option String × Option String :=
  (e.kind, e.message, e.command?, e.field?)

/-- Whether two commands have fields of one name that are no arguments, for reasons that are told
alike. -/
def Variant.ShareFault (v u : Variant) : Prop :=
  ∃ f ∈ v.fields, ∃ g ∈ u.fields, f.name = g.name ∧ ∃ cause cause',
    f.classify = .error cause ∧ g.classify = .error cause' ∧
      cause.kind = cause'.kind ∧ cause.text = cause'.text

theorem unclassified_mem_layOut {c : CommandLabel} {index : Nat} {late : Bool} {fs : List Field}
    {f : Field} {cause : Unclassified} (hf : f ∈ fs) (h : f.classify = .error cause) :
    .unclassified c.name? f.name cause ∈ (layOut c index late fs).1 := by
  induction fs generalizing index late with
  | nil => cases hf
  | cons g fs ih =>
      rw [layOut]
      rcases List.mem_cons.mp hf with rfl | hf
      · simp only [h]
        exact List.mem_cons_self ..
      · split
        · exact List.mem_cons_of_mem _ (ih hf)
        · split
          · exact List.mem_cons_of_mem _ (ih hf)
          · exact ih hf
        · exact ih hf

namespace Variant

variable {v u : Variant} {e : SchemaError}

theorem label_name? (v : Variant) (position : Int) : (v.label position).name? = v.properName? := by
  rw [label]
  cases v.properName? <;> rfl

/-- An error of these categories says why a field is no argument. -/
theorem exists_cause_of_mem_errors {position : Int} (h : e ∈ v.errors position)
    (hk : e.kind ∈ classificationKinds) :
    ∃ f ∈ v.fields, ∃ cause, f.classify = .error cause ∧
      e = .unclassified v.properName? f.name cause := by
  simp only [errors, List.mem_append] at h
  have other {kinds : List SchemaErrorKind} (h : e.kind ∈ kinds)
      (apart : ∀ k ∈ kinds, k ∉ classificationKinds) : False := apart _ h hk
  rcases h with (((h | h) | h) | h) | h
  · exact (other (kind_of_mem_commandNameErrors h) (by decide)).elim
  · exact (other (kind_of_mem_classNameErrors h) (by decide)).elim
  · exact (other (kind_of_mem_fieldNameErrors h) (by decide)).elim
  · exact (other (kind_of_mem_shortErrors h) (by decide)).elim
  · obtain ⟨f, hf, ⟨cause, hcause, rfl⟩ | rfl⟩ := mem_layOut h
    · exact ⟨f, hf, cause, hcause, by rw [label_name?]⟩
    · simp [SchemaError.kind, classificationKinds] at hk

theorem unclassified_mem_errors {f : Field} {cause : Unclassified} (hf : f ∈ v.fields)
    (h : f.classify = .error cause) (position : Int) :
    .unclassified v.properName? f.name cause ∈ v.errors position := by
  rw [errors, ← label_name? v position]
  exact List.mem_append_right _ (unclassified_mem_layOut hf h)

/-- The report of why a field of a nameless command is no argument. -/
theorem report_unclassified_none (field : String) (cause : Unclassified) :
    (SchemaError.unclassified none field cause).report =
      (cause.kind, "Field '" ++ field ++ "' " ++ cause.text, none, some field) :=
  rfl

/-- Nameless commands at different positions have an error in common if they share a field that is
no argument. -/
theorem exists_report_eq_iff {i j : Int} (hv : v.properName? = none) (hu : u.properName? = none)
    (apart : i ≠ j) :
    (∃ e ∈ v.errors i, ∃ e' ∈ u.errors j, e.report = e'.report) ↔ v.ShareFault u := by
  constructor
  · rintro ⟨e, he, e', he', same⟩
    by_cases hk : e.kind ∈ classificationKinds
    · have kind : e.kind = e'.kind := congrArg Prod.fst same
      obtain ⟨f, hf, cause, hcause, rfl⟩ := exists_cause_of_mem_errors he hk
      obtain ⟨g, hg, cause', hcause', rfl⟩ := exists_cause_of_mem_errors he' (kind ▸ hk)
      rw [hv, hu, report_unclassified_none, report_unclassified_none] at same
      simp only [Prod.mk.injEq, Option.some.injEq, true_and] at same
      obtain ⟨kind, message, name⟩ := same
      rw [name, String.append_right_inj] at message
      exact ⟨f, hf, g, hg, name, cause, cause', hcause, hcause', kind, message⟩
    · -- Both messages give the position, so that it would have to be one.
      have kind : e.kind = e'.kind := congrArg Prod.fst same
      have message : e.message = e'.message := congrArg (·.2.1) same
      have here := (isAbout_of_mem_errors he).identifiedIn_iff.mpr fun h => hk h.2
      have there := (isAbout_of_mem_errors he').identifiedIn_iff.mpr fun h => hk (kind ▸ h.2)
      rw [label, hv] at here
      rw [label, hu, ← message] at there
      exact absurd (here.position_unique there) apart
  · rintro ⟨f, hf, g, hg, name, cause, cause', hcause, hcause', kind, text⟩
    refine ⟨_, unclassified_mem_errors hf hcause i, _, unclassified_mem_errors hg hcause' j, ?_⟩
    rw [hv, hu, report_unclassified_none, report_unclassified_none, name, kind, text]

end Variant

/-! ## Diagnostics of a schema -/

/-- Advice on a command is advice on the schema. -/
theorem Schema.mem_warnings {s : Schema} {i : Nat} {v : Variant} {w : Warning}
    (hv : s.commands[i]? = some v) (hw : w ∈ v.warnings i) : w ∈ s.warnings := by
  obtain ⟨inside, rfl⟩ := List.getElem?_eq_some_iff.mp hv
  exact List.mem_flatten.mpr ⟨_, List.mem_mapIdx.mpr ⟨i, inside, rfl⟩, hw⟩

/-- **Which diagnostics tell their command.** Every error of a command belongs to its trimmed name,
and refers to the name or to the position of the command except in one case: if the command has no
name, what keeps a field from being an argument is told without the position. So it has an error in
common with another nameless command just if they have such a field in common. All advice on a
command refers to it likewise if its name has no blanks around it; otherwise none does. -/
theorem Schema.diagnostics_identified {s : Schema} {i : Nat} {v : Variant}
    (hv : s.commands[i]? = some v) :
    (∀ e ∈ v.errors i, e.command? = v.properName? ∧
      ((v.label i).IdentifiedIn e.message ↔
        ¬ (v.properName? = none ∧ e.kind ∈ classificationKinds))) ∧
    (∀ w ∈ v.warnings i, w ∈ s.warnings ∧
      ((v.label i).IdentifiedIn w.message ↔ ∀ name ∈ v.name, Text.trim name = name)) ∧
    ∀ (u : Variant) (j : Nat), i ≠ j → v.properName? = none → u.properName? = none →
      ((∃ e ∈ v.errors i, ∃ e' ∈ u.errors j, e.report = e'.report) ↔ v.ShareFault u) := by
  refine ⟨fun e he => ?_, fun w hw => ⟨mem_warnings hv hw, ?_⟩, fun u j apart nameless other => ?_⟩
  · have about : e.IsAbout (v.label i) := Variant.isAbout_of_mem_errors he
    rw [← v.label_name? i]
    exact ⟨about.command?_eq, about.identifiedIn_iff⟩
  · exact Variant.identifiedIn_iff_of_goesOn (Variant.goesOn_of_mem_warnings hw)
  · exact Variant.exists_report_eq_iff nameless other fun same => apart (Int.ofNat.inj same)

/-- A command whose name is blank, with a field that has no role. -/
def blankCommand : Variant :=
  { name := some " ", fields := [{ name := "card", type := .primitive .string }] }

/-- Two such commands have an error in common. -/
theorem blankCommand_alike :
    ∃ e ∈ blankCommand.errors (0 : Nat), ∃ e' ∈ blankCommand.errors (1 : Nat),
      e.report = e'.report := by
  have first : (⟨[blankCommand, blankCommand]⟩ : Schema).commands[0]? = some blankCommand := rfl
  obtain ⟨-, -, common⟩ := Schema.diagnostics_identified first
  have shared : blankCommand.ShareFault blankCommand :=
    ⟨_, List.mem_singleton_self _, _, List.mem_singleton_self _, rfl, .missingRole, .missingRole,
      rfl, rfl, rfl, rfl⟩
  exact (common blankCommand 1 (by decide) (by decide) (by decide)).mpr shared

/-- One error of two nameless commands, and advice on one of them, none of which gives a
position. -/
theorem blankCommand_unidentified :
    (∃ e ∈ blankCommand.errors 0, e ∈ blankCommand.errors 1 ∧
      e.message = "Field 'card' is missing a role tag") ∧
    ∃ w ∈ Schema.warnings ⟨[blankCommand, blankCommand]⟩,
      w.message = "command ' ' has no usage text" :=
  ⟨⟨.unclassified none "card" .missingRole, by decide, by decide, rfl⟩,
    .undocumentedCommand "command ' '", by decide, rfl⟩

end CommandCompiler
