import CommandCompiler.Proofs.ErrorText
import CommandCompiler.Proofs.Rearrangement
/-!
# CommandCompiler.Proofs.Diagnostics

**Which errors of a kind there are, and in which order.** What a scan over a command
may report is said once (`mem_shortErrors` and so on). Different scans report errors
of different kinds, so the errors of one kind are those of one scan, in the order of
the fields.

* `withEarlier` : the items of a list, each with those before it. What a scan
  reports of an item depends on these, and on nothing that it remembers of them;
* `Field.comesLate` : required fields that come after others. Each of them is
  reported (`Variant.filter_ordering_errors`);
* `SecondAt`, `RepeatedOnce` : what occurs at least twice, in the order of the
  second occurrences. Names of fields and names of commands are reported by this
  one rule (`repeatedOnce_filterMap`, `repetitions_reported_once`), which looks at
  one further name in each step (`repeatedNames_concat`).

Reports lead to what they are about, by their data and in words
(`SchemaError.PointsTo`). Those on repeated names of commands are found after all
commands have been looked at, which a fault can prevent
(`repetition_unreported`).
-/

namespace CommandCompiler

/-! ## The errors of each scan -/

section Kinds

variable {c : CommandLabel} {v : Variant} {e : SchemaError}

theorem kind_of_mem_commandNameErrors {position : Int} (h : e ∈ commandNameErrors v position) :
    e.kind ∈ [SchemaErrorKind.missingCommandName] := by
  unfold commandNameErrors at h
  split at h
  · cases h
  · obtain rfl := List.mem_singleton.mp h
    exact List.mem_singleton_self _

theorem kind_of_mem_classNameErrors (h : e ∈ classNameErrors c v) :
    e.kind ∈ [SchemaErrorKind.invalidClassName] := by
  unfold classNameErrors at h
  split at h
  · cases h
  · split at h
    · cases h
    · obtain rfl := List.mem_singleton.mp h
      exact List.mem_singleton_self _

theorem mem_fieldNameFaults {name : String} (h : e ∈ fieldNameFaults c name) :
    e = .invalidFieldName c name ∨ e = .reservedFieldName c name := by
  unfold fieldNameFaults at h
  split at h
  · exact .inl (List.mem_singleton.mp h)
  · split at h
    · exact .inr (List.mem_singleton.mp h)
    · cases h

theorem kind_of_mem_fieldNameFaults {name : String} (h : e ∈ fieldNameFaults c name) :
    e.kind ∈ [SchemaErrorKind.invalidFieldName] := by
  rcases mem_fieldNameFaults h with rfl | rfl <;> exact List.mem_singleton_self _

/-- What a scan of field names reports of a field. -/
theorem mem_fieldNameErrors {before : List String} {fs : List Field}
    (h : e ∈ fieldNameErrors c before fs) :
    ∃ f ∈ fs, e = .duplicateField c f.name ∨ e = .invalidFieldName c f.name ∨
      e = .reservedFieldName c f.name := by
  induction fs generalizing before with
  | nil => cases h
  | cons f fs ih =>
      rw [fieldNameErrors, List.mem_append, List.mem_append] at h
      rcases h with (h | h) | h
      · split at h
        · exact ⟨f, List.mem_cons_self .., .inl (List.mem_singleton.mp h)⟩
        · cases h
      · exact ⟨f, List.mem_cons_self .., .inr (mem_fieldNameFaults h)⟩
      · obtain ⟨g, hg, h⟩ := ih h
        exact ⟨g, List.mem_cons_of_mem _ hg, h⟩

theorem kind_of_mem_fieldNameErrors {before : List String} {fs : List Field}
    (h : e ∈ fieldNameErrors c before fs) :
    e.kind ∈ [SchemaErrorKind.duplicateField, .invalidFieldName] := by
  obtain ⟨f, -, rfl | rfl | rfl⟩ := mem_fieldNameErrors h <;> simp [SchemaError.kind]

/-- What a scan of short names reports of a field. -/
theorem mem_shortErrors {taken : List String} {fs : List Field} (h : e ∈ shortErrors c taken fs) :
    ∃ f ∈ fs, ∃ short, e = .shortWithoutFlag c f.name ∨ e = .malformedShort c f.name short ∨
      e = .repeatedShort c f.name short := by
  induction fs generalizing taken with
  | nil => cases h
  | cons f fs ih =>
      have later {taken : List String} (h : e ∈ shortErrors c taken fs) :
          ∃ g ∈ f :: fs, ∃ short, e = .shortWithoutFlag c g.name ∨
            e = .malformedShort c g.name short ∨ e = .repeatedShort c g.name short := by
        obtain ⟨g, hg, h⟩ := ih h
        exact ⟨g, List.mem_cons_of_mem _ hg, h⟩
      rw [shortErrors] at h
      split at h
      · exact later h
      · rename_i short _
        split at h
        · rcases List.mem_cons.mp h with h | h
          · exact ⟨f, List.mem_cons_self .., short, .inl h⟩
          · exact later h
        · split at h
          · rcases List.mem_cons.mp h with h | h
            · exact ⟨f, List.mem_cons_self .., short, .inr (.inl h)⟩
            · exact later h
          · rcases List.mem_append.mp h with h | h
            · split at h
              · exact ⟨f, List.mem_cons_self .., short, .inr (.inr (List.mem_singleton.mp h))⟩
              · cases h
            · exact later h

theorem kind_of_mem_shortErrors {taken : List String} {fs : List Field}
    (h : e ∈ shortErrors c taken fs) : e.kind ∈ [SchemaErrorKind.invalidShortFlag] := by
  obtain ⟨f, -, short, rfl | rfl | rfl⟩ := mem_shortErrors h <;> exact List.mem_singleton_self _

theorem Unclassified.mem_kind (cause : Unclassified) :
    cause.kind ∈ [SchemaErrorKind.missingRole, .unsupportedType, .roleTypeMismatch] := by
  cases cause <;> simp [kind]

/-- What is reported of a field that gets no slot. -/
theorem mem_layOut {index : Nat} {late : Bool} {fs : List Field}
    (h : e ∈ (layOut c index late fs).1) :
    ∃ f ∈ fs, (∃ cause, f.classify = .error cause ∧ e = .unclassified c.name? f.name cause) ∨
      e = .misplacedRequired c f.name := by
  induction fs generalizing index late with
  | nil => cases h
  | cons f fs ih =>
      have later {index : Nat} {late : Bool} (h : e ∈ (layOut c index late fs).1) :
          ∃ g ∈ f :: fs,
            (∃ cause, g.classify = .error cause ∧ e = .unclassified c.name? g.name cause) ∨
              e = .misplacedRequired c g.name := by
        obtain ⟨g, hg, h⟩ := ih h
        exact ⟨g, List.mem_cons_of_mem _ hg, h⟩
      rw [layOut] at h
      split at h
      · rename_i cause hcause
        rcases List.mem_cons.mp h with h | h
        · exact ⟨f, List.mem_cons_self .., .inl ⟨cause, hcause, h⟩⟩
        · exact later h
      · split at h
        · rcases List.mem_cons.mp h with h | h
          · exact ⟨f, List.mem_cons_self .., .inr h⟩
          · exact later h
        · exact later h
      · exact later h

theorem kind_of_mem_layOut {index : Nat} {late : Bool} {fs : List Field}
    (h : e ∈ (layOut c index late fs).1) :
    e.kind ∈ [SchemaErrorKind.ordering, .missingRole, .unsupportedType, .roleTypeMismatch] := by
  obtain ⟨f, -, ⟨cause, -, rfl⟩ | rfl⟩ := mem_layOut h
  · exact List.mem_cons_of_mem _ cause.mem_kind
  · exact List.mem_cons_self ..

/-- No error is of a kind that is not among theirs. -/
theorem filter_kind_eq_nil {es : List SchemaError} {k : SchemaErrorKind}
    {kinds : List SchemaErrorKind} (h : ∀ e ∈ es, e.kind ∈ kinds) (other : k ∉ kinds) :
    es.filter (·.kind = k) = [] := by
  simp only [List.filter_eq_nil_iff, decide_eq_true_eq]
  rintro e he rfl
  exact other (h e he)

end Kinds

/-! ## Items with those before them -/

/-- Each item of a list with the items before it, of which `before` come before the list. -/
def withEarlier {α : Type} (before as : List α) : List (List α × α) :=
  as.mapIdx fun i a => (before ++ as.take i, a)

theorem withEarlier_cons {α : Type} (before : List α) (a : α) (as : List α) :
    withEarlier before (a :: as) = (before, a) :: withEarlier (before ++ [a]) as := by
  simp [withEarlier, List.mapIdx_cons]

/-! ## Fields that come too late -/

/-- Whether a field is a required argument. -/
def Field.isRequiredArgument (f : Field) : Bool :=
  match f.classify with
  | .ok (.required _) => true
  | _ => false

/-- Whether a field is an argument that is not required. -/
def Field.isOtherArgument (f : Field) : Bool :=
  match f.classify with
  | .ok (.optional _) | .ok (.flag _) => true
  | _ => false

/-- Whether a field is a required argument, and one of the fields before it an argument that is
not. -/
def Field.comesLate (f : Field) (earlier : List Field) : Bool :=
  f.isRequiredArgument && earlier.any (·.isOtherArgument)

/-- The fields that are reported as misplaced are those that come late. The scan remembers only
that it has met an argument that is not required, and this is all that counts. -/
theorem filter_ordering_layOut {c : CommandLabel} {index : Nat} {late : Bool}
    {before fs : List Field} (h : late = before.any (·.isOtherArgument)) :
    (layOut c index late fs).1.filter (·.kind = .ordering) =
      ((withEarlier before fs).filter fun p => p.2.comesLate p.1).map
        fun p => .misplacedRequired c p.2.name := by
  induction fs generalizing index late before with
  | nil => rfl
  | cons f fs ih =>
      rw [withEarlier_cons]
      cases hf : f.classify with
      | error cause =>
          have inTime : f.comesLate before = false := by
            simp [Field.comesLate, Field.isRequiredArgument, hf]
          have still : late = (before ++ [f]).any (·.isOtherArgument) := by
            simp [h, Field.isOtherArgument, hf]
          have silent : (SchemaError.unclassified c.name? f.name cause).kind ≠ .ordering := by
            intro h
            have kinds := cause.mem_kind
            rw [show cause.kind = .ordering from h] at kinds
            exact absurd kinds (by decide)
          rw [layOut_cons_invalid hf, List.filter_cons_of_neg (by simpa using silent),
            List.filter_cons_of_neg (by simp [inTime])]
          exact ih still
      | ok k =>
          have hk : f.HasKind k := Field.classify_eq_ok_iff.mp hf
          cases k with
          | required a =>
              have comesLate : f.comesLate before = late := by
                simp [Field.comesLate, Field.isRequiredArgument, hf, h]
              have still : late = (before ++ [f]).any (·.isOtherArgument) := by
                simp [h, Field.isOtherArgument, hf]
              cases late with
              | true =>
                  rw [layOut_cons_late hk, List.filter_cons_of_pos (by rfl),
                    List.filter_cons_of_pos (by simp [comesLate]), List.map_cons, ih still]
              | false =>
                  rw [layOut_cons_required hk, List.filter_cons_of_neg (by simp [comesLate])]
                  exact ih still
          | optional _ | flag _ =>
              have notRequired : ¬ f.IsRequired := by simp [hk.isRequired_iff]
              have inTime : f.comesLate before = false := by
                simp [Field.comesLate, Field.isRequiredArgument, hf]
              have late : true = (before ++ [f]).any (·.isOtherArgument) := by
                simp [Field.isOtherArgument, hf]
              rw [layOut_cons_other hk notRequired, List.filter_cons_of_neg (by simp [inTime])]
              exact ih late

/-- **Every required field that comes after one that is not required is reported, and nothing else
is reported as misplaced.** The reports are in the order of the fields, one for each of these, and
lead to them. A field that is no argument at all is not reported for its place and does not make
others late; neither does a field that is late itself. -/
theorem Variant.filter_ordering_errors (v : Variant) (position : Int) :
    (v.errors position).filter (·.kind = .ordering) =
        ((withEarlier [] v.fields).filter fun p => p.2.comesLate p.1).map
          (fun p => .misplacedRequired (v.label position) p.2.name) ∧
      List.Forall₂ (fun p e => e.PointsTo (v.label position) p.2.name)
        ((withEarlier [] v.fields).filter fun p => p.2.comesLate p.1)
        ((v.errors position).filter (·.kind = .ordering)) := by
  have reports : (v.errors position).filter (·.kind = .ordering) =
      ((withEarlier [] v.fields).filter fun p => p.2.comesLate p.1).map
        fun p => .misplacedRequired (v.label position) p.2.name := by
    simp only [errors, List.filter_append]
    rw [filter_kind_eq_nil (fun _ => kind_of_mem_commandNameErrors) (by decide),
      filter_kind_eq_nil (fun _ => kind_of_mem_classNameErrors) (by decide),
      filter_kind_eq_nil (fun _ => kind_of_mem_fieldNameErrors) (by decide),
      filter_kind_eq_nil (fun _ => kind_of_mem_shortErrors) (by decide)]
    exact filter_ordering_layOut rfl
  refine ⟨reports, ?_⟩
  rw [reports, List.forall₂_map_right_iff, List.forall₂_same]
  exact fun p _ => SchemaError.pointsTo_iff.mpr ⟨rfl, rfl⟩

/-! ## Names that occur more than once -/

section Repetition

variable {α : Type} (key : α → Option String)

/-- Whether the item at a place is the second one with a name. -/
def SecondAt (as : List α) (i : Nat) (name : String) : Prop :=
  (∃ a, as[i]? = some a ∧ key a = some name) ∧ (as.take i).countP (key · = some name) = 1

/-- What is to be reported of repeated names: each name that at least two items have, once, in the
order of the second items with these names. -/
structure RepeatedOnce (as : List α) (reported : List String) : Prop where
  nodup : reported.Nodup
  mem_iff : ∀ name, name ∈ reported ↔ 2 ≤ as.countP (key · = some name)
  ordered : ∃ places : List Nat,
    places.Pairwise (· < ·) ∧ List.Forall₂ (SecondAt key as) places reported

variable {key}

/-- Items that follow do not change which item is the second one with a name. -/
theorem SecondAt.append {as : List α} {i : Nat} {name : String} (h : SecondAt key as i name)
    (more : List α) : SecondAt key (as ++ more) i name := by
  obtain ⟨⟨a, hi, ha⟩, once⟩ := h
  have inside : i < as.length := (List.getElem?_eq_some_iff.mp hi).1
  refine ⟨⟨a, ?_, ha⟩, ?_⟩
  · rw [List.getElem?_append_left inside, hi]
  · rw [List.take_append_of_le_length inside.le, once]

/-- The last item is the second one with its name if one of those before it has that name. -/
theorem secondAt_length {as : List α} {a : α} {name : String} (ha : key a = some name)
    (once : as.countP (key · = some name) = 1) : SecondAt key (as ++ [a]) as.length name := by
  refine ⟨⟨a, by simp, ha⟩, ?_⟩
  rw [List.take_left, once]

theorem count_filterMap (as : List α) (name : String) :
    (as.filterMap key).count name = as.countP (key · = some name) := by
  rw [List.count, List.countP_filterMap]
  congr 1
  funext a
  cases key a <;> simp [beq_eq_decide]

theorem repeatedNames_append (before names more : List String) :
    repeatedNames before (names ++ more) =
      repeatedNames before names ++ repeatedNames (names.reverse ++ before) more := by
  induction names generalizing before with
  | nil => rfl
  | cons name names ih =>
      rw [List.cons_append, repeatedNames, repeatedNames, ih, List.reverse_cons,
        List.append_assoc, List.singleton_append]
      split <;> rfl

/-- One further name is reported just if it has occurred once before. -/
theorem repeatedNames_concat (names : List String) (name : String) :
    repeatedNames [] (names ++ [name]) =
      if names.count name = 1 then repeatedNames [] names ++ [name]
      else repeatedNames [] names := by
  rw [repeatedNames_append, List.append_nil, repeatedNames, repeatedNames, isSecond,
    List.count_reverse]
  simp only [beq_iff_eq]
  split
  · rfl
  · rw [List.append_nil]

/-- The reported names have their second occurrences at rising places. By induction from the end:
what is reported of an item depends on those before it only. -/
theorem exists_places (as : List α) :
    ∃ places : List Nat, (∀ i ∈ places, i < as.length) ∧ places.Pairwise (· < ·) ∧
      List.Forall₂ (SecondAt key as) places (repeatedNames [] (as.filterMap key)) := by
  induction as using List.reverseRecOn with
  | nil => exact ⟨[], by simp, .nil, .nil⟩
  | append_singleton as a ih =>
      obtain ⟨places, inside, rising, seconds⟩ := ih
      have inside' : ∀ i ∈ places, i < (as ++ [a]).length := by
        intro i hi
        rw [List.length_append]
        exact Nat.lt_add_right _ (inside i hi)
      have seconds' := seconds.imp fun _ _ h => SecondAt.append h [a]
      rw [List.filterMap_append]
      cases ha : key a with
      | none =>
          rw [List.filterMap_cons_none ha, List.filterMap_nil, List.append_nil]
          exact ⟨places, inside', rising, seconds'⟩
      | some name =>
          rw [List.filterMap_cons_some ha, List.filterMap_nil, repeatedNames_concat,
            count_filterMap]
          split
          · rename_i once
            refine ⟨places ++ [as.length], ?_, ?_, ?_⟩
            · rw [List.forall_mem_append, List.forall_mem_singleton]
              exact ⟨inside', by simp⟩
            · rw [List.pairwise_append]
              refine ⟨rising, List.pairwise_singleton .., ?_⟩
              rintro i hi j hj
              obtain rfl := List.mem_singleton.mp hj
              exact inside i hi
            · exact List.rel_append seconds' (.cons (secondAt_length ha once) .nil)
          · exact ⟨places, inside', rising, seconds'⟩

/-- The names that the scan reports are those that are to be reported. -/
theorem repeatedOnce_filterMap (as : List α) :
    RepeatedOnce key as (repeatedNames [] (as.filterMap key)) where
  nodup := by
    rw [List.nodup_iff_count_le_one]
    intro name
    rw [count_repeatedNames]
    split <;> omega
  mem_iff name := by
    rw [← List.count_pos_iff, count_repeatedNames, count_filterMap]
    simp only [List.count_nil, Nat.zero_add, Nat.zero_lt_two, true_and]
    split
    · rename_i often
      exact iff_of_true Nat.one_pos often
    · rename_i often
      exact iff_of_false (Nat.lt_irrefl 0) often
  ordered :=
    have ⟨places, _, rising, seconds⟩ := exists_places as
    ⟨places, rising, seconds⟩

end Repetition

theorem filter_duplicateField_fieldNameErrors (c : CommandLabel) (before : List String)
    (fs : List Field) :
    (fieldNameErrors c before fs).filter (·.kind = .duplicateField) =
      (repeatedNames before (fs.map (·.name))).map (.duplicateField c) := by
  induction fs generalizing before with
  | nil => rfl
  | cons f fs ih =>
      have faults : (fieldNameFaults c f.name).filter (·.kind = .duplicateField) = [] :=
        filter_kind_eq_nil (fun _ => kind_of_mem_fieldNameFaults) (by decide)
      rw [fieldNameErrors, List.filter_append, List.filter_append, faults, List.append_nil, ih,
        List.map_cons, repeatedNames]
      split <;> rfl

theorem Variant.filter_duplicateField_errors (v : Variant) (position : Int) :
    (v.errors position).filter (·.kind = .duplicateField) =
      (repeatedNames [] (v.fields.map (·.name))).map (.duplicateField (v.label position)) := by
  simp only [errors, List.filter_append]
  rw [filter_kind_eq_nil (fun _ => kind_of_mem_commandNameErrors) (by decide),
    filter_kind_eq_nil (fun _ => kind_of_mem_classNameErrors) (by decide),
    filter_kind_eq_nil (fun _ => kind_of_mem_shortErrors) (by decide),
    filter_kind_eq_nil (fun _ => kind_of_mem_layOut) (by decide),
    filter_duplicateField_fieldNameErrors, List.append_nil, List.append_nil]
  rfl

theorem Variant.properName?_eq (v : Variant) :
    v.properName? = (v.name.map Text.trim).filter (· ≠ "") := by
  unfold properName?
  cases v.name with
  | none => rfl
  | some name => simp [Option.filter_some]

/-- Errors between commands are not found by looking at one command. -/
theorem Variant.kind_ne_duplicateCommandName {v : Variant} {position : Int} {e : SchemaError}
    (h : e ∈ v.errors position) : e.kind ≠ .duplicateCommandName := by
  have other {kinds : List SchemaErrorKind} (hk : e.kind ∈ kinds)
      (absent : SchemaErrorKind.duplicateCommandName ∉ kinds) : e.kind ≠ .duplicateCommandName := by
    intro he
    exact absent (he ▸ hk)
  simp only [errors, List.mem_append] at h
  rcases h with (((h | h) | h) | h) | h
  · exact other (kind_of_mem_commandNameErrors h) (by decide)
  · exact other (kind_of_mem_classNameErrors h) (by decide)
  · exact other (kind_of_mem_fieldNameErrors h) (by decide)
  · exact other (kind_of_mem_shortErrors h) (by decide)
  · exact other (kind_of_mem_layOut h) (by decide)

/-- **Repetitions are reported once each.** Every name that at least two fields of a command have
is reported once, and every name that at least two commands of a schema have, without surrounding
blanks and if it is not blank. The reports are in the order of the second occurrences, and say which
name it is. Those of commands come after all errors in the commands, and whether a command has
errors of its own makes no difference to them. They are found wherever all commands can be
documented. -/
theorem repetitions_reported_once (v : Variant) (position : Int) (s : Schema) :
    (∃ reported, RepeatedOnce (fun f : Field => some f.name) v.fields reported ∧
      (v.errors position).filter (·.kind = .duplicateField) =
        reported.map (.duplicateField (v.label position)) ∧
      List.Forall₂ (fun name e => e.PointsTo (v.label position) name) reported
        ((v.errors position).filter (·.kind = .duplicateField))) ∧
    ∃ reported,
      RepeatedOnce (fun v : Variant => (v.name.map Text.trim).filter (· ≠ "")) s.commands
        reported ∧
      (∀ errors, s.check = .ok errors ↔ s.Documentable ∧
        errors = (s.commands.mapIdx fun i v => v.errors i).flatten ++
          reported.map .duplicateCommandName) ∧
      (∀ v ∈ s.commands, ∀ position, ∀ e ∈ v.errors position,
        e.kind ≠ .duplicateCommandName) ∧
      ∀ name, (SchemaError.duplicateCommandName name).kind = .duplicateCommandName ∧
        (SchemaError.duplicateCommandName name).command? = some name ∧
        Text.Quotes (SchemaError.duplicateCommandName name).message name := by
  refine ⟨⟨_, repeatedOnce_filterMap v.fields, ?_⟩,
    ⟨_, repeatedOnce_filterMap s.commands, ?_,
      fun v _ position e => Variant.kind_ne_duplicateCommandName,
      fun name => ⟨rfl, rfl, SchemaError.quotes_command rfl⟩⟩⟩
  · have reports := v.filter_duplicateField_errors position
    rw [← List.filterMap_eq_map' (f := fun f : Field => f.name)] at reports
    refine ⟨reports, ?_⟩
    rw [reports, List.forall₂_map_right_iff, List.forall₂_same]
    intro name _
    exact SchemaError.pointsTo_iff.mpr ⟨rfl, rfl⟩
  · simp only [← Variant.properName?_eq]
    intro errors
    exact Schema.check_eq_ok_iff

/-- **A repeated name that is not reported.** Two commands have one name, but the search for errors
ends before it comes to this. -/
theorem repetition_unreported :
    2 ≤ [halvedCommand, stopCommand, stopCommand].countP
        (fun v => (v.name.map Text.trim).filter (· ≠ "") = some "stop") ∧
      ∀ errors, Schema.check ⟨[halvedCommand, stopCommand, stopCommand]⟩ ≠ .ok errors := by
  have raised : Schema.check ⟨[halvedCommand, stopCommand, stopCommand]⟩ =
      .error ⟨0xD800, 0, 1⟩ := by decide +kernel
  refine ⟨by decide +kernel, ?_⟩
  rw [raised]
  exact nofun

end CommandCompiler
