import CommandCompiler.Proofs.TypeObject
import Mathlib.Logic.Relator
/-!
# CommandCompiler.Proofs.TwoDecodings

**Two documents that are decoded side by side.** Two decoders are alike when both
give something, in the relation that is asked for, or both fail, and are as deep
and in the same values afterwards if they were before (`Decoder.Alike`). There is
one lemma for each way of putting decoders together.

What values are numbered with makes no difference, as long as those with different
numbers still have different ones: `Value.renumber` gives the mappings in a value
other numbers, and a type object is decoded to the same type afterwards
(`TypeRef.objectDecoder_alike`).
-/

namespace CommandCompiler

variable {ρ : Nat → Nat}

/-! ## Values with other numbers -/

namespace Value

mutual

/-- A value whose mappings have other numbers. -/
def renumber (ρ : Nat → Nat) : Value → Value
  | list vs => list (renumberItems ρ vs)
  | set vs => set (renumberItems ρ vs)
  | mapping entries number => mapping (renumberEntries ρ entries) (number.map ρ)
  | v => v

/-- Values whose mappings have other numbers. -/
def renumberItems (ρ : Nat → Nat) : List Value → List Value
  | [] => []
  | v :: vs => renumber ρ v :: renumberItems ρ vs

/-- Entries of a mapping with other numbers in their values. -/
def renumberEntries (ρ : Nat → Nat) : List (Value × Value) → List (Value × Value)
  | [] => []
  | (k, v) :: entries => (k, renumber ρ v) :: renumberEntries ρ entries

end

theorem renumberItems_eq_map (vs : List Value) : renumberItems ρ vs = vs.map (renumber ρ) := by
  induction vs with
  | nil => rfl
  | cons v vs ih => rw [renumberItems, ih, List.map_cons]

theorem renumberEntries_eq_map (entries : List (Value × Value)) :
    renumberEntries ρ entries = entries.map fun e => (e.1, renumber ρ e.2) := by
  induction entries with
  | nil => rfl
  | cons e entries ih => rw [renumberEntries, ih, List.map_cons]

@[simp] theorem text_renumber (v : Value) : (renumber ρ v).text = v.text := by
  cases v <;> rfl

@[simp] theorem textOrNull_renumber (v : Value) : (renumber ρ v).textOrNull = v.textOrNull := by
  cases v <;> rfl

@[simp] theorem wordOf_renumber {α : Type} (ofWord? : String → Option α) (v : Value) :
    (renumber ρ v).wordOf ofWord? = v.wordOf ofWord? := by
  cases v <;> rfl

@[simp] theorem kindOfValue?_renumber (v : Value) :
    TypeRef.kindOfValue? (renumber ρ v) = TypeRef.kindOfValue? v := by
  cases v <;> rfl

end Value

theorem valueAt?_renumberEntries (key : String) (entries : List (Value × Value)) :
    valueAt? key (Value.renumberEntries ρ entries) =
      (valueAt? key entries).map (Value.renumber ρ) := by
  fun_induction valueAt? key entries with
  | case1 => rfl
  | case2 rest v => simp [Value.renumberEntries, valueAt?]
  | case3 s v rest other ih => simp [Value.renumberEntries, valueAt?, other, ih]
  | case4 e rest other ih =>
      obtain ⟨k, v⟩ := e
      rw [Value.renumberEntries, ← ih, valueAt?]
      intro s w heq
      exact other s v (by rw [(Prod.mk.inj heq).1])

/-! ## Nesting with other numbers -/

namespace Nesting

/-- The same depth in values with other numbers. -/
def renumber (ρ : Nat → Nat) (n : Nesting) : Nesting :=
  ⟨n.depth, n.inside.map fun q => (ρ q.1, q.2)⟩

variable (inj : Function.Injective ρ) (n : Nesting) (p : Place) (number : Option Nat)

include inj

theorem renumberKey_injective : Function.Injective fun q : Nat × Place => (ρ q.1, q.2) := by
  intro q q' h
  obtain ⟨number, place⟩ := Prod.mk.inj h
  exact Prod.ext (inj number) place

/-- A value is entered at a place just if it is with its other number. -/
theorem enter_renumber :
    (n.renumber ρ).enter p (number.map ρ) =
      ((n.enter p number).1, (n.enter p number).2.renumber ρ) := by
  have mem (q : Nat × Place) :
      (ρ q.1, q.2) ∈ n.inside.map (fun q => (ρ q.1, q.2)) ↔ q ∈ n.inside :=
    List.mem_map_of_injective (renumberKey_injective inj)
  cases number with
  | none =>
      by_cases room : n.depth < limit <;> simp [enter, renumber, room]
  | some i =>
      by_cases loop : (i, p) ∈ n.inside
      · simp [enter, renumber, loop, mem (i, p)]
      · by_cases room : n.depth < limit <;> simp [enter, renumber, loop, mem (i, p), room]

theorem leave_renumber :
    (n.renumber ρ).leave p (number.map ρ) = (n.leave p number).renumber ρ := by
  cases number with
  | none => rfl
  | some i => simp [leave, renumber, List.map_erase (renumberKey_injective inj)]

end Nesting

/-! ## Two checked values -/

section Checked

variable {α β γ δ : Type} {R : α → β → Prop} {S : γ → δ → Prop}

/-- Two checked values that have both been decoded, to what is in a relation, or both not. -/
inductive Checked.Alike (R : α → β → Prop) : Checked α → Checked β → Prop
  | pass {a : α} {b : β} (h : R a b) : Alike R (.pass a) (.pass b)
  | fail {is js : List Issue} : Alike R (.fail is) (.fail js)

namespace Checked.Alike

theorem refl {R : α → α → Prop} (h : ∀ a, R a a) (c : Checked α) : Alike R c c := by
  cases c with
  | pass a => exact .pass (h a)
  | fail is => exact .fail

variable {c : Checked α} {c' : Checked β}

/-- Two checked values are alike if each of them passes whenever the other does. -/
theorem of_pass (forth : ∀ a, c = .pass a → ∃ b, c' = .pass b ∧ R a b)
    (back : ∀ b, c' = .pass b → ∃ a, c = .pass a) : Alike R c c' := by
  cases c with
  | pass a =>
      obtain ⟨b, rfl, h⟩ := forth a rfl
      exact .pass h
  | fail is =>
      cases c' with
      | pass b =>
          obtain ⟨a, ha⟩ := back b rfl
          cases ha
      | fail js => exact .fail

theorem imp {R' : α → β → Prop} (h : ∀ a b, R a b → R' a b) (hc : Alike R c c') :
    Alike R' c c' := by
  cases hc with
  | pass hab => exact .pass (h _ _ hab)
  | fail => exact .fail

theorem map {f : α → γ} {g : β → δ} (h : Alike R c c') (hfg : Relator.LiftFun R S f g) :
    Alike S (c.map f) (c'.map g) := by
  cases h with
  | pass h => exact .pass (hfg h)
  | fail => exact .fail

theorem seq {f : Checked (α → γ)} {g : Checked (β → δ)} (hf : Alike (Relator.LiftFun R S) f g)
    (h : Alike R c c') : Alike S (f.seq c) (g.seq c') := by
  cases hf with
  | pass hf =>
      cases h with
      | pass h => exact .pass (hf h)
      | fail => exact .fail
  | fail => cases h <;> exact .fail

theorem within (h : Alike R c c') (step : PathStep) : Alike R (c.within step) (c'.within step) := by
  cases h with
  | pass h => exact .pass h
  | fail => exact .fail

end Checked.Alike

end Checked

/-! ## Two decoders -/

section Decoder

variable {α β γ δ : Type} {R : α → β → Prop} {S : γ → δ → Prop}

/-- Two decoders that give what is alike, and are equally deep in values with the numbers `ρ` where
they have been. -/
def Decoder.Alike (ρ : Nat → Nat) (R : α → β → Prop) (d : Decoder α) (d' : Decoder β) : Prop :=
  ∀ n, (d n).1.Alike R (d' (n.renumber ρ)).1 ∧ (d' (n.renumber ρ)).2 = (d n).2.renumber ρ

namespace Decoder.Alike

theorem of {c : Checked α} {c' : Checked β} (h : c.Alike R c') : Alike ρ R (.of c) (.of c') :=
  fun _ => ⟨h, rfl⟩

variable {d : Decoder α} {d' : Decoder β}

theorem run (h : Alike ρ R d d') : d.run.Alike R d'.run := (h {}).1

theorem imp {R' : α → β → Prop} (hR : ∀ a b, R a b → R' a b) (h : Alike ρ R d d') :
    Alike ρ R' d d' :=
  fun n => ⟨(h n).1.imp hR, (h n).2⟩

theorem map {f : α → γ} {g : β → δ} (hfg : Relator.LiftFun R S f g) (h : Alike ρ R d d') :
    Alike ρ S (f <$> d) (g <$> d') :=
  fun n => ⟨(h n).1.map hfg, (h n).2⟩

/-- Of two steps the second ones start where the first ones are alike. -/
theorem seq {f : Decoder (α → γ)} {g : Decoder (β → δ)}
    (hf : Alike ρ (Relator.LiftFun R S) f g) (h : Alike ρ R d d') :
    Alike ρ S (f <*> d) (g <*> d') := by
  intro n
  obtain ⟨first, at'⟩ := hf n
  obtain ⟨second, after⟩ := h (f n).2
  rw [← at'] at second after
  exact ⟨first.seq second, after⟩

theorem seqLeft {e e' : Decoder Unit} (h : Alike ρ R d d') (he : Alike ρ Eq e e') :
    Alike ρ R (d <* e) (d' <* e') :=
  (h.map (f := Function.const Unit) (g := Function.const Unit) (S := Relator.LiftFun Eq R)
    fun _ _ hab _ _ _ => hab).seq he

theorem within (h : Alike ρ R d d') (step : PathStep) :
    Alike ρ R (d.within step) (d'.within step) :=
  fun n => ⟨(h n).1.within step, (h n).2⟩

theorem instead (h : Alike ρ R d d') (kind kind' : IssueKind) :
    Alike ρ R (d.instead kind) (d'.instead kind') :=
  fun n => ⟨.fail, (h n).2⟩

/-- Decoders of items are alike if they are for the items at each place. -/
theorem all {decode : γ → Decoder α} {decode' : δ → Decoder β} {cs : List γ} {ds : List δ}
    (h : List.Forall₂ S cs ds) (each : ∀ c d, S c d → Alike ρ R (decode c) (decode' d)) (i : Nat) :
    Alike ρ (List.Forall₂ R) (.all decode i cs) (.all decode' i ds) := by
  induction h generalizing i with
  | nil => exact .of (.pass .nil)
  | cons hcd _ ih =>
      have cons : Relator.LiftFun R (Relator.LiftFun (List.Forall₂ R) (List.Forall₂ R))
          List.cons List.cons := fun _ _ hab _ _ hrest => .cons hab hrest
      exact (((each _ _ hcd).within _).map cons).seq (ih (i + 1))

variable (inj : Function.Injective ρ) (p : Place) (number : Option Nat)

include inj

theorem inside (h : Alike ρ R d d') :
    Alike ρ R (d.inside p number) (d'.inside p (number.map ρ)) := by
  intro n
  unfold Decoder.inside
  rw [Nesting.enter_renumber inj]
  rcases n.enter p number with ⟨entered, m⟩
  cases entered with
  | false => exact ⟨.fail, rfl⟩
  | true =>
      obtain ⟨alike, after⟩ := h m
      exact ⟨alike, by simp only [after, Nesting.leave_renumber inj]⟩

theorem entering (h : Alike ρ R d d') :
    Alike ρ R (d.entering p number) (d'.entering p (number.map ρ)) := by
  unfold Decoder.entering
  split
  · exact (h.inside inj _ _).inside inj _ _
  · exact h.inside inj _ _

end Decoder.Alike

end Decoder

/-! ## Members -/

section Members

variable {α β : Type} {R : α → β → Prop} {V : Value → Value → Prop}
  {entries entries' : List (Value × Value)} {key : String}

theorem Value.of_member (decode : Value → Checked α) (key : String)
    (entries : List (Value × Value)) :
    Decoder.of (member key decode entries) =
      memberDecoder key (fun v => .of (decode v)) entries := by
  unfold member memberDecoder
  cases valueAt? key entries <;> rfl

theorem Value.of_memberOr (decode : Value → Checked α) (key : String) (absent : α)
    (entries : List (Value × Value)) :
    Decoder.of (memberOr key absent decode entries) =
      memberDecoderOr key absent (fun v => .of (decode v)) entries := by
  unfold memberOr memberDecoderOr
  cases valueAt? key entries <;> rfl

namespace Decoder.Alike

open Value

/-- What a value is decoded to by itself does not depend on its numbers. -/
theorem ofRenumber {decode : Value → Checked α} (same : ∀ v, decode (renumber ρ v) = decode v)
    {v v' : Value} (h : v' = renumber ρ v) : Alike ρ Eq (.of (decode v)) (.of (decode v')) := by
  rw [h, same]
  exact .of (.refl (fun _ => rfl) _)

variable {decode : Value → Decoder α} {decode' : Value → Decoder β}

theorem member (found : Option.Rel V (valueAt? key entries) (valueAt? key entries'))
    (h : ∀ v v', V v v' → Alike ρ R (decode v) (decode' v')) :
    Alike ρ R (memberDecoder key decode entries) (memberDecoder key decode' entries') := by
  unfold memberDecoder
  generalize valueAt? key entries = v, valueAt? key entries' = v' at found
  cases found with
  | some hv => exact (h _ _ hv).within _
  | none => exact .of .fail

theorem memberOr {absent : α} {absent' : β}
    (found : Option.Rel V (valueAt? key entries) (valueAt? key entries'))
    (habsent : R absent absent') (h : ∀ v v', V v v' → Alike ρ R (decode v) (decode' v')) :
    Alike ρ R (memberDecoderOr key absent decode entries)
      (memberDecoderOr key absent' decode' entries') := by
  unfold memberDecoderOr
  generalize valueAt? key entries = v, valueAt? key entries' = v' at found
  cases found with
  | some hv => exact (h _ _ hv).within _
  | none => exact .of (.pass habsent)

/-- What mappings may hold is up to their keys. -/
theorem closed {d : Decoder α} {d' : Decoder β} (keys : entries.map (·.1) = entries'.map (·.1))
    (known : List String) (h : Alike ρ R d d') :
    Alike ρ R (closedDecoder known entries d) (closedDecoder known entries' d') := by
  have half (es : List (Value × Value)) : hasHalfKey es =
      (es.map (·.1)).any fun key => hasHalfKey [(key, null)] := by
    rw [hasHalfKey, List.any_map]
    simp only [hasHalfKey, List.any_cons, List.any_nil, Bool.or_false]
    rfl
  have issues (es : List (Value × Value)) : es.filterMap (fun e => keyIssue? known e.1) =
      (es.map (·.1)).filterMap (keyIssue? known) := by
    rw [List.filterMap_map]
    rfl
  have only : onlyKeys known entries = onlyKeys known entries' := by
    rw [onlyKeys, issues, keys, ← issues, onlyKeys]
  unfold closedDecoder
  rw [half, keys, ← half, only]
  split
  · exact h.instead _ _
  · exact h.seqLeft (.of (.refl (fun _ => rfl) _))

end Decoder.Alike

end Members

/-! ## Type objects -/

namespace TypeRef

open Value

variable {entries : List (Value × Value)}

/-- The content of an object is decoded alike if its parts are. -/
theorem contentDecoder_alike {decoder : Option Kind}
    (parts : ∀ key w, valueAt? key entries = some w →
      Decoder.Alike ρ Eq (objectDecoder decoder w) (objectDecoder decoder (w.renumber ρ)))
    (k : Kind) :
    Decoder.Alike ρ Eq (contentDecoder decoder entries k)
      (contentDecoder decoder (renumberEntries ρ entries) k) := by
  have found (key : String) :
      Option.Rel (fun w w' => valueAt? key entries = some w ∧ w' = w.renumber ρ)
        (valueAt? key entries) (valueAt? key (renumberEntries ρ entries)) := by
    rw [valueAt?_renumberEntries]
    cases valueAt? key entries with
    | none => exact .none
    | some w => exact .some ⟨rfl, rfl⟩
  have part (key : String) :
      Decoder.Alike ρ Eq (memberDecoder key (objectDecoder decoder) entries)
        (memberDecoder key (objectDecoder decoder) (renumberEntries ρ entries)) := by
    refine .member (found key) ?_
    rintro w _ ⟨hw, rfl⟩
    exact parts key w hw
  have leaf {α : Type} (key : String) (decode : Value → Checked α)
      (same : ∀ v, decode (v.renumber ρ) = decode v) :
      member key decode (renumberEntries ρ entries) = member key decode entries := by
    unfold member
    rw [valueAt?_renumberEntries]
    cases valueAt? key entries with
    | none => rfl
    | some v => simp only [Option.map_some, same]
  have eq {α β : Type} (f : α → β) : Relator.LiftFun Eq Eq f f := fun _ _ h => congrArg f h
  cases k with
  | primitive =>
      simp only [contentDecoder, leaf _ primitiveOfValue (wordOf_renumber _)]
      exact .of (.refl (fun _ => rfl) _)
  | named =>
      simp only [contentDecoder, leaf _ text text_renumber]
      exact .of (.refl (fun _ => rfl) _)
  | list => exact (part "element_type").map (eq list)
  | optional => exact (part "inner_type").map (eq optional)
  | map =>
      have both : Relator.LiftFun Eq (Relator.LiftFun Eq Eq) map map := by
        rintro _ _ rfl _ _ rfl
        rfl
      exact ((part "key_type").map both).seq (part "value_type")

/-- An object is decoded to the same type if its mappings have other numbers. -/
theorem objectDecoder_alike (inj : Function.Injective ρ) (decoder : Option Kind) (v : Value) :
    Decoder.Alike ρ Eq (objectDecoder decoder v) (objectDecoder decoder (v.renumber ρ)) := by
  -- The parts of an object are smaller than it is.
  induction hsize : sizeOf v using Nat.strongRecOn generalizing v decoder with
  | _ size ih =>
  cases v with
  | mapping entries number =>
      have parts (decoder : Option Kind) (key : String) (w : Value)
          (hw : valueAt? key entries = some w) :
          Decoder.Alike ρ Eq (objectDecoder decoder w) (objectDecoder decoder (w.renumber ρ)) := by
        have inside : sizeOf w < sizeOf entries := sizeOf_valueAt? hw
        have small : sizeOf w < size := by
          simp only [Value.mapping.sizeOf_spec] at hsize
          omega
        exact ih _ small decoder w rfl
      have renumbered := valueAt?_renumberEntries (ρ := ρ) "kind" entries
      rw [Value.renumber]
      cases hword : valueAt? "kind" entries with
      | none =>
          rw [hword] at renumbered
          simp only [objectDecoder, hword, renumbered]
          exact .of .fail
      | some word =>
          rw [hword, Option.map_some] at renumbered
          cases hk : kindOfValue? word with
          | none =>
              simp only [objectDecoder, hword, renumbered, kindOfValue?_renumber, hk]
              exact .of .fail
          | some k =>
              obtain rfl := kindOfValue?_eq_some_iff.mp hk
              rw [objectDecoder_mapping hword, objectDecoder_mapping renumbered]
              exact ((contentDecoder_alike (parts _) k).entering inj _ number).within _
  | _ =>
      simp only [objectDecoder, Value.renumber]
      exact .of .fail

end TypeRef

end CommandCompiler
