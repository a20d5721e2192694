import CommandCompiler.Schema.Document
import Mathlib.Data.List.Forall2
/-!
# CommandCompiler.Proofs.Decoding

**What decoders take.** A decoder of something that may be nested is described by
the results that it can give:

* `Decoder.Gives` : a result that it gives at some depth. What holds of all of
  them is seen part by part, whatever the nesting has become on the way;
* `Decoder.GivesAt` : a result that it gives at one depth, to which it comes back;
* `Decoder.Takes` : it gives just the results of a relation, and each of them from
  the outside.

There is one lemma of each for each way of putting decoders together, and one for
the members and the keys of mappings.
-/

namespace CommandCompiler

/-! ## Checked values -/

section Checked

variable {α β : Type}

/-- Of two parts, both of which must pass, the first one is kept. -/
theorem Checked.seqLeft_eq_pass {c : Checked α} {d : Checked β} {a : α} :
    c <* d = pass a ↔ c = pass a ∧ ∃ b, d = pass b := by
  constructor
  · intro h
    obtain ⟨_, b, hc, hd, rfl⟩ := seq_eq_pass.mp h
    obtain ⟨a, ha, rfl⟩ := map_eq_pass.mp hc
    exact ⟨ha, b, hd⟩
  · rintro ⟨hc, b, hd⟩
    exact seq_eq_pass.mpr ⟨_, b, map_eq_pass.mpr ⟨a, hc, rfl⟩, hd, rfl⟩

theorem Checked.all_eq_pass_iff {decode : β → Checked α} {i : Nat} {bs : List β} {as : List α} :
    all decode i bs = pass as ↔ List.Forall₂ (fun b a => decode b = pass a) bs as := by
  induction bs generalizing i as with
  | nil => simp [all, eq_comm]
  | cons b bs ih =>
      rw [all, seq_eq, seq_eq_pass, List.forall₂_cons_left_iff]
      constructor
      · rintro ⟨_, as, hb, has, rfl⟩
        obtain ⟨a, ha, rfl⟩ := map_eq_pass.mp hb
        exact ⟨a, as, within_eq_pass.mp ha, ih.mp has, rfl⟩
      · rintro ⟨a, as, ha, has, rfl⟩
        exact ⟨_, as, map_eq_pass.mpr ⟨a, within_eq_pass.mpr ha, rfl⟩, ih.mpr has, rfl⟩

theorem Value.wordOf_eq_pass_iff {ofWord? : String → Option α} {v : Value} {a : α} :
    v.wordOf ofWord? = .pass a ↔ ∃ s, v = .str s ∧ ofWord? s = some a := by
  cases v with
  | str s =>
      simp only [wordOf, str.injEq, exists_eq_left']
      cases ofWord? s <;> simp [Checked.issue]
  | _ => simp [wordOf, Checked.issue]

/-- What stands under a key that may be left out: the value there gives something, or there is none
and what is there without one counts. -/
def Value.OrAbsent (absent : α) (R : Value → α → Prop) : Option Value → α → Prop
  | none, a => a = absent
  | some v, a => R v a

theorem Value.member_eq_pass_iff {key : String} {decode : Value → Checked α}
    {entries : List (Value × Value)} {a : α} :
    member key decode entries = .pass a ↔
      ∃ v, valueAt? key entries = some v ∧ decode v = .pass a := by
  unfold member
  cases valueAt? key entries <;> simp [Checked.issue]

theorem Value.memberOr_eq_pass_iff {key : String} {absent : α} {decode : Value → Checked α}
    {entries : List (Value × Value)} {a : α} :
    memberOr key absent decode entries = .pass a ↔
      OrAbsent absent (fun v a => decode v = .pass a) (valueAt? key entries) a := by
  unfold memberOr
  cases valueAt? key entries with
  | none => simp [OrAbsent, eq_comm]
  | some v => exact Checked.within_eq_pass

end Checked

/-! ## Mappings -/

/-- What stands under a key is the value of an entry. -/
theorem exists_mem_of_valueAt? {key : String} {entries : List (Value × Value)} {v : Value}
    (h : valueAt? key entries = some v) : ∃ e ∈ entries, e.2 = v := by
  fun_induction valueAt? key entries with
  | case1 => cases h
  | case2 rest w => exact ⟨_, List.mem_cons_self .., Option.some.inj h⟩
  | case3 s w rest _ ih | case4 e rest _ ih =>
      obtain ⟨e, he, hv⟩ := ih h
      exact ⟨e, List.mem_cons_of_mem _ he, hv⟩

/-- A key under which nothing stands is the key of no entry. -/
theorem valueAt?_eq_none_iff {key : String} {entries : List (Value × Value)} :
    valueAt? key entries = none ↔ ∀ e ∈ entries, e.1 ≠ .str key := by
  fun_induction valueAt? key entries with
  | case1 => simp
  | case2 rest w => simp
  | case3 s w rest hs ih => simp [ih, hs]
  | case4 e rest he ih =>
      have other : e.1 ≠ .str key := by
        intro h
        exact he key e.2 (by rw [← h])
      rw [ih, List.forall_mem_cons, and_iff_right other]

/-- Whether a mapping has no other keys than these. -/
def Value.OnlyKeys (known : List String) (entries : List (Value × Value)) : Prop :=
  ∀ e ∈ entries, ∃ key ∈ known, e.1 = .str key

theorem Value.onlyKeys_eq_pass_iff {known : List String} {entries : List (Value × Value)} :
    onlyKeys known entries = .pass () ↔ OnlyKeys known entries := by
  have each (k : Value) : keyIssue? known k = none ↔ ∃ key ∈ known, k = .str key := by
    cases k <;> simp [keyIssue?]
  have all : onlyKeys known entries = .pass () ↔
      (entries.filterMap fun e => keyIssue? known e.1) = [] := by
    unfold onlyKeys
    cases entries.filterMap fun e => keyIssue? known e.1 <;> simp
  rw [all, List.filterMap_eq_nil_iff]
  simp only [each, OnlyKeys]

/-- Known keys can be looked at. -/
theorem Value.OnlyKeys.hasHalfKey_eq_false {known : List String} {entries : List (Value × Value)}
    (h : OnlyKeys known entries) (plain : ∀ key ∈ known, Text.hasHalf key = false) :
    hasHalfKey entries = false := by
  rw [hasHalfKey, List.any_eq_false]
  intro e he
  obtain ⟨key, hkey, heq⟩ := h e he
  simp [heq, plain key hkey]

/-! ## Decoders at any depth -/

namespace Decoder

variable {α β : Type} {d : Decoder α}

/-- Whether a decoder gives this result at some depth. -/
def Gives (d : Decoder α) (a : α) : Prop := ∃ n, (d n).1 = .pass a

theorem Gives.of {c : Checked α} {a : α} (h : (Decoder.of c).Gives a) : c = .pass a := by
  obtain ⟨_, h⟩ := h
  exact h

theorem Gives.map {f : α → β} {b : β} (h : (f <$> d).Gives b) : ∃ a, d.Gives a ∧ f a = b := by
  obtain ⟨n, h⟩ := h
  obtain ⟨a, ha, rfl⟩ := Checked.map_eq_pass.mp h
  exact ⟨a, ⟨n, ha⟩, rfl⟩

theorem Gives.seq {f : Decoder (α → β)} {b : β} (h : (f <*> d).Gives b) :
    ∃ g a, f.Gives g ∧ d.Gives a ∧ g a = b := by
  obtain ⟨n, h⟩ := h
  obtain ⟨g, a, hg, ha, rfl⟩ := Checked.seq_eq_pass.mp h
  exact ⟨g, a, ⟨_, hg⟩, ⟨_, ha⟩, rfl⟩

theorem Gives.within {step : PathStep} {a : α} (h : (d.within step).Gives a) : d.Gives a := by
  obtain ⟨n, h⟩ := h
  exact ⟨n, Checked.within_eq_pass.mp h⟩

theorem Gives.inside {p : Place} {number : Option Nat} {a : α}
    (h : (d.inside p number).Gives a) : d.Gives a := by
  obtain ⟨n, h⟩ := h
  unfold Decoder.inside at h
  split at h
  · cases h
  · exact ⟨_, h⟩

theorem Gives.entering {p : Place} {number : Option Nat} {a : α}
    (h : (d.entering p number).Gives a) : d.Gives a := by
  unfold Decoder.entering at h
  split at h
  · exact h.inside.inside
  · exact h.inside

/-! ## Decoders at one depth -/

/-- Whether a decoder gives this result where it is, and is there again afterwards. -/
def GivesAt (d : Decoder α) (n : Nesting) (a : α) : Prop := d n = (.pass a, n)

variable {n : Nesting}

theorem GivesAt.map {a : α} (h : d.GivesAt n a) (f : α → β) : (f <$> d).GivesAt n (f a) := by
  show (((d n).1.map f, (d n).2) : Checked β × Nesting) = _
  rw [h]
  rfl

/-- Of two steps the second one starts where the first one did, because that one comes back. -/
theorem GivesAt.seq {f : Decoder (α → β)} {g : α → β} {a : α} (hf : f.GivesAt n g)
    (h : d.GivesAt n a) : (f <*> d).GivesAt n (g a) := by
  show (((f n).1.seq (d (f n).2).1, (d (f n).2).2) : Checked β × Nesting) = _
  rw [hf, h]
  rfl

theorem GivesAt.within {a : α} (h : d.GivesAt n a) (step : PathStep) :
    (d.within step).GivesAt n a := by
  show ((d n).1.within step, (d n).2) = _
  rw [h]
  rfl

/-! ## Decoders from the outside -/

/-- A decoder that takes just these results: it gives no others, and from the outside it gives each
of them and is outside again. -/
structure Takes (d : Decoder α) (R : α → Prop) : Prop where
  sound : ∀ a, d.Gives a → R a
  complete : ∀ a, R a → d.GivesAt {} a

variable {R : α → Prop}

theorem Takes.run_eq_pass_iff (h : d.Takes R) {a : α} : d.run = .pass a ↔ R a := by
  constructor
  · intro ha
    exact h.sound a ⟨_, ha⟩
  · intro ha
    rw [run, h.complete a ha]

theorem Takes.congr {S : α → Prop} (h : d.Takes R) (same : ∀ a, R a ↔ S a) : d.Takes S where
  sound a ha := (same a).mp (h.sound a ha)
  complete a ha := h.complete a ((same a).mpr ha)

theorem Takes.of {c : Checked α} (h : ∀ a, c = .pass a ↔ R a) : (Decoder.of c).Takes R where
  sound a ha := (h a).mp ha.of
  complete a ha := by rw [GivesAt, Decoder.of, (h a).mpr ha]

theorem Takes.never {kind : IssueKind} (h : ∀ a, ¬R a) : (Decoder.of (.issue kind)).Takes R :=
  .of fun a => iff_of_false nofun (h a)

theorem Takes.map (h : d.Takes R) (f : α → β) : (f <$> d).Takes fun b => ∃ a, R a ∧ f a = b where
  sound b hb := by
    obtain ⟨a, ha, rfl⟩ := hb.map
    exact ⟨a, h.sound a ha, rfl⟩
  complete b hb := by
    obtain ⟨a, ha, rfl⟩ := hb
    exact (h.complete a ha).map f

/-- Of two steps, the first may have taken several things already, and the second takes one more. -/
theorem Takes.seq {γ : Type} {f : Decoder (α → β)} {P : γ → Prop} {g : γ → α → β}
    (hf : f.Takes fun h => ∃ c, P c ∧ g c = h) (hd : d.Takes R) :
    (f <*> d).Takes fun b => ∃ x : γ × α, (P x.1 ∧ R x.2) ∧ g x.1 x.2 = b where
  sound b hb := by
    obtain ⟨h, a, hh, ha, rfl⟩ := hb.seq
    obtain ⟨c, hc, rfl⟩ := hf.sound h hh
    exact ⟨(c, a), ⟨hc, hd.sound a ha⟩, rfl⟩
  complete b hb := by
    obtain ⟨⟨c, a⟩, ⟨hc, ha⟩, rfl⟩ := hb
    exact (hf.complete _ ⟨c, hc, rfl⟩).seq (hd.complete a ha)

theorem Takes.seqLeft {e : Decoder Unit} {P : Prop} (hd : d.Takes R) (he : e.Takes fun _ => P) :
    (d <* e).Takes fun a => R a ∧ P := by
  refine ((hd.map (Function.const Unit)).seq he).congr fun a => ?_
  constructor
  · rintro ⟨⟨a, u⟩, taken, rfl⟩
    exact taken
  · intro taken
    exact ⟨(a, ()), taken, rfl⟩

theorem Takes.within (h : d.Takes R) (step : PathStep) : (d.within step).Takes R where
  sound a ha := h.sound a ha.within
  complete a ha := (h.complete a ha).within step

theorem Takes.all {decode : β → Decoder α} {S : β → α → Prop} {bs : List β}
    (h : ∀ b ∈ bs, (decode b).Takes (S b)) (i : Nat) :
    (Decoder.all decode i bs).Takes fun as => List.Forall₂ S bs as := by
  induction bs generalizing i with
  | nil => exact Takes.of fun as => by simp [eq_comm]
  | cons b bs ih =>
      rw [List.forall_mem_cons] at h
      refine (((h.1.within (.index i)).map List.cons).seq (ih h.2 (i + 1))).congr fun as => ?_
      rw [List.forall₂_cons_left_iff]
      constructor
      · rintro ⟨⟨a, as⟩, ⟨ha, has⟩, rfl⟩
        exact ⟨a, as, ha, has, rfl⟩
      · rintro ⟨a, as, ha, has, rfl⟩
        exact ⟨(a, as), ⟨ha, has⟩, rfl⟩

end Decoder

/-! ## Decoders of mappings -/

section Members

open Value

variable {α : Type} {decode : Value → Decoder α} {S : Value → α → Prop}
  {entries : List (Value × Value)} {key : String}

theorem Decoder.Gives.member {a : α} (h : (memberDecoder key decode entries).Gives a) :
    ∃ v, valueAt? key entries = some v ∧ (decode v).Gives a := by
  unfold memberDecoder at h
  split at h
  · rename_i v hv
    exact ⟨v, hv, h.within⟩
  · cases Checked.within_eq_pass.mp h.of

theorem Decoder.GivesAt.member {v : Value} {n : Nesting} {a : α}
    (found : valueAt? key entries = some v) (h : (decode v).GivesAt n a) :
    (memberDecoder key decode entries).GivesAt n a := by
  unfold memberDecoder
  rw [found]
  exact h.within _

theorem Decoder.Takes.member
    (h : ∀ v, valueAt? key entries = some v → (decode v).Takes (S v)) :
    (memberDecoder key decode entries).Takes fun a =>
      ∃ v, valueAt? key entries = some v ∧ S v a where
  sound a ha := by
    obtain ⟨v, hv, ha⟩ := ha.member
    exact ⟨v, hv, (h v hv).sound a ha⟩
  complete a ha := by
    obtain ⟨v, hv, ha⟩ := ha
    exact .member hv ((h v hv).complete a ha)

theorem Decoder.Takes.memberOr {absent : α}
    (h : ∀ v, valueAt? key entries = some v → (decode v).Takes (S v)) :
    (memberDecoderOr key absent decode entries).Takes
      (OrAbsent absent S (valueAt? key entries)) := by
  unfold memberDecoderOr
  cases hv : valueAt? key entries with
  | none => exact Takes.of fun a => by simp [OrAbsent, eq_comm]
  | some v => exact (h v hv).within _

theorem Decoder.Takes.ofMember {decode : Value → Checked α}
    (h : ∀ v, valueAt? key entries = some v → ∀ a, decode v = .pass a ↔ S v a) :
    (Decoder.of (Value.member key decode entries)).Takes fun a =>
      ∃ v, valueAt? key entries = some v ∧ S v a := by
  refine .of fun a => member_eq_pass_iff.trans (exists_congr fun v => ?_)
  exact and_congr_right fun hv => h v hv a

theorem Decoder.Takes.ofMemberOr {decode : Value → Checked α} {absent : α}
    (h : ∀ v, valueAt? key entries = some v → ∀ a, decode v = .pass a ↔ S v a) :
    (Decoder.of (Value.memberOr key absent decode entries)).Takes
      (OrAbsent absent S (valueAt? key entries)) := by
  refine .of fun a => memberOr_eq_pass_iff.trans ?_
  cases hv : valueAt? key entries with
  | none => exact Iff.rfl
  | some v => exact h v hv a

/-- A mapping with other keys than the known ones is not taken, whatever it holds. -/
theorem Decoder.Takes.closed {d : Decoder α} {R : α → Prop} (h : d.Takes R) {known : List String}
    (plain : ∀ key ∈ known, Text.hasHalf key = false) :
    (closedDecoder known entries d).Takes fun a => R a ∧ OnlyKeys known entries := by
  unfold closedDecoder
  split
  · rename_i half
    constructor
    · rintro a ⟨n, ha⟩
      cases ha
    · rintro a ⟨-, keys⟩
      rw [keys.hasHalfKey_eq_false plain] at half
      cases half
  · exact h.seqLeft (Takes.of fun _ => onlyKeys_eq_pass_iff)

end Members

end CommandCompiler
