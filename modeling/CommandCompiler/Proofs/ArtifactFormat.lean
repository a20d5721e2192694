import CommandCompiler.Proofs.ArtifactText
import CommandCompiler.Proofs.JsonGrammar
import Mathlib.Data.List.Forall2
/-!
# CommandCompiler.Proofs.ArtifactFormat

**Which texts are artifacts, and of what.** The format is stated for documents as
they are written, with all fields of an object in them:

* `Json.member?` : the last field of a name;
* `Artifact.HasItems`, `HasTextOr` : lists and texts that may be left out;
* `Artifact.IsParameter`, `IsSignature`, `Describes` : what a parameter, a
  signature and an artifact must have. Nothing is said of any further field.

The decoder sees documents in which one field of each name is left, and these are
the last ones (`Json.field?_settled`). Then there is one lemma for each part of the
decoder (`required_settled_iff` and so on), and one for each level of the document
(`parameter_settled_iff`, `signature_settled_iff`, `signatures_settled_iff`).
Texts and objects are iterated over like lists, but their elements are texts, and
no text is a parameter or a signature (`mapM_elements_iff`).
-/

namespace CommandCompiler

/-! ## Except -/

theorem bind_eq_ok_iff {ε α β : Type} {r : Except ε α} {f : α → Except ε β} {b : β} :
    r >>= f = .ok b ↔ ∃ a, r = .ok a ∧ f a = .ok b := by
  cases r with
  | error e => exact ⟨nofun, nofun⟩
  | ok a =>
      constructor
      · intro h
        exact ⟨a, rfl, h⟩
      · rintro ⟨_, ⟨⟩, h⟩
        exact h

/-- Items are decoded one by one, and all of them must be. -/
theorem mapM_eq_ok_iff {ε α β : Type} {f : α → Except ε β} {as : List α} {bs : List β} :
    as.mapM f = .ok bs ↔ List.Forall₂ (fun a b => f a = .ok b) as bs := by
  induction as generalizing bs with
  | nil =>
      rw [List.mapM_nil, List.forall₂_nil_left_iff]
      exact ⟨fun h => (Except.ok.inj h).symm, fun h => congrArg Except.ok h.symm⟩
  | cons a as ih =>
      rw [List.mapM_cons, bind_eq_ok_iff, List.forall₂_cons_left_iff]
      constructor
      · rintro ⟨b, hb, h⟩
        obtain ⟨bs, hbs, h⟩ := bind_eq_ok_iff.mp h
        exact ⟨b, bs, hb, ih.mp hbs, (Except.ok.inj h).symm⟩
      · rintro ⟨b, bs, hb, hbs, rfl⟩
        exact ⟨b, hb, bind_eq_ok_iff.mpr ⟨bs, ih.mpr hbs, rfl⟩⟩

/-! ## Documents as they are written -/

namespace Json

/-- The last field of a name in an object. -/
def member? : Json → String → Option Json
  | obj fields, name => fields.reverse.lookup name
  | _, _ => none

theorem settledItems_eq_map (vs : List Json) : settledItems vs = vs.map settled := by
  induction vs with
  | nil => rfl
  | cons v vs ih => rw [settledItems, ih, List.map_cons]

theorem settledFields_eq_map (fs : List (String × Json)) :
    settledFields fs = fs.map fun f => (f.1, f.2.settled) := by
  induction fs with
  | nil => rfl
  | cons f fs ih => rw [settledFields, ih, List.map_cons]

theorem settled_obj (fs : List (String × Json)) :
    (obj fs).settled = .obj (keyedBy (·.1) (settledFields fs)) := by
  simp only [settled, ofFields, putField_eq_putBy]
  rfl

theorem lookup_settled (fs : List (String × Json)) (name : String) :
    (fs.map fun f => (f.1, f.2.settled)).lookup name = (fs.lookup name).map settled := by
  induction fs with
  | nil => rfl
  | cons f fs ih =>
      rw [List.map_cons, lookup_cons_eq, lookup_cons_eq, ih]
      split <;> rfl

/-- One field of each name is left, and it is the last one. -/
theorem field?_settled (v : Json) (name : String) :
    v.settled.field? name = (v.member? name).map settled := by
  cases v with
  | obj fs =>
      rw [settled_obj, field?, lookup_keyedBy, settledFields_eq_map, ← List.map_reverse,
        lookup_settled, member?]
  | _ => rfl

theorem settled_eq_str_iff {v : Json} {s : String} : v.settled = .str s ↔ v = .str s := by
  cases v <;> simp [settled, ofFields]

theorem settled_eq_null_iff {v : Json} : v.settled = .null ↔ v = .null := by
  cases v <;> simp [settled, ofFields]

theorem text_toValue_eq_pass_iff {v : Json} {s : String} :
    v.toValue.text = .pass s ↔ v = .str s := by
  cases v <;> simp [toValue, Value.text, Checked.issue]

theorem textOrNull_toValue_eq_pass_iff {v : Json} {s : Option String} :
    v.toValue.textOrNull = .pass s ↔ v = .null ∧ s = none ∨ ∃ t, v = .str t ∧ s = some t := by
  cases v <;> simp [toValue, Value.textOrNull, Value.text, Checked.issue, Checked.map, eq_comm]

end Json

/-! ## The format -/

namespace Artifact

/-- A member that is a list: an array, or nothing, an empty text or an empty object for an empty
list. -/
inductive HasItems (v : Json) (key : String) : List Json → Prop
  | absent (h : v.member? key = none) : HasItems v key []
  | emptyText (h : v.member? key = some (.str "")) : HasItems v key []
  | emptyObject (h : v.member? key = some (.obj [])) : HasItems v key []
  | array {items : List Json} (h : v.member? key = some (.arr items)) : HasItems v key items

/-- A member that is a text, or nothing for an empty text. -/
def HasTextOr (v : Json) (key s : String) : Prop :=
  v.member? key = some (.str s) ∨ v.member? key = none ∧ s = ""

/-- A member that is a text, or nothing or null for none. -/
def HasTextOrNull (v : Json) (key : String) (s : Option String) : Prop :=
  (∃ t, v.member? key = some (.str t) ∧ s = some t) ∨
    (v.member? key = none ∨ v.member? key = some .null) ∧ s = none

/-- What an object must have to be a parameter. -/
structure IsParameter (v : Json) (p : Parameter) : Prop where
  name : v.member? "name" = some (.str p.name)
  role : v.member? "role" = some (.str p.role.tag)
  shape : v.member? "shape" = some (.str p.shape.tag)
  usage : HasTextOr v "usage" p.usage
  short : HasTextOrNull v "short" p.short

/-- What an object must have to be a signature. -/
structure IsSignature (v : Json) (s : Signature) : Prop where
  name : v.member? "name" = some (.str s.name)
  usage : HasTextOr v "usage" s.usage
  params : ∃ items, HasItems v "params" items ∧ List.Forall₂ IsParameter items s.params

/-- What a document must have to be the artifact of signatures. -/
structure Describes (v : Json) (sigs : List Signature) : Prop where
  version : v.member? "v" = some (.str "1")
  signatures : ∃ items, HasItems v "signatures" items ∧ List.Forall₂ IsSignature items sigs

/-! ## Members -/

section Members

variable {v : Json} {key : String}

theorem required_eq_ok_iff {w : Json} : required v key = .ok w ↔ v.field? key = some w := by
  cases v with
  | obj fields =>
      rw [required, Json.field?]
      cases fields.lookup key <;> simp
  | _ => simp [required, Json.field?]

theorem required_settled_iff {w : Json} :
    required v.settled key = .ok w ↔ ∃ x, v.member? key = some x ∧ x.settled = w := by
  rw [required_eq_ok_iff, Json.field?_settled, Option.map_eq_some_iff]

theorem member?_of_required {s : String} (h : required v.settled key = .ok (.str s)) :
    v.member? key = some (.str s) := by
  obtain ⟨x, hx, hs⟩ := required_settled_iff.mp h
  rw [hx, Json.settled_eq_str_iff.mp hs]

theorem textOr_settled_iff {s : String} :
    textOr v.settled key "" = .pass s ↔ HasTextOr v key s := by
  rw [textOr, Json.field?_settled, HasTextOr]
  cases v.member? key with
  | none => simp [eq_comm]
  | some x => simp [Json.text_toValue_eq_pass_iff, Json.settled_eq_str_iff]

theorem word_eq_ok_iff {α : Type} {ofTag? : String → Option α} {invalid : Value → ArtifactError}
    {w : Json} {a : α} :
    word ofTag? invalid w = .ok a ↔ ∃ s, w = .str s ∧ ofTag? s = some a := by
  cases w with
  | str s =>
      rw [word]
      cases h : ofTag? s <;> simp [h]
  | _ => simp [word]

theorem checked_eq_ok_iff {α : Type} {ofSignature : Bool} {c : Checked α} {a : α} :
    checked ofSignature c = .ok a ↔ c = .pass a := by
  cases c <;> simp [checked]

theorem hasItems_iff {items : List Json} :
    HasItems v key items ↔
      v.member? key = some (.arr items) ∨
        (v.member? key = none ∨ v.member? key = some (.str "") ∨
          v.member? key = some (.obj [])) ∧ items = [] := by
  constructor
  · intro h
    cases h with
    | absent h => exact .inr ⟨.inl h, rfl⟩
    | emptyText h => exact .inr ⟨.inr (.inl h), rfl⟩
    | emptyObject h => exact .inr ⟨.inr (.inr h), rfl⟩
    | array h => exact .inl h
  · rintro (h | ⟨h | h | h, rfl⟩)
    · exact .array h
    · exact .absent h
    · exact .emptyText h
    · exact .emptyObject h

/-- All that a member can be iterated over as: the items of an array, texts which are none if the
member is absent or empty, or nothing at all. -/
theorem elements_settled_cases (v : Json) (key : String) :
    (∃ vs, v.member? key = some (.arr vs) ∧
      elements v.settled key = .ok (vs.map Json.settled)) ∨
    (∃ ts : List String, elements v.settled key = .ok (ts.map .str) ∧
      ∀ items, HasItems v key items ↔ ts = [] ∧ items = []) ∨
    ∃ e, elements v.settled key = .error e ∧ ∀ items, ¬ HasItems v key items := by
  rw [elements, Json.field?_settled]
  simp only [hasItems_iff]
  cases v.member? key with
  | none => exact .inr (.inl ⟨[], rfl, by simp⟩)
  | some x =>
      cases x with
      | str s =>
          have each : (s.toList.map fun c => Json.str (String.singleton c)) =
              (s.toList.map String.singleton).map .str := by simp
          exact .inr (.inl ⟨s.toList.map String.singleton, congrArg Except.ok each, by simp⟩)
      | arr vs => exact .inl ⟨vs, rfl, congrArg Except.ok (Json.settledItems_eq_map vs)⟩
      | obj fs =>
          rw [Option.map_some, Json.settled_obj]
          refine .inr (.inl ⟨(keyedBy (·.1) (Json.settledFields fs)).map (·.1), by simp, ?_⟩)
          simp [keyedBy_eq_nil_iff, Json.settledFields_eq_map]
      | null | bool | int | float => exact .inr (.inr ⟨_, rfl, by simp⟩)

/-- A list is decoded item by item. The elements of a text, or of an object, are texts: if no text
can be decoded, there must not be any elements. -/
theorem mapM_elements_iff {α : Type} {f : Json → Except ArtifactError α} {R : Json → α → Prop}
    (reads : ∀ v a, f v.settled = .ok a ↔ R v a) (texts : ∀ s a, f (.str s) ≠ .ok a)
    {as : List α} :
    (elements v.settled key >>= fun es => es.mapM f) = .ok as ↔
      ∃ items, HasItems v key items ∧ List.Forall₂ R items as := by
  simp only [bind_eq_ok_iff, mapM_eq_ok_iff]
  obtain ⟨vs, hm, hes⟩ | ⟨ts, hes, none⟩ | ⟨e, hes, none⟩ := elements_settled_cases v key
  · have only {items : List Json} : HasItems v key items ↔ items = vs := by
      simp [hasItems_iff, hm, eq_comm]
    simp [hes, only, List.forall₂_map_left_iff, reads]
  · simp only [hes, none, Except.ok.injEq, exists_eq_left', List.forall₂_map_left_iff]
    cases ts <;> simp [texts, List.forall₂_cons_left_iff]
  · simp [hes, none]

end Members

/-! ## Parameters, signatures and documents -/

theorem short_settled_iff {v : Json} {short : Option String} :
    (match v.settled.field? "short" with
      | some w => w.toValue.textOrNull.within (.key "short")
      | none => .pass none) = Checked.pass short ↔ HasTextOrNull v "short" short := by
  rw [Json.field?_settled, HasTextOrNull]
  cases v.member? "short" with
  | none => simp [eq_comm]
  | some x =>
      simp [Json.textOrNull_toValue_eq_pass_iff, Json.settled_eq_null_iff,
        Json.settled_eq_str_iff, or_comm]

theorem finishParameter_settled_iff {v name : Json} {role : ParamRole} {shape : Shape}
    {p : Parameter} :
    finishParameter v.settled name role shape = .ok p ↔
      name = .str p.name ∧ role = p.role ∧ shape = p.shape ∧ HasTextOr v "usage" p.usage ∧
        HasTextOrNull v "short" p.short := by
  rw [finishParameter, checked_eq_ok_iff]
  simp only [Checked.seq_eq, Checked.seq_eq_pass, Checked.map_eq, Checked.map_eq_pass,
    Checked.within_eq_pass, textOr_settled_iff, Json.text_toValue_eq_pass_iff]
  constructor
  · rintro ⟨_, short, ⟨_, usage, ⟨name, rfl, rfl⟩, hu, rfl⟩, hs, rfl⟩
    exact ⟨rfl, rfl, rfl, hu, short_settled_iff.mp hs⟩
  · rintro ⟨rfl, rfl, rfl, hu, hs⟩
    exact ⟨_, _, ⟨_, _, ⟨_, rfl, rfl⟩, hu, rfl⟩, short_settled_iff.mpr hs, rfl⟩

theorem finishSignature_settled_iff {v name : Json} {params : List Parameter} {s : Signature} :
    finishSignature v.settled name params = .ok s ↔
      name = .str s.name ∧ params = s.params ∧ HasTextOr v "usage" s.usage := by
  rw [finishSignature, checked_eq_ok_iff]
  simp only [Checked.seq_eq, Checked.seq_eq_pass, Checked.map_eq, Checked.map_eq_pass,
    Checked.within_eq_pass, textOr_settled_iff, Json.text_toValue_eq_pass_iff]
  constructor
  · rintro ⟨_, usage, ⟨name, rfl, rfl⟩, hu, rfl⟩
    exact ⟨rfl, rfl, hu⟩
  · rintro ⟨rfl, rfl, hu⟩
    exact ⟨_, _, ⟨_, rfl, rfl⟩, hu, rfl⟩

/-- A member that must be there is a word if the last field of its name is. -/
theorem word_required_settled_iff {α : Type} {ofTag? : String → Option α}
    {invalid : Value → ArtifactError} {tag : α → String}
    (named : ∀ {s a}, ofTag? s = some a ↔ tag a = s) {v : Json} {key : String} {a : α} :
    (required v.settled key >>= word ofTag? invalid) = .ok a ↔
      v.member? key = some (.str (tag a)) := by
  simp only [bind_eq_ok_iff, required_settled_iff, word_eq_ok_iff, named]
  constructor
  · rintro ⟨_, ⟨x, hx, rfl⟩, _, hs, rfl⟩
    rw [Json.settled_eq_str_iff.mp hs] at hx
    exact hx
  · intro h
    exact ⟨_, ⟨_, h, rfl⟩, _, rfl, rfl⟩

theorem parameter_settled_iff (v : Json) (p : Parameter) :
    parameter v.settled = .ok p ↔ IsParameter v p := by
  have role {r : ParamRole} :
      (required v.settled "role" >>= word ParamRole.ofTag? .invalidRole) = .ok r ↔
        v.member? "role" = some (.str r.tag) :=
    word_required_settled_iff (Text.find?_word_eq_some_iff ParamRole.ofTag?_tag)
  have shape {s : Shape} :
      (required v.settled "shape" >>= word Shape.ofTag? .invalidShape) = .ok s ↔
        v.member? "shape" = some (.str s.tag) :=
    word_required_settled_iff (Text.find?_word_eq_some_iff Shape.ofTag?_tag)
  simp only [parameter, bind_eq_ok_iff]
  constructor
  · rintro ⟨name, hname, x, hx, r, hr, y, hy, t, ht, finish⟩
    obtain ⟨rfl, rfl, rfl, usage, short⟩ := finishParameter_settled_iff.mp finish
    exact ⟨member?_of_required hname, role.mp (bind_eq_ok_iff.mpr ⟨x, hx, hr⟩),
      shape.mp (bind_eq_ok_iff.mpr ⟨y, hy, ht⟩), usage, short⟩
  · rintro ⟨name, hrole, hshape, usage, short⟩
    obtain ⟨x, hx, hr⟩ := bind_eq_ok_iff.mp (role.mpr hrole)
    obtain ⟨y, hy, ht⟩ := bind_eq_ok_iff.mp (shape.mpr hshape)
    exact ⟨_, required_settled_iff.mpr ⟨_, name, rfl⟩, x, hx, _, hr, y, hy, _, ht,
      finishParameter_settled_iff.mpr ⟨rfl, rfl, rfl, usage, short⟩⟩

theorem parameter_str (s : String) (p : Parameter) : parameter (.str s) ≠ .ok p := nofun

theorem signature_settled_iff (v : Json) (s : Signature) :
    signature v.settled = .ok s ↔ IsSignature v s := by
  have params {ps : List Parameter} :
      (elements v.settled "params" >>= fun es => es.mapM parameter) = .ok ps ↔
        ∃ items, HasItems v "params" items ∧ List.Forall₂ IsParameter items ps :=
    mapM_elements_iff parameter_settled_iff parameter_str
  simp only [signature, bind_eq_ok_iff]
  constructor
  · rintro ⟨name, hname, es, hes, ps, hps, finish⟩
    obtain ⟨rfl, rfl, usage⟩ := finishSignature_settled_iff.mp finish
    exact ⟨member?_of_required hname, usage, params.mp (bind_eq_ok_iff.mpr ⟨es, hes, hps⟩)⟩
  · rintro ⟨name, usage, hparams⟩
    obtain ⟨es, hes, hps⟩ := bind_eq_ok_iff.mp (params.mpr hparams)
    exact ⟨_, required_settled_iff.mpr ⟨_, name, rfl⟩, es, hes, _, hps,
      finishSignature_settled_iff.mpr ⟨rfl, rfl, usage⟩⟩

theorem signature_str (t : String) (s : Signature) : signature (.str t) ≠ .ok s := nofun

/-- The document says that it has the version of the format if its last field for this does. -/
theorem isVersion_getD_settled_iff {found : Option Json} :
    isVersion ((found.map Json.settled).getD .null) = true ↔ found = some (.str "1") := by
  cases found with
  | none => simp [isVersion]
  | some v => cases v <;> simp [isVersion, Json.settled, Json.ofFields, version]

theorem signatures_settled_iff (v : Json) (sigs : List Signature) :
    Artifact.signatures v.settled = .ok sigs ↔ Describes v sigs := by
  have items : (elements v.settled "signatures" >>= fun es => es.mapM signature) = .ok sigs ↔
      ∃ items, HasItems v "signatures" items ∧ List.Forall₂ IsSignature items sigs :=
    mapM_elements_iff signature_settled_iff signature_str
  have described : Describes v sigs ↔ v.member? "v" = some (.str "1") ∧
      (elements v.settled "signatures" >>= fun es => es.mapM signature) = .ok sigs := by
    rw [items]
    exact ⟨fun h => ⟨h.version, h.signatures⟩, fun h => ⟨h.1, h.2⟩⟩
  rw [described, ← isVersion_getD_settled_iff, ← Json.field?_settled]
  cases v with
  | obj fs =>
      rw [Json.settled_obj, Artifact.signatures, Json.field?]
      split
      · rename_i current
        simp [current]
      · rename_i other
        simp [other]
  | _ => exact iff_of_false nofun (by rintro ⟨⟨⟩, -⟩)

/-- **Just the artifact format is accepted.** A text in which a document is written is deserialized
if and only if the document describes signatures, and then to these signatures, in their order.
Every other text is refused: one whose document describes nothing, and one in which no document is
written, or one that is nested too deep or has too long an integer in it. -/
theorem deserialize_iff_describes (text : String) :
    (∀ doc, Json.Spells text doc → ∀ sigs, deserialize text = .ok sigs ↔ Describes doc sigs) ∧
      ((∀ doc sigs, Json.Spells text doc → ¬ Describes doc sigs) →
        ∃ e, deserialize text = .error e) := by
  have described {doc : Json} (spells : Json.Spells text doc) (sigs : List Signature) :
      deserialize text = .ok sigs ↔ Describes doc sigs := by
    have parsed : Json.parse text = .ok doc.settled :=
      Json.parse_eq_ok_iff.mpr ⟨doc, spells, rfl⟩
    rw [deserialize, parsed]
    exact signatures_settled_iff doc sigs
  refine ⟨fun doc spells => described spells, fun none => ?_⟩
  cases read : deserialize text with
  | error e => exact ⟨e, rfl⟩
  | ok sigs =>
      cases parsed : Json.parse text with
      | error fault =>
          rw [deserialize, parsed] at read
          cases read
      | ok v =>
          obtain ⟨doc, spells, -⟩ := Json.parse_eq_ok_iff.mp parsed
          exact absurd ((described spells sigs).mp read) (none doc sigs spells)

/-- An artifact with two versions, of which the last one counts, and with a signature of which all
is left out that may be. -/
def twoVersions : Json :=
  .obj [("v", .str "0"), ("signatures", .arr [.obj [("name", .str "play")]]), ("v", .str "1")]

/-- How it is written. -/
def twoVersionsText : String :=
  "\x7b\"v\":\"0\",\"signatures\":[\x7b\"name\":\"play\"\x7d],\"v\":\"1\"\x7d"

theorem spells_twoVersions : Json.Spells twoVersionsText twoVersions := by
  have blank : Json.IsBlank [] := nofun
  have quotes (s : String) (h : s.toList.all Json.isPlain) : Json.Quotes s.toList s.toList :=
    Json.quotes_of_isPlain h
  have text {room : Nat} (s : String) (h : s.toList.all Json.isPlain) :
      Json.Writes room _ (.str (.ofList s.toList)) := .str (quotes s h)
  have field {room : Nat} {cs : List Char} {v : Json} (s : String) (h : s.toList.all Json.isPlain)
      (hv : Json.Writes room cs v) : Json.WritesField room _ (.ofList s.toList, v) :=
    .mk (quotes s h) blank blank hv
  have signature : Json.Writes 989 _ _ :=
    .obj blank (.last (field "name" (by decide) (text "play" (by decide))) blank)
  have document : Json.Writes Json.deepest _ _ :=
    .obj blank (.more (field "v" (by decide) (text "0" (by decide))) blank blank
      (.more (field "signatures" (by decide) (.arr blank (.last signature blank))) blank blank
        (.last (field "v" (by decide) (text "1" (by decide))) blank)))
  exact ⟨[], _, [], rfl, blank, blank, document⟩

theorem describes_twoVersions : Describes twoVersions [{ name := "play" }] where
  version := rfl
  signatures := by
    have play : IsSignature (.obj [("name", .str "play")]) { name := "play" } :=
      ⟨rfl, .inr ⟨rfl, rfl⟩, [], .absent rfl, .nil⟩
    exact ⟨_, .array rfl, .cons play .nil⟩

theorem deserialize_twoVersions :
    Json.Spells twoVersionsText twoVersions ∧ Describes twoVersions [{ name := "play" }] ∧
      deserialize twoVersionsText = .ok [{ name := "play" }] :=
  ⟨spells_twoVersions, describes_twoVersions,
    ((deserialize_iff_describes twoVersionsText).1 twoVersions spells_twoVersions _).mpr
      describes_twoVersions⟩

end Artifact

end CommandCompiler
