import CommandCompiler.Proofs.Decoding
import CommandCompiler.Proofs.TypeGrammar
/-!
# CommandCompiler.Proofs.TypeObject

**Which objects stand for types.** `Value.IsTypeObject` says it member by member,
without decoders at work, places and depths:

* `Value.IsPlain` : data that is put together from its parts, so that no mapping
  is inside itself;
* `Value.IsLoopFree` : the same of type objects only, whatever stands under the
  keys that mean nothing;
* `TypeRef.isTypeObject_of_gives` : what a decoder gives, the object stands for;
* `TypeRef.objectDecoder_givesAt` : an object that stands for a type is decoded
  to it if there is room, and the decoder is where it was before.

Room is counted in values that are entered. Every object is entered once or twice
(`Decoder.GivesAt.entering`), and none is met again inside itself.
-/

namespace CommandCompiler

/-! ## Plain data -/

/-- Data that is put together from null, truth values, numbers, texts, lists, and mappings with text
keys. No mapping is inside itself; `above` are the numbers of those around. -/
inductive Value.IsPlain : (above : List Nat) → Value → Prop
  | null {above : List Nat} : IsPlain above null
  | bool {above : List Nat} (b : Bool) : IsPlain above (bool b)
  | int {above : List Nat} (n : Int) : IsPlain above (int n)
  | float {above : List Nat} (x : Float) : IsPlain above (float x)
  | str {above : List Nat} (s : String) : IsPlain above (str s)
  | list {above : List Nat} {items : List Value} (h : ∀ v ∈ items, IsPlain above v) :
      IsPlain above (list items)
  | mapping {above : List Nat} {entries : List (Value × Value)} {number : Option Nat}
      (keys : ∀ e ∈ entries, ∃ key, e.1 = str key) (new : ∀ i ∈ number, i ∉ above)
      (values : ∀ e ∈ entries, IsPlain (number.toList ++ above) e.2) :
      IsPlain above (mapping entries number)

namespace Value.IsPlain

variable {above : List Nat}

theorem of_mem_list {items : List Value} (h : (Value.list items).IsPlain above) :
    ∀ v ∈ items, v.IsPlain above := by
  cases h with
  | list h => exact h

theorem valueAt? {entries : List (Value × Value)} {number : Option Nat}
    (h : (Value.mapping entries number).IsPlain above) {key : String} {v : Value}
    (hv : CommandCompiler.valueAt? key entries = some v) :
    v.IsPlain (number.toList ++ above) := by
  cases h with
  | mapping keys new values =>
      obtain ⟨e, he, rfl⟩ := exists_mem_of_valueAt? hv
      exact values e he

/-- Plain data is text only if it is given as text. -/
theorem text_eq_pass_iff {v : Value} (h : v.IsPlain above) {s : String} :
    v.text = .pass s ↔ v = .str s := by
  cases h <;> simp [text, Checked.issue]

end Value.IsPlain

/-! ## Objects -/

namespace TypeRef

/-- The keys of the members of a type object that are types themselves. -/
def Kind.partKeys : Kind → List String
  | list => ["element_type"]
  | map => ["key_type", "value_type"]
  | optional => ["inner_type"]
  | primitive | named => []

end TypeRef

/-- Whether a value is an object that stands for a type. Further members mean nothing. -/
inductive Value.IsTypeObject : Value → TypeRef → Prop
  | primitive {entries : List (Value × Value)} {number : Option Nat} {p : Primitive}
      (kind : valueAt? "kind" entries = some (str "primitive"))
      (name : valueAt? "primitive" entries = some (str p.name)) :
      IsTypeObject (mapping entries number) (.primitive p)
  | list {entries : List (Value × Value)} {number : Option Nat} {v : Value} {element : TypeRef}
      (kind : valueAt? "kind" entries = some (str "list"))
      (found : valueAt? "element_type" entries = some v) (h : v.IsTypeObject element) :
      IsTypeObject (mapping entries number) (.list element)
  | map {entries : List (Value × Value)} {number : Option Nat} {v w : Value} {key value : TypeRef}
      (kind : valueAt? "kind" entries = some (str "map"))
      (foundKey : valueAt? "key_type" entries = some v) (hk : v.IsTypeObject key)
      (foundValue : valueAt? "value_type" entries = some w) (hv : w.IsTypeObject value) :
      IsTypeObject (mapping entries number) (.map key value)
  | optional {entries : List (Value × Value)} {number : Option Nat} {v : Value} {inner : TypeRef}
      (kind : valueAt? "kind" entries = some (str "optional"))
      (found : valueAt? "inner_type" entries = some v) (h : v.IsTypeObject inner) :
      IsTypeObject (mapping entries number) (.optional inner)
  | named {entries : List (Value × Value)} {number : Option Nat} {name : String}
      (kind : valueAt? "kind" entries = some (str "named"))
      (found : valueAt? "name" entries = some (str name)) :
      IsTypeObject (mapping entries number) (.named name)

/-- The values in a type object that stand for the parts of the type. -/
def Value.typeParts : Value → List Value
  | mapping entries _ =>
    match (valueAt? "kind" entries).bind TypeRef.kindOfValue? with
    | some kind => kind.partKeys.filterMap (valueAt? · entries)
    | none => []
  | _ => []

/-- The number of a mapping that has one. -/
def Value.number? : Value → Option Nat
  | mapping _ number => number
  | _ => none

/-- Whether no type object is a part of itself; `above` are the numbers of those around. What is no
part of a type may be anything. An object that is a part of itself would be one of a type without an
end, so that only numbers which do not tell mappings apart are ruled out. -/
inductive Value.IsLoopFree : (above : List Nat) → Value → Prop
  | intro {above : List Nat} {v : Value} (new : ∀ i ∈ v.number?, i ∉ above)
      (parts : ∀ w ∈ v.typeParts, IsLoopFree (v.number?.toList ++ above) w) : IsLoopFree above v

/-- Whether at most `n` type objects with parts stand inside one another in a value. -/
def Value.NestsTypes : Nat → Value → Prop
  | 0, v => v.typeParts = []
  | n + 1, v => ∀ w ∈ v.typeParts, w.NestsTypes n

section Parts

variable {entries : List (Value × Value)} {number : Option Nat}

theorem Value.mem_typeParts (k : TypeRef.Kind) (kind : valueAt? "kind" entries = some (str k.tag))
    {key : String} (hkey : key ∈ k.partKeys) {v : Value} (found : valueAt? key entries = some v) :
    v ∈ (mapping entries number).typeParts := by
  simp only [typeParts, kind, Option.bind_some, TypeRef.kindOfValue?, TypeRef.Kind.ofTag?_tag]
  exact List.mem_filterMap.mpr ⟨key, hkey, found⟩

theorem Value.IsLoopFree.part {above : List Nat} {v w : Value} (h : v.IsLoopFree above)
    (hw : w ∈ v.typeParts) : w.IsLoopFree (v.number?.toList ++ above) := by
  cases h with
  | intro new parts => exact parts w hw

/-- Plain data has no loops, so type objects in it have none. -/
theorem Value.IsPlain.isLoopFree {above : List Nat} {v : Value} (h : v.IsPlain above) :
    v.IsLoopFree above := by
  induction h with
  | @mapping above entries number keys new values ih =>
      refine .intro new fun w hw => ?_
      simp only [typeParts] at hw
      split at hw
      · obtain ⟨key, -, hw⟩ := List.mem_filterMap.mp hw
        obtain ⟨e, he, rfl⟩ := exists_mem_of_valueAt? hw
        exact ih e he
      · cases hw
  | _ => exact .intro (by simp [number?]) (by simp [typeParts])

/-- Where a type object has a part, it is nested once more than the part. -/
theorem Value.NestsTypes.exists_part {v w : Value} {n : Nat} (h : v.NestsTypes n)
    (hw : w ∈ v.typeParts) : ∃ m, n = m + 1 ∧ w.NestsTypes m := by
  cases n with
  | zero =>
      have none : v.typeParts = [] := h
      simp [none] at hw
  | succ m => exact ⟨m, rfl, h w hw⟩

end Parts

/-- A type is no deeper than the objects that stand for it. -/
theorem Value.IsTypeObject.depth_le {v : Value} {t : TypeRef} (h : v.IsTypeObject t) {n : Nat}
    (nested : v.NestsTypes n) : t.depth ≤ n := by
  induction h generalizing n with
  | primitive kind name | named kind found => exact Nat.zero_le _
  | list kind found h ih =>
      obtain ⟨m, rfl, hm⟩ := nested.exists_part (mem_typeParts .list kind (by decide) found)
      exact Nat.succ_le_succ (ih hm)
  | optional kind found h ih =>
      obtain ⟨m, rfl, hm⟩ := nested.exists_part (mem_typeParts .optional kind (by decide) found)
      exact Nat.succ_le_succ (ih hm)
  | map kind foundKey hk foundValue hv ihk ihv =>
      obtain ⟨m, rfl, hm⟩ := nested.exists_part (mem_typeParts .map kind (by decide) foundKey)
      have hm' := nested _ (mem_typeParts .map kind (by decide) foundValue)
      exact Nat.succ_le_succ (Nat.max_le.mpr ⟨ihk hm, ihv hm'⟩)

/-! ## Entering and leaving -/

section Entering

variable {n : Nesting} {p : Place} {number : Option Nat} {α : Type} {d : Decoder α} {a : α}

/-- Where a decoder is after entering a value. -/
def Nesting.entered (n : Nesting) (p : Place) (number : Option Nat) : Nesting :=
  ⟨n.depth + 1, number.toList.map (·, p) ++ n.inside⟩

theorem Nesting.enter_eq (new : ∀ i ∈ number, (i, p) ∉ n.inside) (room : n.depth < limit) :
    n.enter p number = (true, n.entered p number) := by
  have none : (number.toList.map (·, p)).any n.inside.contains = false := by
    cases number with
    | none => rfl
    | some i => simpa using new i rfl
  simp [enter, none, room, entered]

theorem Nesting.leave_entered : (n.entered p number).leave p number = n := by
  cases number with
  | none => rfl
  | some i => simp [entered, leave]

/-- What is given inside a value is given outside of it. -/
theorem Decoder.GivesAt.inside (new : ∀ i ∈ number, (i, p) ∉ n.inside)
    (room : n.depth < Nesting.limit) (h : d.GivesAt (n.entered p number) a) :
    (d.inside p number).GivesAt n a := by
  have h : d (n.entered p number) = (.pass a, n.entered p number) := h
  simp [GivesAt, Decoder.inside, Nesting.enter_eq new room, h, Nesting.leave_entered]

/-- A value that is handed over is entered again at another place. -/
theorem Place.ne_of_handsOver (h : p.handsOver = true) : (⟨some p.kind, p.kind⟩ : Place) ≠ p := by
  obtain ⟨decoder, kind⟩ := p
  intro heq
  obtain rfl : some kind = decoder := congrArg Place.decoder heq
  cases kind <;> simp [handsOver, TypeRef.Kind.rank?] at h

theorem Nesting.mem_inside_entered {q : Nat × Place} (h : q ∈ (n.entered p number).inside) :
    q.1 ∈ number.toList ∧ q.2 = p ∨ q ∈ n.inside := by
  rcases List.mem_append.mp h with h | h
  · obtain ⟨i, hi, rfl⟩ := List.mem_map.mp h
    exact .inl ⟨hi, rfl⟩
  · exact .inr h

/-- What is given inside a value that has not been entered is given outside of it, if there is room
to enter the value twice. -/
theorem Decoder.GivesAt.entering {above : List Nat} (new : ∀ i ∈ number, i ∉ above)
    (around : ∀ q ∈ n.inside, q.1 ∈ above) (room : n.depth + 2 ≤ Nesting.limit)
    (h : ∀ m : Nesting, m.depth ≤ n.depth + 2 → (∀ q ∈ m.inside, q.1 ∈ number.toList ++ above) →
      d.GivesAt m a) : (d.entering p number).GivesAt n a := by
  have first (q : Place) : ∀ i ∈ number, (i, q) ∉ n.inside := by
    intro i hi hq
    exact new i hi (around _ hq)
  have around' : ∀ q ∈ (n.entered p number).inside, q.1 ∈ number.toList ++ above := by
    intro q hq
    rcases Nesting.mem_inside_entered hq with ⟨hq, -⟩ | hq
    · exact List.mem_append_left _ hq
    · exact List.mem_append_right _ (around q hq)
  unfold Decoder.entering
  split
  · rename_i handed
    have second : ∀ i ∈ number, (i, ⟨some p.kind, p.kind⟩) ∉ (n.entered p number).inside := by
      intro i hi hq
      rcases Nesting.mem_inside_entered hq with ⟨-, heq⟩ | hq
      · exact Place.ne_of_handsOver handed heq
      · exact first _ i hi hq
    have room' : (n.entered p number).depth < Nesting.limit := room
    refine .inside (first p) (by omega) (.inside second room' (h _ (Nat.le_refl _) ?_))
    intro q hq
    rcases Nesting.mem_inside_entered hq with ⟨hq, -⟩ | hq
    · exact List.mem_append_left _ hq
    · exact around' q hq
  · exact .inside (first p) (by omega) (h _ (Nat.le_succ _) around')

end Entering

/-! ## Decoding objects -/

namespace TypeRef

open Value

/-- Decodes what stands in an object of a kind, with the given decoder at work on the parts. -/
def contentDecoder (decoder : Option Kind) (entries : List (Value × Value)) : Kind → Decoder TypeRef
  | .primitive => .of (primitive <$> member "primitive" primitiveOfValue entries)
  | .list => list <$> memberDecoder "element_type" (objectDecoder decoder) entries
  | .map =>
    map <$> memberDecoder "key_type" (objectDecoder decoder) entries
      <*> memberDecoder "value_type" (objectDecoder decoder) entries
  | .optional => optional <$> memberDecoder "inner_type" (objectDecoder decoder) entries
  | .named => .of (named <$> member "name" text entries)

theorem part_eq_memberDecoder (key : String) (entries : List (Value × Value))
    (decode : Value → Decoder TypeRef) :
    part key entries (fun w _ => decode w) = memberDecoder key decode entries := by
  unfold part memberDecoder
  split <;> simp [*]

theorem kindOfValue?_eq_some_iff {v : Value} {k : Kind} :
    kindOfValue? v = some k ↔ v = .str k.tag := by
  constructor
  · intro h
    cases v with
    | str s =>
        have tag : k.tag = s := (Text.find?_word_eq_some_iff Kind.ofTag?_tag).mp h
        rw [tag]
    | _ => cases h
  · rintro rfl
    exact Kind.ofTag?_tag k

section Object

variable {decoder : Option Kind} {entries : List (Value × Value)} {number : Option Nat}

/-- An object of a kind is entered, and then its content is decoded. -/
theorem objectDecoder_mapping {k : Kind} (kind : valueAt? "kind" entries = some (.str k.tag)) :
    objectDecoder decoder (.mapping entries number) =
      ((contentDecoder (Place.next ⟨decoder, k⟩) entries k).entering ⟨decoder, k⟩ number).within
        (.key k.tag) := by
  rw [objectDecoder]
  simp only [kind, kindOfValue?_eq_some_iff.mpr rfl, part_eq_memberDecoder]
  cases k <;> rfl

/-- Only an object of some kind gives a type. -/
theorem exists_content_of_gives {v : Value} {t : TypeRef} (h : (objectDecoder decoder v).Gives t) :
    ∃ entries number, v = .mapping entries number ∧
      ∃ k : Kind, valueAt? "kind" entries = some (.str k.tag) ∧
        (contentDecoder (Place.next ⟨decoder, k⟩) entries k).Gives t := by
  cases v with
  | mapping entries number =>
      refine ⟨entries, number, rfl, ?_⟩
      have opened := h
      rw [objectDecoder] at opened
      split at opened
      · cases opened.of
      · rename_i word hword
        split at opened
        · cases opened.of
        · rename_i k hk
          rw [kindOfValue?_eq_some_iff.mp hk] at hword
          rw [objectDecoder_mapping hword] at h
          exact ⟨k, hword, h.within.entering⟩
  | _ =>
      rw [objectDecoder] at h
      · cases h.of
      · intro entries number heq
        cases heq

/-- The content of an object that is not inside itself is decoded where the object is. -/
theorem givesAt_of_content {k : Kind} (kind : valueAt? "kind" entries = some (.str k.tag))
    {above : List Nat} (free : (Value.mapping entries number).IsLoopFree above) {n : Nesting}
    (around : ∀ q ∈ n.inside, q.1 ∈ above) (room : n.depth + 2 ≤ Nesting.limit) {t : TypeRef}
    (h : ∀ m : Nesting, m.depth ≤ n.depth + 2 → (∀ q ∈ m.inside, q.1 ∈ number.toList ++ above) →
      (contentDecoder (Place.next ⟨decoder, k⟩) entries k).GivesAt m t) :
    (objectDecoder decoder (.mapping entries number)).GivesAt n t := by
  rw [objectDecoder_mapping kind]
  cases free with
  | intro new parts => exact (Decoder.GivesAt.entering new around room h).within _

end Object

/-- Whatever a decoder gives for plain data, the data is an object that stands for it. -/
theorem isTypeObject_of_gives {above : List Nat} {v : Value} (plain : v.IsPlain above)
    {decoder : Option Kind} {t : TypeRef} (h : (objectDecoder decoder v).Gives t) :
    v.IsTypeObject t := by
  induction plain generalizing decoder t with
  | @mapping above entries number keys new values ih =>
      obtain ⟨entries, number, heq, k, kind, h⟩ := exists_content_of_gives h
      cases heq
      have nested {decoder : Option Kind} {key : String} {t : TypeRef}
          (h : (memberDecoder key (objectDecoder decoder) entries).Gives t) :
          ∃ w, valueAt? key entries = some w ∧ w.IsTypeObject t := by
        obtain ⟨w, hw, h⟩ := h.member
        obtain ⟨e, he, rfl⟩ := exists_mem_of_valueAt? hw
        exact ⟨_, hw, ih e he h⟩
      cases k with
      | primitive =>
          obtain ⟨p, hp, rfl⟩ := Checked.map_eq_pass.mp h.of
          obtain ⟨w, hw, hp⟩ := member_eq_pass_iff.mp hp
          obtain ⟨s, rfl, hs⟩ := wordOf_eq_pass_iff.mp hp
          obtain rfl := Primitive.ofName?_eq_some_iff.mp hs
          exact .primitive kind hw
      | list =>
          rw [contentDecoder] at h
          obtain ⟨element, helement, rfl⟩ := h.map
          obtain ⟨w, hw, helement⟩ := nested helement
          exact .list kind hw helement
      | map =>
          rw [contentDecoder] at h
          obtain ⟨_, value, hk, hv, rfl⟩ := h.seq
          obtain ⟨key, hkey, rfl⟩ := hk.map
          obtain ⟨x, hx, hkey⟩ := nested hkey
          obtain ⟨y, hy, hv⟩ := nested hv
          exact .map kind hx hkey hy hv
      | optional =>
          rw [contentDecoder] at h
          obtain ⟨inner, hinner, rfl⟩ := h.map
          obtain ⟨w, hw, hinner⟩ := nested hinner
          exact .optional kind hw hinner
      | named =>
          obtain ⟨name, hname, rfl⟩ := Checked.map_eq_pass.mp h.of
          obtain ⟨w, hw, hname⟩ := member_eq_pass_iff.mp hname
          obtain ⟨e, he, rfl⟩ := exists_mem_of_valueAt? hw
          rw [(values e he).text_eq_pass_iff.mp hname] at hw
          exact .named kind hw
  | _ =>
      obtain ⟨entries, number, heq, -⟩ := exists_content_of_gives h
      cases heq

/-- Where there is room for a type after entering it, there is room for its parts. -/
theorem room_of_part {n m : Nesting} {t s : TypeRef}
    (room : n.depth + 2 * (t.depth + 1) ≤ Nesting.limit) (depth : m.depth ≤ n.depth + 2)
    (h : s.depth < t.depth) : m.depth + 2 * (s.depth + 1) ≤ Nesting.limit := by
  omega

/-- An object that stands for a type is decoded to the type, wherever there is room for it. -/
theorem objectDecoder_givesAt {v : Value} {t : TypeRef} (h : v.IsTypeObject t) {above : List Nat}
    (free : v.IsLoopFree above) {n : Nesting} (around : ∀ q ∈ n.inside, q.1 ∈ above)
    (room : n.depth + 2 * (t.depth + 1) ≤ Nesting.limit) (decoder : Option Kind) :
    (objectDecoder decoder v).GivesAt n t := by
  -- Each object may be entered twice, which leaves enough room for its parts.
  induction h generalizing above n decoder with
  | @primitive entries number p kind name =>
      refine givesAt_of_content (k := .primitive) kind free around (by omega) fun m _ _ => ?_
      have found : member "primitive" primitiveOfValue entries = .pass p :=
        member_eq_pass_iff.mpr
          ⟨_, name, wordOf_eq_pass_iff.mpr ⟨_, rfl, Primitive.ofName?_name p⟩⟩
      rw [contentDecoder, found]
      rfl
  | @list entries number v element kind found h ih =>
      refine givesAt_of_content (k := .list) kind free around (by omega) fun m depth around' => ?_
      have room' := room_of_part room depth (s := element) (Nat.lt_succ_self _)
      have free' := free.part (mem_typeParts .list kind (by decide) found)
      exact (Decoder.GivesAt.member found (ih free' around' room' _)).map _
  | @map entries number v w key value kind foundKey hk foundValue hv ihk ihv =>
      refine givesAt_of_content (k := .map) kind free around (by omega) fun m depth around' => ?_
      have roomKey := room_of_part room depth (s := key) (Nat.lt_succ_of_le (Nat.le_max_left ..))
      have roomValue :=
        room_of_part room depth (s := value) (Nat.lt_succ_of_le (Nat.le_max_right ..))
      have freeKey := free.part (mem_typeParts .map kind (by decide) foundKey)
      have freeValue := free.part (mem_typeParts .map kind (by decide) foundValue)
      exact ((Decoder.GivesAt.member foundKey (ihk freeKey around' roomKey _)).map _).seq
        (.member foundValue (ihv freeValue around' roomValue _))
  | @optional entries number v inner kind found h ih =>
      refine givesAt_of_content (k := .optional) kind free around (by omega)
        fun m depth around' => ?_
      have room' := room_of_part room depth (s := inner) (Nat.lt_succ_self _)
      have free' := free.part (mem_typeParts .optional kind (by decide) found)
      exact (Decoder.GivesAt.member found (ih free' around' room' _)).map _
  | @named entries number name kind found =>
      refine givesAt_of_content (k := .named) kind free around (by omega) fun m _ _ => ?_
      have found : member "name" text entries = .pass name :=
        member_eq_pass_iff.mpr ⟨_, found, rfl⟩
      rw [contentDecoder, found]
      rfl

/-- From the outside there is room for 32 levels. -/
theorem objectDecoder_givesAt_outside {v : Value} {t : TypeRef} (h : v.IsTypeObject t)
    {above : List Nat} (free : v.IsLoopFree above) (depth : t.depth ≤ 32) :
    (objectDecoder none v).GivesAt {} t := by
  have room : 0 + 2 * (t.depth + 1) ≤ Nesting.limit := by
    rw [Nesting.limit]
    omega
  exact objectDecoder_givesAt h free (by simp) room none

end TypeRef

end CommandCompiler
