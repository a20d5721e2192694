import CommandCompiler.Value.Display
import Mathlib.Algebra.Group.Nat.Defs
import Mathlib.Data.List.Basic
/-!
# CommandCompiler.Proofs.Literals

**Which values can be shown.** A value has a literal just if every whole number in
it has few enough digits to be written out (`Value.display?_eq_none_iff`).

* `Value.Holds` : the whole numbers in a value, its keys included;
* `Value.IsWritable` : whether all of them can be written out;
* `Decimal.length_ofNat_le_iff` : the number of digits of a number, as a bound on the
  number itself.

The literal of a value is put together from those of its parts, so the proof follows
the value, its items and its entries.
-/

namespace CommandCompiler

/-! ## Digits -/

/-- A number has at most `k` digits just if it is below the `k`-th power of ten. -/
theorem Decimal.length_ofNat_le_iff {n k : Nat} (h : 0 < k) :
    (ofNat n).length ≤ k ↔ n < 10 ^ k := by
  fun_induction ofNat n generalizing k with
  | case1 n small =>
      have power : 10 ≤ 10 ^ k := Nat.le_self_pow (by omega) 10
      simp only [List.length_singleton]
      omega
  | case2 n large ih =>
      obtain _ | _ | k := k
      · omega
      · have some : 0 < (ofNat (n / 10)).length := by
          rw [ofNat]
          split <;> simp
        simp only [List.length_append, List.length_singleton]
        omega
      · rw [List.length_append, List.length_singleton, Nat.add_le_add_iff_right,
          ih (Nat.succ_pos k), Nat.div_lt_iff_lt_mul (by omega), ← Nat.pow_succ]

theorem Decimal.Numeral.write?_eq_none_iff {n : Int} :
    write? n = none ↔ 10 ^ mostDigits ≤ n.natAbs := by
  have short : (ofNat n.natAbs).length ≤ mostDigits ↔ n.natAbs < 10 ^ mostDigits :=
    length_ofNat_le_iff (by decide)
  rw [write?, ite_eq_left_iff, ← Nat.not_lt, ← short]
  simp

namespace Value

/-! ## Values that can be written out -/

/-- Whether a whole number occurs in a value. -/
inductive Holds (n : Int) : Value → Prop
  | int : Holds n (.int n)
  | item {items : List Value} {v : Value} (mem : v ∈ items) (holds : Holds n v) :
      Holds n (.list items)
  | member {members : List Value} {v : Value} (mem : v ∈ members) (holds : Holds n v) :
      Holds n (.set members)
  | key {entries : List (Value × Value)} {number : Option Nat} {e : Value × Value}
      (mem : e ∈ entries) (holds : Holds n e.1) : Holds n (.mapping entries number)
  | value {entries : List (Value × Value)} {number : Option Nat} {e : Value × Value}
      (mem : e ∈ entries) (holds : Holds n e.2) : Holds n (.mapping entries number)

/-- Whether no whole number in a value has more digits than are written. -/
def IsWritable (v : Value) : Prop :=
  ∀ n, v.Holds n → n.natAbs < 10 ^ Decimal.Numeral.mostDigits

theorem isWritable_int {n : Int} :
    (int n).IsWritable ↔ n.natAbs < 10 ^ Decimal.Numeral.mostDigits := by
  constructor
  · exact fun h => h n .int
  · rintro h m ⟨⟩
    exact h

theorem isWritable_list {items : List Value} :
    (list items).IsWritable ↔ ∀ v ∈ items, v.IsWritable := by
  constructor
  · exact fun h v hv n holds => h n (.item hv holds)
  · rintro h n ⟨⟩
    exact h _ ‹_› n ‹_›

theorem isWritable_set {members : List Value} :
    (set members).IsWritable ↔ ∀ v ∈ members, v.IsWritable := by
  constructor
  · exact fun h v hv n holds => h n (.member hv holds)
  · rintro h n ⟨⟩
    exact h _ ‹_› n ‹_›

theorem isWritable_mapping {entries : List (Value × Value)} {number : Option Nat} :
    (mapping entries number).IsWritable ↔ ∀ e ∈ entries, e.1.IsWritable ∧ e.2.IsWritable := by
  constructor
  · intro h e he
    exact ⟨fun n holds => h n (.key he holds), fun n holds => h n (.value he holds)⟩
  · rintro h n (_ | _ | _ | ⟨mem, holds⟩ | ⟨mem, holds⟩)
    · exact (h _ mem).1 n holds
    · exact (h _ mem).2 n holds

/-! ## Literals -/

mutual

/-- **A value has no literal just if a whole number in it is too long to be written out.** -/
theorem display?_eq_none_iff : ∀ {v : Value}, v.display? = none ↔ ¬ v.IsWritable
  | null | bool true | bool false | float _ | str _ | bytes _ | moment _ =>
    iff_of_false nofun (not_not.mpr nofun)
  | int n => by
    rw [display?, Option.map_eq_none_iff, Decimal.Numeral.write?_eq_none_iff, isWritable_int,
      Nat.not_lt]
  | list items => by
    rw [display?, Option.map_eq_none_iff, displayItems?_eq_none_iff, isWritable_list]
    simp only [not_forall, exists_prop]
  | set [] => iff_of_false nofun (not_not.mpr (isWritable_set.mpr nofun))
  | set (v :: members) => by
    rw [display?, Option.map_eq_none_iff, displayItems?_eq_none_iff, isWritable_set]
    · simp only [not_forall, exists_prop]
    · exact nofun
  | mapping entries number => by
    rw [display?, Option.map_eq_none_iff, displayEntries?_eq_none_iff, isWritable_mapping]
    simp only [not_forall, exists_prop]

theorem displayItems?_eq_none_iff :
    ∀ {items : List Value}, displayItems? items = none ↔ ∃ v ∈ items, ¬ v.IsWritable
  | [] => by simp [displayItems?]
  | v :: items => by
    have first := display?_eq_none_iff (v := v)
    have others : displayItems? items = none ↔ ∃ w ∈ items, ¬ w.IsWritable :=
      displayItems?_eq_none_iff
    rw [List.exists_mem_cons_iff, ← first, ← others, displayItems?]
    cases v.display? <;> cases displayItems? items <;> simp

theorem displayEntries?_eq_none_iff :
    ∀ {entries : List (Value × Value)}, displayEntries? entries = none ↔
      ∃ e ∈ entries, ¬ (e.1.IsWritable ∧ e.2.IsWritable)
  | [] => by simp [displayEntries?]
  | (k, v) :: entries => by
    have key := display?_eq_none_iff (v := k)
    have value := display?_eq_none_iff (v := v)
    have others : displayEntries? entries = none ↔
        ∃ e ∈ entries, ¬ (e.1.IsWritable ∧ e.2.IsWritable) :=
      displayEntries?_eq_none_iff
    rw [List.exists_mem_cons_iff, not_and_or, ← key, ← value, ← others, displayEntries?]
    cases k.display? <;> cases v.display? <;> cases displayEntries? entries <;> simp

end

theorem exists_display?_iff {v : Value} : (∃ shown, v.display? = some shown) ↔ v.IsWritable := by
  rw [← Option.ne_none_iff_exists', ne_eq, display?_eq_none_iff, not_not]

end Value

end CommandCompiler
