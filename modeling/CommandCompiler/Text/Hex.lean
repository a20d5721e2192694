/-!
# CommandCompiler.Text.Hex

Hexadecimal digits, as the escapes of quoted text, of JSON and of YAML spell
code points.

* `digit`, `fixed` : a number as lower-case digits;
* `digitValue?`, `value` : digits back to a number.
-/

namespace CommandCompiler.Text.Hex

/-- The lower-case digit of a number below sixteen. -/
def digit (n : Nat) : Char :=
  if n < 10 then Char.ofNat (0x30 + n) else Char.ofNat (0x57 + n)

/-- The last `width` hexadecimal digits of `n`, most significant first. -/
def fixed : (width n : Nat) → List Char
  | 0, _ => []
  | width + 1, n => fixed width (n / 16) ++ [digit (n % 16)]

/-- The value of a hexadecimal digit of either case. -/
def digitValue? (c : Char) : Option Nat :=
  let n := c.toNat
  if 0x30 ≤ n ∧ n ≤ 0x39 then some (n - 0x30)
  else if 0x41 ≤ n ∧ n ≤ 0x46 then some (n - 0x37)
  else if 0x61 ≤ n ∧ n ≤ 0x66 then some (n - 0x57)
  else none

/-- Whether `c` is a hexadecimal digit. -/
def isDigit (c : Char) : Bool := (digitValue? c).isSome

/-- The number that hexadecimal digits spell; a character that is none counts as zero. -/
def value (cs : List Char) : Nat :=
  cs.foldl (fun n c => 16 * n + (digitValue? c).getD 0) 0

theorem length_fixed (width n : Nat) : (fixed width n).length = width := by
  induction width generalizing n with
  | zero => rfl
  | succ width ih => simp [fixed, ih]

theorem digitValue?_digit {n : Nat} (h : n < 16) : digitValue? (digit n) = some n := by
  have digits : ∀ n < 16, digitValue? (digit n) = some n := by decide
  exact digits n h

theorem isDigit_of_mem_fixed {width n : Nat} {c : Char} (h : c ∈ fixed width n) : isDigit c := by
  induction width generalizing n with
  | zero => cases h
  | succ width ih =>
    rcases List.mem_append.mp h with h | h
    · exact ih h
    · rw [List.mem_singleton.mp h, isDigit, digitValue?_digit (Nat.mod_lt n (by omega : 0 < 16))]
      rfl

/-- Digits read back: `fixed` loses only what does not fit its width. -/
theorem value_fixed (width n : Nat) : value (fixed width n) = n % Nat.pow 16 width := by
  induction width generalizing n with
  | zero => exact (Nat.mod_one n).symm
  | succ width ih =>
    have last := digitValue?_digit (Nat.mod_lt n (by omega : 0 < 16))
    have step : Nat.pow 16 (width + 1) = 16 * Nat.pow 16 width := Nat.mul_comm _ _
    simp only [fixed, value, List.foldl_append, List.foldl_cons, List.foldl_nil] at ih ⊢
    rw [ih, last, Option.getD_some, step, Nat.mod_mul, Nat.add_comm]

end CommandCompiler.Text.Hex
