/-!
# CommandCompiler.Decimal.Digits

Whole numbers in decimal.

* `ofNat`, `ofInt` : a number as digits;
* `toNat` : digits as a number;
* `isDigit` : the ASCII digits.
-/

namespace CommandCompiler.Decimal

/-- The ASCII digits. -/
def isDigit (c : Char) : Bool := '0' ≤ c && c ≤ '9'

/-- The digit character of a number below ten. -/
def digit (n : Nat) : Char := Char.ofNat (0x30 + n)

/-- The digits of `n`, most significant first and without leading zeros; zero has one digit. -/
def ofNat (n : Nat) : List Char :=
  if n < 10 then [digit n] else ofNat (n / 10) ++ [digit (n % 10)]

/-- The digits of an integer, after a minus sign if it is negative. -/
def ofInt : Int → List Char
  | .ofNat n => ofNat n
  | .negSucc n => '-' :: ofNat (n + 1)

/-- The number that ASCII digits spell. -/
def toNat (cs : List Char) : Nat := cs.foldl (fun n c => 10 * n + (c.toNat - 0x30)) 0

theorem digit_toNat {n : Nat} (h : n < 10) : (digit n).toNat - 0x30 = n := by
  have digits : ∀ n < 10, (digit n).toNat - 0x30 = n := by decide
  exact digits n h

theorem isDigit_digit {n : Nat} (h : n < 10) : isDigit (digit n) := by
  have digits : ∀ n < 10, isDigit (digit n) := by decide
  exact digits n h

/-- Digits read back. -/
theorem toNat_ofNat (n : Nat) : toNat (ofNat n) = n := by
  fun_induction ofNat n with
  | case1 n h => simp [toNat, digit_toNat h]
  | case2 n h ih =>
    simp only [toNat, List.foldl_append, List.foldl_cons, List.foldl_nil] at ih ⊢
    rw [ih, digit_toNat (Nat.mod_lt n (by omega))]
    omega

/-- A number is written in ASCII digits only. -/
theorem isDigit_of_mem_ofNat {n : Nat} {c : Char} (h : c ∈ ofNat n) : isDigit c := by
  fun_induction ofNat n with
  | case1 n hn => simp at h; exact h ▸ isDigit_digit hn
  | case2 n hn ih =>
    simp only [List.mem_append, List.mem_singleton] at h
    rcases h with h | rfl
    · exact ih h
    · exact isDigit_digit (Nat.mod_lt n (by omega))

end CommandCompiler.Decimal
