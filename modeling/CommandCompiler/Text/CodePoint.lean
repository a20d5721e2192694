/-!
# CommandCompiler.Text.CodePoint

Texts that may hold half a surrogate pair.

An escape can name a number that belongs to no character: one half of a pair of
surrogates. No `String` has a place for it, so there is a rule for how a text
*holds* any code point:

* a half is held as the character `0x100000` above it, which is of private use;
* a character of that block, and the guard just below it, stands after a guard;
* every other character stands for itself.

So a text without characters of that block, which is nearly every text, is held
as it is.

* `hold`, `holdText` : code points and texts from outside, as they are held;
* `codePoints`, `withGuarded` : the code points of a text;
* `hasHalf`, `replaceHalves` : whether some of them are halves, and a text
  without them;
* `shown` : the text for the outside.
-/

namespace CommandCompiler.Text

/-- Whether a code point is half a surrogate pair. -/
def isHalf (n : Nat) : Bool := 0xD800 ≤ n && n ≤ 0xDFFF

/-- How far above a half the character lies that it is held as. -/
def halfShift : Nat := 0x100000

/-- The character that says that the next one stands for itself. -/
def guardChar : Char := Char.ofNat 0x10D7FF

/-- Whether a character does not stand for itself. -/
def isReserved (c : Char) : Bool := 0x10D7FF ≤ c.toNat && c.toNat ≤ 0x10DFFF

/-- How a text holds a character. -/
def holdChar (c : Char) : List Char := if isReserved c then [guardChar, c] else [c]

/-- How a text holds a code point. -/
def hold (n : Nat) : List Char :=
  if isHalf n then [Char.ofNat (n + halfShift)] else holdChar (Char.ofNat n)

/-- A text from outside as it is held. -/
def holdText (s : String) : String := .ofList (s.toList.flatMap holdChar)

/-- The code point that a character stands for without a guard. -/
def pointOf (c : Char) : Nat :=
  if isReserved c && c != guardChar then c.toNat - halfShift else c.toNat

/-- The code points that a text holds. -/
def codePoints : List Char → List Nat
  | [] => []
  | [c] => [pointOf c]
  | c :: d :: rest =>
    if c = guardChar then d.toNat :: codePoints rest else pointOf c :: codePoints (d :: rest)

/-- A character of a text, together with what it guards. -/
def withGuarded (c : Char) (s : String) : String :=
  if c = guardChar then .ofList ((s.toList.dropWhile (· ≠ c)).take 2) else .singleton c

/-- Whether a text holds half a surrogate pair. -/
def hasHalf (s : String) : Bool := (codePoints s.toList).any isHalf

/-- A text with replacement characters for its halves: one for each byte that a half would take. -/
def replaceHalves (s : String) : String :=
  .ofList ((codePoints s.toList).flatMap fun n =>
    if isHalf n then List.replicate 3 '\uFFFD' else holdChar (Char.ofNat n))

/-- Characters for the outside. Two halves that make a pair are its character, and no other half is
a character. -/
def joinHalves : List Nat → List Char
  | [] => []
  | [n] => [if isHalf n then '\uFFFD' else Char.ofNat n]
  | n :: m :: rest =>
    if 0xD800 ≤ n ∧ n ≤ 0xDBFF ∧ 0xDC00 ≤ m ∧ m ≤ 0xDFFF then
      Char.ofNat (0x10000 + (n - 0xD800) * 0x400 + (m - 0xDC00)) :: joinHalves rest
    else (if isHalf n then '\uFFFD' else Char.ofNat n) :: joinHalves (m :: rest)

/-- A text for the outside. -/
def shown (s : String) : String := .ofList (joinHalves (codePoints s.toList))

/-- Characters that are held as they are, are read as they are. -/
theorem codePoints_of_plain {cs : List Char} (h : ∀ c ∈ cs, isReserved c = false) :
    codePoints cs = cs.map Char.toNat := by
  have point (c : Char) (hc : isReserved c = false) : pointOf c = c.toNat := by
    simp [pointOf, hc]
  fun_induction codePoints cs with
  | case1 => rfl
  | case2 c => simp [point c (h c (by simp))]
  | case3 d rest _ =>
    have held : isReserved guardChar = false := h guardChar (by simp)
    exact absurd held (by decide)
  | case4 c d rest _ ih => simp [point c (h c (by simp)), ih fun x hx => h x (by simp [hx])]

end CommandCompiler.Text
