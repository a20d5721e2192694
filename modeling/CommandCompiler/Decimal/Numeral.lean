import CommandCompiler.Decimal.Reading
import CommandCompiler.Text.Blank
import CommandCompiler.Text.Digit
import CommandCompiler.Text.Hex
/-!
# CommandCompiler.Decimal.Numeral

Numbers as people type them: with blanks around them, in the digits of any
script, with the number base in front.

* `Numeral.plain` : the same number in ASCII;
* `Numeral.integer` : whole numbers in a base;
* `Numeral.write?` : a whole number as it is written out;
* `Numeral.spelling?`, `Numeral.float?` : numbers with a point or an exponent.
-/

namespace CommandCompiler.Decimal.Numeral

/-- A character of a number in ASCII. What cannot be part of a number becomes a question mark. -/
def plainChar (c : Char) : Char :=
  if c.toNat < 127 then c
  else if Text.isBlank c then ' '
  else
    match Text.decimalDigit? c with
    | some n => digit n
    | none => '?'

/-- The blanks of ASCII, separators excepted. -/
def isTrimmed (c : Char) : Bool := c == ' ' || ('\t' ≤ c && c ≤ '\r')

/-- A number in ASCII, without the blanks around it. -/
def plain (text : List Char) : List Char :=
  (((text.map plainChar).dropWhile isTrimmed).reverse.dropWhile isTrimmed).reverse

/-- A sign, and what follows it. -/
def sign : List Char → Bool × List Char
  | '-' :: cs => (true, cs)
  | '+' :: cs => (false, cs)
  | cs => (false, cs)

/-- The letter that marks a number base. -/
def baseLetter? (base : Nat) : Option Char := [(2, 'b'), (8, 'o'), (16, 'x')].lookup base

/-- The digits of a number without the mark of its base. -/
def dropBase (base : Nat) : List Char → List Char
  | '0' :: c :: cs => if baseLetter? base = some c.toLower then cs else '0' :: c :: cs
  | cs => cs

/-- The value of a digit below the base. -/
def digitBelow? (base : Nat) (c : Char) : Option Nat :=
  (Text.Hex.digitValue? c).bind fun n => if n < base then some n else none

/-- What the spelling of a whole number can be. -/
inductive Outcome
  | number (n : Int)
  | malformed
  /-- More decimal digits than are read. -/
  | tooLong (digits : Nat)
  deriving Repr, DecidableEq

/-- The greatest number of decimal digits that are read or written. Other bases have no limit. -/
def mostDigits : Nat := 4300

/-- The wording for a number that has more digits than are read. -/
def tooLongText (digits : Nat) : String :=
  s!"Exceeds the limit ({mostDigits} digits) for integer string conversion: value has {digits} " ++
  "digits; use sys.set_int_max_str_digits() to increase the limit"

/-- The wording for a number that has more digits than are written. -/
def unwrittenText : String :=
  s!"Exceeds the limit ({mostDigits} digits) for integer string conversion; " ++
  "use sys.set_int_max_str_digits() to increase the limit"

/-- A whole number in decimal, unless it has more digits than are written. -/
def write? (n : Int) : Option (List Char) :=
  if mostDigits < (ofNat n.natAbs).length then none else some (ofInt n)

/-- A whole number in a base. -/
def integer (base : Nat) (text : List Char) : Outcome :=
  let (negative, cs) := sign (plain text)
  let digits := dropBase base cs
  let front := digits.takeWhile fun c => (digitBelow? base c).isSome
  if base = 10 ∧ mostDigits < front.length then .tooLong front.length
  else if digits = [] ∨ front.length < digits.length then .malformed
  else
    let n := Int.ofNat (digits.foldl (fun n c => base * n + (digitBelow? base c).getD 0) 0)
    .number (if negative then -n else n)

/-- An exponent: a sign perhaps, and digits. -/
def exponent? (cs : List Char) : Option Int :=
  let (negative, digits) := sign cs
  if digits.isEmpty || !digits.all isDigit then none
  else
    let n := Int.ofNat (toNat digits)
    some (if negative then -n else n)

/-- The parts of a number, if there is a digit before or after its point. -/
def spelling? (text : List Char) : Option Spelling :=
  let (negative, cs) := sign text
  let (whole, cs) := cs.span isDigit
  let (fraction, cs) :=
    match cs with
    | '.' :: cs => cs.span isDigit
    | cs => ([], cs)
  if whole = [] ∧ fraction = [] then none
  else
    match cs with
    | [] => some ⟨negative, whole, fraction, 0⟩
    | e :: cs =>
      if e = 'e' ∨ e = 'E' then (exponent? cs).map fun n => ⟨negative, whole, fraction, n⟩
      else none

/-- The words for what is no finite number. -/
def wordFloat? (cs : List Char) : Option Float :=
  let (negative, word) := sign cs
  [("inf", 1 / 0), ("infinity", 1 / 0), ("nan", 0 / 0)].lookup (String.ofList word).toLower |>.map
    fun x => if negative then -x else x

/-- A number with a point or an exponent, or a word for what is no finite number. -/
def float? (text : List Char) : Option Float :=
  let cs := plain text
  match wordFloat? cs with
  | some x => some x
  | none => (spelling? cs).map Spelling.toFloat

end CommandCompiler.Decimal.Numeral
