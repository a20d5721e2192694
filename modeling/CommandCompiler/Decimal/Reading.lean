import CommandCompiler.Decimal.Digits
/-!
# CommandCompiler.Decimal.Reading

Decimal numbers as texts spell them: an optional sign, digits, and for a
fraction an optional point, more digits and an exponent.

* `scaled` : `mantissa · 10 ^ exponent`, rounded to the nearest number;
* `Spelling`, `Spelling.toFloat` : the parts of a spelled number and its value.
-/

namespace CommandCompiler.Decimal

/-- Above this exponent of ten every number that is not zero is infinite, and below its negative
every number is zero. -/
def farExponent : Int := 400

/-- `mantissa · 10 ^ exponent` as the nearest floating-point number. Numbers far out of range are
settled by the place of their first digit, so that no huge power is ever computed. -/
def scaled (mantissa : Nat) (exponent : Int) : Float :=
  if mantissa = 0 then 0
  else
    let place := exponent + (ofNat mantissa).length
    if farExponent < place then 1 / 0
    else if place < -farExponent then 0
    else Float.ofScientific mantissa (exponent < 0) exponent.natAbs

/-- A spelled number: its sign, the digits before and after the point, and its exponent. -/
structure Spelling where
  negative : Bool
  whole : List Char
  fraction : List Char
  exponent : Int
  deriving Repr, DecidableEq

/-- The value of a spelled number. -/
def Spelling.toFloat (s : Spelling) : Float :=
  let x := scaled (toNat (s.whole ++ s.fraction)) (s.exponent - s.fraction.length)
  if s.negative then -x else x

end CommandCompiler.Decimal
