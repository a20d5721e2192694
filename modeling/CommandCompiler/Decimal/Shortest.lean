import CommandCompiler.Decimal.Digits
/-!
# CommandCompiler.Decimal.Shortest

The text of a floating-point number: the fewest digits that read back as the
same number, and of several such the ones nearest to it.

* `Binary.ofFloat` : a finite number as `mantissa · 2 ^ exponent`;
* `Binary.shortest` : its digits and the place of the decimal point;
* `Layout`, `ofFloat` : how digits and point become a text.

For one digit, two digits and so on, the two neighbours of the number on the
grid of that many digits are tried against the interval of reals that round to
the number. Everything is exact arithmetic on `Nat`; seventeen digits always
suffice.
-/

namespace CommandCompiler.Decimal

/-- A positive binary fraction `mantissa · 2 ^ exponent`. `edge` says that it starts a binade, so
that its lower neighbour is only half as far away as its upper one. -/
structure Binary where
  mantissa : Nat
  exponent : Int
  edge : Bool
  deriving Repr, DecidableEq

/-- The bit above the 52 bits of the fraction of a number. -/
def Binary.fractionBound : Nat := 0x10000000000000

/-- The magnitude of a finite number; the sign bit is left out. The exponent has eleven bits. -/
def Binary.ofFloat (x : Float) : Binary :=
  let bits := x.toBits.toNat
  let fraction := bits % fractionBound
  let biased := bits / fractionBound % 0x800
  if biased = 0 then ⟨fraction, -1074, false⟩
  else ⟨fraction + fractionBound, Int.ofNat biased - 1075, fraction = 0 ∧ 1 < biased⟩

/-- Digits of a decimal fraction: `0.d₁d₂…dₙ · 10 ^ point`, without trailing zeros. -/
structure Digits where
  digits : List Char
  point : Int
  deriving Repr, DecidableEq

/-- The four numbers that decide about a candidate, over a common unit: the number itself, the
ends of the interval that rounds to it, and one. -/
structure Scaled where
  value : Nat
  low : Nat
  high : Nat
  one : Nat
  /-- Whether the ends of the interval themselves round to the number. -/
  closed : Bool

/-- A quarter of a unit in the last place is a whole number of the common unit. -/
def Binary.scaled (b : Binary) : Scaled :=
  let up := Nat.pow 2 (b.exponent - 2).toNat
  let one := Nat.pow 2 (2 - b.exponent).toNat
  { value := 4 * b.mantissa * up
    low := (4 * b.mantissa - if b.edge then 1 else 2) * up
    high := (4 * b.mantissa + 2) * up
    one := one
    closed := b.mantissa % 2 = 0 }

/-- The least `k` with `value < 10 ^ k`, searched upwards from `k`. -/
def Scaled.pointFrom (s : Scaled) : (fuel : Nat) → Int → Int
  | 0, k => k
  | fuel + 1, k =>
    if s.value * Nat.pow 10 (-k).toNat < s.one * Nat.pow 10 k.toNat then k
    else s.pointFrom fuel (k + 1)

/-- The place of the decimal point. The finite numbers lie between `10 ^ -324` and `10 ^ 309`. -/
def Scaled.point (s : Scaled) : Int := s.pointFrom 640 (-325)

/-- Whether `n` grid units of `10 ^ unit` round to the number. -/
def Scaled.accepts (s : Scaled) (unit : Int) (n : Nat) : Bool :=
  let x := n * Nat.pow 10 unit.toNat * s.one
  let scale := Nat.pow 10 (-unit).toNat
  if s.closed then s.low * scale ≤ x && x ≤ s.high * scale
  else s.low * scale < x && x < s.high * scale

/-- The number of grid units of `10 ^ unit` that reads back as the number and lies nearest to it,
if one does. An exact tie goes to the even one. -/
def Scaled.onGrid? (s : Scaled) (unit : Int) : Option Nat :=
  let numerator := s.value * Nat.pow 10 (-unit).toNat
  let denominator := s.one * Nat.pow 10 unit.toNat
  let below := numerator / denominator
  let twice := 2 * (numerator % denominator)
  let preferUp := denominator < twice || (denominator == twice && below % 2 == 1)
  let first := if preferUp then below + 1 else below
  let second := if preferUp then below else below + 1
  if s.accepts unit first then some first
  else if s.accepts unit second then some second
  else none

/-- The first grid, from `n` digits on, that holds a number which reads back. -/
def Scaled.digitsFrom (s : Scaled) (point : Int) : (fuel n : Nat) → Nat × Int
  | 0, n => (s.value, point - n)
  | fuel + 1, n =>
    match s.onGrid? (point - n) with
    | some m => (m, point - n)
    | none => s.digitsFrom point fuel (n + 1)

/-- The fewest digits that read back as the number. -/
def Binary.shortest (b : Binary) : Digits :=
  let s := b.scaled
  let (m, unit) := s.digitsFrom s.point 17 1
  let all := ofNat m
  { digits := (all.reverse.dropWhile (· == '0')).reverse
    point := unit + all.length }

/-- How digits and point become a text. -/
structure Layout where
  /-- The least place of the point that is written positionally. -/
  positionalFrom : Int
  /-- The greatest place of the point that is written positionally. -/
  positionalTo : Int
  /-- The least number of digits of an exponent. -/
  exponentWidth : Nat

/-- Digits with their point written in place; a whole number keeps one zero after the point. -/
def positional (d : Digits) : List Char :=
  let n := d.digits.length
  if d.point ≤ 0 then '0' :: '.' :: List.replicate (-d.point).toNat '0' ++ d.digits
  else if n ≤ d.point.toNat then
    d.digits ++ List.replicate (d.point.toNat - n) '0' ++ ['.', '0']
  else d.digits.take d.point.toNat ++ '.' :: d.digits.drop d.point.toNat

/-- Digits with one digit before the point and an exponent that always shows its sign. -/
def scientific (l : Layout) (d : Digits) : List Char :=
  let e := d.point - 1
  let shown := ofNat e.natAbs
  let mark := if e < 0 then '-' else '+'
  let fraction := if d.digits.length ≤ 1 then [] else '.' :: d.digits.drop 1
  d.digits.take 1 ++ fraction ++ 'e' :: mark ::
    List.replicate (l.exponentWidth - shown.length) '0' ++ shown

/-- The text of a number. -/
def ofFloat (l : Layout) (x : Float) : String :=
  if x.isNaN then "nan"
  else
    let negative := x.toBits.toNat / 0x8000000000000000 = 1
    let magnitude :=
      if x.isInf then ['i', 'n', 'f']
      else if x == 0 then ['0', '.', '0']
      else
        let d := (Binary.ofFloat x).shortest
        if l.positionalFrom ≤ d.point ∧ d.point ≤ l.positionalTo then positional d
        else scientific l d
    .ofList (if negative then '-' :: magnitude else magnitude)

end CommandCompiler.Decimal
