import CommandCompiler.Decimal.Numeral
import CommandCompiler.Text.Base64
import CommandCompiler.Text.Lower
import CommandCompiler.Value
import CommandCompiler.Yaml.Node.Plain
/-!
# CommandCompiler.Yaml.Scalar

What the text of a scalar means under its tag.

* `readInt`, `readFloat`, `readBool`, `readTimestamp`, `readBinary` : one tag each;
* `Tag.read` : any tag.

A tag may be written out, so every text can stand under every tag.
-/

namespace CommandCompiler.Yaml

open Decimal

/-! ## Numbers -/

/-- A number without the marks that group its digits. -/
def ungrouped (text : String) : List Char := text.toList.filter (· != '_')

/-- The sign of a number and its other characters. There must be at least one character. -/
def signed : List Char → Except ScalarFault (Bool × List Char)
  | [] => .error .emptyNumber
  | c :: cs => .ok (c == '-', dropSign (c :: cs))

/-- A whole number in a base. -/
def readDigits (base : Nat) (cs : List Char) : Except ScalarFault Int :=
  match Numeral.integer base cs with
  | .number n => .ok n
  | .malformed => .error (.notInteger base (.ofList cs))
  | .tooLong count => .error (.tooManyDigits count)

/-- The parts of a number in base sixty, the least significant first. -/
def sixties {α : Type} (part : List Char → Except ScalarFault α) (cs : List Char) :
    Except ScalarFault (List α) :=
  List.reverse <$> (cs.splitOn ':').mapM part

/-- A whole number without its sign: the first characters tell the base. -/
def readMagnitude : List Char → Except ScalarFault Int
  | [] => .error .emptyNumber
  | ['0'] => .ok 0
  | '0' :: 'b' :: cs => readDigits 2 cs
  | '0' :: 'x' :: cs => readDigits 16 cs
  | '0' :: cs => readDigits 8 ('0' :: cs)
  | cs =>
    if cs.contains ':' then
      (List.foldr (fun digit n => digit + 60 * n) 0) <$> sixties (readDigits 10) cs
    else readDigits 10 cs

/-- A whole number. -/
def readInt (text : String) : Except ScalarFault Int := do
  let (negative, cs) ← signed (ungrouped text)
  let n ← readMagnitude cs
  return if negative then -n else n

/-- A number with a point or an exponent. -/
def readDecimal (cs : List Char) : Except ScalarFault Float :=
  match Numeral.float? cs with
  | some x => .ok x
  | none => .error (.notFloat (.ofList cs))

/-- The sum of parts in base sixty, the least significant first. `unit` is what the first is
worth, and it must be finite even where the part is zero. -/
def sumSixties (sum : Float) (unit : Nat) : List Float → Except ScalarFault Float
  | [] => .ok sum
  | x :: xs =>
    if (scaled unit 0).isInf then .error .tooManyPlaces
    else sumSixties (sum + x * scaled unit 0) (60 * unit) xs

/-- Whether a number is the word for what is no number. -/
def isNanWord (text : String) : Bool :=
  match signed (Text.lowerFrom false (ungrouped text)) with
  | .ok (_, cs) => cs == ".nan".toList
  | .error _ => false

/-- A number that need not be whole, or one of the words for what is no finite number. -/
def readFloat (text : String) : Except ScalarFault Float := do
  let (negative, cs) ← signed (Text.lowerFrom false (ungrouped text))
  let x ←
    if cs = ".inf".toList then pure (1 / 0)
    else if cs = ".nan".toList then pure (0 / 0)
    else if cs.contains ':' then sixties readDecimal cs >>= sumSixties 0 1
    else readDecimal cs
  return if negative then -x else x

/-! ## Other scalars -/

/-- A truth value, in any case. -/
def readBool (text : String) : Except ScalarFault Bool :=
  match truthWords.lookup (Text.lower text) with
  | some b => .ok b
  | none => .error (.notBool (Text.lower text))

/-- A date or a time. -/
def readTimestamp (text : String) : Except ScalarFault Moment :=
  match Timestamp.parse? (dropLastLineFeed text.toList) with
  | none => .error .notTimestamp
  | some t => (fun _ => t.moment) <$> t.check

/-- Bytes, written in base64 and so in ASCII. -/
def readBinary (text : String) : Except Fault (List UInt8) :=
  if text.toList.all fun c => c.toNat < 0x80 then
    match Text.Base64.decode? text.toList with
    | some bytes => .ok bytes
    | none => .error .content
  else .error .content

/-- What a text means under a tag. -/
def Tag.read (tag : Tag) (text : String) : Except Fault Value :=
  match tag with
  | .null => .ok .null
  | .bool => .bool <$> (readBool text).mapError .scalar
  | .int => .int <$> (readInt text).mapError .scalar
  | .float => .float <$> (readFloat text).mapError .scalar
  | .timestamp => .moment <$> (readTimestamp text).mapError .scalar
  | .binary => .bytes <$> readBinary text
  | .str => .ok (.str text)
  | _ => .error .content

end CommandCompiler.Yaml
