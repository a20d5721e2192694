import CommandCompiler.Decimal.Shortest
import CommandCompiler.Json
import CommandCompiler.Text.CodePoint
import CommandCompiler.Text.Hex
/-!
# CommandCompiler.Json.Printer

JSON text on one line, without blanks and in printable ASCII only.

* `Json.escape`, `Json.escapePoint` : one character of a string literal, which may
  be half a surrogate pair;
* `Json.literal` : a string literal;
* `Json.print` : a document.

Characters beyond ASCII are written by their UTF-16 code units, so that a
character above U+FFFF takes two escapes.
-/

namespace CommandCompiler.Json

/-- The escape of one UTF-16 code unit. -/
def unitEscape (n : Nat) : List Char := '\\' :: 'u' :: Text.Hex.fixed 4 n

/-- The escapes of a code point: one, or two that form a surrogate pair. -/
def pointEscape (n : Nat) : List Char :=
  if n < 0x10000 then unitEscape n
  else
    let m := n - 0x10000
    unitEscape (0xD800 + m / 0x400) ++ unitEscape (0xDC00 + m % 0x400)

/-- One character of a string literal. -/
def escape (c : Char) : List Char :=
  if c = '"' then ['\\', '"']
  else if c = '\\' then ['\\', '\\']
  else if c = '\n' then ['\\', 'n']
  else if c = '\r' then ['\\', 'r']
  else if c = '\t' then ['\\', 't']
  else if c = '\x08' then ['\\', 'b']
  else if c = '\x0c' then ['\\', 'f']
  else if ' ' ≤ c ∧ c ≤ '~' then [c]
  else pointEscape c.toNat

/-- One code point of a string literal. -/
def escapePoint (n : Nat) : List Char :=
  if Text.isHalf n then unitEscape n else escape (Char.ofNat n)

/-- A string literal. -/
def literal (s : String) : List Char :=
  '"' :: (Text.codePoints s.toList).flatMap escapePoint ++ ['"']

/-- How JSON spells floating-point numbers. -/
def floatLayout : Decimal.Layout := ⟨-3, 16, 2⟩

/-- A floating-point number; the three that JSON does not know have names. -/
def floatText (x : Float) : List Char :=
  if x.isNaN then "NaN".toList
  else if x.isInf then if x < 0 then "-Infinity".toList else "Infinity".toList
  else (Decimal.ofFloat floatLayout x).toList

mutual

/-- The characters of a document. -/
def chars : Json → List Char
  | null => "null".toList
  | bool true => "true".toList
  | bool false => "false".toList
  | int n => Decimal.ofInt n
  | float x => floatText x
  | str s => literal s
  | arr [] => ['[', ']']
  | arr (v :: rest) => '[' :: v.chars ++ itemChars rest
  | obj [] => ['\x7b', '\x7d']
  | obj (f :: rest) => '\x7b' :: literal f.1 ++ ':' :: f.2.chars ++ fieldChars rest

/-- The further items of an array, each after a comma, and the closing bracket. -/
def itemChars : List Json → List Char
  | [] => [']']
  | v :: rest => ',' :: v.chars ++ itemChars rest

/-- The further fields of an object, each after a comma, and the closing brace. -/
def fieldChars : List (String × Json) → List Char
  | [] => ['\x7d']
  | f :: rest => ',' :: literal f.1 ++ ':' :: f.2.chars ++ fieldChars rest

end

/-- The text of a document. -/
def print (v : Json) : String := .ofList v.chars

end CommandCompiler.Json
