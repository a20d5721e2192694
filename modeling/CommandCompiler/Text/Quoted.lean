import CommandCompiler.Text.CodePoint
import CommandCompiler.Text.Hex
import CommandCompiler.Text.Printable
/-!
# CommandCompiler.Text.Quoted

Quoted text for messages: a string or a sequence of bytes between quotes, with
every character that cannot be seen spelled as an escape.

* `delimiter` : single quotes, unless the text holds a single quote and no
  double quote;
* `quote` : a quoted string;
* `quoteBytes` : quoted bytes, marked by a leading `b`;
* `escapeHalves` : a text for the outside, with escapes for its halves.
-/

namespace CommandCompiler.Text

/-- Single quotes are used unless that would cost an escape which double quotes
avoid. -/
def delimiter (cs : List Char) : Char :=
  if cs.contains '\'' && !cs.contains '"' then '"' else '\''

/-- The escapes that have a letter of their own, and the escaped delimiter and
backslash. -/
def namedEscape? (mark c : Char) : Option (List Char) :=
  if c = '\\' ∨ c = mark then some ['\\', c]
  else if c = '\n' then some ['\\', 'n']
  else if c = '\r' then some ['\\', 'r']
  else if c = '\t' then some ['\\', 't']
  else none

/-- The shortest of the three numeric escapes that holds the code point. -/
def numericEscape (n : Nat) : List Char :=
  if n < 0x100 then '\\' :: 'x' :: Hex.fixed 2 n
  else if n < 0x10000 then '\\' :: 'u' :: Hex.fixed 4 n
  else '\\' :: 'U' :: Hex.fixed 8 n

/-- One character of a quoted string. -/
def quoteChar (mark c : Char) : List Char :=
  (namedEscape? mark c).getD (if isPrintable c then [c] else numericEscape c.toNat)

/-- One code point of a quoted string. -/
def quotePoint (mark : Char) (n : Nat) : List Char :=
  if isHalf n then numericEscape n else quoteChar mark (Char.ofNat n)

/-- A string between quotes. -/
def quote (s : String) : String :=
  let mark := delimiter s.toList
  .ofList (mark :: (codePoints s.toList).flatMap (quotePoint mark) ++ [mark])

/-- A byte as the character with the same number. -/
def latin (b : UInt8) : Char := Char.ofNat b.toNat

/-- One byte of quoted bytes: only ASCII characters are shown as they are. -/
def quoteByte (mark : Char) (b : UInt8) : List Char :=
  (namedEscape? mark (latin b)).getD
    (if 0x20 ≤ b.toNat ∧ b.toNat ≤ 0x7E then [latin b] else numericEscape b.toNat)

/-- Bytes between quotes, after a `b`. -/
def quoteBytes (bs : List UInt8) : String :=
  let mark := delimiter (bs.map latin)
  .ofList ('b' :: mark :: bs.flatMap (quoteByte mark) ++ [mark])

/-- A text for the outside, with escapes for the halves of surrogate pairs. -/
def escapeHalves (s : String) : String :=
  .ofList ((codePoints s.toList).flatMap fun n =>
    if isHalf n then numericEscape n else [Char.ofNat n])

end CommandCompiler.Text
