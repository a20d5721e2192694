import CommandCompiler.Decimal.Numeral
import CommandCompiler.Moment
import CommandCompiler.Text.Quoted
/-!
# CommandCompiler.Yaml.Fault

What can be wrong with a YAML document.

* `Yaml.ScalarFault` : a scalar that its tag cannot be applied to;
* `Yaml.Level` : everything else, by the level at which it shows;
* `Yaml.Fault` : either;
* `Yaml.stepRoom` : how deep what stands inside something else is followed.
-/

namespace CommandCompiler.Yaml

/-- A scalar that its tag, or its escapes, promise more of than it holds. -/
inductive ScalarFault
  /-- Digits of a base were expected. -/
  | notInteger (base : Nat) (text : String)
  /-- More decimal digits than are read. -/
  | tooManyDigits (count : Nat)
  | notFloat (text : String)
  /-- So many places in base sixty that the first of them is worth more than any finite number. -/
  | tooManyPlaces
  | notBool (text : String)
  /-- A number was expected, and there is not even a sign or a digit. -/
  | emptyNumber
  | notTimestamp
  /-- A time was expected, and it stands for a whole mapping. -/
  | timestampInMapping
  /-- Deeper than is followed: collections inside one another, mappings that are merged into one
  another, or mappings that stand for their values. -/
  | tooDeep
  | yearOutOfRange (year : Nat)
  | monthOutOfRange
  | dayOutOfRange
  | hourOutOfRange
  | minuteOutOfRange
  | secondOutOfRange
  /-- A time zone a day or more away, given in minutes. -/
  | offsetOutOfRange (minutes : Int)
  /-- An escape for a number that is no code point. -/
  | notCodePoint
  /-- An escape for a number that does not even fit 32 bits with a sign. -/
  | hugeCodePoint
  deriving Repr, DecidableEq

/-- The level at which something is wrong with a document. -/
inductive Level
  /-- A control character where only printable text may stand. -/
  | character
  /-- Characters that form no token. -/
  | token
  /-- Tokens that form no document. -/
  | grammar
  /-- A name that refers to nothing or to two things, or a second document. -/
  | reference
  /-- A node that its tag cannot be applied to. -/
  | content
  deriving Repr, DecidableEq

/-- What can be wrong with a document. -/
inductive Fault
  | document (level : Level)
  | scalar (fault : ScalarFault)
  deriving Repr, DecidableEq

/-- How many steps into one another are followed. A collection inside another one takes two of them,
a mapping that is merged or that stands for its value takes one. -/
def stepRoom : Nat := 980

namespace Fault

@[match_pattern] abbrev character : Fault := .document .character

@[match_pattern] abbrev token : Fault := .document .token

@[match_pattern] abbrev grammar : Fault := .document .grammar

@[match_pattern] abbrev reference : Fault := .document .reference

@[match_pattern] abbrev content : Fault := .document .content

end Fault

namespace ScalarFault

/-- The wording of a fault. -/
def message : ScalarFault → String
  | notInteger base text =>
    let shown := String.ofList ((Text.quote text).toList.take 200)
    s!"invalid literal for int() with base {base}: {shown}"
  | tooManyDigits count => Decimal.Numeral.tooLongText count
  | notFloat text => s!"could not convert string to float: {Text.quote text}"
  | tooManyPlaces => "int too large to convert to float"
  | notBool text => Text.quote text
  | emptyNumber => "string index out of range"
  | notTimestamp => "'NoneType' object has no attribute 'groupdict'"
  | timestampInMapping => "expected string or bytes-like object, got 'list'"
  | tooDeep => "maximum recursion depth exceeded"
  | yearOutOfRange year => s!"year {year} is out of range"
  | monthOutOfRange => "month must be in 1..12"
  | dayOutOfRange => "day is out of range for month"
  | hourOutOfRange => "hour must be in 0..23"
  | minuteOutOfRange => "minute must be in 0..59"
  | secondOutOfRange => "second must be in 0..59"
  | offsetOutOfRange minutes =>
    "offset must be a timedelta strictly between -timedelta(hours=24) and " ++
    s!"timedelta(hours=24), not {Clock.spanText minutes}."
  | notCodePoint => "chr() arg not in range(0x110000)"
  | hugeCodePoint => "Python int too large to convert to C int"

end ScalarFault

end CommandCompiler.Yaml
