import CommandCompiler.Decimal.Digits
import CommandCompiler.Text.Hex
import CommandCompiler.Yaml.Node
import CommandCompiler.Yaml.Timestamp
/-!
# CommandCompiler.Yaml.Node.Plain

What a scalar without a tag and without quotes is meant to be, by its text.

* `isIntText`, `isFloatText`, `isTimestampText` : the forms of numbers and times;
* `Tag.ofPlain` : the tag that a text speaks for.

A form is recognised by what it leaves of a text: each part takes what it can
from the front, and nothing may be left. A line feed at the end does not count.
-/

namespace CommandCompiler.Yaml

open Decimal (isDigit)

/-- A digit or the mark that groups digits. -/
def isGrouped (c : Char) : Bool := isDigit c || c == '_'

/-- A text without its sign. -/
def dropSign : List Char → List Char
  | '+' :: cs | '-' :: cs => cs
  | cs => cs

/-- Whether there is text, and all of it of a class. -/
def isAll (p : Char → Bool) (cs : List Char) : Bool := !cs.isEmpty && cs.all p

/-- Whether this is nothing, or the exponent of a number. Its sign must be there. -/
def isExponent : List Char → Bool
  | [] => true
  | e :: sign :: digits =>
    (e == 'e' || e == 'E') && (sign == '+' || sign == '-') && isAll isDigit digits
  | _ => false

/-- What is left after digits in base sixty, each after a colon. -/
def dropSixties : List Char → List Char
  | ':' :: tens :: ones :: rest =>
    if isDigit tens && tens ≤ '5' && isDigit ones then dropSixties rest
    else if isDigit tens then dropSixties (ones :: rest)
    else ':' :: tens :: ones :: rest
  | [':', ones] => if isDigit ones then [] else [':', ones]
  | cs => cs
termination_by cs => cs.length

/-- Whether a text, without its sign, is a whole number: binary, octal, hexadecimal, decimal, or in
base sixty. -/
def isWholeText : List Char → Bool
  | ['0'] => true
  | '0' :: 'b' :: cs => isAll (fun c => c == '0' || c == '1' || c == '_') cs
  | '0' :: 'x' :: cs => isAll (fun c => Text.Hex.isDigit c || c == '_') cs
  | '0' :: cs => isAll (fun c => ('0' ≤ c && c ≤ '7') || c == '_') cs
  | c :: cs => isDigit c && (dropSixties (cs.dropWhile isGrouped)).isEmpty
  | [] => false

/-- Whether a text is a whole number. -/
def isIntText (cs : List Char) : Bool := isWholeText (dropSign cs)

/-- Whether a text is a number with a point after its first digits, the last of them perhaps in
base sixty. -/
def isPointedText (cs : List Char) : Bool :=
  match cs with
  | c :: rest =>
    let rest := rest.dropWhile isGrouped
    isDigit c &&
      match dropSixties rest, rest with
      | '.' :: tail, '.' :: _ => isExponent (tail.dropWhile isGrouped)
      | '.' :: tail, _ => tail.all isGrouped
      | _, _ => false
  | [] => false

/-- Whether a text is a number that starts with its point. It has no sign. -/
def isFractionText : List Char → Bool
  | '.' :: c :: rest => isDigit c && isExponent (rest.dropWhile isGrouped)
  | _ => false

/-- Whether a text is a number with a point, or one of the words for what is no number. -/
def isFloatText (cs : List Char) : Bool :=
  isPointedText (dropSign cs) || isFractionText cs ||
  [".inf", ".Inf", ".INF"].contains (.ofList (dropSign cs)) ||
  [".nan", ".NaN", ".NAN"].contains (.ofList cs)

/-- Whether a text is a date, or a date and a time. A date alone has all its digits. -/
def isTimestampText (cs : List Char) : Bool :=
  match Timestamp.parse? cs with
  | none => false
  | some t => t.padded || t.time.isSome

/-- The words for truth values, in lower case. -/
def truthWords : List (String × Bool) :=
  [("yes", true), ("no", false), ("true", true), ("false", false), ("on", true), ("off", false)]

/-- A word in lower case, in upper case, and with a capital letter. -/
def casings (word : String) : List String := [word, word.toUpper, word.capitalize]

/-- A text without the line feed at its end. -/
def dropLastLineFeed (cs : List Char) : List Char :=
  if cs.getLast? = some '\n' then cs.dropLast else cs

/-- The tag that a text speaks for when nothing else says what it is. -/
def Tag.ofPlain (text : List Char) : Tag :=
  let cs := dropLastLineFeed text
  let word := String.ofList cs
  if text = [] then .null
  else if cs = [] then .str
  else if truthWords.any fun w => (casings w.1).contains word then .bool
  else if isFloatText cs then .float
  else if isIntText cs then .int
  else if word = "<<" then .merge
  else if word = "~" || (casings "null").contains word then .null
  else if isTimestampText cs then .timestamp
  else if word = "=" then .value
  else if ["!", "&", "*"].contains word then .other
  else .str

end CommandCompiler.Yaml
