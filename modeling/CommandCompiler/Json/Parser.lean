import CommandCompiler.Decimal.Reading
import CommandCompiler.Decimal.Numeral
import CommandCompiler.Json
import CommandCompiler.Text.CodePoint
import CommandCompiler.Text.Hex
/-!
# CommandCompiler.Json.Parser

Reading JSON text.

* `Json.FaultKind`, `Json.Fault` : what is wrong, and where;
* `Json.stringBody`, `Json.number` : string literals and numbers;
* `Json.value`, `Json.parse` : documents;
* `Json.Fault.message` : the report, with line and column.

Besides the numbers of the standard, `NaN`, `Infinity` and `-Infinity` are
accepted. A place in the text is known by the number of characters that are left
there, so that no function has to count how far it has come.
-/

namespace CommandCompiler.Json

/-- What can be wrong with a text. -/
inductive FaultKind
  /-- The text starts with a byte order mark. -/
  | byteOrderMark
  | expectingValue
  | expectingName
  | expectingColon
  | expectingComma
  | extraData
  | unterminatedString
  | controlCharacter
  | badEscape
  | badUnicodeEscape
  /-- A whole number with more digits than are read. -/
  | tooManyDigits (count : Nat)
  /-- An array or an object inside too many others. -/
  | tooDeep (isArray : Bool)
  deriving Repr, DecidableEq

/-- The wording of a kind of fault. -/
def FaultKind.text : FaultKind → String
  | byteOrderMark => "Unexpected UTF-8 BOM (decode using utf-8-sig)"
  | expectingValue => "Expecting value"
  | expectingName => "Expecting property name enclosed in double quotes"
  | expectingColon => "Expecting ':' delimiter"
  | expectingComma => "Expecting ',' delimiter"
  | extraData => "Extra data"
  | unterminatedString => "Unterminated string starting at"
  | controlCharacter => "Invalid control character at"
  | badEscape => "Invalid \\escape"
  | badUnicodeEscape => "Invalid \\uXXXX escape"
  | tooManyDigits count => Decimal.Numeral.tooLongText count
  | tooDeep isArray =>
    let what := if isArray then "array" else "object"
    s!"maximum recursion depth exceeded while decoding a JSON {what} from a unicode string"

/-- Whether a fault of some kind is told with its place. -/
def FaultKind.isPlaced : FaultKind → Bool
  | tooManyDigits _ | tooDeep _ => false
  | _ => true

/-- Something wrong where `left` characters of the text are left. -/
structure Fault where
  kind : FaultKind
  left : Nat
  deriving Repr, DecidableEq

/-- A fault at the front of `rest`. -/
def faultAt {α : Type} (kind : FaultKind) (rest : List Char) : Except Fault α :=
  .error ⟨kind, rest.length⟩

/-- The characters that may stand between tokens. -/
def isSpace (c : Char) : Bool := c == ' ' || c == '\t' || c == '\n' || c == '\r'

/-- A text without the blanks at its front. -/
def skipSpace (cs : List Char) : List Char := cs.dropWhile isSpace

/-- The character of an escape that has a letter of its own. -/
def namedEscape? (c : Char) : Option Char :=
  match c with
  | '"' => some '"'
  | '\\' => some '\\'
  | '/' => some '/'
  | 'b' => some '\x08'
  | 'f' => some '\x0c'
  | 'n' => some '\n'
  | 'r' => some '\r'
  | 't' => some '\t'
  | _ => none

/-- The code unit of four hexadecimal digits. -/
def unit? (a b c d : Char) : Option Nat :=
  if [a, b, c, d].all Text.Hex.isDigit then some (Text.Hex.value [a, b, c, d]) else none

/-- Whether a code unit is the first half of a surrogate pair. -/
def isHigh (n : Nat) : Bool := 0xD800 ≤ n && n ≤ 0xDBFF

/-- Whether a code unit is the second half of a surrogate pair. -/
def isLow (n : Nat) : Bool := 0xDC00 ≤ n && n ≤ 0xDFFF

/-- The code point of a surrogate pair. -/
def pairPoint (high low : Nat) : Nat := 0x10000 + (high - 0xD800) * 0x400 + (low - 0xDC00)

/-- Puts a code point before the rest of a string. Half a surrogate pair may stand alone. -/
def consPoint (n : Nat) (r : Except Fault (List Char × List Char)) :
    Except Fault (List Char × List Char) :=
  (fun p => (Text.hold n ++ p.1, p.2)) <$> r

/-- Reads a string literal after its opening quote, where `opening` characters are left, and gives
back its content and what follows the closing quote. A text that ends right after the four digits
of an escape is told so as a fault of the escape. -/
def stringBody (opening : Nat) : List Char → Except Fault (List Char × List Char)
  | [] => .error ⟨.unterminatedString, opening⟩
  | '"' :: rest => .ok ([], rest)
  | ['\\'] => .error ⟨.unterminatedString, opening⟩
  | '\\' :: 'u' :: a :: b :: c :: d :: '\\' :: 'u' :: a' :: b' :: c' :: d' :: e :: rest =>
    match unit? a b c d with
    | none => .error ⟨.badUnicodeEscape, rest.length + 12⟩
    | some n =>
      if isHigh n then
        match unit? a' b' c' d' with
        | none => .error ⟨.badUnicodeEscape, rest.length + 6⟩
        | some m =>
          if isLow m then consPoint (pairPoint n m) (stringBody opening (e :: rest))
          else
            consPoint n
              (stringBody opening ('\\' :: 'u' :: a' :: b' :: c' :: d' :: e :: rest))
      else
        consPoint n
          (stringBody opening ('\\' :: 'u' :: a' :: b' :: c' :: d' :: e :: rest))
  | '\\' :: 'u' :: a :: b :: c :: d :: e :: rest =>
    match unit? a b c d with
    | none => .error ⟨.badUnicodeEscape, rest.length + 6⟩
    | some n => consPoint n (stringBody opening (e :: rest))
  | '\\' :: 'u' :: rest => .error ⟨.badUnicodeEscape, rest.length + 1⟩
  | '\\' :: c :: rest =>
    match namedEscape? c with
    | some x => consPoint x.toNat (stringBody opening rest)
    | none => .error ⟨.badEscape, rest.length + 2⟩
  | c :: rest =>
    if c.toNat < 0x20 then .error ⟨.controlCharacter, rest.length + 1⟩
    else (fun p => (c :: p.1, p.2)) <$> stringBody opening rest

/-- The digits at the front of a text, and what follows them. -/
def spanDigits (cs : List Char) : List Char × List Char := cs.span Decimal.isDigit

/-- The whole part of a number: a zero, or digits that do not start with one. -/
def wholePart? : List Char → Option (List Char × List Char)
  | '0' :: rest => some (['0'], rest)
  | cs =>
    match spanDigits cs with
    | ([], _) => none
    | digits => some digits

/-- The fraction of a number, if there is one: a point and at least one digit. -/
def fractionPart (cs : List Char) : List Char × List Char :=
  match cs with
  | '.' :: rest =>
    match spanDigits rest with
    | ([], _) => ([], cs)
    | digits => digits
  | _ => ([], cs)

/-- The exponent of a number, if there is one: a letter, perhaps a sign, and at least one digit. -/
def exponentPart (cs : List Char) : Option Int × List Char :=
  let signed (negative : Bool) (rest : List Char) : Option Int × List Char :=
    match spanDigits rest with
    | ([], _) => (none, cs)
    | (digits, rest') =>
      let n := Int.ofNat (Decimal.toNat digits)
      (some (if negative then -n else n), rest')
  match cs with
  | c :: '-' :: rest => if c == 'e' || c == 'E' then signed true rest else (none, cs)
  | c :: '+' :: rest => if c == 'e' || c == 'E' then signed false rest else (none, cs)
  | c :: rest => if c == 'e' || c == 'E' then signed false rest else (none, cs)
  | [] => (none, [])

/-- A number without its sign. Without fraction and exponent it is an integer. -/
def magnitude? (negative : Bool) (cs : List Char) : Option (Json × List Char) :=
  match wholePart? cs with
  | none => none
  | some (whole, rest) =>
    let (fraction, rest) := fractionPart rest
    let (exponent, rest) := exponentPart rest
    if fraction = [] ∧ exponent = none then
      let n := Int.ofNat (Decimal.toNat whole)
      some (.int (if negative then -n else n), rest)
    else
      some (.float (Decimal.Spelling.toFloat ⟨negative, whole, fraction, exponent.getD 0⟩), rest)

/-- A number. -/
def number? : List Char → Option (Json × List Char)
  | '-' :: rest => magnitude? true rest
  | cs => magnitude? false cs

/-- How many digits the whole part of a number has. -/
def wholeDigits : List Char → Nat
  | '-' :: rest => ((wholePart? rest).map (·.1.length)).getD 0
  | cs => ((wholePart? cs).map (·.1.length)).getD 0

/-- A number that is not longer than numbers may be. -/
def number (cs : List Char) : Except Fault (Json × List Char) :=
  match number? cs with
  | none => faultAt .expectingValue cs
  | some (.int n, rest) =>
    if Decimal.Numeral.mostDigits < wholeDigits cs then faultAt (.tooManyDigits (wholeDigits cs)) cs
    else .ok (.int n, rest)
  | some r => .ok r

/-- What follows a word at the front of a text. -/
def afterWord? : (word cs : List Char) → Option (List Char)
  | [], cs => some cs
  | _ :: _, [] => none
  | w :: word, c :: cs => if w = c then afterWord? word cs else none

/-- The values that have names. -/
def namedValues : List (String × Json) :=
  [("null", .null), ("true", .bool true), ("false", .bool false), ("NaN", .float (0 / 0)),
   ("Infinity", .float (1 / 0)), ("-Infinity", .float (-(1 / 0)))]

/-- A value that is not an object, an array or a string. -/
def scalar (cs : List Char) : Except Fault (Json × List Char) :=
  match namedValues.findSome? fun w => (afterWord? w.1.toList cs).map (w.2, ·) with
  | some r => .ok r
  | none => number cs

/-- How many arrays and objects may stand inside one another. -/
def deepest : Nat := 991

mutual

/-- Reads a value at the front of the text, and gives back what follows it. It may hold arrays and
objects to a depth of `room`, itself counted. Entering one takes two units of fuel and one
character. -/
def value (fuel room : Nat) (cs : List Char) : Except Fault (Json × List Char) :=
  match fuel, room, cs with
  | 0, _, cs => faultAt .expectingValue cs
  | _ + 1, _, '"' :: rest =>
    (fun p => (.str (.ofList p.1), p.2)) <$> stringBody (rest.length + 1) rest
  | _ + 1, 0, '[' :: rest => faultAt (.tooDeep true) rest
  | fuel + 1, room + 1, '[' :: rest =>
    match skipSpace rest with
    | ']' :: rest' => .ok (.arr [], rest')
    | rest' => (fun p => (.arr p.1, p.2)) <$> items fuel room rest'
  | _ + 1, 0, '\x7b' :: rest => faultAt (.tooDeep false) rest
  | fuel + 1, room + 1, '\x7b' :: rest =>
    match skipSpace rest with
    | '\x7d' :: rest' => .ok (.obj [], rest')
    | rest' => (fun p => (ofFields p.1, p.2)) <$> fields fuel room rest'
  | _ + 1, _, cs => scalar cs

/-- Reads the items of an array, from the first one to the closing bracket. -/
def items (fuel room : Nat) (cs : List Char) : Except Fault (List Json × List Char) :=
  match fuel with
  | 0 => faultAt .expectingValue cs
  | fuel + 1 =>
    match value fuel room cs with
    | .error e => .error e
    | .ok (v, rest) =>
      match skipSpace rest with
      | ']' :: rest' => .ok ([v], rest')
      | ',' :: rest' => (fun p => (v :: p.1, p.2)) <$> items fuel room (skipSpace rest')
      | rest' => faultAt .expectingComma rest'

/-- Reads the fields of an object, from the first one to the closing brace. -/
def fields (fuel room : Nat) (cs : List Char) :
    Except Fault (List (String × Json) × List Char) :=
  match fuel, cs with
  | 0, cs => faultAt .expectingName cs
  | fuel + 1, '"' :: cs =>
    match stringBody (cs.length + 1) cs with
    | .error e => .error e
    | .ok (name, rest) =>
      match skipSpace rest with
      | ':' :: rest' =>
        match value fuel room (skipSpace rest') with
        | .error e => .error e
        | .ok (v, rest) =>
          match skipSpace rest with
          | '\x7d' :: rest' => .ok ([(.ofList name, v)], rest')
          | ',' :: rest' =>
            (fun p => ((.ofList name, v) :: p.1, p.2)) <$> fields fuel room (skipSpace rest')
          | rest' => faultAt .expectingComma rest'
      | rest' => faultAt .expectingColon rest'
  | _ + 1, cs => faultAt .expectingName cs

end

/-- Reads a document. Two units of fuel for each character, and one more, are enough, because no
call goes deeper without a character in between. -/
def parse (text : String) : Except Fault Json :=
  match text.toList with
  | '\uFEFF' :: rest => .error ⟨.byteOrderMark, rest.length + 1⟩
  | cs =>
    match value (2 * cs.length + 1) deepest (skipSpace cs) with
    | .error e => .error e
    | .ok (v, rest) =>
      match skipSpace rest with
      | [] => .ok v
      | rest' => faultAt .extraData rest'

/-- The report on a fault in a text. Lines and columns count from one, the position from zero, and
all count code points. -/
def Fault.message (text : String) (e : Fault) : String :=
  if e.kind.isPlaced then
    let before := Text.codePoints (text.toList.take (text.toList.length - e.left))
    let position := before.length
    let line := before.count '\n'.toNat + 1
    let column := (before.reverse.takeWhile (· != '\n'.toNat)).length + 1
    s!"{e.kind.text}: line {line} column {column} (char {position})"
  else e.kind.text

end CommandCompiler.Json
