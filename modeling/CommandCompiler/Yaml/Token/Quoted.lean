import CommandCompiler.Text.CodePoint
import CommandCompiler.Text.Hex
import CommandCompiler.Yaml.Cursor
import CommandCompiler.Yaml.Fault
/-!
# CommandCompiler.Yaml.Token.Quoted

Scalars between quotes.

* `letterEscape?`, `numericEscape?`, `escapedText` : the escapes of double quotes;
* `foldedBreaks` : line breaks inside a scalar;
* `quotedScalar` : a whole scalar.

A single line break inside the quotes becomes a space, and of several the first
disappears. Blanks around line breaks do not count. In double quotes a backslash
before a line break makes it disappear.
-/

namespace CommandCompiler.Yaml

/-- The character of an escape with a letter of its own. -/
def letterEscape? (c : Char) : Option Char :=
  [('0', '\x00'), ('a', '\x07'), ('b', '\x08'), ('t', '\t'), ('\t', '\t'), ('n', '\n'),
   ('v', '\x0b'), ('f', '\x0c'), ('r', '\r'), ('e', '\x1b'), (' ', ' '), ('"', '"'),
   ('\\', '\\'), ('/', '/'), ('N', '\u0085'), ('_', '\u00a0'), ('L', '\u2028'),
   ('P', '\u2029')].lookup c

/-- How many hexadecimal digits follow the letter of a numeric escape. -/
def escapeWidth? (c : Char) : Option Nat := [('x', 2), ('u', 4), ('U', 8)].lookup c

/-- The number of a numeric escape after the backslash, and the place after it. -/
def numericEscape? (c : Cursor) : Option (Nat × Cursor) := do
  let width ← c.peek.bind escapeWidth?
  let digits := c.next.rest.take width
  if digits.length = width ∧ digits.all Text.Hex.isDigit then
    some (Text.Hex.value digits, c.next.advance width)
  else none

/-- The text of an escaped number, which may be half a surrogate pair. Two halves side by side stay
two. -/
def escapedText (n : Nat) : Except Fault (List Char) :=
  if 0x80000000 ≤ n then .error (.scalar .hugeCodePoint)
  else if 0x110000 ≤ n then .error (.scalar .notCodePoint)
  else .ok (Text.hold n)

/-- The line breaks of the empty lines from here on, without the blanks at the front of lines. A
line that starts or ends a document must not come before the closing quote. The fuel bounds the
number of lines. -/
def foldedBreaks : (fuel : Nat) → Cursor → Except Fault (List Char × Cursor)
  | 0, c => .ok ([], c)
  | fuel + 1, c =>
    if c.atSeparator then .error .token
    else
      let c := c.skipWhile isSpaceOrTab
      match c.lineBreak with
      | (some b, c) => (fun p => (b :: p.1, p.2)) <$> foldedBreaks fuel c
      | (none, c) => .ok ([], c)

/-- The text of a line break inside a scalar and of the empty lines after it. -/
def foldLine (c : Cursor) : Except Fault (List Char × Cursor) :=
  match c.lineBreak with
  | (none, c) => .ok ([], c)
  | (some b, c) =>
    match foldedBreaks (c.rest.length + 1) c with
    | .error e => .error e
    | .ok (breaks, c) =>
      .ok (if b ≠ '\n' then (b :: breaks, c) else if breaks = [] then ([' '], c) else (breaks, c))

/-- One escape of double quotes, after the backslash. -/
def escapeSequence (c : Cursor) : Except Fault (List Char × Cursor) :=
  match c.peek with
  | none => .error .token
  | some ch =>
    match letterEscape? ch, numericEscape? c with
    | some x, _ => .ok ([x], c.next)
    | none, some (n, after) => (fun part => (part, after)) <$> escapedText n
    | none, none =>
      if isBreak ch then
        let c := c.lineBreak.2
        foldedBreaks (c.rest.length + 1) c
      else .error .token

/-- The text of a scalar after its opening quote, and the place after the closing one. The fuel
bounds the length of the text. -/
def quotedText (double : Bool) : (fuel : Nat) → Cursor → Except Fault (List Char × Cursor)
  | 0, _ => .error .token
  | fuel + 1, c =>
    let mark := if double then '"' else '\''
    let continueWith (part : List Char) (c : Cursor) :=
      (fun p => (part ++ p.1, p.2)) <$> quotedText double fuel c
    match c.peek with
    | none => .error .token
    | some ch =>
      if ch == mark then
        if !double && c.next.atChar mark then continueWith [mark] (c.advance 2)
        else .ok ([], c.next)
      else if double && ch == '\\' then
        match escapeSequence c.next with
        | .error e => .error e
        | .ok (part, c) => continueWith part c
      else if isBlankOrBreak ch then
        let (blanks, c) := c.takeWhile isSpaceOrTab
        match c.peek with
        | none => .error .token
        | some ch =>
          if isBreak ch then
            match foldLine c with
            | .error e => .error e
            | .ok (part, c) => continueWith part c
          else continueWith blanks c
      else continueWith [ch] c.next

/-- A scalar between quotes, after the opening one. -/
def quotedScalar (double : Bool) (c : Cursor) : Except Fault (String × Cursor) :=
  (fun p => (.ofList p.1, p.2)) <$> quotedText double (c.rest.length + 1) c

end CommandCompiler.Yaml
