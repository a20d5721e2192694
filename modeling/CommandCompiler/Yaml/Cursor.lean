import CommandCompiler.Text.CodePoint
/-!
# CommandCompiler.Yaml.Cursor

A place in the text of a document, with its line and column.

* character classes: line breaks, blanks, and what may stand in a document;
* `Cursor` : the text that is left, and where it starts;
* `Cursor.next`, `advance`, `takeWhile`, `lineBreak` : going forward.

The column counts the characters since the last line break; a byte order mark
does not count. What guards a character counts with it.
-/

namespace CommandCompiler.Yaml

/-- Characters that end a line. A carriage return and a line feed after it end one line. -/
def isBreak (c : Char) : Bool :=
  c == '\n' || c == '\r' || c == '\u0085' || c == '\u2028' || c == '\u2029'

/-- The space and the tab. -/
def isSpaceOrTab (c : Char) : Bool := c == ' ' || c == '\t'

/-- Spaces, tabs and line breaks. -/
def isBlankOrBreak (c : Char) : Bool := isSpaceOrTab c || isBreak c

/-- Characters that may stand in a document: no controls except the tab and line breaks, and no
noncharacters at the end of the first plane. -/
def isAllowed (c : Char) : Bool :=
  let n := c.toNat
  n == 0x09 || n == 0x0A || n == 0x0D || (0x20 ≤ n && n ≤ 0x7E) || n == 0x85 ||
  (0xA0 ≤ n && n ≤ 0xD7FF) || (0xE000 ≤ n && n ≤ 0xFFFD) || 0x10000 ≤ n

/-- Characters of the names of anchors, directives and tag handles. -/
def isNameChar (c : Char) : Bool := c.isAlphanum || c == '-' || c == '_'

/-- A place in a text: what is left of it, how many characters and lines lie before, and the
column. -/
structure Cursor where
  rest : List Char
  index : Nat := 0
  line : Nat := 0
  column : Nat := 0
  deriving Repr

namespace Cursor

/-- The next character, if there is one. -/
def peek (c : Cursor) : Option Char := c.rest.head?

/-- One character further. -/
def next (c : Cursor) : Cursor :=
  match c.rest with
  | [] => c
  | ch :: rest =>
    let endsLine := isBreak ch && !(ch == '\r' && rest.head? == some '\n')
    { rest, index := if ch == Text.guardChar then c.index else c.index + 1
      line := if endsLine then c.line + 1 else c.line
      column := if endsLine then 0 else if ch == '\uFEFF' then c.column else c.column + 1 }

/-- Several characters further. -/
def advance (c : Cursor) : Nat → Cursor
  | 0 => c
  | n + 1 => c.next.advance n

/-- The longest run of characters of a class, and the place after it. -/
def takeWhile (c : Cursor) (p : Char → Bool) : List Char × Cursor :=
  let run := c.rest.takeWhile p
  (run, c.advance run.length)

/-- The place after the longest run of characters of a class. -/
def skipWhile (c : Cursor) (p : Char → Bool) : Cursor := (c.takeWhile p).2

/-- Goes over a line break, if there is one. The separators of lines and paragraphs stay what they
are, all other breaks become a line feed. -/
def lineBreak (c : Cursor) : Option Char × Cursor :=
  match c.rest with
  | '\r' :: '\n' :: _ => (some '\n', c.advance 2)
  | ch :: _ =>
    if ch == '\u2028' || ch == '\u2029' then (some ch, c.next)
    else if isBreak ch then (some '\n', c.next)
    else (none, c)
  | [] => (none, c)

/-- Whether the text ends here or the next character is of a class. -/
def atEndOr (c : Cursor) (p : Char → Bool) : Bool :=
  match c.peek with
  | none => true
  | some ch => p ch

/-- Whether the next character is of a class. -/
def isAt (c : Cursor) (p : Char → Bool) : Bool :=
  match c.peek with
  | none => false
  | some ch => p ch

/-- Whether the next character is this one. -/
def atChar (c : Cursor) (ch : Char) : Bool := c.peek == some ch

/-- Whether a line with the marker of the start or the end of a document begins here. -/
def atDocumentMarker (c : Cursor) (mark : Char) : Bool :=
  c.rest.take 3 == [mark, mark, mark] && (c.advance 3).atEndOr isBlankOrBreak

/-- Whether a line that starts or ends a document begins here. -/
def atSeparator (c : Cursor) : Bool := c.atDocumentMarker '-' || c.atDocumentMarker '.'

/-- Goes over a comment, if there is one. -/
def skipComment (c : Cursor) : Cursor :=
  if c.atChar '#' then c.skipWhile fun ch => !isBreak ch else c

end Cursor

end CommandCompiler.Yaml
