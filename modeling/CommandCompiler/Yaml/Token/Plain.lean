import CommandCompiler.Yaml.Cursor
/-!
# CommandCompiler.Yaml.Token.Plain

Scalars without quotes.

* `plainRun` : the characters up to the next blank or indicator;
* `plainGap` : the blanks and line breaks between two runs;
* `plainScalar` : a whole scalar.

A scalar goes on over blanks and line breaks as long as the next line is
indented enough and starts neither a comment nor a document. A single line break
becomes a space, and of several the first disappears.
-/

namespace CommandCompiler.Yaml

/-- Indicators that end a plain scalar inside brackets. -/
def isFlowIndicator (c : Char) : Bool :=
  c == ',' || c == '?' || c == '[' || c == ']' || c == '\x7b' || c == '\x7d'

/-- Whether a colon before this text separates a key from its value. -/
def endsKey (inFlow : Bool) : List Char → Bool
  | [] => true
  | c :: _ => isBlankOrBreak c || (inFlow && isFlowIndicator c && c != '?')

/-- The longest run without a blank or an indicator. -/
def plainRun (inFlow : Bool) : List Char → List Char
  | [] => []
  | c :: cs =>
    if isBlankOrBreak c || (c == ':' && endsKey inFlow cs) || (inFlow && isFlowIndicator c) then []
    else c :: plainRun inFlow cs

/-- What stands between two runs: the text it becomes, if the scalar may go on, the place after it,
and whether a line has ended. -/
structure PlainGap where
  text : Option (List Char)
  after : Cursor
  endsLine : Bool

/-- The line breaks of the empty lines from here on; none if a line starts or ends a document. The
fuel bounds the number of characters. -/
def plainBreaks : (fuel : Nat) → Cursor → Option (List Char) × Cursor
  | 0, c => (some [], c)
  | fuel + 1, c =>
    if c.atChar ' ' then plainBreaks fuel c.next
    else
      match c.lineBreak with
      | (none, c) => (some [], c)
      | (some b, c) =>
        if c.atSeparator then (none, c)
        else
          let (breaks, c) := plainBreaks fuel c
          (breaks.map (b :: ·), c)

/-- The gap at a place. -/
def plainGap (c : Cursor) : PlainGap :=
  let (blanks, c) := c.takeWhile (· == ' ')
  match c.lineBreak with
  | (none, c) => ⟨some blanks, c, false⟩
  | (some b, c) =>
    if c.atSeparator then ⟨none, c, true⟩
    else
      let (breaks, c) := plainBreaks (c.rest.length + 1) c
      let text := breaks.map fun breaks =>
        if b ≠ '\n' then b :: breaks else if breaks = [] then [' '] else breaks
      ⟨text, c, true⟩

/-- A plain scalar, the place after it and after the blanks that follow it, and whether a line has
ended there. -/
structure PlainScalar where
  text : List Char
  after : Cursor
  endsLine : Bool

/-- A plain scalar from here on. `gap` is the text between what has been read and this place. The
fuel bounds the number of runs. -/
def plainText (inFlow : Bool) (indent : Nat) (gap : List Char) (endsLine : Bool) :
    (fuel : Nat) → Cursor → PlainScalar
  | 0, c => ⟨[], c, endsLine⟩
  | fuel + 1, c =>
    let run := plainRun inFlow c.rest
    if c.atChar '#' || run.isEmpty then ⟨[], c, endsLine⟩
    else
      let next := plainGap (c.advance run.length)
      let text := gap ++ run
      match next.text with
      | none | some [] => ⟨text, next.after, next.endsLine⟩
      | some gap' =>
        if next.after.atChar '#' || (!inFlow && next.after.column < indent) then
          ⟨text, next.after, next.endsLine⟩
        else
          let rest := plainText inFlow indent gap' next.endsLine fuel next.after
          ⟨text ++ rest.text, rest.after, rest.endsLine⟩

/-- A plain scalar whose further lines are indented by at least `indent`. -/
def plainScalar (inFlow : Bool) (indent : Nat) (c : Cursor) : PlainScalar :=
  plainText inFlow indent [] false (c.rest.length + 1) c

end CommandCompiler.Yaml
