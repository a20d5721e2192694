import CommandCompiler.Decimal.Digits
import CommandCompiler.Yaml.Cursor
import CommandCompiler.Yaml.Fault
/-!
# CommandCompiler.Yaml.Token.Block

Scalars that are blocks of indented lines, kept line by line or folded.

* `Chomping`, `blockHeader` : what follows the indicator on its line;
* `blockLines` : the lines themselves;
* `blockScalar` : a whole scalar.

The first line that is not empty sets the indentation, unless the header does.
-/

namespace CommandCompiler.Yaml

/-- What becomes of the line breaks at the end of a block. -/
inductive Chomping
  /-- One is kept. -/
  | clip
  /-- None is kept. -/
  | strip
  /-- All are kept. -/
  | keep
  deriving Repr, DecidableEq

/-- The indicator of chomping at a place. -/
def chompingAt (c : Cursor) : Option Chomping :=
  if c.atChar '+' then some .keep else if c.atChar '-' then some .strip else none

/-- The indicator of indentation at a place; zero is none. -/
def increment? (c : Cursor) : Except Fault (Option Nat) :=
  match c.peek with
  | some ch =>
    if Decimal.isDigit ch then
      if ch == '0' then .error .token else .ok (some (ch.toNat - 0x30))
    else .ok none
  | none => .ok none

/-- The two indicators in either order. -/
def blockIndicators (c : Cursor) : Except Fault (Chomping × Option Nat × Cursor) :=
  match chompingAt c with
  | some chomping => do
    match ← increment? c.next with
    | some n => .ok (chomping, some n, c.advance 2)
    | none => .ok (chomping, none, c.next)
  | none => do
    match ← increment? c with
    | none => .ok (.clip, none, c)
    | some n =>
      match chompingAt c.next with
      | some chomping => .ok (chomping, some n, c.advance 2)
      | none => .ok (.clip, some n, c.next)

/-- The header of a block, up to the end of its line. A comment may stand after the indicators. -/
def blockHeader (c : Cursor) : Except Fault (Chomping × Option Nat × Cursor) := do
  let (chomping, increment, c) ← blockIndicators c
  if !c.atEndOr (fun ch => ch == ' ' || isBreak ch) then .error .token
  else
    let c := (c.skipWhile (· == ' ')).skipComment
    if c.atEndOr isBreak then .ok (chomping, increment, c.lineBreak.2) else .error .token

/-- The line breaks before the first line with text, and the greatest column that blanks reach on
the way. The fuel bounds the number of characters. -/
def leadingBreaks (deepest : Nat) : (fuel : Nat) → Cursor → List Char × Nat × Cursor
  | 0, c => ([], deepest, c)
  | fuel + 1, c =>
    if c.atChar ' ' then leadingBreaks (max deepest c.next.column) fuel c.next
    else
      match c.lineBreak with
      | (none, c) => ([], deepest, c)
      | (some b, c) =>
        let (breaks, deepest, c) := leadingBreaks deepest fuel c
        (b :: breaks, deepest, c)

/-- Goes over blanks up to a column. -/
def skipIndent (indent : Nat) : (fuel : Nat) → Cursor → Cursor
  | 0, c => c
  | fuel + 1, c => if c.column < indent && c.atChar ' ' then skipIndent indent fuel c.next else c

/-- The line breaks of empty lines, up to a line that has text at a column or less. -/
def indentedBreaks (indent : Nat) : (fuel : Nat) → Cursor → List Char × Cursor
  | 0, c => ([], c)
  | fuel + 1, c =>
    match (skipIndent indent indent c).lineBreak with
    | (none, c) => ([], c)
    | (some b, c) =>
      let (breaks, c) := indentedBreaks indent fuel c
      (b :: breaks, c)

/-- How a block is read: its style, what becomes of its end, and its indentation. -/
structure BlockStyle where
  folded : Bool
  chomping : Chomping
  indent : Nat

/-- The end of a block, after the last line with text: its line break, and those of the empty lines
after it. -/
def BlockStyle.tail (s : BlockStyle) (last : Option Char) (breaks : List Char) : List Char :=
  match s.chomping with
  | .strip => []
  | .clip => last.toList
  | .keep => last.toList ++ breaks

/-- The lines of a block from here on. `breaks` are the line breaks of the empty lines before, and
`last` is the line break of the line before those. The fuel bounds the number of lines. -/
def blockLines (s : BlockStyle) (last : Option Char) (breaks : List Char) :
    (fuel : Nat) → Cursor → List Char × Cursor
  | 0, c => (s.tail last breaks, c)
  | fuel + 1, c =>
    if c.column = s.indent ∧ c.peek.isSome then
      let bare := !c.isAt isSpaceOrTab
      let (text, c) := c.takeWhile fun ch => !isBreak ch
      let (last', c) := c.lineBreak
      let (breaks', c) := indentedBreaks s.indent (c.rest.length + 1) c
      let more := c.column = s.indent ∧ c.peek.isSome
      let joint :=
        if ¬ more then []
        else if s.folded ∧ last' = some '\n' ∧ bare ∧ !c.isAt isSpaceOrTab then
          if breaks' = [] then [' '] else []
        else last'.toList
      let (rest, c) := blockLines s last' breaks' fuel c
      (breaks ++ text ++ joint ++ rest, c)
    else (s.tail last breaks, c)

/-- A block scalar after its indicator, inside a collection with the given indentation. -/
def blockScalar (folded : Bool) (parent : Int) (c : Cursor) : Except Fault (String × Cursor) := do
  let (chomping, increment, c) ← blockHeader c
  let least := max 1 (parent + 1).toNat
  let fuel := c.rest.length + 1
  let (indent, breaks, c) :=
    match increment with
    | none =>
      let (breaks, deepest, c) := leadingBreaks 0 fuel c
      (max least deepest, breaks, c)
    | some n =>
      let indent := least + n - 1
      let (breaks, c) := indentedBreaks indent fuel c
      (indent, breaks, c)
  let (text, c) := blockLines ⟨folded, chomping, indent⟩ none breaks fuel c
  .ok (.ofList text, c)

end CommandCompiler.Yaml
