/-!
# CommandCompiler.Text.Blank

Blank characters: what may surround a command name and what may stand between
the tokens of a type expression. One class serves both, so trimming a text and
skipping blanks inside it never disagree about where a word starts.

* `isBlank` : the characters with a bidirectional type of separator, or the
  `White_Space` property, of Unicode;
* `dropBlanks` : a text without its leading blanks;
* `trim` : a text without the blanks at both ends.
-/

namespace CommandCompiler.Text

/-- Blank characters. The four information separators U+001C to U+001F are
among them; the zero-width space U+200B and the byte order mark are not. -/
def isBlank (c : Char) : Bool :=
  let n := c.toNat
  (0x09 ≤ n && n ≤ 0x0D) || (0x1C ≤ n && n ≤ 0x20) || n == 0x85 || n == 0xA0 ||
  n == 0x1680 || (0x2000 ≤ n && n ≤ 0x200A) || n == 0x2028 || n == 0x2029 ||
  n == 0x202F || n == 0x205F || n == 0x3000

/-- A text without its leading blanks. -/
def dropBlanks (cs : List Char) : List Char := cs.dropWhile isBlank

/-- A text without the blanks at its end. -/
def dropTrailingBlanks (cs : List Char) : List Char := (dropBlanks cs.reverse).reverse

/-- A text without the blanks at both ends. -/
def trim (s : String) : String := .ofList (dropTrailingBlanks (dropBlanks s.toList))

/-- Every character that core calls white space is blank. -/
theorem isBlank_of_isWhitespace {c : Char} (h : c.isWhitespace) : isBlank c := by
  simp only [Char.isWhitespace, Bool.or_eq_true, decide_eq_true_eq] at h
  rcases h with ((rfl | rfl) | rfl) | rfl <;> decide

end CommandCompiler.Text
