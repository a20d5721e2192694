import CommandCompiler.Text.Identifier.Table
/-!
# CommandCompiler.Text.Identifier

Names that may stand as a field or a class of a typed command.

* `isIdentifier` : the default identifiers of Unicode (UAX 31), with `_` as a
  further start character;
* `isName` : an identifier that is not a keyword;
* `isWordChar`, `isWordStart` : the ASCII part of the same classes.

The ASCII part is written out, so that a fact about ASCII names never unfolds
the table.
-/

namespace CommandCompiler.Text

/-- Whether `n` lies in one of the inclusive ranges. -/
def inRanges (ranges : List (Nat × Nat)) (n : Nat) : Bool :=
  ranges.any fun r => r.1 ≤ n && n ≤ r.2

/-- ASCII letters and the underscore. -/
def isWordStart (c : Char) : Bool := c.isAlpha || c == '_'

/-- ASCII letters, digits and the underscore. -/
def isWordChar (c : Char) : Bool := c.isAlphanum || c == '_'

/-- Characters that may start an identifier. -/
def isIdentifierStart (c : Char) : Bool :=
  isWordStart c || (0x80 ≤ c.toNat && inRanges Identifier.startRanges c.toNat)

/-- Characters that may follow in an identifier. -/
def isIdentifierChar (c : Char) : Bool :=
  isWordChar c || isIdentifierStart c ||
    (0x80 ≤ c.toNat && inRanges Identifier.continueRanges c.toNat)

/-- A start character, then any number of further characters. -/
def isIdentifier (s : String) : Bool :=
  match s.toList with
  | [] => false
  | c :: cs => isIdentifierStart c && cs.all isIdentifierChar

/-- The words that no field and no class may have as its name. -/
def keywords : List String :=
  ["False", "None", "True", "and", "as", "assert", "async", "await", "break", "class",
   "continue", "def", "del", "elif", "else", "except", "finally", "for", "from", "global",
   "if", "import", "in", "is", "lambda", "nonlocal", "not", "or", "pass", "raise",
   "return", "try", "while", "with", "yield"]

/-- An identifier that is not a keyword. -/
def isName (s : String) : Bool := isIdentifier s && !keywords.contains s

/-- Every character that may start an identifier may also follow in one. -/
theorem isIdentifierChar_of_start {c : Char} (h : isIdentifierStart c) :
    isIdentifierChar c := by
  simp [isIdentifierChar, h]

end CommandCompiler.Text
