import CommandCompiler.Text.Blank
import CommandCompiler.Text.Identifier
/-!
# CommandCompiler.TypeRef.Token

The tokens of a type expression: words, angle brackets and commas. A word is a
maximal run of ASCII letters, digits and underscores, and does not start with a
digit; blanks separate words and mean nothing otherwise.

* `TypeToken`, `TypeToken.text` : the tokens and how each is written;
* `TypeToken.scan` : the tokens of a text, or the first character that belongs
  to none.
-/

namespace CommandCompiler

/-- A token of a type expression. -/
inductive TypeToken
  | word (w : String)
  | openAngle
  | closeAngle
  | comma
  deriving Repr, DecidableEq, Inhabited

namespace TypeToken

/-- How a token is written. -/
def text : TypeToken → String
  | word w => w
  | openAngle => "<"
  | closeAngle => ">"
  | comma => ","

/-- The token that a single character is. -/
def symbol? (c : Char) : Option TypeToken :=
  if c = '<' then some openAngle
  else if c = '>' then some closeAngle
  else if c = ',' then some comma
  else none

/-- Puts the word that ends here, if there is one, before further tokens. -/
def endWord (w : List Char) (rest : List TypeToken) : List TypeToken :=
  if w = [] then rest else word (.ofList w) :: rest

/-- The tokens of `w ++ cs`, where the word `w` has been read and may go on. A digit may go on a
word but not start one. The error is the first character that belongs to no token. -/
def scanFrom (w : List Char) : List Char → Except Char (List TypeToken)
  | [] => .ok (endWord w [])
  | c :: cs =>
    if Text.isWordChar c then
      if w = [] ∧ ¬ Text.isWordStart c then .error c else scanFrom (w ++ [c]) cs
    else if Text.isBlank c then endWord w <$> scanFrom [] cs
    else match symbol? c with
      | some t => (fun ts => endWord w (t :: ts)) <$> scanFrom [] cs
      | none => .error c

/-- The tokens of a text. -/
def scan (s : String) : Except Char (List TypeToken) := scanFrom [] s.toList

end TypeToken

end CommandCompiler
