import CommandCompiler.Text.Identifier
import CommandCompiler.Text.Lower.Table
/-!
# CommandCompiler.Text.Lower

Texts in lower case, by the full rules of Unicode.

* `isCased`, `isCaseIgnorable` : what decides whether a word goes on;
* `lowerChar` : the lower case of a character by itself;
* `lower` : the lower case of a text.

Only one letter depends on what stands around it: a capital sigma has a form of
its own at the end of a word.
-/

namespace CommandCompiler.Text

/-- Whether a character has a case and counts where one is looked for. -/
def isCased (c : Char) : Bool :=
  c.isAlpha || (0x80 ≤ c.toNat && inRanges Lower.casedRanges c.toNat)

/-- Whether a character does not count where a case is looked for. -/
def isCaseIgnorable (c : Char) : Bool :=
  "'.:^\x60".toList.contains c || (0x80 ≤ c.toNat && inRanges Lower.ignorableRanges c.toNat)

/-- The lower case of a code point, if it is in a run. -/
def Lower.Run.lower? (r : Lower.Run) (n : Nat) : Option Nat :=
  if r.first ≤ n ∧ n ≤ r.last ∧ (n - r.first) % r.step = 0 then some (r.lower + (n - r.first))
  else none

/-- The lower case of a character by itself. The capital letter I with a dot keeps its dot. -/
def lowerChar (c : Char) : List Char :=
  if c.toNat < 0x80 then [c.toLower]
  else if c = 'İ' then ['i', '\u0307']
  else [((Lower.runs.findSome? (·.lower? c.toNat)).map Char.ofNat).getD c]

/-- Whether a word goes on with a text: its first character that counts has a case. -/
def startsCased (cs : List Char) : Bool := (cs.find? fun c => !isCaseIgnorable c).any isCased

/-- The lower case of a text. `inWord` says whether a word goes on with it. -/
def lowerFrom (inWord : Bool) : List Char → List Char
  | [] => []
  | c :: cs =>
    let lowered := if c = 'Σ' then [if inWord && !startsCased cs then 'ς' else 'σ'] else lowerChar c
    lowered ++ lowerFrom (if isCaseIgnorable c then inWord else isCased c) cs

/-- The lower case of a text. -/
def lower (s : String) : String := .ofList (lowerFrom false s.toList)

end CommandCompiler.Text
