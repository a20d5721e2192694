import CommandCompiler.Decimal.Numeral
import CommandCompiler.Decimal.Shortest
import CommandCompiler.Text.Quoted
import CommandCompiler.Value
/-!
# CommandCompiler.Value.Display

Values in messages.

* `Value.display?` : a value as a literal, with quoted text inside;
* `Value.sentence` : a sentence about a value;
* `Value.keyText` : a mapping key as it stands in the path of a finding, where
  text is not quoted;
* `Value.subscriptFault` : what is said when a value that is no mapping is asked
  for a member.

A whole number with very many digits is not written out, and nothing that holds
one is.
-/

namespace CommandCompiler

/-- Numbers are written positionally from 0.0001 up to, but not including, 10 ^ 16. -/
def Value.floatLayout : Decimal.Layout := ⟨-3, 16, 2⟩

/-- Texts joined by a comma and a blank. -/
def commaJoined : List String → String
  | [] => ""
  | [s] => s
  | s :: rest => s ++ ", " ++ commaJoined rest

namespace Value

mutual

/-- A value as a literal, if all whole numbers in it are written. -/
def display? : Value → Option String
  | null => some "None"
  | bool true => some "True"
  | bool false => some "False"
  | int n => (Decimal.Numeral.write? n).map .ofList
  | float x => some (Decimal.ofFloat floatLayout x)
  | str s => some (Text.quote s)
  | bytes bs => some (Text.quoteBytes bs)
  | moment m => some m.display
  | list items => (displayItems? items).map fun shown => "[" ++ commaJoined shown ++ "]"
  | set [] => some "set()"
  | set members => (displayItems? members).map fun shown => "\x7b" ++ commaJoined shown ++ "\x7d"
  | mapping entries _ =>
    (displayEntries? entries).map fun shown => "\x7b" ++ commaJoined shown ++ "\x7d"

/-- The literals of several values. -/
def displayItems? : List Value → Option (List String)
  | [] => some []
  | v :: rest =>
    match v.display?, displayItems? rest with
    | some shown, some others => some (shown :: others)
    | _, _ => none

/-- The literals of several entries, with a colon between key and value. -/
def displayEntries? : List (Value × Value) → Option (List String)
  | [] => some []
  | (k, v) :: rest =>
    match k.display?, v.display?, displayEntries? rest with
    | some key, some shown, some others => some ((key ++ ": " ++ shown) :: others)
    | _, _, _ => none

end

/-- A sentence about a value. About a value without a literal only the reason for that is said. -/
def sentence (v : Value) (words : String → String) : String :=
  match v.display? with
  | some shown => words shown
  | none => Decimal.Numeral.unwrittenText

/-- A mapping key as it stands in the path of a finding. -/
def keyText : Value → String
  | str s => s
  | v => v.display?.getD s!"<unprintable {v.typeName} object>"

/-- What is said when a value that is no mapping is asked for a member. -/
def subscriptFault : Value → String
  | list _ => "list indices must be integers or slices, not str"
  | str _ => "string indices must be integers, not 'str'"
  | bytes _ => "byte indices must be integers or slices, not str"
  | v =>
    let kind := v.typeName
    s!"'{kind}' object is not subscriptable"

end Value

end CommandCompiler
