import CommandCompiler.CommandLine.Grammar
import CommandCompiler.Text.Digit
/-!
# CommandCompiler.CommandLine.Word

The words of a command line, told apart.

* `Word` : options, operands, and the separator after which all words are
  operands;
* `Stop` : what ends the program before it has begun;
* `Word.classify`, `Word.classifyAll` : telling words apart.

A long option may be cut short as long as it stays unique, and its value may
follow an equals sign. The value of a short option may follow it at once.
-/

namespace CommandCompiler.CommandLine

/-- What ends the program before it has begun. -/
inductive Stop
  /-- The explanation of a command is asked for. -/
  | help (g : Grammar)
  /-- The words do not form a command. -/
  | misuse (g : Grammar) (message : String)
  deriving Repr, DecidableEq

/-- A word of a command line. -/
inductive Word
  | operand (text : String)
  | separator
  /-- An option, whether it was given by its short name, and what is attached to it. -/
  | option (text : String) (spec : OptionSpec) (short : Bool) (attached : Option String)
  /-- Something like an option that the command does not have. -/
  | unknown (text : String)
  deriving Repr, DecidableEq

namespace Word

/-- The separator as it is written. -/
def separatorText : String := "--"

/-- A word as it was given. -/
def text : Word → String
  | operand text | option text _ _ _ | unknown text => text
  | separator => separatorText

/-- Whether a word is an option or looks like one. -/
def isOption : Word → Bool
  | option .. | unknown _ => true
  | operand _ | separator => false

/-- Whether a text is a negative number, which is no option. A line feed at the end does not
count. -/
def isNegativeNumber (cs : List Char) : Bool :=
  let isDigit (c : Char) : Bool := (Text.decimalDigit? c).isSome
  match cs with
  | '-' :: rest =>
    let rest := if rest.getLast? = some '\n' then rest.dropLast else rest
    match rest.span isDigit with
    | (whole, []) => !whole.isEmpty
    | (_, '.' :: fraction) => !fraction.isEmpty && fraction.all isDigit
    | _ => false
  | _ => false

/-- A text before and after its first equals sign, if it has one. -/
def splitAtEquals (text : String) : String × Option String :=
  let (before, after) := text.toList.span (· ≠ '=')
  match after with
  | [] => (text, none)
  | _ :: attached => (.ofList before, some (.ofList attached))

/-- The options whose long names start with the name before an equals sign. -/
def abbreviated (g : Grammar) (text : String) : List (OptionSpec × Option String) :=
  let (name, attached) := splitAtEquals text
  (g.options.filter fun o => o.long.startsWith name).map (·, attached)

/-- The options that a text may mean that is not the name of one. -/
def candidates (g : Grammar) (text : String) : List (Word × String) :=
  match text.toList with
  | '-' :: '-' :: _ =>
    (abbreviated g text).map fun c => (.option text c.1 false c.2, c.1.long)
  | '-' :: c :: attached =>
    let short := String.ofList ['-', c]
    (g.options.filter fun o => o.short == short).map fun o =>
      (.option text o true (some (.ofList attached)), o.short)
  | _ => []

/-- The option that a text names in full, perhaps with something attached. -/
def named? (g : Grammar) (text : String) : Option Word :=
  let word (name : String) (attached : Option String) : Option Word :=
    (g.optionNamed? name).map fun o => .option text o (o.short == name) attached
  match word text none with
  | some w => some w
  | none =>
    match splitAtEquals text with
    | (name, some attached) => word name (some attached)
    | (_, none) => none

/-- What a word is. A dash alone, a negative number, and a text with a blank in it are operands
unless they name an option. -/
def classify (g : Grammar) (text : String) : Except Stop Word :=
  if !text.startsWith "-" || text.length = 1 then .ok (.operand text)
  else
    match named? g text, candidates g text with
    | some w, _ => .ok w
    | none, [c] => .ok c.1
    | none, [] =>
      if isNegativeNumber text.toList || text.toList.contains ' ' then .ok (.operand text)
      else .ok (.unknown text)
    | none, cs =>
      let names := ", ".intercalate (cs.map (·.2))
      .error (.misuse g s!"ambiguous option: {text} could match {names}")

/-- What the words of a command line are. -/
def classifyAll (g : Grammar) : List String → Except Stop (List Word)
  | [] => .ok []
  | text :: rest =>
    if text = separatorText then .ok (.separator :: rest.map .operand)
    else do
      let w ← classify g text
      return w :: (← classifyAll g rest)

end Word

end CommandCompiler.CommandLine
