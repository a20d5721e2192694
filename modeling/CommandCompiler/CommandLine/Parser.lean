import CommandCompiler.CommandLine.Word
import CommandCompiler.Text.Quoted
/-!
# CommandCompiler.CommandLine.Parser

From the words of a command line to what the program is asked to do.

* `Request`, `Invocation` : what can be asked for;
* `Words`, `parseWords` : the words of one command;
* `parse` : a whole command line.

The operands of a command are taken at the first place where there are any. What
is left over is collected, and only the program itself reports it, because a
subcommand does not know what else was left over.
-/

namespace CommandCompiler.CommandLine

/-! ## What can be asked for -/

/-- What a subcommand is asked to do. -/
inductive Request
  | check (path : String)
  | signatures (schema : String) (output : Option String)
  deriving Repr, DecidableEq

/-- What the program is asked to do. Without a request it explains itself. -/
structure Invocation where
  verbose : Bool
  request : Option Request
  deriving Repr, DecidableEq

/-- What the words of one command have said. -/
structure Words where
  verbose : Bool := false
  output : Option String := none
  /-- The operands, once they have been taken, with the separator if it stands among them. -/
  operands : Option (List String) := none
  /-- What the command does not know. -/
  leftOver : List String := []
  deriving Repr, DecidableEq

/-! ## Operands -/

/-- The operands at the front of some words, and what follows them. There is at most one
separator, and after it there are no options. -/
def takeOperands (arity : Arity) (words : List Word) : Option (List String × List Word) :=
  match arity, words with
  | .rest, .operand _ :: _ | .rest, .separator :: .operand _ :: _ =>
    some (words.map Word.text, [])
  | .rest, _ => none
  | _, .operand a :: .separator :: rest => some ([a, Word.separatorText], rest)
  | _, .operand a :: rest => some ([a], rest)
  | _, .separator :: .operand a :: rest => some ([Word.separatorText, a], rest)
  | .one, _ => none
  | .atMostOne, .separator :: rest => some ([Word.separatorText], rest)
  | .atMostOne, rest => some ([], rest)

/-! ## Options -/

/-- A report on an option. -/
def optionMisuse {α : Type} (g : Grammar) (o : OptionSpec) (message : String) : Except Stop α :=
  .error (.misuse g s!"argument {o.label}: {message}")

/-- An option with something attached to it. Short options without a value may be joined, so that
what is attached to one of them names the next. -/
def attach (g : Grammar) (o : OptionSpec) (short : Bool) :
    List Char → Except Stop (List (OptionSpec × Option String))
  | [] => if o.takesValue then .ok [(o, some "")] else refused []
  | c :: cs =>
    if o.takesValue then .ok [(o, some (.ofList (c :: cs)))]
    else
      match short, g.optionNamed? (.ofList ['-', c]), cs with
      | true, some next, [] => .ok [(o, none), (next, none)]
      | true, some next, d :: ds => ((o, none) :: ·) <$> attach g next true (d :: ds)
      | _, _, _ => refused (c :: cs)
where
  refused (attached : List Char) : Except Stop (List (OptionSpec × Option String)) :=
    optionMisuse g o s!"ignored explicit argument {Text.quote (.ofList attached)}"

/-- The options that one word stands for, with their values. -/
def expand (g : Grammar) (o : OptionSpec) (short : Bool) :
    Option String → Except Stop (List (OptionSpec × Option String))
  | none => .ok [(o, none)]
  | some attached => attach g o short attached.toList

/-- Supplies the last option of a word with the value in the next word, if it needs one. -/
def supply (g : Grammar) (rest : List Word) :
    List (OptionSpec × Option String) →
      Except Stop (List (OptionSpec × Option String) × List Word)
  | [] => .ok ([], rest)
  | (o, value) :: more =>
    if o.takesValue && value.isNone then
      match rest with
      | .operand v :: rest => .ok ((o, some v) :: more, rest)
      | _ => optionMisuse g o "expected one argument"
    else (fun p => ((o, value) :: p.1, p.2)) <$> supply g rest more

/-- Notes an option. -/
def Words.note (g : Grammar) (w : Words) (o : OptionSpec × Option String) : Except Stop Words :=
  match o.1.kind with
  | .help => .error (.help g)
  | .verbose => .ok { w with verbose := true }
  | .output => .ok { w with output := o.2 }

/-! ## Commands -/

/-- Notes what is left over. -/
def Words.leave (w : Words) (words : List Word) : Words :=
  { w with leftOver := w.leftOver ++ words.map Word.text }

/-- Takes the operands at the front of some words, unless they have been taken before. -/
def Words.takeOperands? (w : Words) (g : Grammar) (words : List Word) :
    Option (Words × List Word) :=
  if w.operands.isSome then none
  else (takeOperands g.arity words).map fun p => ({ w with operands := some p.1 }, p.2)

/-- Reads words. The fuel bounds their number. -/
def parseWords (g : Grammar) : (fuel : Nat) → Words → List Word → Except Stop Words
  | 0, w, words => .ok (w.leave words)
  | fuel + 1, w, words =>
    match words with
    | .unknown text :: rest => parseWords g fuel (w.leave [.unknown text]) rest
    | .option _ o short attached :: rest => do
      let (given, rest) ← supply g rest (← expand g o short attached)
      let w ← given.foldlM (Words.note g) w
      parseWords g fuel w rest
    | _ =>
      match w.takeOperands? g words with
      | some (w, rest) =>
        if rest.any Word.isOption then parseWords g fuel w rest else .ok (w.leave rest)
      | none =>
        let (extra, rest) := words.span fun word => !word.isOption
        if rest = [] then .ok (w.leave extra) else parseWords g fuel (w.leave extra) rest

/-- Reads the words of one command. An operand that must be there must be there. -/
def parseCommand (g : Grammar) (args : List String) : Except Stop Words := do
  let words ← Word.classifyAll g args
  let w ← parseWords g (words.length + 1) {} words
  if g.arity = .one ∧ w.operands.isNone then
    .error (.misuse g s!"the following arguments are required: {g.operand}")
  else .ok w

/-- The operand, without the separator. -/
def Words.operand? (w : Words) : Option String :=
  ((w.operands.getD []).erase Word.separatorText).head?

/-- The subcommands. -/
def commandNames : List String := ["check", "signatures"]

/-- A subcommand and what it is asked to do. -/
def parseRequest (name : String) (args : List String) : Except Stop (Request × List String) :=
  match name with
  | "check" => do
    let w ← parseCommand .check args
    return (.check (w.operand?.getD "."), w.leftOver)
  | "signatures" => do
    let w ← parseCommand .signatures args
    return (.signatures (w.operand?.getD "") w.output, w.leftOver)
  | _ =>
    let choices := ", ".intercalate (commandNames.map Text.quote)
    .error (.misuse .program
      s!"argument COMMAND: invalid choice: {Text.quote name} (choose from {choices})")

/-- What a command line asks for. -/
def parse (args : List String) : Except Stop Invocation := do
  let w ← parseCommand .program args
  let (request, leftOver) ←
    match w.operands with
    | some (name :: args) => (fun p => (some p.1, w.leftOver ++ p.2)) <$> parseRequest name args
    | _ => pure (none, w.leftOver)
  if leftOver = [] then return { verbose := w.verbose, request }
  else
    let words := " ".intercalate leftOver
    .error (.misuse .program s!"unrecognized arguments: {words}")

end CommandCompiler.CommandLine
