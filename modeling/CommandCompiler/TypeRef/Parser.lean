import CommandCompiler.Text.Quoted
import CommandCompiler.TypeRef
import CommandCompiler.TypeRef.Token
/-!
# CommandCompiler.TypeRef.Parser

From the text of a type expression to the type:

    type   ::= word | word '<' type (',' type)* '>'

where a word alone is a primitive type or a named type, and a word with
parameters is `Optional` (or `Option`), `List` or `Map` with as many parameters
as it takes.

* `TypeRef.Fault`, `TypeRef.Fault.message` : what can be wrong with a text;
* `TypeRef.tokenize` : the tokens of a text;
* `TypeRef.ofTokens` : one type at the front of a list of tokens;
* `TypeRef.parse` : the type that a text spells.

The nesting of parameters is limited. The limit is the argument on which
`ofTokens` recurses: each `<` on the way to a type spends one level, and the
types beside each other in one parameter list all start from the same number.
-/

namespace CommandCompiler.TypeRef

/-- How many parameter lists may stand inside one another. -/
def maxDepth : Nat := 32

/-- What can be wrong with a type expression. -/
inductive Fault
  | unexpectedCharacter (c : Char)
  | empty
  | unexpectedEnd
  | expectedName (found : TypeToken)
  | expectedClose (found : TypeToken)
  | trailing (found : TypeToken)
  | missingParameters (name : String)
  | wrongArity (name : String) (takes found : Nat)
  | unknownGeneric (name : String)
  | tooDeep
  deriving Repr, DecidableEq

/-- The report on a fault in `text`. -/
def Fault.message (text : String) : Fault → String
  | unexpectedCharacter c =>
    s!"Unexpected character {Text.quote (Text.withGuarded c text)} in type '{text}'"
  | empty => "Empty type expression"
  | unexpectedEnd => s!"Unexpected end of type expression '{text}'"
  | expectedName found => s!"Expected a type name in '{text}', got {Text.quote found.text}"
  | expectedClose found => s!"Expected '>' in '{text}', got {Text.quote found.text}"
  | trailing found => s!"Unexpected {Text.quote found.text} after type in '{text}'"
  | missingParameters name => s!"'{name}' requires type parameters in '{text}'"
  | wrongArity name takes found =>
    s!"'{name}' takes {takes} type parameter(s), got {found} in '{text}'"
  | unknownGeneric name => s!"Unknown generic type '{name}' in '{text}'"
  | tooDeep => s!"Type expression nested more than {maxDepth} levels deep"

/-- The tokens of a text, of which there must be some. -/
def tokenize (s : String) : Except Fault (List TypeToken) :=
  match TypeToken.scan s with
  | .error c => .error (.unexpectedCharacter c)
  | .ok [] => .error .empty
  | .ok ts => .ok ts

/-- The two spellings of the wrapper of a value that may be absent. -/
def isOptionalWord (w : String) : Bool := w == "Optional" || w == "Option"

/-- Words that mean nothing without parameters. -/
def isGenericWord (w : String) : Bool := isOptionalWord w || w == "List" || w == "Map"

/-- The type that a word without parameters spells. -/
def ofWord (w : String) : Except Fault TypeRef :=
  match Primitive.ofName? w with
  | some p => .ok (primitive p)
  | none => if isGenericWord w then .error (.missingParameters w) else .ok (named w)

/-- The type that a word with parameters spells. -/
def ofGeneric (w : String) (params : List TypeRef) : Except Fault TypeRef :=
  if isOptionalWord w then
    match params with
    | [t] => .ok (optional t)
    | _ => .error (.wrongArity w 1 params.length)
  else if w = "List" then
    match params with
    | [t] => .ok (list t)
    | _ => .error (.wrongArity w 1 params.length)
  else if w = "Map" then
    match params with
    | [k, v] => .ok (map k v)
    | _ => .error (.wrongArity w 2 params.length)
  else .error (.unknownGeneric w)

/-- One item or more, separated by commas. The fuel bounds the number of tokens that are left, so
that nothing is left to read where it ends. -/
def commaSeparated (item : List TypeToken → Except Fault (TypeRef × List TypeToken)) :
    (fuel : Nat) → List TypeToken → Except Fault (List TypeRef × List TypeToken)
  | 0, _ => .error .unexpectedEnd
  | fuel + 1, ts =>
    match item ts with
    | .error e => .error e
    | .ok (t, .comma :: rest) =>
      match commaSeparated item fuel rest with
      | .error e => .error e
      | .ok (more, rest') => .ok (t :: more, rest')
    | .ok (t, rest) => .ok ([t], rest)

/-- A closing bracket, and what follows it. -/
def expectClose : List TypeToken → Except Fault (List TypeToken)
  | [] => .error .unexpectedEnd
  | .closeAngle :: rest => .ok rest
  | t :: _ => .error (.expectedClose t)

/-- Reads one type at the front of the tokens, in which at most `levels` parameter lists stand
inside one another, and gives back the tokens after it. -/
def ofTokens (levels : Nat) (ts : List TypeToken) : Except Fault (TypeRef × List TypeToken) :=
  match ts with
  | [] => .error .unexpectedEnd
  | .word w :: .openAngle :: rest =>
    match levels with
    | 0 => .error .tooDeep
    | levels + 1 =>
      match commaSeparated (ofTokens levels) rest.length rest with
      | .error e => .error e
      | .ok (params, rest') =>
        match expectClose rest' with
        | .error e => .error e
        | .ok rest'' => (·, rest'') <$> ofGeneric w params
  | .word w :: rest => (·, rest) <$> ofWord w
  | t :: _ => .error (.expectedName t)

/-- A type that all of the tokens spell. -/
def ofAllTokens (ts : List TypeToken) : Except Fault TypeRef :=
  match ofTokens maxDepth ts with
  | .error e => .error e
  | .ok (t, []) => .ok t
  | .ok (_, extra :: _) => .error (.trailing extra)

/-- The type that a text spells. -/
def parse (s : String) : Except Fault TypeRef := (tokenize s).bind ofAllTokens

end CommandCompiler.TypeRef
