import CommandCompiler.Decimal.Digits
import CommandCompiler.Decimal.Numeral
import CommandCompiler.Text.Utf8
import CommandCompiler.Yaml.Cursor
import CommandCompiler.Yaml.Fault
import CommandCompiler.Yaml.Token
/-!
# CommandCompiler.Yaml.Token.Property

Anchors, aliases, tags and directives.

* `nameToken` : the name of an anchor or an alias;
* `tagUri`, `tagHandle`, `tagToken` : tags;
* `directiveToken` : directives, with the rest of their lines.
-/

namespace CommandCompiler.Yaml

/-- Goes on only if the text ends here or the next character is of a class. -/
def require (p : Char → Bool) (c : Cursor) : Except Fault Unit :=
  if c.atEndOr p then .ok () else .error .token

/-- A space or a line break. -/
def isSpaceOrBreak (c : Char) : Bool := c == ' ' || isBreak c

/-- Characters that may follow the name of an anchor. -/
def isAfterName (c : Char) : Bool := isBlankOrBreak c || "?:,]\x7d%@\x60".toList.contains c

/-- The name of an anchor or an alias, after its indicator. -/
def nameToken (make : String → Token) (c : Cursor) : Except Fault (Token × Cursor) := do
  let (name, c) := c.takeWhile isNameChar
  if name = [] then .error .token
  else
    require isAfterName c
    .ok (make (.ofList name), c)

/-- Characters that may stand in a tag, the percent sign of escapes included. -/
def isUriChar (c : Char) : Bool :=
  c.isAlphanum || "-;/?:@&=+$,_.!~*'()[]%".toList.contains c

/-- The bytes of consecutive percent escapes. The fuel bounds their number. -/
def percentBytes : (fuel : Nat) → Cursor → Except Fault (List UInt8 × Cursor)
  | 0, c => .ok ([], c)
  | fuel + 1, c =>
    if c.atChar '%' then
      let digits := c.next.rest.take 2
      if digits.length = 2 ∧ digits.all Text.Hex.isDigit then
        (fun p => (.ofNat (Text.Hex.value digits) :: p.1, p.2)) <$>
          percentBytes fuel (c.advance 3)
      else .error .token
    else .ok ([], c)

/-- The text of a tag from here on. Escapes spell UTF-8. The fuel bounds the number of parts. -/
def uriText : (fuel : Nat) → Cursor → Except Fault (List Char × Cursor)
  | 0, c => .ok ([], c)
  | fuel + 1, c =>
    if c.atChar '%' then
      match percentBytes (c.rest.length + 1) c with
      | .error e => .error e
      | .ok (bytes, c) =>
        match Text.Utf8.decode bytes with
        | .error _ => .error .token
        | .ok s => (fun p => (s.toList ++ p.1, p.2)) <$> uriText fuel c
    else
      let (run, c) := c.takeWhile fun ch => isUriChar ch && ch != '%'
      if run = [] then .ok ([], c) else (fun p => (run ++ p.1, p.2)) <$> uriText fuel c

/-- The text of a tag, which is not empty. -/
def tagUri (c : Cursor) : Except Fault (String × Cursor) :=
  if c.isAt isUriChar then
    (fun p => (.ofList p.1, p.2)) <$> uriText (c.rest.length + 1) c
  else .error .token

/-- A handle: one exclamation mark, or a name between two. -/
def tagHandle (c : Cursor) : Except Fault (String × Cursor) :=
  if !c.atChar '!' then .error .token
  else if c.next.atChar ' ' then .ok ("!", c.next)
  else
    let (name, c') := c.next.takeWhile isNameChar
    if c'.atChar '!' then .ok (.ofList ('!' :: name ++ ['!']), c'.next) else .error .token

/-- Whether a tag has a second exclamation mark, so that it starts with a named handle. -/
def hasNamedHandle (c : Cursor) : Bool :=
  ((c.rest.drop 1).takeWhile fun ch => !isSpaceOrBreak ch).contains '!'

/-- A tag: in angle brackets as it is, an exclamation mark alone, or a handle and what it stands
before. -/
def tagToken (c : Cursor) : Except Fault (Token × Cursor) := do
  let (token, c) ←
    if c.next.atChar '<' then do
      let (uri, c) ← tagUri (c.advance 2)
      if c.atChar '>' then pure (Token.tag none uri, c.next) else .error .token
    else if c.next.atEndOr isBlankOrBreak then pure (Token.tag none "!", c.next)
    else do
      let (handle, c) ← if hasNamedHandle c then tagHandle c else pure ("!", c.next)
      let (uri, c) ← tagUri c
      pure (Token.tag (some handle) uri, c)
  require isSpaceOrBreak c
  .ok (token, c)

/-- A number in a directive. It is no longer than other numbers may be. -/
def directiveNumber (c : Cursor) : Except Fault (Nat × Cursor) :=
  let (digits, c) := c.takeWhile Decimal.isDigit
  if digits = [] then .error .token
  else if Decimal.Numeral.mostDigits < digits.length then
    .error (.scalar (.tooManyDigits digits.length))
  else .ok (Decimal.toNat digits, c)

/-- Goes over spaces. -/
def skipSpaces (c : Cursor) : Cursor := c.skipWhile (· == ' ')

/-- A version: two numbers with a point between them. -/
def versionDirective (c : Cursor) : Except Fault (Directive × Cursor) := do
  let (major, c) ← directiveNumber (skipSpaces c)
  if !c.atChar '.' then .error .token
  else
    let (minor, c) ← directiveNumber c.next
    require isSpaceOrBreak c
    .ok (.version major minor, c)

/-- A handle and the text it stands for. -/
def tagDirective (c : Cursor) : Except Fault (Directive × Cursor) := do
  let (handle, c) ← tagHandle (skipSpaces c)
  if !c.atChar ' ' then .error .token
  else
    let (start, c) ← tagUri (skipSpaces c)
    require isSpaceOrBreak c
    .ok (.tagHandle handle start, c)

/-- A directive after its indicator, with the rest of its line. -/
def directiveToken (c : Cursor) : Except Fault (Token × Cursor) := do
  let (name, c) := c.takeWhile isNameChar
  if name = [] then .error .token
  else
    require isSpaceOrBreak c
    let (directive, c) ←
      match String.ofList name with
      | "YAML" => versionDirective c
      | "TAG" => tagDirective c
      | _ => pure (.other, c.skipWhile fun ch => !isBreak ch)
    let c := (skipSpaces c).skipComment
    require isBreak c
    .ok (.directive directive, c.lineBreak.2)

end CommandCompiler.Yaml
