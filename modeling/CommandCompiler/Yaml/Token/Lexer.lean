import CommandCompiler.Yaml.Token.Block
import CommandCompiler.Yaml.Token.Plain
import CommandCompiler.Yaml.Token.Property
import CommandCompiler.Yaml.Token.Quoted
/-!
# CommandCompiler.Yaml.Token.Lexer

From the text of a document to its tokens.

* `PendingKey`, `Lexer` : the state of reading;
* `Lexer.fetch` : the next token of the text;
* `Lexer.deliver`, `Token.scan` : the tokens in their final order.

Whether a scalar is the key of a mapping shows only at the colon after it. So a
token that may be a key stays in a queue until the colon comes, or until it
cannot come any more: a key stands on one line and is not longer than 1024
characters. If the text has a fault, the tokens before it are delivered all the
same, because they may have a fault of their own that comes first.
-/

namespace CommandCompiler.Yaml

/-! ## The state of reading -/

/-- A place where a key may have started: the number of its token, where it stands, and whether it
must turn out to be a key, because nothing else may stand there. -/
structure PendingKey where
  number : Nat
  required : Bool
  index : Nat
  line : Nat
  column : Nat
  deriving Repr

/-- The state of reading. -/
structure Lexer where
  cursor : Cursor
  /-- How many brackets are open. -/
  flowLevel : Nat := 0
  /-- Tokens that have been read and not delivered. -/
  queue : List Token := []
  /-- How many tokens have been delivered. -/
  delivered : Nat := 0
  /-- The column of the innermost block collection, and of those around it. -/
  indent : Int := -1
  outer : List Int := []
  /-- Whether a key may start here. -/
  keyAllowed : Bool := true
  /-- The pending keys, by the number of open brackets. -/
  pending : List (Nat × PendingKey) := []
  deriving Repr

namespace Lexer

/-- Whether a pending key cannot become a key any more. -/
def isStale (lx : Lexer) (k : PendingKey) : Bool :=
  k.line != lx.cursor.line || 1024 < lx.cursor.index - k.index

/-- Gives up the keys that cannot become keys any more. -/
def dropStale (lx : Lexer) : Except Fault Lexer :=
  if lx.pending.any fun p => lx.isStale p.2 && p.2.required then .error .token
  else .ok { lx with pending := lx.pending.filter fun p => !lx.isStale p.2 }

/-- Gives up the pending key inside the innermost brackets. -/
def dropKey (lx : Lexer) : Except Fault Lexer :=
  match lx.pending.lookup lx.flowLevel with
  | none => .ok lx
  | some k =>
    if k.required then .error .token
    else .ok { lx with pending := lx.pending.filter fun p => p.1 != lx.flowLevel }

/-- Notes that a key may start here, if it may. -/
def saveKey (lx : Lexer) : Except Fault Lexer := do
  if !lx.keyAllowed then .ok lx
  else
    let required := lx.flowLevel = 0 ∧ lx.indent = lx.cursor.column
    let lx ← lx.dropKey
    let key : PendingKey :=
      { number := lx.delivered + lx.queue.length, required, index := lx.cursor.index
        line := lx.cursor.line, column := lx.cursor.column }
    .ok { lx with pending := (lx.flowLevel, key) :: lx.pending }

/-- Adds a token at the end. -/
def push (lx : Lexer) (t : Token) : Lexer := { lx with queue := lx.queue ++ [t] }

/-- Puts a token before the one of a number. -/
def insertBefore (lx : Lexer) (number : Nat) (t : Token) : Lexer :=
  let n := number - lx.delivered
  { lx with queue := lx.queue.take n ++ t :: lx.queue.drop n }

/-- Closes the block collections that are indented further than a column. Brackets hide them. -/
def closeBlocks (column : Int) : (outer : List Int) → Lexer → Lexer
  | [], lx => lx
  | o :: outer, lx =>
    if column < lx.indent then
      closeBlocks column outer { lx.push .blockEnd with indent := o, outer }
    else lx

/-- Closes the block collections that are indented further than a column, outside brackets. -/
def unwind (lx : Lexer) (column : Int) : Lexer :=
  if lx.flowLevel = 0 then closeBlocks column lx.outer lx else lx

/-- Whether a collection that starts at a column is a new one, inside the innermost. -/
def isDeeper (lx : Lexer) (column : Nat) : Bool := lx.indent < column

/-- Makes a column the innermost indentation. -/
def enter (lx : Lexer) (column : Nat) : Lexer :=
  { lx with indent := column, outer := lx.indent :: lx.outer }

/-- Opens a block collection here, if there is none yet with this indentation. -/
def openBlock (lx : Lexer) (t : Token) : Lexer :=
  if lx.isDeeper lx.cursor.column then (lx.enter lx.cursor.column).push t else lx

/-- Goes over what stands between tokens. Outside brackets a key may start on a new line. The fuel
bounds the number of lines. -/
def skipToToken : (fuel : Nat) → Lexer → Lexer
  | 0, lx => lx
  | fuel + 1, lx =>
    let c := (skipSpaces lx.cursor).skipComment
    match c.lineBreak with
    | (none, c) => { lx with cursor := c }
    | (some _, c) =>
      skipToToken fuel { lx with cursor := c, keyAllowed := lx.keyAllowed || lx.flowLevel = 0 }

/-- Goes over a byte order mark at the very start. -/
def skipMark (lx : Lexer) : Lexer :=
  if lx.cursor.index = 0 ∧ lx.cursor.atChar '\uFEFF' then { lx with cursor := lx.cursor.next }
  else lx

/-- Reads an indicator of some characters as a token. -/
def indicator (lx : Lexer) (length : Nat) (t : Token) : Lexer :=
  { lx.push t with cursor := lx.cursor.advance length }

/-! ## Tokens, one by one -/

/-- The end of the text: all block collections end. -/
def fetchEnd (lx : Lexer) : Except Fault Lexer := do
  let lx ← (lx.unwind (-1)).dropKey
  .ok { lx.push .streamEnd with keyAllowed := false, pending := [] }

/-- A directive. -/
def fetchDirective (lx : Lexer) : Except Fault Lexer := do
  let lx ← (lx.unwind (-1)).dropKey
  let (t, c) ← directiveToken lx.cursor.next
  .ok { lx.push t with cursor := c, keyAllowed := false }

/-- The marker of the start or the end of a document. -/
def fetchMarker (lx : Lexer) (t : Token) : Except Fault Lexer := do
  let lx ← (lx.unwind (-1)).dropKey
  .ok { lx.indicator 3 t with keyAllowed := false }

/-- An opening bracket, which may start a key. -/
def fetchOpening (lx : Lexer) (t : Token) : Except Fault Lexer := do
  let lx ← lx.saveKey
  .ok { lx.indicator 1 t with flowLevel := lx.flowLevel + 1, keyAllowed := true }

/-- A closing bracket. -/
def fetchClosing (lx : Lexer) (t : Token) : Except Fault Lexer := do
  let lx ← lx.dropKey
  .ok { lx.indicator 1 t with flowLevel := lx.flowLevel - 1, keyAllowed := false }

/-- A comma between brackets. -/
def fetchComma (lx : Lexer) : Except Fault Lexer := do
  let lx ← { lx with keyAllowed := true }.dropKey
  .ok (lx.indicator 1 .flowEntry)

/-- The dash of a sequence entry, which may open a block sequence. -/
def fetchEntry (lx : Lexer) : Except Fault Lexer := do
  if lx.flowLevel = 0 ∧ !lx.keyAllowed then .error .token
  else
    let lx := if lx.flowLevel = 0 then lx.openBlock .blockSequenceStart else lx
    let lx ← { lx with keyAllowed := true }.dropKey
    .ok (lx.indicator 1 .blockEntry)

/-- The question mark of a key, which may open a block mapping. -/
def fetchKey (lx : Lexer) : Except Fault Lexer := do
  if lx.flowLevel = 0 ∧ !lx.keyAllowed then .error .token
  else
    let lx := if lx.flowLevel = 0 then lx.openBlock .blockMappingStart else lx
    let lx ← { lx with keyAllowed := lx.flowLevel = 0 }.dropKey
    .ok (lx.indicator 1 .key)

/-- The colon of a value. If a key is pending inside the innermost brackets, its token turns out to
be a key, which may open a block mapping. -/
def fetchValue (lx : Lexer) : Except Fault Lexer := do
  match lx.pending.lookup lx.flowLevel with
  | some k =>
    let lx := { lx with pending := lx.pending.filter fun p => p.1 != lx.flowLevel }
    let lx := lx.insertBefore k.number .key
    let lx :=
      if lx.flowLevel = 0 ∧ lx.isDeeper k.column then
        (lx.enter k.column).insertBefore k.number .blockMappingStart
      else lx
    .ok ({ lx with keyAllowed := false }.indicator 1 .value)
  | none =>
    if lx.flowLevel = 0 ∧ !lx.keyAllowed then .error .token
    else
      let lx := if lx.flowLevel = 0 then lx.openBlock .blockMappingStart else lx
      let lx ← { lx with keyAllowed := lx.flowLevel = 0 }.dropKey
      .ok (lx.indicator 1 .value)

/-- An anchor, an alias, a tag or a quoted scalar, each of which may start a key. -/
def fetchWith (lx : Lexer) (read : Cursor → Except Fault (Token × Cursor)) :
    Except Fault Lexer := do
  let lx ← lx.saveKey
  let (t, c) ← read lx.cursor
  .ok { lx.push t with cursor := c, keyAllowed := false }

/-- A quoted scalar as a token. -/
def quotedToken (double : Bool) (c : Cursor) : Except Fault (Token × Cursor) :=
  (fun p => (.scalar p.1 false, p.2)) <$> quotedScalar double c.next

/-- A block scalar. A key may start after it. -/
def fetchBlock (lx : Lexer) (folded : Bool) : Except Fault Lexer := do
  let lx ← { lx with keyAllowed := true }.dropKey
  let (text, c) ← blockScalar folded lx.indent lx.cursor.next
  .ok { lx.push (.scalar text false) with cursor := c }

/-- A plain scalar, which may start a key. A key may start after it if its line has ended. -/
def fetchPlain (lx : Lexer) : Except Fault Lexer := do
  let lx ← lx.saveKey
  let s := plainScalar (lx.flowLevel != 0) (lx.indent + 1).toNat lx.cursor
  .ok { lx.push (.scalar (.ofList s.text) true) with cursor := s.after, keyAllowed := s.endsLine }

/-- Whether a plain scalar may start with a character, whatever follows. -/
def startsPlain (c : Char) : Bool :=
  !isBlankOrBreak c && !"-?:,[]\x7b\x7d#&*!|>'\"%@\x60".toList.contains c

/-- Whether a plain scalar may start here: some indicators may, before something that is not
blank. -/
def atPlain (lx : Lexer) (c : Char) : Bool :=
  startsPlain c ||
    (!lx.cursor.next.atEndOr isBlankOrBreak &&
      (c == '-' || (lx.flowLevel == 0 && (c == '?' || c == ':'))))

/-- Reads the token that starts with a character. -/
def fetchAt (lx : Lexer) (ch : Char) : Except Fault Lexer :=
  let c := lx.cursor
  let inFlow := lx.flowLevel != 0
  let beforeBlank := c.next.atEndOr isBlankOrBreak
  if ch == '%' && c.column == 0 then lx.fetchDirective
  else if c.column == 0 && c.atDocumentMarker '-' then lx.fetchMarker .documentStart
  else if c.column == 0 && c.atDocumentMarker '.' then lx.fetchMarker .documentEnd
  else if ch == '[' then lx.fetchOpening .flowSequenceStart
  else if ch == '\x7b' then lx.fetchOpening .flowMappingStart
  else if ch == ']' then lx.fetchClosing .flowSequenceEnd
  else if ch == '\x7d' then lx.fetchClosing .flowMappingEnd
  else if ch == ',' then lx.fetchComma
  else if ch == '-' && beforeBlank then lx.fetchEntry
  else if ch == '?' && (inFlow || beforeBlank) then lx.fetchKey
  else if ch == ':' && (inFlow || beforeBlank) then lx.fetchValue
  else if ch == '*' then lx.fetchWith fun c => nameToken .alias c.next
  else if ch == '&' then lx.fetchWith fun c => nameToken .anchor c.next
  else if ch == '!' then lx.fetchWith tagToken
  else if ch == '|' && !inFlow then lx.fetchBlock false
  else if ch == '>' && !inFlow then lx.fetchBlock true
  else if ch == '\'' then lx.fetchWith (quotedToken false)
  else if ch == '"' then lx.fetchWith (quotedToken true)
  else if lx.atPlain ch then lx.fetchPlain
  else .error .token

/-- Reads the next token of the text, and what its indentation closes before it. -/
def fetch (lx : Lexer) : Except Fault Lexer := do
  let lx ← (skipToToken (lx.cursor.rest.length + 1) lx.skipMark).dropStale
  let lx := lx.unwind lx.cursor.column
  match lx.cursor.peek with
  | none => lx.fetchEnd
  | some ch => lx.fetchAt ch

/-! ## Delivery -/

/-- Whether the first token of the queue may still turn out to be a key. -/
def headIsPending (lx : Lexer) : Bool := lx.pending.any fun p => p.2.number == lx.delivered

/-- Delivers tokens up to the end of the text or its first fault. The fuel bounds the number of
steps. -/
def deliver : (fuel : Nat) → Lexer → List Token × Option Fault
  | 0, _ => ([], some .token)
  | fuel + 1, lx =>
    match lx.queue with
    | [] =>
      match lx.fetch with
      | .error e => ([], some e)
      | .ok lx => deliver fuel lx
    | t :: queue =>
      if t = .streamEnd then ([t], none)
      else
        match lx.dropStale with
        | .error e => ([], some e)
        | .ok lx =>
          if lx.headIsPending then
            match lx.fetch with
            | .error e => ([], some e)
            | .ok lx => deliver fuel lx
          else
            let (ts, fault) :=
              deliver fuel { lx with queue, delivered := lx.delivered + 1 }
            (t :: ts, fault)

end Lexer

/-- The tokens of a text: those up to its first fault, and the fault, if there is one. Every
character gives rise to at most four tokens, so eight steps for each are enough. -/
def Token.scan (text : List Char) : List Token × Option Fault :=
  Lexer.deliver (8 * text.length + 16) { cursor := { rest := text } }

end CommandCompiler.Yaml
