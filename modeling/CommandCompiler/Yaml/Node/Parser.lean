import CommandCompiler.Yaml.Node.Plain
import CommandCompiler.Yaml.Token.Lexer
/-!
# CommandCompiler.Yaml.Node.Parser

From the tokens of a document to its graph.

* `Reading` : the state of reading, with the nodes and the anchors so far;
* `node`, `blockItems`, `blockEntries`, `flowItems`, `flowEntries` : the grammar;
* `document`, `Graph.parse` : the one document of a text.

The fault of a text is the one that a reader meets first who goes from left to
right and looks at no token before it is needed. So when the tokens end with a
fault of the text, it shows only where the next token would be looked at.
-/

namespace CommandCompiler.Yaml

/-! ## The state of reading -/

/-- The state of reading. -/
structure Reading where
  /-- The tokens that are left. -/
  tokens : List Token
  /-- The fault of the text after them. -/
  fault : Option Fault
  /-- The nodes so far. A collection has its parts only when it is complete. -/
  graph : Graph := {}
  /-- The nodes with a name. -/
  anchors : List (String × NodeId) := []
  /-- What the handles of tags stand for. -/
  handles : List (String × String) := []
  /-- How many more collections may stand inside one another. -/
  room : Nat := stepRoom / 2

/-- Reading a part of a document. -/
abbrev Read := StateT Reading (Except Fault)

namespace Read

/-- The next token. -/
def peek : Read Token := do
  let r ← get
  match r.tokens, r.fault with
  | t :: _, _ => pure t
  | [], some fault => throw fault
  | [], none => pure .streamEnd

/-- Goes over a token that has been looked at. -/
def skip : Read Unit := modify fun r => { r with tokens := r.tokens.tail }

/-- Adds a node. -/
def add (n : Node) : Read NodeId :=
  modifyGet fun r =>
    let (id, graph) := r.graph.add n
    (id, { r with graph })

/-- Reads a part, or nothing if a token comes next that ends it. -/
def orEmpty (ends : List Token) (part : Read NodeId) : Read NodeId := do
  if ends.contains (← peek) then add .empty else part

/-- Reads the value of an entry after its colon. There may be none. -/
def valueOr (ends : List Token) (part : Read NodeId) : Read NodeId := do
  if (← peek) = .value then
    skip
    orEmpty ends part
  else add .empty

/-- The node that an alias stands for. It need not be complete. -/
def lookUp (name : String) : Read NodeId := do
  match (← get).anchors.lookup name with
  | none => throw .reference
  | some id => pure id

/-- Begins a node, perhaps with a name. A name is given once. -/
def announce : Option String → Read NodeId
  | none => add .empty
  | some name => do
    if ((← get).anchors.lookup name).isSome then throw .reference
    else
      let id ← add .empty
      modify fun r => { r with anchors := (name, id) :: r.anchors }
      pure id

/-- Completes a node that has begun. -/
def complete (id : NodeId) (n : Node) : Read NodeId := do
  modify fun r => { r with graph := r.graph.change id fun _ => n }
  pure id

/-- Reads a node, which may have a name and may refer to itself. -/
def named (anchor : Option String) (part : Read Node) : Read NodeId := do
  let id ← announce anchor
  complete id (← part)

/-- Reads the parts of a collection, unless it stands inside too many others. -/
def inCollection {α : Type} (part : Read α) : Read α := do
  match (← get).room with
  | 0 => throw (.scalar .tooDeep)
  | room + 1 =>
    modify fun r => { r with room }
    let a ← part
    modify fun r => { r with room := room + 1 }
    pure a

/-- The full name of a tag. -/
def tagName (handle : Option String) (suffix : String) : Read String := do
  match handle with
  | none => pure suffix
  | some handle =>
    match (← get).handles.lookup handle with
    | none => throw .grammar
    | some start => pure (start ++ suffix)

/-! ## Anchors and tags -/

/-- The anchor and the tag of a node, in either order. -/
def properties : Read (Option String × Option String) := do
  match ← peek with
  | .anchor name =>
    skip
    match ← peek with
    | .tag handle suffix =>
      skip
      pure (some name, some (← tagName handle suffix))
    | _ => pure (some name, none)
  | .tag handle suffix =>
    skip
    match ← peek with
    | .anchor name =>
      skip
      pure (some name, some (← tagName handle suffix))
    | _ => pure (none, some (← tagName handle suffix))
  | _ => pure (none, none)

/-- The tag of a scalar. An exclamation mark alone makes it count as plain. -/
def scalarTag (tag : Option String) (text : String) (plain : Bool) : Tag :=
  match tag with
  | none => if plain then .ofPlain text.toList else .str
  | some name => if name = "!" then .ofPlain text.toList else .ofName name

/-- The tag of a collection. -/
def collectionTag (usual : Tag) : Option String → Tag
  | none => usual
  | some name => if name = "!" then usual else .ofName name

end Read

open Read

/-! ## Nodes -/

mutual

/-- A node. Inside brackets no block collection can begin, and only inside a block mapping can a
sequence begin without indentation. The fuel bounds the number of steps. -/
def node (block unindented : Bool) : (fuel : Nat) → Read NodeId
  | 0 => throw .grammar
  | fuel + 1 => do
    if let .alias name ← peek then
      skip
      lookUp name
    else
      let (anchor, tag) ← properties
      match ← peek with
      | .scalar text plain =>
        skip
        named anchor (pure (.scalar (scalarTag tag text plain) text))
      | .flowSequenceStart =>
        named anchor do
          skip
          return .seq (collectionTag .seq tag) (← inCollection (flowItems true fuel))
      | .flowMappingStart =>
        named anchor do
          skip
          return .map (collectionTag .map tag) (← inCollection (flowEntries true fuel))
      | next =>
        if unindented ∧ next = .blockEntry then
          named anchor do
            return .seq (collectionTag .seq tag) (← inCollection (unindentedItems fuel))
        else if block ∧ next = .blockSequenceStart then
          named anchor do
            skip
            return .seq (collectionTag .seq tag) (← inCollection (blockItems fuel))
        else if block ∧ next = .blockMappingStart then
          named anchor do
            skip
            return .map (collectionTag .map tag) (← inCollection (blockEntries fuel))
        else if anchor.isSome ∨ tag.isSome then
          named anchor (pure (.scalar (scalarTag tag "" true) ""))
        else throw .grammar

/-- The items of a block sequence, up to its end. -/
def blockItems : (fuel : Nat) → Read (List NodeId)
  | 0 => throw .grammar
  | fuel + 1 => do
    match ← peek with
    | .blockEntry =>
      skip
      let item ← orEmpty [.blockEntry, .blockEnd] (node true false fuel)
      return item :: (← blockItems fuel)
    | .blockEnd =>
      skip
      return []
    | _ => throw .grammar

/-- The items of a sequence without indentation. Whatever is no item ends it. -/
def unindentedItems : (fuel : Nat) → Read (List NodeId)
  | 0 => throw .grammar
  | fuel + 1 => do
    if (← peek) = .blockEntry then
      skip
      let item ← orEmpty [.blockEntry, .key, .value, .blockEnd] (node true false fuel)
      return item :: (← unindentedItems fuel)
    else return []

/-- The entries of a block mapping, up to its end. -/
def blockEntries : (fuel : Nat) → Read (List (NodeId × NodeId))
  | 0 => throw .grammar
  | fuel + 1 => do
    match ← peek with
    | .key =>
      skip
      let ends := [.key, .value, .blockEnd]
      let k ← orEmpty ends (node true true fuel)
      let v ← valueOr ends (node true true fuel)
      return (k, v) :: (← blockEntries fuel)
    | .blockEnd =>
      skip
      return []
    | _ => throw .grammar

/-- The items of a sequence between brackets, up to its end. An item may be a mapping with one
entry that has no brackets of its own. -/
def flowItems (first : Bool) : (fuel : Nat) → Read (List NodeId)
  | 0 => throw .grammar
  | fuel + 1 => do
    if (← peek) = .flowSequenceEnd then
      skip
      return []
    else
      if !first then
        if (← peek) = .flowEntry then skip else throw .grammar
      match ← peek with
      | .key =>
        skip
        let entry ← inCollection do
          let k ← orEmpty [.value, .flowEntry, .flowSequenceEnd] (node false false fuel)
          let v ← valueOr [.flowEntry, .flowSequenceEnd] (node false false fuel)
          return (k, v)
        let pair ← add (.map .map [entry])
        return pair :: (← flowItems false fuel)
      | .flowSequenceEnd =>
        skip
        return []
      | _ =>
        let item ← node false false fuel
        return item :: (← flowItems false fuel)

/-- The entries of a mapping between brackets, up to its end. -/
def flowEntries (first : Bool) : (fuel : Nat) → Read (List (NodeId × NodeId))
  | 0 => throw .grammar
  | fuel + 1 => do
    if (← peek) = .flowMappingEnd then
      skip
      return []
    else
      if !first then
        if (← peek) = .flowEntry then skip else throw .grammar
      match ← peek with
      | .key =>
        skip
        let k ← orEmpty [.value, .flowEntry, .flowMappingEnd] (node false false fuel)
        let v ← valueOr [.flowEntry, .flowMappingEnd] (node false false fuel)
        return (k, v) :: (← flowEntries false fuel)
      | .flowMappingEnd =>
        skip
        return []
      | _ =>
        let k ← node false false fuel
        let v ← add .empty
        return (k, v) :: (← flowEntries false fuel)

end

/-! ## Documents -/

/-- The handles that every document has. -/
def usualHandles : List (String × String) := [("!", "!"), ("!!", Tag.knownStart)]

/-- The directives of a document. A version or a handle is given once, and the major version is
one. The fuel bounds their number. -/
def directives (versioned : Bool) (handles : List (String × String)) :
    (fuel : Nat) → Read (List (String × String))
  | 0 => throw .grammar
  | fuel + 1 => do
    match ← peek with
    | .directive d =>
      skip
      match d with
      | .version major _ =>
        if versioned ∨ major ≠ 1 then throw .grammar else directives true handles fuel
      | .tagHandle handle start =>
        if (handles.lookup handle).isSome then throw .grammar
        else directives versioned ((handle, start) :: handles) fuel
      | .other => directives versioned handles fuel
    | _ => return handles

/-- Directives, and the marker that a document starts with after them. -/
def documentHead (fuel : Nat) : Read Unit := do
  let handles ← directives false [] fuel
  if (← peek) = .documentStart then
    skip
    modify fun r => { r with handles := handles ++ usualHandles }
  else throw .grammar

/-- Goes over the markers that end a document. The fuel bounds their number. -/
def skipDocumentEnds : (fuel : Nat) → Read Unit
  | 0 => throw .grammar
  | fuel + 1 => do
    if (← peek) = .documentEnd then
      skip
      skipDocumentEnds fuel

/-- Whether the next token ends a document, or starts the next one. -/
def atDocumentEdge : Read Bool := do
  match ← peek with
  | .directive _ | .documentStart | .documentEnd | .streamEnd => return true
  | _ => return false

/-- The one document of a text. A text without a document has an empty one. -/
def document (fuel : Nat) : Read NodeId := do
  match ← peek with
  | .streamEnd => add .empty
  | next =>
    let explicit := next matches .directive _ | .documentStart
    if explicit then documentHead fuel
    else modify fun r => { r with handles := usualHandles }
    let root ← if explicit && (← atDocumentEdge) then add .empty else node true false fuel
    skipDocumentEnds fuel
    if (← peek) = .streamEnd then return root
    else
      documentHead fuel
      throw .reference

/-- The graph of the one document of a text. Every token is reached in at most four steps. -/
def Graph.parse (text : String) : Except Fault Graph := do
  if text.toList.any (!isAllowed ·) || Text.hasHalf text then throw .character
  let (tokens, fault) := Token.scan text.toList
  let (root, r) ← (document (4 * tokens.length + 8)).run { tokens, fault }
  return { r.graph with root }

end CommandCompiler.Yaml
