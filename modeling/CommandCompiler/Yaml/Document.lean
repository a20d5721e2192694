import CommandCompiler.Yaml.Node.Merge
import CommandCompiler.Yaml.Node.Parser
import CommandCompiler.Yaml.Scalar
/-!
# CommandCompiler.Yaml.Document

The data that a document holds.

* `Part` : what becomes of a node, with the nodes that it holds;
* `Building`, `touch`, `fill` : data under construction;
* `Part.value`, `unfold` : the data as a tree;
* `Graph.value`, `load` : the data of a graph and of a text.

Data is built in rounds: the scalars in a collection are read when the
collection is filled, and the collections in it are filled one round later. So
of two faults the one that is nested less deep is told, and of two equally deep
ones the one that stands first.
-/

namespace CommandCompiler.Yaml

/-! ## Parts -/

/-- What becomes of a node. -/
inductive Part
  /-- A scalar. Two keys with one identity are one key, even if they equal nothing. -/
  | scalar (v : Value) (identity : Nat)
  | list (items : List NodeId)
  | pairs (items : List (NodeId × NodeId))
  | mapping (entries : List (NodeId × NodeId))
  | set (members : List NodeId)
  deriving Repr

namespace Part

/-- A collection before it is filled. -/
def hollow : Tag → Part
  | .map => mapping []
  | .set => set []
  | _ => list []

/-- Whether two parts are the same key. Collections are no keys. -/
def sameKey : Part → Part → Bool
  | scalar v i, scalar w j => i == j || v.sameKey w
  | _, _ => false

/-- The nodes that a part holds. -/
def children : Part → List NodeId
  | scalar _ _ => []
  | list ids | set ids => ids
  | pairs items | mapping items => items.flatMap fun e => [e.1, e.2]

end Part

/-! ## Building -/

/-- Data under construction: the nodes, what has become of them, and the collections that wait to be
filled, the last one first. -/
structure Building where
  graph : Graph
  made : Array (Option Part)
  waiting : List NodeId := []
  /-- How many entries the document has. -/
  entryCount : Nat

/-- Building a part of the data. -/
abbrev Build : Type → Type := StateT Building (Except Fault)

/-- What has become of a node. -/
def Building.part? (b : Building) (id : NodeId) : Option Part := (b.made[id]?).bind fun p => p

/-- Notes what becomes of a node. -/
def make (id : NodeId) (p : Part) : Build Unit :=
  modify fun b => { b with made := b.made.setIfInBounds id (some p) }

/-- The text of a scalar, or of the scalar that stands for a mapping, through no more than `room`
nodes. -/
def scalarText (g : Graph) : (room : Nat) → NodeId → Except Fault String
  | 0, _ => .error (.scalar .tooDeep)
  | room + 1, id =>
    match g.node id with
    | .scalar _ text => .ok text
    | .seq _ _ => .error .content
    | .map _ entries =>
      match entries.find? fun e => (g.node e.1).tag = .value with
      | some e => scalarText g room e.2
      | none => .error .content

/-- The data of a node that its tag makes a scalar. -/
def scalarValue (g : Graph) (id : NodeId) : Except Fault Part := do
  let n := g.node id
  let text ← scalarText g stepRoom id
  if n.tag = .timestamp ∧ n matches .map _ _ then throw (.scalar .timestampInMapping)
  let v ← n.tag.read text
  return .scalar v (if n.tag = .float ∧ isNanWord text then g.nodes.size else id)

/-- Makes something of a node if nothing has been made of it yet. A collection is filled later. -/
def touch (id : NodeId) : Build Unit := do
  let b ← get
  if (b.part? id).isNone then
    let tag := (b.graph.node id).tag
    if tag.isCollection then
      make id (.hollow tag)
      modify fun b => { b with waiting := id :: b.waiting }
    else make id (← scalarValue b.graph id)

/-- Makes something of an entry. A collection is no key. -/
def touchEntry (e : NodeId × NodeId) : Build Unit := do
  touch e.1
  if (← get).part? e.1 matches some (.scalar _ _) then touch e.2 else throw .content

/-- Puts an entry into a mapping. A key that is there already keeps its place and gets the new
value. -/
def Building.putEntry (b : Building) (done : List (NodeId × NodeId)) (e : NodeId × NodeId) :
    List (NodeId × NodeId) :=
  let isSame (k : NodeId) : Bool :=
    match b.part? k, b.part? e.1 with
    | some p, some q => p.sameKey q
    | _, _ => false
  if done.any fun d => isSame d.1 then done.map fun d => if isSame d.1 then (d.1, e.2) else d
  else done ++ [e]

/-- The entries of a mapping, each key once. -/
def entriesOf (id : NodeId) : Build (List (NodeId × NodeId)) := do
  let (budget, graph) ← modifyGet fun b => ((b.entryCount, b.graph), { b with graph := {} })
  let ((), graph) ← (Graph.flatten budget id).run graph
  modify fun b => { b with graph }
  let entries := (graph.node id).entries
  entries.forM touchEntry
  return entries.foldl (← get).putEntry []

/-- The one entry of a mapping in a list of pairs. -/
def pairOf (id : NodeId) : Build (NodeId × NodeId) := do
  match (← get).graph.node id with
  | .map _ [e] =>
    touch e.1
    touch e.2
    return e
  | _ => throw .content

/-- Fills a collection. -/
def fill (id : NodeId) : Build Unit := do
  let n := (← get).graph.node id
  match n.tag, n with
  | .seq, .seq _ items =>
    items.forM touch
    make id (.list items)
  | .omap, .seq _ items | .pairs, .seq _ items => make id (.pairs (← items.mapM pairOf))
  | .map, .map _ _ => make id (.mapping (← entriesOf id))
  | .set, .map _ _ => make id (.set ((← entriesOf id).map (·.1)))
  | _, _ => throw .content

/-- Fills collections, one round after the other. Every round but the last fills some, so the fuel
bounds their number. -/
def fillAll : (fuel : Nat) → Build Unit
  | 0 => pure ()
  | fuel + 1 => do
    let round := (← get).waiting.reverse
    if round.isEmpty then pure ()
    else
      modify fun b => { b with waiting := [] }
      round.forM fill
      fillAll fuel

/-! ## Trees -/

/-- The data of a part, given the data of all nodes. -/
def Part.value (data : NodeId → Value) (id : NodeId) : Part → Value
  | scalar v _ => v
  | list items => .list (items.map data)
  | pairs items => .list (items.map fun e => .list [data e.1, data e.2])
  | mapping entries => .mapping (entries.map fun e => (data e.1, data e.2)) (some id)
  | set members => .set (members.map data)

/-- The data of all nodes down to some depth, and whether that is all of it. -/
abbrev Depths : Type := Array (Value × Bool)

/-- The data of a node. -/
def Depths.value (d : Depths) (id : NodeId) : Value := (d[id]?.map (·.1)).getD .null

/-- Whether the data of a node is complete. -/
def Depths.isComplete (d : Depths) (id : NodeId) : Bool := (d[id]?.map (·.2)).getD true

/-- The data of all nodes, one level deeper. -/
def Depths.deepen (parts : Array (Option Part)) (d : Depths) : Depths :=
  parts.mapIdx fun id part? =>
    if d.isComplete id then (d.value id, true)
    else
      match part? with
      | none => (.null, true)
      | some p => (p.value d.value id, p.children.all d.isComplete)

/-- The data of all nodes down to a depth, or down to the end of it. -/
def unfold (parts : Array (Option Part)) : (depth : Nat) → Depths → Depths
  | 0, d => d
  | depth + 1, d => if d.all (·.2) then d else unfold parts depth (d.deepen parts)

/-- How deep data is unfolded. Only data that holds itself has no end, and nothing that reads a
document looks that deep into it: a type of a field, which stands six levels down, may hold 254
others, one inside the other. -/
def depthOfTrees : Nat := 300

/-- The data of a graph. -/
def Graph.value (g : Graph) : Except Fault Value := do
  let count := g.nodes.size
  let start : Building :=
    { graph := g, made := Array.replicate count none, entryCount := g.entryCount }
  let build : Build Unit := do
    touch g.root
    fillAll (count + 1)
  let ((), b) ← build.run start
  return (unfold b.made depthOfTrees (Array.replicate count (.null, false))).value g.root

/-- The data of a text. -/
def load (text : String) : Except Fault Value := Graph.parse text >>= Graph.value

end CommandCompiler.Yaml
