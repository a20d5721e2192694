import CommandCompiler.Yaml.Fault
import CommandCompiler.Yaml.Node
/-!
# CommandCompiler.Yaml.Node.Merge

Merge keys.

* `takeMerge?` : the first merge key of some entries;
* `Graph.flatten` : a mapping without merge keys.

What stands under a merge key is merged before it is brought in, and a mapping
that is merged stays so wherever else it stands. A merge key is taken out before
its value is looked at, so mappings that merge each other come to an end. Long chains
of mappings, each merged into the next, are not followed to their end.
-/

namespace CommandCompiler.Yaml

/-- Changing the nodes of a document, or the fault that prevents it. -/
abbrev Merge : Type → Type := StateT Graph (Except Fault)

/-- The value under the first merge key of some entries, and the other entries. -/
def takeMerge? (g : Graph) :
    List (NodeId × NodeId) → Option (NodeId × List (NodeId × NodeId))
  | [] => none
  | e :: rest =>
    if (g.node e.1).tag = .merge then some (e.2, rest)
    else (takeMerge? g rest).map fun p => (p.1, e :: p.2)

/-- Makes text of the keys that would stand for the whole mapping. -/
def Graph.retag (g : Graph) (entries : List (NodeId × NodeId)) : Graph :=
  entries.foldl
    (fun g e => if (g.node e.1).tag = .value then g.change e.1 (·.withTag .str) else g) g

mutual

/-- Merges what is to be merged into a mapping. What is brought in comes first. The fuel bounds how
many merge keys there are, and `room` how many mappings are merged inside one another. -/
def flattenNode : (fuel room : Nat) → NodeId → Merge Unit
  | 0, _, _ => pure ()
  | _ + 1, 0, _ => throw (.scalar .tooDeep)
  | fuel + 1, room + 1, id => do
    let brought ← gather fuel room id
    modify fun g => g.change id fun n => n.withEntries (brought ++ n.entries)
    modify fun g => g.retag (g.node id).entries

/-- Takes the merge keys out of a mapping, and gives the entries that they bring. -/
def gather : (fuel room : Nat) → NodeId → Merge (List (NodeId × NodeId))
  | 0, _, _ => pure []
  | fuel + 1, room, id => do
    let g ← get
    match takeMerge? g (g.node id).entries with
    | none => pure []
    | some (value, rest) =>
      modify fun g => g.change id (·.withEntries rest)
      let first ← bring fuel room value
      return first ++ (← gather fuel room id)

/-- The entries that the value of a merge key brings: those of a mapping, or those of the mappings
in a list, the last one first. -/
def bring : (fuel room : Nat) → NodeId → Merge (List (NodeId × NodeId))
  | 0, _, _ => pure []
  | fuel + 1, room, id => do
    match (← get).node id with
    | .map _ _ => part fuel room id
    | .seq _ items =>
      let parts ← items.mapM (part fuel room)
      return parts.reverse.flatten
    | .scalar _ _ => throw .content

/-- The entries that a mapping brings. -/
def part : (fuel room : Nat) → NodeId → Merge (List (NodeId × NodeId))
  | 0, _, _ => pure []
  | fuel + 1, room, id => do
    match (← get).node id with
    | .map _ _ =>
      flattenNode fuel room id
      return ((← get).node id).entries
    | _ => throw .content

end

/-- Merges what is to be merged into a mapping. Between one merge key and the next there are at most
four steps, and there are no more merge keys than entries. -/
def Graph.flatten (budget : Nat) (id : NodeId) : Merge Unit :=
  flattenNode (4 * budget + 4) stepRoom id

end CommandCompiler.Yaml
