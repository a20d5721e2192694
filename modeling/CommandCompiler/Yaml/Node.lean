/-!
# CommandCompiler.Yaml.Node

The content of a document as a graph.

* `Tag` : what a node is meant to be;
* `Node` : scalars, sequences and mappings, each with its tag;
* `Graph` : the nodes of a document, by their numbers.

A collection holds the numbers of its parts. An alias is the number of the node
that it refers to, so a node may stand at several places, and a collection may
even stand inside itself.
-/

namespace CommandCompiler.Yaml

/-! ## Tags -/

/-- What a node is meant to be. -/
inductive Tag
  | null
  | bool
  | int
  | float
  | binary
  | timestamp
  | str
  | seq
  | map
  | set
  /-- A sequence of mappings with one entry each. -/
  | omap
  | pairs
  /-- A key under which other mappings are merged in. -/
  | merge
  /-- A key whose value stands for the whole mapping. -/
  | value
  /-- A tag that nothing is known about. -/
  | other
  deriving Repr, DecidableEq, Inhabited

namespace Tag

/-- The start of the tags that are known. -/
def knownStart : String := "tag:yaml.org,2002:"

/-- The tags that are known, by what follows the common start. -/
def known : List (String × Tag) :=
  [("null", null), ("bool", bool), ("int", int), ("float", float), ("binary", binary),
   ("timestamp", timestamp), ("str", str), ("seq", seq), ("map", map), ("set", set),
   ("omap", omap), ("pairs", pairs), ("merge", merge), ("value", value)]

/-- The tag with a full name. -/
def ofName (name : String) : Tag :=
  match known.find? fun t => knownStart ++ t.1 == name with
  | some t => t.2
  | none => other

/-- Whether a node with this tag becomes a collection. -/
def isCollection : Tag → Bool
  | seq | map | set | omap | pairs => true
  | _ => false

end Tag

/-! ## Nodes -/

/-- The number of a node in its document. -/
abbrev NodeId : Type := Nat

/-- A part of a document. -/
inductive Node
  | scalar (tag : Tag) (text : String)
  | seq (tag : Tag) (items : List NodeId)
  | map (tag : Tag) (entries : List (NodeId × NodeId))
  deriving Repr, Inhabited

namespace Node

/-- The tag of a node. -/
def tag : Node → Tag
  | scalar tag _ | seq tag _ | map tag _ => tag

/-- The same node with another tag. -/
def withTag (tag : Tag) : Node → Node
  | scalar _ text => scalar tag text
  | seq _ items => seq tag items
  | map _ entries => map tag entries

/-- A node of which nothing is written. -/
def empty : Node := scalar .null ""

/-- The entries of a mapping. Nothing else has any. -/
def entries : Node → List (NodeId × NodeId)
  | map _ entries => entries
  | scalar _ _ | seq _ _ => []

/-- A mapping with other entries. -/
def withEntries (entries : List (NodeId × NodeId)) : Node → Node
  | map tag _ => map tag entries
  | n => n

end Node

/-! ## Documents -/

/-- The nodes of a document, by their numbers. -/
structure Graph where
  nodes : Array Node := #[]
  root : NodeId := 0
  deriving Repr, Inhabited

namespace Graph

/-- The node of a number. -/
def node (g : Graph) (id : NodeId) : Node := g.nodes[id]?.getD .empty

/-- Changes a node. -/
def change (g : Graph) (id : NodeId) (f : Node → Node) : Graph :=
  { g with nodes := g.nodes.modify id f }

/-- Adds a node, with the number that it gets. -/
def add (g : Graph) (n : Node) : NodeId × Graph :=
  (g.nodes.size, { g with nodes := g.nodes.push n })

/-- How many entries all mappings have together. -/
def entryCount (g : Graph) : Nat := g.nodes.foldl (fun count n => count + n.entries.length) 0

end Graph

end CommandCompiler.Yaml
