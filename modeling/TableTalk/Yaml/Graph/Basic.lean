import TableTalk.Yaml.Tag

/-!
# The graph of a document

A document is a graph of nodes, each known by its number. A collection names its parts by number, so
that a node can stand in several places and a collection inside itself.
-/

namespace TableTalk.Yaml

inductive Node where
  | scalar (tag : Tag) (text : String)
  | sequence (tag : Tag) (items : List Nat)
  | mapping (tag : Tag) (entries : List (Nat × Nat))
  deriving Inhabited

namespace Node

def tag : Node → Tag
  | scalar t _ => t
  | sequence t _ => t
  | mapping t _ => t

def entries? : Node → Option (List (Nat × Nat))
  | mapping _ entries => some entries
  | _ => none

/-- The node with the tag of a text in place of that of a proper value. -/
def asText : Node → Node
  | scalar .proper s => scalar .text s
  | sequence .proper items => sequence .text items
  | mapping .proper entries => mapping .text entries
  | n => n

end Node

/-- The nodes of a document, and whether a collection may stand inside itself. -/
structure Graph where
  nodes : Array Node
  knotted : Bool

namespace Graph

def empty : Graph := ⟨#[], false⟩

/-- A node; a number that is not in use stands for nothing. -/
def node (g : Graph) (n : Nat) : Node :=
  g.nodes.getD n (.scalar .null "")

def set (g : Graph) (n : Nat) (node : Node) : Graph :=
  { g with nodes := g.nodes.setIfInBounds n node }

def add (g : Graph) (node : Node) : Nat × Graph :=
  (g.nodes.size, { g with nodes := g.nodes.push node })

/-- Whether a node is a merge key. -/
def isMergeKey (g : Graph) (n : Nat) : Bool :=
  (g.node n).tag == .merge

/-- The number of entries under merge keys in all mappings. -/
def mergeCount (g : Graph) : Nat :=
  g.nodes.foldl (fun count n =>
    count + ((n.entries?.getD []).filter fun (k, _) => g.isMergeKey k).length) 0

/-- The entries in front of the first merge key, the value under it and the entries behind it. -/
def cutAtMerge? (g : Graph) :
    List (Nat × Nat) → Option (List (Nat × Nat) × Nat × List (Nat × Nat))
  | [] => none
  | (k, v) :: rest =>
    if g.isMergeKey k then some ([], v, rest)
    else (g.cutAtMerge? rest).map fun (before, value, after) => ((k, v) :: before, value, after)

mutual

/-- Takes the entries that a mapping names under merge keys into it, in front of its own and of
`taken`, which are taken already. A merge key goes before its value is looked at, since the mapping
may stand under its own merge key. Keys for a value proper become texts. `fuel` is enough if it
exceeds the number of merge keys. -/
def mergeInto : (fuel : Nat) → (g : Graph) → (n : Nat) → (taken : List (Nat × Nat)) → Option Graph
  | 0, _, _, _ => none
  | fuel + 1, g, n, taken =>
    match g.node n with
    | .mapping tag entries =>
      match g.cutAtMerge? entries with
      | none =>
        let g := entries.foldl (fun g (k, _) => g.set k (g.node k).asText) g
        some (g.set n (.mapping tag (taken ++ entries)))
      | some (before, value, after) => do
        let g := g.set n (.mapping tag (before ++ after))
        let (brought, g) ← mergedEntries fuel g value
        mergeInto fuel g n (taken ++ brought)
    | _ => none

/-- The entries that a node under a merge key brings in, once what it merges itself is in it; of
several mappings the first counts most, so it comes last. -/
def mergedEntries : (fuel : Nat) → (g : Graph) → (n : Nat) → Option (List (Nat × Nat) × Graph)
  | 0, _, _ => none
  | fuel + 1, g, n =>
    match g.node n with
    | .mapping _ _ => do
      let g ← mergeInto fuel g n []
      return ((g.node n).entries?.getD [], g)
    | .sequence _ items =>
      items.foldlM (fun (brought, g) item => do
        let g ← mergeInto fuel g item []
        return ((g.node item).entries?.getD [] ++ brought, g)) ([], g)
    | .scalar _ _ => none

end

/-- The graph with the merges of a mapping carried out. -/
def merge? (g : Graph) (n : Nat) : Option Graph :=
  mergeInto (2 * g.mergeCount + 2) g n []

end Graph

end TableTalk.Yaml
