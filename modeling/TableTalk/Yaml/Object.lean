import TableTalk.Yaml.Graph.Reader
import TableTalk.Yaml.Key
import TableTalk.Yaml.Scalar

/-!
# What the nodes of a graph stand for

A scalar node stands for a value, a collection node for an `Object` that names its parts by their
nodes. Each node gets its object once. A collection is first met and later filled, in the order in
which collections are met; so the first of several faults is the one nearest to the root.
-/

namespace TableTalk.Yaml

inductive Object where
  | data (v : Value)
  | list (items : List Nat)
  | pairs (items : List (Nat × Nat))
  | set (members : List Value)
  | map (entries : List (Value × Nat))
  deriving Inhabited

/-- The graph, the objects of nodes that were met and the collections that are still to be
filled. -/
structure Building where
  graph : Graph
  objects : Array (Option Object)
  waiting : List Nat

abbrev Builder := StateT Building (Except Failure)

namespace Builder

def node (n : Nat) : Builder Node :=
  return (← get).graph.node n

def put (n : Nat) (o : Object) : Builder Unit :=
  modify fun b => { b with objects := b.objects.setIfInBounds n (some o) }

/-- The text of a scalar; of a mapping that which stands under its key for the value proper. -/
def properText (g : Graph) : (fuel : Nat) → (n : Nat) → Except Failure String
  | 0, _ => .error .tooDeep
  | fuel + 1, n =>
    match g.node n with
    | .scalar _ s => .ok s
    | .sequence _ _ => .error .badYaml
    | .mapping _ entries =>
      match entries.find? fun (k, _) => (g.node k).tag == .proper with
      | some (_, v) => properText g fuel v
      | none => .error .badYaml

def scalar (t : Tag) (n : Nat) : Builder Value := do
  if !t.isScalar then throw .badYaml
  let g := (← get).graph
  let text ← properText g (g.nodes.size + 1) n
  match t, g.node n with
  | .moment, .mapping _ _ => throw .wrongKind
  | _, _ => scalarValue t text

/-- Meets a node and gives its object, which is empty if it is a collection met for the first
time. -/
def meet (n : Nat) : Builder Object := do
  if let some o := ((← get).objects.getD n none) then return o
  let t := (← node n).tag
  let collection (o : Object) : Builder Object := do
    put n o
    modify fun b => { b with waiting := b.waiting ++ [n] }
    return o
  match t with
  | .list => collection (.list [])
  | .pairs => collection (.pairs [])
  | .set => collection (.set [])
  | .map => collection (.map [])
  | _ =>
    let o := Object.data (← scalar t n)
    put n o
    return o

/-- The value of a key, which has to be a scalar. -/
def key (n : Nat) : Builder Value := do
  match ← meet n with
  | .data v => return v
  | _ => throw .badYaml

/-- The entries of a mapping, merges among them. Of entries with one key the last one counts, at the
place of the first. -/
def entries (n : Nat) : Builder (List (Value × Nat)) := do
  match (← get).graph.merge? n with
  | none => throw .badYaml
  | some graph =>
    modify fun b => { b with graph := graph }
    let entries := ((graph.node n).entries?).getD []
    entries.foldlM (fun done (k, v) => do
      let key ← key k
      let _ ← meet v
      return Value.putEntry key v done) []

/-- The pair in a mapping with one entry. -/
def pair (n : Nat) : Builder (Nat × Nat) := do
  match ← node n with
  | .mapping _ [(k, v)] =>
    let _ ← meet k
    let _ ← meet v
    return (k, v)
  | _ => throw .badYaml

def fill (n : Nat) : Builder Unit := do
  match (← node n).tag, ← node n with
  | .list, .sequence _ items =>
    for item in items do
      let _ ← meet item
    put n (.list items)
  | .pairs, .sequence _ items => put n (.pairs (← items.mapM pair))
  | .map, .mapping _ _ => put n (.map (← entries n))
  | .set, .mapping _ _ => put n (.set ((← entries n).map Prod.fst))
  | _, _ => throw .badYaml

/-- Fills the collections that wait, and those that are met then; each is met once. -/
def fillAll : (fuel : Nat) → Builder Unit
  | 0 => return ()
  | fuel + 1 => do
    match (← get).waiting with
    | [] => return ()
    | n :: rest =>
      modify fun b => { b with waiting := rest }
      fill n
      fillAll fuel

end Builder

/-- The objects of the nodes that a root leads to. -/
def Graph.objects (g : Graph) (root : Nat) : Except Failure (Array (Option Object)) := do
  let build : Builder Unit := do
    let _ ← Builder.meet root
    Builder.fillAll g.nodes.size
  let (_, b) ← build.run ⟨g, Array.replicate g.nodes.size none, []⟩
  return b.objects

end TableTalk.Yaml
