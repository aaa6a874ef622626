import TableTalk.Yaml.Object
import TableTalk.Yaml.Scanner

/-!
# Values of documents

`parse` reads a text that holds one document, or none, as a value. The value of a node is its object
with the values of its parts in it. Where a collection leads back to itself it is a knot, in which
its number stands for it from there on.
-/

namespace TableTalk.Yaml

namespace Object

/-- The nodes that an object names. -/
def parts : Object → List Nat
  | data _ => []
  | list items => items
  | pairs items => items.flatMap fun (k, v) => [k, v]
  | set _ => []
  | map entries => entries.map Prod.snd

end Object

/-- The objects of nodes, and whether a collection may stand inside itself. -/
structure Objects where
  all : Array (Option Object)
  knotted : Bool

namespace Objects

def object (o : Objects) (n : Nat) : Object :=
  (o.all.getD n none).getD (.data .null)

/-- The nodes that some nodes lead to, beside those that were seen. -/
def reach (o : Objects) : (fuel : Nat) → (todo seen : List Nat) → List Nat
  | 0, _, seen => seen
  | _ + 1, [], seen => seen
  | fuel + 1, n :: todo, seen =>
    if seen.contains n then reach o fuel todo seen
    else reach o fuel ((o.object n).parts ++ todo) (n :: seen)

/-- The number of times that objects name nodes. -/
def size (o : Objects) : Nat :=
  o.all.foldl (fun size part => size + ((part.map fun x => x.parts.length + 1).getD 0)) 0

/-- Whether a node leads back to itself. -/
def isKnot (o : Objects) (n : Nat) : Bool :=
  o.knotted && (o.reach (2 * o.size + 1) (o.object n).parts []).contains n

/-- Values that name no knot around them, by their nodes. -/
abbrev Known := Array (Option Value)

/-- The value of a node inside the knots of `outer`, and which of these it names. `fuel` is enough
if it exceeds the number of nodes. -/
def value (o : Objects) : (fuel : Nat) → (outer : List Nat) → (n : Nat) →
    StateM Known (Value × List Nat)
  | 0, _, _ => return (.null, [])
  | fuel + 1, outer, n => do
    if outer.contains n then return (.again n, [n])
    if let some v := ((← get).getD n none) then return (v, [])
    let knot := o.isKnot n
    let part := value o fuel (if knot then n :: outer else outer)
    let (v, names) ←
      match o.object n with
      | .data v => pure (v, [])
      | .list items => do
        let parts ← items.mapM part
        pure (Value.list (parts.map Prod.fst), parts.flatMap Prod.snd)
      | .pairs items => do
        let parts ← items.mapM fun (k, v) => return (← part k, ← part v)
        pure (Value.list (parts.map fun (k, v) => .tuple [k.1, v.1]),
          parts.flatMap fun (k, v) => k.2 ++ v.2)
      | .set members => pure (Value.set members, [])
      | .map entries => do
        let parts ← entries.mapM fun (k, v) => return (k, ← part v)
        pure (Value.map (parts.map fun (k, v) => (k, v.1)), parts.flatMap fun (_, v) => v.2)
    let v := if knot then Value.knot n v else v
    let names := names.eraseDups.filter (· ≠ n)
    if names.isEmpty then modify fun known => known.setIfInBounds n (some v)
    return (v, names)

end Objects

def Graph.value (g : Graph) (root : Nat) : Except Failure Value := do
  let objects : Objects := ⟨← g.objects root, g.knotted⟩
  let known : Objects.Known := Array.replicate g.nodes.size none
  return ((objects.value (g.nodes.size + 1) [] root).run known).1.1

/-- Reads a text as a value; a text without a document is null. -/
def parse (text : String) : Except Failure Value :=
  match tokens? text.toList with
  | none => .error .badYaml
  | some tokens =>
    match Graph.ofTokens tokens with
    | .error .malformed => .error .badYaml
    | .error .tooDeep => .error .tooDeep
    | .ok (none, _) => .ok .null
    | .ok (some root, graph) => graph.value root

end TableTalk.Yaml
