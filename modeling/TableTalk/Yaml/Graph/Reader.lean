import TableTalk.Yaml.Graph.Basic
import TableTalk.Yaml.Resolve
import TableTalk.Yaml.Token

/-!
# Reading the graph of a document

`Graph.ofTokens` builds the graph that tokens stand for. An alias stands for the node with its
anchor. A collection has its anchor before its parts are read, so that an alias among them may stand
for it.
-/

namespace TableTalk.Yaml

/-- Why tokens are no document. -/
inductive ReadFault where
  /-- They do not make up a document. -/
  | malformed
  /-- Collections stand inside one another too often. -/
  | tooDeep
  deriving DecidableEq, Repr

/-- What is known while a graph is read: the tokens left, the graph so far, the nodes with anchors,
the collections that are not complete yet and the tag handles. -/
structure GraphReader where
  tokens : List Token
  graph : Graph
  anchors : List (String × Nat)
  unfinished : List Nat
  handles : List (String × String)

abbrev Reading := StateT GraphReader (Except ReadFault)

namespace Reading

def peek : Reading Token := do
  return ((← get).tokens.head?).getD .streamEnd

def drop : Reading Unit :=
  modify fun r => { r with tokens := r.tokens.drop 1 }

def fail {α : Type} : Reading α :=
  throw .malformed

/-- Passes over the token that is wanted next. -/
def expect (t : Token) : Reading Unit := do
  if (← peek) = t then drop else fail

/-- The handles that are known from the start. -/
def standardHandles : List (String × String) := [("!", "!"), ("!!", Tag.standardStart)]

def tagName (handle : Option String) (suffix : String) : Reading String := do
  match handle with
  | none => return suffix
  | some h =>
    match (← get).handles.lookup h with
    | some start => return start ++ suffix
    | none => fail

def takeTag : Reading (Option String) := do
  match ← peek with
  | .tag handle suffix => drop; return some (← tagName handle suffix)
  | _ => return none

/-- An anchor that is not in use yet. -/
def takeAnchor : Reading (Option String) := do
  match ← peek with
  | .anchor name => drop; return some name
  | _ => return none

/-- The anchor and the tag in front of a node, in either order. -/
def properties : Reading (Option String × Option String) := do
  match ← takeAnchor with
  | some a => return (some a, ← takeTag)
  | none =>
    match ← takeTag with
    | some t => return (← takeAnchor, some t)
    | none => return (none, none)

/-- Takes note of the node of an anchor. -/
def keep (anchor : Option String) (n : Nat) : Reading Unit :=
  match anchor with
  | none => return ()
  | some a => modify fun r => { r with anchors := (a, n) :: r.anchors }

def add (anchor : Option String) (node : Node) : Reading Nat := do
  let (n, graph) := (← get).graph.add node
  modify fun r => { r with graph := graph }
  keep anchor n
  return n

/-- Refuses an anchor that is in use. -/
def checkNew (anchor : Option String) : Reading Unit := do
  if (anchor.bind ((← get).anchors.lookup ·)).isSome then fail

/-- The node of an alias. -/
def aliased (name : String) : Reading Nat := do
  match (← get).anchors.lookup name with
  | none => fail
  | some n =>
    if (← get).unfinished.contains n then
      modify fun r => { r with graph := { r.graph with knotted := true } }
    return n

/-- The most collections that may stand inside one another. -/
def depthLimit : Nat := 485

/-- Adds a collection whose parts are read after it; `node` makes the node of the parts. -/
def collection {α : Type} (anchor : Option String) (node : List α → Node)
    (parts : Reading (List α)) : Reading Nat := do
  let n ← add anchor (node [])
  let outer := (← get).unfinished
  if depthLimit ≤ outer.length then throw .tooDeep
  modify fun r => { r with unfinished := n :: outer }
  let parts ← parts
  modify fun r => { r with graph := r.graph.set n (node parts), unfinished := outer }
  return n

/-- The tag of a collection. -/
def tagOr (name : Option String) (default : Tag) : Tag :=
  match name with
  | none => default
  | some "!" => default
  | some n => .ofName n

/-- The tag of a scalar: by its form if it is plain, else a text. -/
def scalarTag (name : Option String) (text : String) (plain : Bool) : Tag :=
  match name with
  | none => if plain then resolve text else .text
  | some "!" => resolve text
  | some n => .ofName n

/-- Adds the node of an empty place. -/
def empty : Reading Nat :=
  add none (.scalar .null "")

mutual

/-- Reads a node. `block` allows block collections, and `bare` a block sequence that is not indented
further than the key before it. -/
def node (block bare : Bool) : (fuel : Nat) → Reading Nat
  | 0 => fail
  | fuel + 1 => do
    if let .alias name ← peek then
      drop
      return ← aliased name
    let (anchor, tag) ← properties
    let next ← peek
    checkNew anchor
    let sequence := collection anchor (Node.sequence (tagOr tag .list))
    let mapping := collection anchor (Node.mapping (tagOr tag .map))
    if bare && next = .blockEntry then sequence (bareItems fuel)
    else
      match next with
      | .scalar text plain => do
        drop
        add anchor (.scalar (scalarTag tag text plain) text)
      | .flowSequenceStart => do
        drop
        sequence (flowItems true fuel)
      | .flowMappingStart => do
        drop
        mapping (flowEntries true fuel)
      | _ =>
        if block && next = .blockSequenceStart then do
          drop
          sequence (blockItems fuel)
        else if block && next = .blockMappingStart then do
          drop
          mapping (blockEntries fuel)
        else if anchor.isSome || tag.isSome then
          add anchor (.scalar (scalarTag (tag.or (some "!")) "" false) "")
        else fail

/-- Reads a node unless one of the tokens comes that may stand after an empty place. -/
def nodeUnless (stops : List Token) (block bare : Bool) : (fuel : Nat) → Reading Nat
  | 0 => fail
  | fuel + 1 => do
    if stops.contains (← peek) then empty else node block bare fuel

/-- Reads the items of a block sequence up to its end. -/
def blockItems : (fuel : Nat) → Reading (List Nat)
  | 0 => fail
  | fuel + 1 => do
    if (← peek) = .blockEntry then
      drop
      let item ← nodeUnless [.blockEntry, .blockEnd] true false fuel
      return item :: (← blockItems fuel)
    else
      expect .blockEnd
      return []

/-- Reads the items of a block sequence that is not indented further. -/
def bareItems : (fuel : Nat) → Reading (List Nat)
  | 0 => fail
  | fuel + 1 => do
    if (← peek) = .blockEntry then
      drop
      let item ← nodeUnless [.blockEntry, .key, .value, .blockEnd] true false fuel
      return item :: (← bareItems fuel)
    else return []

/-- Reads the value after a key, if there is one. -/
def valueUnless (stops : List Token) (block : Bool) : (fuel : Nat) → Reading Nat
  | 0 => fail
  | fuel + 1 => do
    if (← peek) = .value then
      drop
      nodeUnless stops block block fuel
    else empty

/-- Reads the entries of a block mapping up to its end. -/
def blockEntries : (fuel : Nat) → Reading (List (Nat × Nat))
  | 0 => fail
  | fuel + 1 => do
    let stops : List Token := [.key, .value, .blockEnd]
    if (← peek) = .key then
      drop
      let k ← nodeUnless stops true true fuel
      let v ← valueUnless stops true fuel
      return (k, v) :: (← blockEntries fuel)
    else
      expect .blockEnd
      return []

/-- Reads the items of a flow sequence up to its end. A key among them makes a mapping of one
entry. -/
def flowItems (first : Bool) : (fuel : Nat) → Reading (List Nat)
  | 0 => fail
  | fuel + 1 => do
    if (← peek) = .flowSequenceEnd then
      drop
      return []
    if !first then expect .flowEntry
    if (← peek) = .key then
      drop
      let item ← collection none (Node.mapping .map) do
        let k ← nodeUnless [.value, .flowEntry, .flowSequenceEnd] false false fuel
        let v ← valueUnless [.flowEntry, .flowSequenceEnd] false fuel
        return [(k, v)]
      return item :: (← flowItems false fuel)
    else if (← peek) = .flowSequenceEnd then
      drop
      return []
    else
      let item ← node false false fuel
      return item :: (← flowItems false fuel)

/-- Reads the entries of a flow mapping up to its end. -/
def flowEntries (first : Bool) : (fuel : Nat) → Reading (List (Nat × Nat))
  | 0 => fail
  | fuel + 1 => do
    if (← peek) = .flowMappingEnd then
      drop
      return []
    if !first then expect .flowEntry
    if (← peek) = .key then
      drop
      let k ← nodeUnless [.value, .flowEntry, .flowMappingEnd] false false fuel
      let v ← valueUnless [.flowEntry, .flowMappingEnd] false fuel
      return (k, v) :: (← flowEntries false fuel)
    else if (← peek) = .flowMappingEnd then
      drop
      return []
    else
      let k ← node false false fuel
      return (k, ← empty) :: (← flowEntries false fuel)

end

/-- Reads the directives of a document, of which only one may name the version. -/
def directives (versioned : Bool) : (fuel : Nat) → Reading Unit
  | 0 => fail
  | fuel + 1 => do
    match ← peek with
    | .version major =>
      if versioned ∨ major ≠ 1 then fail
      drop
      directives true fuel
    | .tagHandle handle start =>
      let r ← get
      if (r.handles.lookup handle).isSome then fail
      set { r with tokens := r.tokens.drop 1, handles := (handle, start) :: r.handles }
      directives versioned fuel
    | .otherDirective => drop; directives versioned fuel
    | _ => return ()

/-- Reads the one document of a text, which may be missing, up to the end of the text. -/
def document (fuel : Nat) : Reading (Option Nat) := do
  let first ← peek
  let explicit := first.isDirective || first = .documentStart
  if first = .streamEnd then return none
  if explicit then
    directives false fuel
    expect .documentStart
  modify fun r => { r with handles := r.handles ++ standardHandles }
  let next ← peek
  let n ←
    if explicit && (next.isDirective || [.documentStart, .documentEnd, .streamEnd].contains next)
    then empty
    else node true false fuel
  modify fun r => { r with tokens := r.tokens.dropWhile (· = .documentEnd) }
  expect .streamEnd
  return some n

end Reading

namespace Graph

/-- The graph of the document that tokens stand for, with the number of its root if there is a
document. -/
def ofTokens (tokens : List Token) : Except ReadFault (Option Nat × Graph) :=
  ((Reading.document (4 * tokens.length + 4)).run ⟨tokens, empty, [], [], []⟩).map fun (root, r) =>
    (root, r.graph)

end Graph

end TableTalk.Yaml
