import TableTalk.Failure
import TableTalk.World.Path

/-!
# Files

A `Files` value is a tree of directories and files, kept as a list of the absolute names of all its
entries; the root is always there. `locate` walks a path the way a file system does: a name on the
way must be a directory, double dots go back up, and a name may be too long.
-/

namespace TableTalk

inductive Entry where
  | directory
  | file (bytes : List UInt8)
  deriving DecidableEq, Repr, Inhabited

structure Files where
  entries : List (List String × Entry)
  deriving DecidableEq, Repr, Inhabited

namespace Files

/-- The most bytes that a name may have. -/
def nameLimit : Nat := 255

/-- The most bytes that a whole path may have. -/
def pathLimit : Nat := 4095

def entry? (t : Files) (place : List String) : Option Entry :=
  if place = [] then some .directory else t.entries.lookup place

/-- Puts an entry in a place, over what is there. -/
def put (t : Files) (place : List String) (e : Entry) : Files :=
  if (t.entries.lookup place).isSome then
    ⟨t.entries.map fun (p, old) => if p = place then (p, e) else (p, old)⟩
  else ⟨t.entries ++ [(place, e)]⟩

def remove (t : Files) (place : List String) : Files :=
  ⟨t.entries.filter fun (p, _) => p ≠ place⟩

/-- Walks from the directory `here` along names. The place reached need not exist, but all
directories on the way must. -/
def walk (t : Files) (here : List String) : List String → Except PathFault (List String)
  | [] => .ok here
  | name :: names =>
    if name = ".." then walk t here.dropLast names
    else if nameLimit < name.utf8ByteSize then .error .nameTooLong
    else
      let next := here ++ [name]
      match t.entry? next, names with
      | some .directory, _ => walk t next names
      | _, [] => .ok next
      | some (.file _), _ => .error .notDirectory
      | none, _ => .error .missing

def locate (t : Files) (cwd p : Path) : Except PathFault (List String) :=
  if pathLimit < p.text.utf8ByteSize then .error .nameTooLong
  else if p.isAbsolute then t.walk [] p.names
  else t.walk cwd.names p.names

/-- Whether there is anything at a path. A name that is too long is a fault even here. -/
def exists? (t : Files) (cwd p : Path) : Except PathFault Bool :=
  if p.text.toList.contains '\x00' then .ok false
  else
    match t.locate cwd p with
    | .ok place => .ok ( t.entry? place).isSome
    | .error .nameTooLong => .error .nameTooLong
    | .error _ => .ok false

def read (t : Files) (cwd p : Path) : Except PathFault (List UInt8) := do
  match t.entry? (← t.locate cwd p) with
  | some (.file bytes) => .ok bytes
  | some .directory => .error .isDirectory
  | none => .error .missing

/-- Writes a file at a path: the bytes that `change` makes of those that are there. -/
def update (t : Files) (cwd p : Path) (change : List UInt8 → List UInt8) :
    Except PathFault Files := do
  let place ← t.locate cwd p
  match t.entry? place with
  | some (.file bytes) => .ok (t.put place (.file (change bytes)))
  | some .directory => .error .isDirectory
  | none => .ok (t.put place (.file (change [])))

/-- Makes the directories along names, those that are there already being kept. -/
def makeAlong (t : Files) (here : List String) : List String → Except PathFault Files
  | [] => .ok t
  | name :: names =>
    if name = ".." then makeAlong t here.dropLast names
    else if nameLimit < name.utf8ByteSize then .error .nameTooLong
    else
      let next := here ++ [name]
      match t.entry? next with
      | some .directory => makeAlong t next names
      | some (.file _) => .error (if names = [] then .alreadyThere else .notDirectory)
      | none => makeAlong (t.put next .directory) next names

/-- Makes the directory at a path with all above it. -/
def makeDirectories (t : Files) (cwd p : Path) : Except PathFault Files :=
  if pathLimit < p.text.utf8ByteSize then .error .nameTooLong
  else if p.isAbsolute then t.makeAlong [] p.names
  else t.makeAlong cwd.names p.names

/-- Puts a file with all the directories above it, whatever is there. -/
def plant (t : Files) (place : List String) (bytes : List UInt8) : Files :=
  let above := (List.range place.length).map fun n => place.take n
  let t := above.foldl (fun t d => if ( t.entry? d).isSome then t else t.put d .directory) t
  t.put place (.file bytes)

end Files

end TableTalk
