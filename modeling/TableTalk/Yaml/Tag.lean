/-!
# Tags

A tag tells what kind of value a node stands for. The standard tags have a common start; `standard?`
knows those that have a meaning here.
-/

namespace TableTalk.Yaml

inductive Tag where
  | text
  | int
  | float
  | bool
  | null
  | moment
  | bytes
  | list
  | map
  | set
  /-- A list of pairs, ordered mappings among them. -/
  | pairs
  /-- The key under which a mapping takes in another. -/
  | merge
  /-- The key for the value proper of a mapping. -/
  | proper
  | unknown (name : String)
  deriving DecidableEq, Repr, Inhabited

namespace Tag

def standardStart : String := "tag:yaml.org,2002:"

def standardTags : List (String × Tag) := [
  ("str", text), ("int", int), ("float", float), ("bool", bool), ("null", null),
  ("timestamp", moment), ("binary", bytes), ("seq", list), ("map", map), ("set", set),
  ("omap", pairs), ("pairs", pairs), ("merge", merge), ("value", proper)]

def ofName (name : String) : Tag :=
  match standardTags.find? fun (n, _) => standardStart ++ n == name with
  | some (_, t) => t
  | none => unknown name

/-- Whether scalars with the tag have values. -/
def isScalar : Tag → Bool
  | text | int | float | bool | null | moment | bytes => true
  | _ => false

end Tag

end TableTalk.Yaml
