import TableTalk.Text.Search

/-!
# Paths

A path is a root, if it is absolute, and the names on the way. Reading a path drops empty names and
single dots; double dots stay, since what they lead to depends on the files. A path that starts with
exactly two slashes keeps both until it is resolved.
-/

namespace TableTalk

open Text

structure Path where
  /-- Empty for a relative path, else one or two slashes. -/
  root : String
  names : List String
  deriving DecidableEq, Repr, Inhabited

namespace Path

def rootOf : List Char → String
  | '/' :: '/' :: '/' :: _ => "/"
  | '/' :: '/' :: _ => "//"
  | '/' :: _ => "/"
  | _ => ""

def parse (s : String) : Path :=
  ⟨rootOf s.toList,
    ((splitOn '/' s.toList).filter fun n => n ≠ [] ∧ n ≠ ['.']).map String.ofList⟩

/-- Writes a path; the empty relative path is a dot. -/
def text (p : Path) : String :=
  if p.root = "" ∧ p.names = [] then "." else p.root ++ join "/" p.names

def isAbsolute (p : Path) : Bool := p.root ≠ ""

/-- The path that leads on by `q`, which stands alone if it is absolute. -/
def append (p q : Path) : Path :=
  if q.isAbsolute then q else ⟨p.root, p.names ++ q.names⟩

/-- Names with every double dot taken back by the name before it. -/
def collapse (names : List String) : List String :=
  names.foldl (fun done n => if n = ".." then done.dropLast else done ++ [n]) []

/-- The absolute path without double dots that a path leads to from a working directory; its root is
a single slash. -/
def resolve (cwd p : Path) : Path :=
  ⟨"/", collapse (cwd.append p).names⟩

end Path

end TableTalk
