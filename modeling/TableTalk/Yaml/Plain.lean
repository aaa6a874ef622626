import TableTalk.Yaml.Cursor

/-!
# Plain scalars

A plain scalar is written without any marks around it. It ends at a colon that makes it a key, at a
comment and where the indentation ends; inside a flow collection also at the marks of that
collection. A line break within it is read as a space, and blank lines as line breaks.
-/

namespace TableTalk.Yaml

def flowMarks : List Char := [',', '?', '[', ']', '{', '}']

/-- Whether a plain scalar may start here. -/
def startsPlain (inFlow : Bool) (cs : List Char) : Bool :=
  match cs with
  | [] => false
  | c :: rest =>
    !(atGap cs || "-?:,[]\x7b\x7d#&*!|>'\"%@\x60".toList.contains c)
      || (!atGap rest && (c = '-' || (!inFlow && (c = '?' || c = ':'))))

/-- Whether the colon before this makes a key of what stands before it. -/
def endsKey (inFlow : Bool) (cs : List Char) : Bool :=
  atGap cs || (inFlow && (cs.head?.map [',', '[', ']', '{', '}'].contains).getD false)

/-- The characters up to the next gap or mark that ends a plain scalar. -/
def plainRun (inFlow : Bool) : List Char → List Char
  | [] => []
  | c :: rest =>
    if atGap [c] || (c = ':' && endsKey inFlow rest) || (inFlow && flowMarks.contains c) then []
    else c :: plainRun inFlow rest

/-- The breaks of blank lines, up to a mark between documents, and whether that mark was met. -/
def plainBreaks : (fuel : Nat) → Cursor → List Char × Bool × Cursor
  | 0, p => ([], false, p)
  | fuel + 1, p =>
    if atSeparator p.rest && p.column = 0 then ([], true, p)
    else
      let p := p.skipSpaces
      match p.takeBreak? with
      | none => ([], false, p)
      | some (c, p) =>
        let (cs, stopped, p) := plainBreaks fuel p
        (c :: cs, stopped, p)

/-- What stands between two runs of a plain scalar. -/
structure PlainGap where
  /-- The text that the gap stands for; nothing if the scalar ends here. -/
  text : List Char
  /-- Whether the gap holds a line break. -/
  broken : Bool
  after : Cursor

/-- The gap at the front. -/
def plainGap (p : Cursor) : PlainGap :=
  let spaces := p.rest.takeWhile (· = ' ')
  let p := p.skipSpaces
  match p.takeBreak? with
  | none => ⟨spaces, false, p⟩
  | some (c, p) =>
    let (breaks, stopped, p) := plainBreaks (p.rest.length + 1) p
    if stopped then ⟨[], true, p⟩
    else
      let first := if c ≠ '\n' then [c] else if breaks.isEmpty then [' '] else []
      ⟨first ++ breaks, true, p⟩

/-- The text of a plain scalar, whether it ends at the start of a line, and what follows it. Lines
after the first must be indented by `indent`. -/
def plainRuns (inFlow : Bool) (indent : Int) : (fuel : Nat) → Cursor → List Char × Bool × Cursor
  | 0, p => ([], false, p)
  | fuel + 1, p =>
    let run := plainRun inFlow p.rest
    let gap := plainGap (p.skip run.length)
    let after := gap.after
    if gap.text.isEmpty || after.rest.head? = some '#'
        || (!inFlow && decide ((after.column : Int) < indent)) then (run, gap.broken, after)
    else if (plainRun inFlow after.rest).isEmpty then (run, gap.broken, after)
    else
      let (more, broken, p) := plainRuns inFlow indent fuel after
      (run ++ gap.text ++ more, broken, p)

def takePlain (inFlow : Bool) (indent : Int) (p : Cursor) : String × Bool × Cursor :=
  let (cs, broken, after) := plainRuns inFlow indent (p.rest.length + 1) p
  (String.ofList cs, broken, after)

end TableTalk.Yaml
