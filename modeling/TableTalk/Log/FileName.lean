import TableTalk.Calendar.Iso
import TableTalk.Text.Blank

/-!
# Names of log files

The file of a ticket is named for the moment of its first event and for the ticket, in which every
run of characters that have no place in a name becomes one dash.
-/

namespace TableTalk.Log

open Text
open Double (padZeros)

/-- Whether a character may stand in the name of a file as it is. -/
def isPlain (c : Char) : Bool :=
  c.isAlphanum || c = '_' || c = '-'

/-- The characters with a dash for every run of those that are not plain; `inRun` tells that the
character before belongs to such a run. -/
def dashRuns (inRun : Bool) : List Char → List Char
  | [] => []
  | c :: rest =>
    if isPlain c then c :: dashRuns false rest
    else if inRun then dashRuns true rest
    else '-' :: dashRuns true rest

def ticketName (ticket : String) : String :=
  match dashRuns false (trimChars ticket.toList) with
  | [] => "query"
  | cs => String.ofList cs

/-- A moment as it stands in the name of a file, to the millisecond. -/
def momentName (m : Moment) : String :=
  toString m.date.year ++ Moment.two m.date.month ++ Moment.two m.date.day ++ "T"
    ++ Moment.two m.hour ++ Moment.two m.minute ++ Moment.two m.second
    ++ padZeros 3 (toString (m.micro / 1000))

/-- The moment that a stamp denotes, perhaps with a `Z` at its end. -/
def stampMoment? (stamp : String) : Option Moment :=
  let cs := trimChars stamp.toList
  let bare := if ['Z'].isSuffixOf cs then cs.dropLast else cs
  if bare = [] then none else Moment.ofIso? (String.ofList bare)

/-- The moment in the name of a file: the one that a stamp denotes, else the present one. -/
def stampName (now : Moment) (stamp : Option String) : String :=
  momentName ((stamp.bind stampMoment?).getD now)

def fileName (now : Moment) (stamp : Option String) (ticket : String) : String :=
  stampName now stamp ++ "-" ++ ticketName ticket ++ ".jsonl"

end TableTalk.Log
