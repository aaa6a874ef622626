import TableTalk.Assistant.Basic
import TableTalk.Chat.Grid
import TableTalk.Chat.Notice

/-!
# Chat sessions

A session reads lines one by one. A line is nothing, a command to leave or to list the columns, a
statement to run, or a question; statements and questions get tickets with running numbers. What
happens to a question is told as it happens, and a mistake in a statement is told and forgotten.
-/

namespace TableTalk.Chat

open Text

structure Session where
  assistant : Assistant
  name : String
  /-- The most rows of a result that are shown. -/
  maxRows : Int

inductive Command where
  | nothing
  | leave
  | columns
  /-- To run a statement, if one is given. -/
  | statement (text : Option String)
  | question (text : String)
  deriving DecidableEq, Repr

namespace Command

def leaveWords : List String := ["/exit", "exit", "quit", ":q"]

/-- What follows the first word of a text and the white space after it. -/
def afterWord (cs : List Char) : List Char :=
  trimLeft (cs.dropWhile fun c => !isBlank c)

def ofLine (line : String) : Command :=
  let cs := trimChars line.toList
  let text := String.ofList cs
  if cs.isEmpty then nothing
  else if leaveWords.contains (lower text) then leave
  else if text = "/columns" then columns
  else if "/sql".toList.isPrefixOf cs then
    let rest := afterWord cs
    statement (if rest.isEmpty then none else some (String.ofList rest))
  else question text

end Command

namespace Session

def prompt : String := "sql-bot> "

def greeting (a : Assistant) : String :=
  "Ask questions about '" ++ a.tableName ++ "' (" ++ toString a.table.rowCount
    ++ " rows). Use '/sql <statement>' to run SQL directly, '/columns' to list columns and '/exit' "
    ++ "to leave."

def ticketAt (s : Session) (number : Nat) : String :=
  s.name ++ "-Q" ++ Double.padZeros 3 (toString number)

/-- The agent of the session: events go to the sink and are told. -/
def agent (s : Session) : Agent :=
  { s.assistant.agent with
    sink := fun e => do
      s.assistant.agent.sink e
      World.print ("  ↳ " ++ notice e.name e.payload) }

def timeText (d : Double) : String :=
  (if d.isZero then Double.zero else d).fixedText 2

def resultLines (s : Session) (r : ResultSet) : List String :=
  (Grid.ofResult r s.maxRows).lines
    ++ [toString r.rowCount ++ " row(s) in " ++ timeText r.elapsed ++ " ms"]

def statementLines (statement source : String) : List String :=
  if statement = "" then []
  else ["SQL" ++ (if source = "" then "" else " (via " ++ source ++ ")") ++ ": " ++ statement]

def errorLines (error : String) : List String :=
  if error = "" then [] else ["Error: " ++ error]

def verdictLines (s : Session) (v : Agent.Verdict) : List String :=
  ((v.generated?.map fun g => statementLines g.statement g.source).getD [])
    ++ ((v.error?.map errorLines).getD []) ++ ((v.result?.map s.resultLines).getD [])

def printAll (lines : List String) : Action Unit :=
  lines.forM World.print

/-- Prints what came of a ticket. -/
def report (ticket status : String) (lines : List String) : Action Unit :=
  printAll (["[" ++ ticket ++ "] status: " ++ status] ++ lines ++ [""])

/-- Runs a statement; a failure about a value is told. -/
def runStatement (s : Session) (ticket statement : String) : Action Unit := do
  let outcome : Except Failure ResultSet ← Action.orElseIf Failure.isValueFailure
    (do return .ok (← s.agent.runSql ticket statement)) fun f => return .error f
  match outcome with
  | .ok result => report ticket "executed" (statementLines statement "" ++ s.resultLines result)
  | .error f => World.print ("Error: " ++ f.message)

def serve (s : Session) (ticket : String) : Command → Action Unit
  | .statement none => World.print "Usage: /sql <statement>"
  | .statement (some statement) => s.runStatement ticket statement
  | .question text => do
    let answer ← s.agent.answerQuestion ticket (some text)
    report ticket answer.verdict.status (s.verdictLines answer.verdict)
  | _ => return ()

/-- Handles a line, or the end of the lines, when the next ticket has the given number. Gives the
number of the ticket after that, unless the session ends. -/
def turn (s : Session) (number : Nat) : Option String → Action (Option Nat)
  | none => do
    World.print "\nSession ended."
    return none
  | some line =>
    match Command.ofLine line with
    | .nothing => return some number
    | .leave => do
      World.print "Session ended."
      return none
    | .columns => do
      World.print ("Columns: " ++ join ", " s.assistant.table.headers)
      return some number
    | command => do
      s.serve (s.ticketAt number) command
      return some (number + 1)

/-- Reads and handles lines until the session ends; it does so after at most `count` lines if there
are no more than that. -/
def talk (s : Session) (number : Nat) : (count : Nat) → Action Unit
  | 0 => do
    let _ ← s.turn number (← World.readLine prompt)
    return ()
  | count + 1 => do
    match ← s.turn number (← World.readLine prompt) with
    | none => return ()
    | some next => s.talk next count

def greet (s : Session) : Action Unit :=
  World.print (greeting s.assistant)

def start (s : Session) : Action Unit := do
  s.greet
  s.talk 1 (← get).input.length

end Session

/-- A name for a session that was not given before. -/
def freshName : Action String := do
  return "session-" ++ (← World.freshId)

end TableTalk.Chat
