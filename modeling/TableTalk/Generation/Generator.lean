import TableTalk.Generation.Rules
import TableTalk.Generation.Statement
import TableTalk.Text.Digit
import TableTalk.World.Basic

/-!
# Generators of statements

A generator turns a question into a statement and says where it has it from. One kind goes by
keyword rules, another asks the language model, and a chain of two lets the second try when the
first finds no statement. A chain fails with the failure of its first part.
-/

namespace TableTalk

open Text Generation

structure Generated where
  statement : String
  source : String
  deriving DecidableEq, Repr

/-- How the language model is asked. -/
structure ModelQuery where
  model : String
  schema : String
  limit : Int
  maxTokens : Option Int
  deriving DecidableEq, Repr

namespace ModelQuery

def defaultLimit : Int := 100

def defaultMaxTokens : Int := 150

def prompt (q : ModelQuery) (question : String) : String :=
  "You are an expert SQL generator for CSV data analysis. Given the CSV schema below, convert the "
    ++ "English question to a simple SQL SELECT statement.\n\nSchema:\n" ++ q.schema
    ++ "\n\nQuestion: " ++ trim question
    ++ "\n\nGenerate a SQL query that works with CSV data. Use simple WHERE clauses with = or LIKE "
    ++ "operators. Always include LIMIT " ++ toString q.limit
    ++ " unless specifically asked for all data.\nReply with the SQL statement only.\n\nSQL:\n"

/-- Whether the limit has too many digits to be written in a prompt. -/
def hasHugeLimit (q : ModelQuery) : Bool :=
  Nat.pow 10 digitLimit ≤ q.limit.natAbs

/-- What is said of a limit that cannot be written. -/
def hugeLimitMessage : String :=
  "Exceeds the limit (4300 digits) for integer string conversion; use "
    ++ "sys.set_int_max_str_digits() to increase the limit"

/-- What the language model says to a question. It is not asked where there is no prompt. -/
def ask (q : ModelQuery) (question : String) : Action String := do
  if q.hasHugeLimit then throw (.modelCall hugeLimitMessage)
  let reply ← World.callModel ⟨q.model, q.prompt question, q.maxTokens⟩
  Action.ofExcept reply.spoken

/-- The statement in the language model's answer to a question. -/
def generate (q : ModelQuery) (question : Option String) : Action Generated := do
  let text := question.getD ""
  if allBlank text.toList then throw .emptyQuestion
  let answer ← Action.orElseIf (fun _ => true) (q.ask text) fun f => throw (.modelFailed f.message)
  let statement := clean answer
  if statement = "" then throw .noStatement
  return ⟨statement, "llm"⟩

end ModelQuery

inductive Generator where
  | rules (book : RuleBook)
  | model (query : ModelQuery)
  /-- The second generator when there is no first one. -/
  | only (second : Generator)
  | chain (first second : Generator)
  | scripted (run : Option String → Action Generated)

namespace Generator

def generate : Generator → Option String → Action Generated
  | rules book, question => do
    return ⟨← Action.ofExcept (book.statementFor (question.getD "")), "rules"⟩
  | model query, question => query.generate question
  | only second, question => second.generate question
  | chain first second, question =>
    Action.orElseIf Failure.isGenerationFailure (first.generate question) fun f =>
      -- Whatever keeps the second part from a statement, the first failure is told.
      Action.orElseIf (fun _ => true) (second.generate question) fun _ => throw f
  | scripted run, question => run question

end Generator

end TableTalk
