import TableTalk.Value
import TableTalk.World.Basic

/-!
# Notices of events

What a reader is told about an event while a question is being answered.
-/

namespace TableTalk.Chat

/-- The value of a field, with a default where it is missing. -/
def fieldOr (payload : List (String × Json)) (name : String) (default : Json) : Json :=
  (payload.lookup name).getD default

def isFromModel : Json → Bool
  | .text s => s == "llm"
  | _ => false

def notice (event : String) (payload : List (String × Json)) : String :=
  match event with
  | "question_received" =>
    let question := fieldOr payload "question" .null
    if question.isFalsy then "Received question." else "Received question: " ++ question.display
  | "sql_generated" =>
    if isFromModel (fieldOr payload "source" .null) then "Language model generated the SQL."
    else "Generated SQL with keyword rules."
  | "generation_failed" =>
    "Could not generate SQL: " ++ (fieldOr payload "error" (.text "unknown error")).display
  | "sql_executed" =>
    "Query returned " ++ (fieldOr payload "row_count" (.int 0)).display ++ " row(s)."
  | "question_resolved" =>
    "Completed question with status '" ++ (fieldOr payload "status" .null).display ++ "'."
  | other => "Query event: " ++ other

end TableTalk.Chat
