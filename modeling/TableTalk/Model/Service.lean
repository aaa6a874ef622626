import TableTalk.Failure
import TableTalk.Model.Reply

/-!
# The language model

The language model as seen from here: the replies it gives, the n-th call getting the n-th and the
last one repeating, and the calls made so far. A model without replies answers with an empty text.
-/

namespace TableTalk.Model

structure Call where
  model : String
  prompt : String
  maxTokens : Option Int
  deriving Repr

inductive Outcome where
  | reply (r : Reply)
  | broken (message : String)

structure Service where
  /-- Whether the package that talks to the model is there. -/
  installed : Bool
  script : List Outcome
  calls : List Call

namespace Service

def silence : Outcome := .reply (.object [("output_text", .text "")])

def next (s : Service) : Outcome :=
  (s.script[s.calls.length]?.or s.script.getLast?).getD silence

def call (s : Service) (c : Call) : Outcome × Service :=
  (s.next, { s with calls := s.calls ++ [c] })

end Service

end TableTalk.Model
