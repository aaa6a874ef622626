import TableTalk.Double.Basic
import TableTalk.Failure
import TableTalk.Text.Blank

/-!
# Replies of the language model

A reply is a tree in which an item is either an object, whose fields are its attributes, or a plain
record, list or scalar. `spoken` collects what a reply says: its direct text if that is not blank,
else the text blocks of its output in order, one to a line. Items and blocks may be objects or
records alike.
-/

namespace TableTalk.Model

open Text

inductive Reply where
  | object (fields : List (String × Reply))
  | record (fields : List (String × Reply))
  | list (items : List Reply)
  | text (s : String)
  | null
  | bool (b : Bool)
  | int (i : Int)
  | float (d : Double)
  deriving Inhabited

namespace Reply

/-- An attribute; only objects have any, and an absent one is null. -/
def attr (name : String) : Reply → Reply
  | object fields => (fields.lookup name).getD null
  | _ => null

/-- A field of a record; an absent one is null. -/
def field (name : String) : Reply → Reply
  | record fields => (fields.lookup name).getD null
  | _ => null

def isFalsy : Reply → Bool
  | object _ => false
  | record fields => fields.isEmpty
  | list items => items.isEmpty
  | text s => s.isEmpty
  | null => true
  | bool b => !b
  | int i => i == 0
  | float d => d.isZero

/-- The first of two values that counts as something. -/
def orElse (a b : Reply) : Reply :=
  if a.isFalsy then b else a

/-- A text that is not blank, trimmed. -/
def spoken? : Reply → Option String
  | text s => if allBlank s.toList then none else some (trim s)
  | _ => none

/-- The value of a content field of an item. -/
def content : Reply → Reply
  | record fields => (fields.lookup "content").getD null
  | item => item.attr "content"

/-- The blocks in a content field; a record alone is one block. -/
def blocks : Reply → List Reply
  | record fields => [record fields]
  | list items => items
  | _ => []

/-- What a block says. -/
def blockText : Reply → Option String
  | record fields =>
    ((record fields).field "text").orElse ((record fields).field "output_text") |>.spoken?
  | block => (block.attr "text").spoken?

/-- The items of an output field. -/
def outputItems (output : Reply) : Except Failure (List Reply) :=
  if output.isFalsy then .ok []
  else
    match output with
    | list items => .ok items
    | text _ => .ok []
    | record _ => .ok []
    | object _ => .error (.notIterable "object")
    | null => .ok []
    | bool _ => .error (.notIterable "bool")
    | int _ => .error (.notIterable "int")
    | float _ => .error (.notIterable "float")

def spoken (reply : Reply) : Except Failure String :=
  match (reply.attr "output_text").spoken? with
  | some direct => .ok direct
  | none => do
    let items ← outputItems (reply.attr "output")
    return String.intercalate "\n" ((items.flatMap fun item => item.content.blocks).filterMap blockText)

end Reply

end TableTalk.Model
