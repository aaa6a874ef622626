/-!
# Tokens of a document

The tokens of a document stand for its marks and scalars. The tokens that open and close block
collections stand for changes of indentation, and a key token may stand before the node that a later
colon makes a key.
-/

namespace TableTalk.Yaml

inductive Token where
  | version (major : Nat)
  | tagHandle (handle start : String)
  | otherDirective
  | documentStart
  | documentEnd
  | streamEnd
  | blockSequenceStart
  | blockMappingStart
  | blockEnd
  | flowSequenceStart
  | flowSequenceEnd
  | flowMappingStart
  | flowMappingEnd
  | blockEntry
  | flowEntry
  | key
  | value
  | alias (name : String)
  | anchor (name : String)
  /-- A tag; one without a handle is written out. -/
  | tag (handle : Option String) (suffix : String)
  /-- A scalar; a plain one stands without quotes or other marks. -/
  | scalar (text : String) (plain : Bool)
  deriving DecidableEq, Repr, Inhabited

namespace Token

def isDirective : Token → Bool
  | version _ => true
  | tagHandle _ _ => true
  | otherDirective => true
  | _ => false

end Token

end TableTalk.Yaml
