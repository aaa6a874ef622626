import TableTalk.Deflate.Format
import TableTalk.Text.Blank
import TableTalk.Text.Lower
import TableTalk.Text.Search

/-!
# Content encodings

A body may come packed, and packed more than once; a header lists the encodings in the order in
which they were applied. `decode` takes them off again. An encoding that is not known stays on.
-/

namespace TableTalk.Web

open Text Deflate

inductive Encoding where
  | gzip
  | deflate
  deriving DecidableEq, Repr

namespace Encoding

/-- The known encodings in the value of a header. -/
def list (value : String) : List Encoding :=
  (splitOn ',' value.toList).filterMap fun name =>
    match String.ofList (lowerChars (trimChars name)) with
    | "gzip" => some gzip
    | "deflate" => some deflate
    | _ => none

/-- Takes an encoding off a body. A deflated body should have the header of its format, but may also
come without. -/
def decode (body : List UInt8) : Encoding → Except Fault (List UInt8)
  | gzip => unpack .gzip body
  | deflate =>
    match unpack .zlib body with
    | .ok bytes => .ok bytes
    | .error _ => unpack .bare body

/-- Takes encodings off a body, the last one first. -/
def decodeAll (encodings : List Encoding) (body : List UInt8) : Except Fault (List UInt8) :=
  encodings.reverse.foldlM decode body

end Encoding

end TableTalk.Web
