import TableTalk.Table.Basic
import TableTalk.Text.Blank

/-!
# Excerpts of long texts

A text that is too long for a log line is cut and ends in three dots, which count towards its
length.
-/

namespace TableTalk.Log

open Text

/-- The length of an excerpt when none is given. -/
def excerptLength : Int := 200

/-- The trimmed text, cut to at most `limit` characters. -/
def excerpt (limit : Int) (s : String) : String :=
  let cs := trimChars s.toList
  if (cs.length : Int) ≤ limit then String.ofList cs
  else String.ofList (slice 0 (some (limit - 3)) cs) ++ "..."

end TableTalk.Log
