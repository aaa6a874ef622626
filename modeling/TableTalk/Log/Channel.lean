/-!
# The log channel

A log channel has a level and handlers, each with a format or none. Setting it up adds a handler
only if there is none yet; what the surroundings have set up stays, but for a lower level on demand.
-/

namespace TableTalk.Log

inductive Level where
  | debug
  | info
  | warning
  deriving DecidableEq, Repr

namespace Level

def name : Level → String
  | debug => "DEBUG"
  | info => "INFO"
  | warning => "WARNING"

end Level

structure Channel where
  level : Level
  /-- The formats of the handlers. -/
  formats : List (Option String)
  deriving DecidableEq, Repr

namespace Channel

def standardFormat : String := "%(asctime)s [%(levelname)s] %(name)s - %(message)s"

/-- A channel with handlers that have no format. -/
def bare (handlers : Nat) : Channel :=
  ⟨.warning, List.replicate handlers none⟩

/-- Sets a channel up, for all messages if `debug`. -/
def setUp (debug : Bool) (c : Channel) : Channel :=
  match c.formats with
  | [] => ⟨if debug then .debug else .info, [some standardFormat]⟩
  | _ => if debug then { c with level := .debug } else c

end Channel

end TableTalk.Log
