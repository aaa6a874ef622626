import TableTalk.Text.Quoted
import TableTalk.Text.Search
import TableTalk.Web.DomainName.Basic

/-!
# What can go wrong

A `Failure` is the cause for which an operation gave no result. `message` is its wording. The
causes fall into families by what takes them over: an unreadable source sends a table load to its
alternative, a failed generation to the next generator, a failed remote execution to the next
executor. `isSourceFailure`, `isGenerationFailure` and `isRemoteFailure` tell the families apart.
-/

namespace TableTalk

open Text

/-- A failure of the operating system on a path. -/
inductive PathFault where
  | missing
  | isDirectory
  | notDirectory
  | alreadyThere
  | nameTooLong
  deriving DecidableEq, Repr

namespace PathFault

/-- The system's number for the fault. -/
def number : PathFault → Nat
  | missing => 2
  | alreadyThere => 17
  | notDirectory => 20
  | isDirectory => 21
  | nameTooLong => 36

def wording : PathFault → String
  | missing => "No such file or directory"
  | alreadyThere => "File exists"
  | notDirectory => "Not a directory"
  | isDirectory => "Is a directory"
  | nameTooLong => "File name too long"

end PathFault

/-- The kinds of failure that a test double may stand in for. -/
inductive ScriptedKind where
  | generation
  | remote
  | columns
  | value
  | plain
  deriving DecidableEq, Repr

/-- How a scalar may not fit its tag. -/
inductive ScalarFault where
  /-- It is empty where digits are wanted. -/
  | empty
  /-- It cannot be read as a number, or as a date that the calendar has. -/
  | unreadable
  /-- It is none of the words for yes and no. -/
  | unknownWord
  /-- It does not have the form of a date. -/
  | noMoment
  deriving DecidableEq, Repr

inductive Failure where
  /-- The text of a table is empty or blank. -/
  | noData
  /-- Neither the primary location of a table nor its alternative, if any, could be read. -/
  | unreadableTable (primary : String) (alternative : Option String) (cause : String)
  | missingTable (path : String)
  /-- Bytes of a file are not valid in its encoding. -/
  | undecodable
  | system (fault : PathFault) (path : String)
  /-- A path starts with the home directory of somebody unknown. -/
  | unknownHome
  | transport (kind message : String)
  /-- A header of a response is a text that is not ASCII. Only a transport that is put in place of a
  connection for a test has headers as texts. -/
  | badHeader
  /-- A web request was answered with a status that is no success. -/
  | badStatus (message : String)
  | badAddress (message : String)
  /-- A reply came from an address without a scheme. -/
  | noScheme (address : String)
  /-- The name of a host cannot be read back. -/
  | badName (fault : Web.DomainName.LabelFault)
  /-- The body of a reply cannot be read at all in its character set, as when it does not tell the
  order of its bytes. -/
  | unreadableBody
  /-- The character set of a reply is none that ends in characters. -/
  | noText
  | unknownColumns (tokens : List String)
  /-- A whole number is written with so many digits that it is refused. -/
  | hugeNumeral (digits : Nat)
  /-- A text is wanted as a number but denotes none. -/
  | unreadableNumber (text : String)
  /-- A value is of a kind that the operation has no use for. -/
  | wrongKind
  /-- The items are wanted of a value that has none, of the given kind. -/
  | notIterable (kind : String)
  /-- A whole number lies beyond the finite doubles. -/
  | tooLarge
  | noFields
  /-- A position lies outside the row or the headers. -/
  | noSuchPosition
  /-- A template has a hole whose name is not known. -/
  | unknownHole
  /-- A template has a hole that goes by position. -/
  | positionalHole
  | badTemplate
  /-- A question is empty or blank. -/
  | emptyQuestion
  | modelFailed (cause : String)
  | noStatement
  | modelPackageMissing
  /-- The environment variable with the key for the language model is not set. -/
  | modelKeyMissing (name : String)
  | modelCall (message : String)
  /-- A remote execution got no response. -/
  | remoteUnreachable (cause : String)
  /-- A remote execution was answered with an error. -/
  | remoteRefused (status : Nat) (detail : String)
  /-- A remote execution was answered with something that is no result. -/
  | remoteUnreadable (status : Nat)
  /-- Neither the environment nor the settings name a location of the table. -/
  | noLocation (name : Option String)
  | badYaml
  /-- The parts of a file or of a record stand inside one another too often. -/
  | tooDeep
  | badScalar (fault : ScalarFault)
  | badRecord
  | scenariosNotList
  | scenarioNotMapping
  | scenarioEmpty
  | noDependencies
  | scripted (kind : ScriptedKind) (message : String)
  deriving DecidableEq, Repr, Inhabited

namespace Failure

def message : Failure → String
  | noData => "No data found in CSV"
  | unreadableTable primary none cause =>
    "Could not read CSV file '" ++ primary ++ "': " ++ cause
  | unreadableTable primary (some alternative) cause =>
    "Could not read CSV file '" ++ primary ++ "' or fallback '" ++ alternative ++ "': " ++ cause
  | missingTable path => "CSV file not found: " ++ path
  | undecodable => "invalid bytes"
  | system fault path =>
    "[Errno " ++ toString fault.number ++ "] " ++ fault.wording ++ ": " ++ quoted path
  | unknownHome => "Could not determine home directory."
  | transport _ message => message
  | badHeader => "header that is not ASCII"
  | badStatus message => message
  | badAddress message => message
  | noScheme address => "unknown url type: " ++ quoted address
  | badName _ => "malformed domain name"
  | unreadableBody => "body cannot be read in its character set"
  | noText => "character set without characters"
  | unknownColumns tokens => "Unknown column(s): " ++ join ", " (tokens.map quoted)
  | hugeNumeral digits =>
    "Exceeds the limit (4300 digits) for integer string conversion: value has " ++ toString digits
      ++ " digits; use sys.set_int_max_str_digits() to increase the limit"
  | unreadableNumber text => "could not convert string to float: " ++ quoted text
  | wrongKind => "value of the wrong kind"
  | notIterable kind => "'" ++ kind ++ "' object is not iterable"
  | tooLarge => "whole number too large"
  | noFields => "value without fields"
  | noSuchPosition => "position out of range"
  | unknownHole => "unknown name in template"
  | positionalHole => "no argument at this position"
  | badTemplate => "malformed template"
  | emptyQuestion => "Question must not be empty"
  | modelFailed cause => "OpenAI API error: " ++ cause
  | noStatement => "OpenAI API returned no SQL"
  | modelPackageMissing =>
    "openai package is required. Install openai>=1.0 to enable SQL generation."
  | modelKeyMissing name =>
    "Environment variable '" ++ name ++ "' must be set for SQL generation"
  | modelCall message => message
  | remoteUnreachable cause => "Remote execution failed: " ++ cause
  | remoteRefused status detail =>
    "Remote execution failed (" ++ toString status ++ "): " ++ detail
  | remoteUnreadable status =>
    "Remote execution returned an unreadable result (" ++ toString status ++ ")"
  | noLocation name =>
    "Environment variable '" ++ name.getD "None"
      ++ "' or data_sources.csv.path is required for CSV data source"
  | badYaml => "malformed YAML"
  | tooDeep => "nested too deeply"
  | badScalar _ => "scalar that does not fit its tag"
  | badRecord => "malformed record"
  | scenariosNotList => "Scenario file must contain a top-level list"
  | scenarioNotMapping => "Scenario entries must be mappings"
  | scenarioEmpty => "Scenario must define either 'question' or 'sql'"
  | noDependencies => "Runner dependencies must be provided"
  | scripted _ message => message

/-- Whether the failure says that the data of a table could not be had or read as a table. -/
def isDataFailure : Failure → Bool
  | noData => true
  | unreadableTable _ _ _ => true
  | _ => false

/-- Whether the failure is one of the operating system. -/
def isSystemFailure : Failure → Bool
  | missingTable _ => true
  | system _ _ => true
  | noLocation _ => true
  | _ => false

/-- The kinds of failed requests that are put down to their sender. -/
def senderFaults : List String := ["InvalidURL", "CookieConflict", "StreamError"]

/-- Whether a web request failed on its way. -/
def isTransportFailure : Failure → Bool
  | transport kind _ => !senderFaults.contains kind
  | _ => false

/-- The failures of a location for which the alternative location of a table is tried. -/
def isSourceFailure (f : Failure) : Bool :=
  f.isDataFailure || f.isSystemFailure || f.isTransportFailure ||
    match f with
    | badStatus _ => true
    | _ => false

/-- The failures to generate a statement, for which the next generator is tried. -/
def isGenerationFailure : Failure → Bool
  | emptyQuestion => true
  | modelFailed _ => true
  | noStatement => true
  | scripted .generation _ => true
  | _ => false

/-- The failures to set up a client of the language model, for which the model is done without. -/
def isModelFailure : Failure → Bool
  | modelPackageMissing => true
  | modelKeyMissing _ => true
  | _ => false

/-- The failures of a remote execution, for which the next executor is tried. -/
def isRemoteFailure : Failure → Bool
  | remoteUnreachable _ => true
  | remoteRefused _ _ => true
  | remoteUnreadable _ => true
  | scripted .remote _ => true
  | _ => false

/-- The failures about a value, which a reader of statements is told and can mend. -/
def isValueFailure : Failure → Bool
  | noData => true
  | undecodable => true
  | badHeader => true
  | noScheme _ => true
  | badName _ => true
  | unreadableBody => true
  | unknownColumns _ => true
  | hugeNumeral _ => true
  | unreadableNumber _ => true
  | badTemplate => true
  | badScalar .unreadable => true
  | badRecord => true
  | scenariosNotList => true
  | scenarioNotMapping => true
  | scenarioEmpty => true
  | noDependencies => true
  | scripted .columns _ => true
  | scripted .value _ => true
  | _ => false

/-- The failures that say that columns are unknown. -/
def isColumnFailure : Failure → Bool
  | unknownColumns _ => true
  | scripted .columns _ => true
  | _ => false

end Failure

end TableTalk
