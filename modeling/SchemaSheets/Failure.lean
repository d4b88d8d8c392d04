import SchemaSheets.Descriptor.Check
import SchemaSheets.Files.Store
import SchemaSheets.Json.Reader
import SchemaSheets.Schema.SyntaxError
import SchemaSheets.Source.Malformed

/-!
# Failures

Everything that can end a run early, and the wording that the user sees.
-/

namespace SchemaSheets

/-- A failed attempt to fetch a schema; a transport failure has no status code. -/
structure FetchFailure where
  url : String
  statusText : String
  statusCode : Option Int
  deriving DecidableEq, Repr

def FetchFailure.message (e : FetchFailure) : String :=
  "Could not get GraphQL Schema: " ++ e.statusText

inductive SetupFailure where
  /-- not a document of the format; the detail is its reader's -/
  | unreadable (format detail : String)
  | notMapping
  | entriesNotList
  | nothingToGenerate
  | sharedNotMapping
  | twoSources (entry : Nat)
  | sourceFileMissing (entry : Nat) (path : String)
  | noSource (entry : Nat)
  | invalidEntry (entry : Nat) (report : Check.Invalid)
  deriving Repr

namespace SetupFailure

def entryPath (entry : Nat) : String := "workbooks[" ++ Decimal.intText entry ++ "]"

def message : SetupFailure → String
  | unreadable format detail => "Invalid " ++ format ++ ": " ++ detail
  | notMapping => "Config must be a mapping"
  | entriesNotList => "'workbooks' must be a list"
  | nothingToGenerate => "Config must have a 'source', 'source_file' or 'workbooks' entry"
  | sharedNotMapping => "'defaults' and 'space' must be mappings"
  | twoSources entry => entryPath entry ++ ": use either 'source' or 'source_file', not both"
  | sourceFileMissing entry path => entryPath entry ++ ": source file not found: " ++ path
  | noSource entry => entryPath entry ++ ": workbook must have a 'source'"
  | invalidEntry entry report => entryPath entry ++ ": " ++ report.message

end SetupFailure

inductive Failure where
  | misuse (m : Misuse)
  | malformed (m : Malformed)
  | invalid (report : Check.Invalid)
  /-- no schema can be obtained from a value of this type -/
  | unsupportedSource (type : String)
  | fetch (e : FetchFailure)
  /-- a URL that no request can be sent to -/
  | badUrl (message : String)
  /-- a failure of the transport that is not reported as a failed fetch -/
  | transport (name message : String)
  | build (e : Schema.BuildError)
  | setup (e : SetupFailure)
  | file (e : FileFailure)
  deriving Repr

/-- The wording of a failure, as shown to the user. -/
def Failure.message : Failure → String
  | misuse m => m.message
  | malformed m => m.message
  | invalid report => report.message
  | unsupportedSource type => "Not a valid GraphQL Schema source: " ++ type
  | fetch e => e.message
  | badUrl message => message
  | transport _ message => message
  | build (.syntaxFault e) => e.report
  | build (.rules messages) => "\n\n".intercalate messages
  | build (.argument e) => e.report
  | setup e => e.message
  | file e => e.message

instance : MonadLift (Except Misuse) (Except Failure) where
  monadLift x := x.mapError .misuse

instance : MonadLift (Except Malformed) (Except Failure) where
  monadLift x := x.mapError .malformed

instance : MonadLift (Except Check.Invalid) (Except Failure) where
  monadLift x := x.mapError .invalid

end SchemaSheets
