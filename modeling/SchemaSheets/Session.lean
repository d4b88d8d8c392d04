import SchemaSheets.Diagnostic
import SchemaSheets.Failure
import SchemaSheets.Http.Exchange

/-!
# Sessions

A run keeps a session: the diagnostics that somebody collects, a log, and the
requests that were sent.  The session survives a failure, so that what was
logged before it can still be shown.
-/

namespace SchemaSheets

inductive LogLevel where
  | info
  | warning
  deriving DecidableEq, Repr

def LogLevel.name : LogLevel → String
  | info => "INFO"
  | warning => "WARNING"

inductive LogChannel where
  | fields
  | sheets
  | workbooks
  | spaces
  /-- the requests that were sent -/
  | requests
  deriving DecidableEq, Repr

def LogChannel.name : LogChannel → String
  | fields => "graphql_workbook.generators.field"
  | sheets => "graphql_workbook.generators.sheet"
  | workbooks => "graphql_workbook.generators.workbook"
  | spaces => "graphql_workbook.generators.space"
  | requests => "http"

structure LogRecord where
  level : LogLevel
  channel : LogChannel
  message : String
  deriving DecidableEq, Repr

/-- What a run leaves behind beside its result. -/
structure Session where
  /-- none while nobody collects diagnostics -/
  collector : Option Diagnostics := none
  log : List LogRecord := []
  requests : List Http.Request := []
  deriving Repr

/-- A run: it changes the session and ends with a result or a failure. -/
abbrev Run := ExceptT Failure (StateM Session)

namespace Session

def logged (s : Session) (r : LogRecord) : Session := { s with log := s.log ++ [r] }

def collected (s : Session) (d : Diagnostic) : Session :=
  { s with collector := s.collector.map (·.add d) }

def requested (s : Session) (r : Http.Request) : Session := { s with requests := s.requests ++ [r] }

end Session

namespace Run

def inform (channel : LogChannel) (message : String) : Run Unit :=
  modify (·.logged ⟨.info, channel, message⟩)

def collect (d : Diagnostic) : Run Unit := modify (·.collected d)

/-- Writes a diagnostic to the log as a warning and collects it. -/
def warn (channel : LogChannel) (d : Diagnostic) : Run Unit :=
  modify fun s => (s.logged ⟨.warning, channel, d.message⟩).collected d

def ofExcept {α : Type} (x : Except Failure α) : Run α :=
  match x with
  | .ok a => pure a
  | .error e => throw e

def checked {α : Type} (model : String) (x : Check.Checked α) : Run α :=
  ofExcept ((Check.named model x).mapError .invalid)

/-- Runs with a collector of its own and gives the result with what was collected. -/
def collecting {α : Type} (x : Run α) : Run (α × Diagnostics) := do
  let outer := (← get).collector
  modify fun s => { s with collector := some {} }
  let a ← x
  let found := (← get).collector.getD {}
  modify fun s => { s with collector := outer }
  return (a, found)

/-- A run from a session: what it ends with, and the session it leaves. -/
def from_ {α : Type} (s : Session) (x : Run α) : Except Failure α × Session :=
  (ExceptT.run x).run s

end Run

instance : MonadLift (Except Misuse) Run where
  monadLift x := Run.ofExcept (x.mapError .misuse)

instance : MonadLift (Except Malformed) Run where
  monadLift x := Run.ofExcept (x.mapError .malformed)

instance : MonadLift (Except Check.Invalid) Run where
  monadLift x := Run.ofExcept (x.mapError .invalid)

instance : MonadLift (Except Failure) Run where
  monadLift x := Run.ofExcept x

end SchemaSheets
