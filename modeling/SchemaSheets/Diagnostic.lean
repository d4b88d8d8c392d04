import SchemaSheets.Descriptor.Check

/-!
# Diagnostics

What a run has to say about a schema beside its result: fields that were
skipped, sheets that were dropped, fields that were added.  A collector keeps
diagnostics in the order in which they came.
-/

namespace SchemaSheets

inductive Severity where
  | error
  | warning
  | info
  deriving DecidableEq, Repr, Inhabited

inductive DiagnosticCode where
  | unsupportedFieldKind
  | danglingReference
  | idFieldAdded
  deriving DecidableEq, Repr, Inhabited

namespace Severity

def names : List (String × Severity) := [("error", error), ("warning", warning), ("info", info)]

def name : Severity → String
  | error => "error"
  | warning => "warning"
  | info => "info"

def ofValue (v : Value) : Except Misuse Severity :=
  match v.text?.bind fun s => names.lookup s with
  | some s => .ok s
  | none => .error (.notAChoice v "DiagnosticSeverity")

end Severity

namespace DiagnosticCode

def names : List (String × DiagnosticCode) :=
  [("unsupported_field_kind", unsupportedFieldKind), ("dangling_reference", danglingReference),
   ("id_field_added", idFieldAdded)]

def name : DiagnosticCode → String
  | unsupportedFieldKind => "unsupported_field_kind"
  | danglingReference => "dangling_reference"
  | idFieldAdded => "id_field_added"

def ofValue (v : Value) : Except Misuse DiagnosticCode :=
  match v.text?.bind fun s => names.lookup s with
  | some c => .ok c
  | none => .error (.notAChoice v "DiagnosticCode")

end DiagnosticCode

/-- A single message.  The path leads to what it is about, the context holds details. -/
structure Diagnostic where
  severity : Severity
  code : DiagnosticCode
  message : String
  path : String := ""
  context : Extras := []
  deriving DecidableEq, Repr, Inhabited

structure Diagnostics where
  items : List Diagnostic := []
  deriving DecidableEq, Repr, Inhabited

namespace Diagnostic

def toValue (d : Diagnostic) : Value :=
  .record [("severity", .str d.severity.name), ("code", .str d.code.name),
    ("message", .str d.message), ("path", .str d.path), ("context", .record d.context)]

/-- The names that context details cannot have, since they name the parts of a diagnostic. -/
def reserved : List String := ["self", "severity", "code", "message", "path"]

/-- A field was left out because no column is made from its kind of type. -/
def unsupportedField (field sheet kind : String) : Diagnostic where
  severity := .warning
  code := .unsupportedFieldKind
  message := "Field '" ++ field ++ "' on '" ++ sheet ++ "' skipped because '" ++ kind ++
    "' is unsupported."
  path := sheet ++ "." ++ field
  context := [("kind", .str kind)]

/-- A sheet was dropped because it points to sheets that are not there. -/
def danglingReference (sheet : String) (missing : List String) : Diagnostic where
  severity := .warning
  code := .danglingReference
  message := "Sheet '" ++ sheet ++ "' dropped because it references unknown sheet(s): " ++
    ", ".intercalate missing ++ "."
  path := sheet
  context := [("missing", .list (missing.map .str))]

def idFieldAdded (sheet : String) : Diagnostic where
  severity := .info
  code := .idFieldAdded
  message := "Sheet '" ++ sheet ++ "' has no 'id' field; a numeric one was added."
  path := sheet

end Diagnostic

namespace Diagnostics

def size (c : Diagnostics) : Nat := c.items.length

def count (c : Diagnostics) (s : Severity) : Nat := c.items.countP (·.severity == s)

def warningCount (c : Diagnostics) : Nat := c.count .warning

def infoCount (c : Diagnostics) : Nat := c.count .info

def add (c : Diagnostics) (d : Diagnostic) : Diagnostics := ⟨c.items ++ [d]⟩

def byCode (c : Diagnostics) (code : DiagnosticCode) : List Diagnostic :=
  c.items.filter (·.code == code)

def merge (a b : Diagnostics) : Diagnostics := ⟨a.items ++ b.items⟩

@[simp] theorem items_add (c : Diagnostics) (d : Diagnostic) : (c.add d).items = c.items ++ [d] :=
  rfl

@[simp] theorem items_merge (a b : Diagnostics) : (a.merge b).items = a.items ++ b.items := rfl

def toValue (c : Diagnostics) : Value :=
  .record [("warning_count", .natural c.warningCount), ("info_count", .natural c.infoCount),
    ("items", .list (c.items.map Diagnostic.toValue))]

end Diagnostics

end SchemaSheets
