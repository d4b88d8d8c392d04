import SchemaSheets.Value.Misuse
import SchemaSheets.Source.Malformed

/-!
# Type references

The type of a source field: a named type under any number of list and non-null
wrappers.  Introspection spells a reference as nested records of a kind, a name
and an inner reference; `TypeRef.ofValue` reads that form and `TypeRef.toValue`
writes it.  `TypeRef.label` is the reference in schema notation.
-/

namespace SchemaSheets

/-- A reference to a type.  Names are kept as they are found, texts or not. -/
inductive TypeRef where
  | scalar (name : Value)
  | object (name : Value)
  | list (inner : TypeRef)
  | nonNull (inner : TypeRef)
  /-- a kind of type that no column is made from -/
  | other (kind : String) (name : Value)
  /-- no reference at all -/
  | absent
  deriving DecidableEq, Repr, Inhabited

namespace TypeRef

def maxWrappers : Nat := 32

def wrappers : TypeRef → Nat
  | list inner => inner.wrappers + 1
  | nonNull inner => inner.wrappers + 1
  | _ => 0

/-! ### The introspection form -/

def spelled (kind : String) (name inner : Value) : Value :=
  .record [("kind", .str kind), ("name", name), ("ofType", inner)]

def toValue : TypeRef → Value
  | scalar name => spelled "SCALAR" name .null
  | object name => spelled "OBJECT" name .null
  | list inner => spelled "LIST" .null inner.toValue
  | nonNull inner => spelled "NON_NULL" .null inner.toValue
  | other kind name => spelled kind name .null
  | absent => .null

def wrapper? : Value → Option (String × (TypeRef → TypeRef))
  | .str "NON_NULL" => some ("NON_NULL", nonNull)
  | .str "LIST" => some ("LIST", list)
  | _ => none

/-- The kinds that need a name and that columns are made from. -/
def named? : Value → Option (String × (Value → TypeRef))
  | .str "SCALAR" => some ("SCALAR", scalar)
  | .str "OBJECT" => some ("OBJECT", object)
  | _ => none

/-- The reference that a value spells, `levels` being the levels that may still follow, its own
included. -/
def read : (levels : Nat) → Value → Except Malformed TypeRef
  | 0, _ => .error (.nestsTooDeep maxWrappers)
  | levels + 1, data =>
    match data with
    | .map entries =>
      match Entries.get? entries "kind" with
      | none => .error (.notAReference data)
      | some kind =>
        let name := Entries.get entries "name"
        match wrapper? kind with
        | some (kindName, wrap) =>
          match Entries.get entries "ofType" with
          | .null => .error (.withoutInner kindName)
          | inner => (read levels inner).map wrap
        | none =>
          match named? kind with
          | some (kindName, build) =>
            if name.isTruthy then .ok (build name) else .error (.withoutName kindName)
          | none => .ok (.other (Display.plain kind) name)
    | _ => .error (.notAReference data)

/-- The reference that a value spells at a depth of wrappers already passed. -/
def ofValueAt (depth : Int) (data : Value) : Except Malformed TypeRef :=
  read (maxWrappers + 1 - depth).toNat data

def ofValue (data : Value) : Except Malformed TypeRef := ofValueAt 0 data

/-! ### Schema notation -/

/-- A reference in schema notation: brackets around a list's items, an exclamation mark after what
is never null.  A bare name is given as it was found. -/
def label : TypeRef → Except Misuse Value
  | nonNull inner => do return .str (Display.plain (← inner.label) ++ "!")
  | list inner => do return .str ("[" ++ Display.plain (← inner.label) ++ "]")
  | other kind name => .ok (name.orElse (.str kind))
  | scalar name => .ok name
  | object name => .ok name
  | absent => .error (.lacks "NoneType" "name")

def core : TypeRef → TypeRef
  | nonNull inner => inner.core
  | t => t

@[simp] theorem core_core (t : TypeRef) : t.core.core = t.core := by
  induction t with
  | nonNull inner ih => simpa [core] using ih
  | _ => rfl

end TypeRef

end SchemaSheets
