import SchemaSheets.Failure
import SchemaSheets.Schema.Coherence

/-!
# Introspection documents

A type system as the document that a server gives when it is asked to describe
its schema.  Deprecated fields and enumeration values are part of it, deprecated
arguments, input fields and directives are not.  A type is spelled as nested records, down
to a limit on their depth; below it the inner type is left out.
-/

namespace SchemaSheets.Schema

namespace TypeSystem

def textOrNull : Option String → Value
  | some s => .str s
  | none => .null

def kindName : TypeBody → String
  | .scalar => "SCALAR"
  | .object .. => "OBJECT"
  | .interface .. => "INTERFACE"
  | .union _ => "UNION"
  | .enum _ => "ENUM"
  | .input _ => "INPUT_OBJECT"

def kindOf (s : TypeSystem) (name : String) : String := ((s.body? name).map kindName).getD "SCALAR"

def spelledLevels : Nat := 9

def spell (s : TypeSystem) : Nat → TypeExpr → Value
  | 0, .named name => .record [("kind", .str (s.kindOf name)), ("name", .str name)]
  | 0, .list _ => .record [("kind", .str "LIST"), ("name", .null)]
  | 0, .nonNull _ => .record [("kind", .str "NON_NULL"), ("name", .null)]
  | _ + 1, .named name =>
    .record [("kind", .str (s.kindOf name)), ("name", .str name), ("ofType", .null)]
  | levels + 1, .list inner =>
    .record [("kind", .str "LIST"), ("name", .null), ("ofType", spell s levels inner)]
  | levels + 1, .nonNull inner =>
    .record [("kind", .str "NON_NULL"), ("name", .null), ("ofType", spell s levels inner)]

def typeValue (s : TypeSystem) (t : TypeExpr) : Value := s.spell spelledLevels t

def typeValues (s : TypeSystem) (names : List String) : Value :=
  .list (names.map fun n => s.typeValue (.named n))

def inputValue (s : TypeSystem) (i : InputDefinition) : Value :=
  .record [("name", .str i.name), ("description", textOrNull i.description),
    ("type", s.typeValue i.type), ("defaultValue", textOrNull (i.fallback.map Literal.shown))]

def inputValues (s : TypeSystem) (is : List InputDefinition) : Value :=
  .list ((is.filter fun i => (deprecation? i.directives).isNone).map s.inputValue)

def deprecationMembers (ds : List Directive) : List (String × Value) :=
  [("isDeprecated", .bool (deprecation? ds).isSome),
   ("deprecationReason", textOrNull (deprecation? ds))]

def fieldValue (s : TypeSystem) (f : FieldDefinition) : Value :=
  .record ([("name", .str f.name), ("description", textOrNull f.description),
    ("args", s.inputValues f.arguments), ("type", s.typeValue f.type)] ++
    deprecationMembers f.directives)

def enumValue (v : ValueDefinition) : Value :=
  .record ([("name", .str v.name), ("description", textOrNull v.description)] ++
    deprecationMembers v.directives)

def implementers (s : TypeSystem) (interface : String) : List String :=
  s.types.filterMap fun t =>
    match t.body with
    | .object is _ => if is.contains interface then some t.name else none
    | _ => none

def fullType (s : TypeSystem) (t : TypeDefinition) : Value :=
  let fields : Value := match t.body with
    | .object _ fs | .interface _ fs => .list (fs.map s.fieldValue)
    | _ => .null
  let inputs : Value := match t.body with
    | .input is => s.inputValues is
    | _ => .null
  let interfaces : Value := match t.body with
    | .object is _ | .interface is _ => s.typeValues is
    | _ => .null
  let values : Value := match t.body with
    | .enum vs => .list (vs.map enumValue)
    | _ => .null
  let possible : Value := match t.body with
    | .interface .. => s.typeValues (s.implementers t.name)
    | .union ms => s.typeValues ms
    | _ => .null
  .record [("kind", .str (kindName t.body)), ("name", .str t.name),
    ("description", textOrNull t.description), ("fields", fields), ("inputFields", inputs),
    ("interfaces", interfaces), ("enumValues", values), ("possibleTypes", possible)]

def directiveValue (s : TypeSystem) (d : DirectiveDefinition) : Value :=
  .record [("name", .str d.name), ("description", textOrNull d.description),
    ("locations", .list (d.positions.map (.str ·.word))), ("args", s.inputValues d.arguments)]

def rootValue (s : TypeSystem) (o : Operation) : Value :=
  match s.root? o with
  | some name => .record [("name", .str name)]
  | none => .null

def document (s : TypeSystem) : Value :=
  let shown := s.directives.filter fun d => (deprecation? d.directives).isNone
  .record [("__schema", .record [("queryType", s.rootValue .query),
    ("mutationType", s.rootValue .mutation), ("subscriptionType", s.rootValue .subscription),
    ("types", .list (s.types.map s.fullType)),
    ("directives", .list (shown.map s.directiveValue))])]

def introspect (s : TypeSystem) : Except Malformed Value :=
  match s.incoherences with
  | [] => .ok s.document
  | found => .error (.invalidSchema (found.map Incoherence.message))

end TypeSystem

def introspectText [Capacity] (text : String) : Except Failure Value := do
  let s ← (TypeSystem.ofText text).mapError Failure.build
  s.introspect

end SchemaSheets.Schema
