import SchemaSheets.Schema.Literal
import SchemaSheets.Schema.Parser
import SchemaSheets.Schema.Rules

/-!
# Type systems

The types of a schema with all extensions merged in, its directives, and its
root types.  Types come in the order of their definitions; a type that needs no
definition follows the first that refers to it.  A definition of such a type is
accepted and has no effect.
-/

namespace SchemaSheets.Schema

/-- The types, directives and root types of a schema. -/
structure TypeSystem where
  types : List TypeDefinition
  directives : List DirectiveDefinition
  roots : List (Operation × String)
  deriving Repr

namespace TypeDefinition

def references (t : TypeDefinition) : List String :=
  match t.body with
  | .object is fs | .interface is fs =>
    is ++ fs.flatMap fun f => f.type.base :: f.arguments.map (·.type.base)
  | .union ms => ms
  | .input is => is.map (·.type.base)
  | .scalar | .enum _ => []

def extend (t e : TypeDefinition) : TypeDefinition :=
  let body := match t.body, e.body with
    | .object is fs, .object js gs => .object (is ++ js) (fs ++ gs)
    | .interface is fs, .interface js gs => .interface (is ++ js) (fs ++ gs)
    | .union ms, .union ns => .union (ms ++ ns)
    | .enum vs, .enum ws => .enum (vs ++ ws)
    | .input is, .input js => .input (is ++ js)
    | b, _ => b
  { t with directives := t.directives ++ e.directives, body }

end TypeDefinition

namespace TypeSystem

def type? (s : TypeSystem) (name : String) : Option TypeDefinition :=
  s.types.find? (·.name == name)

def body? (s : TypeSystem) (name : String) : Option TypeBody := (s.type? name).map (·.body)

def root? (s : TypeSystem) (o : Operation) : Option String := s.roots.lookup o

/-! ### From documents -/

def collectBound (pending : List String) : Nat :=
  pending.length + (Builtin.types.flatMap TypeDefinition.references).length + 1

/-- The collected names with those that the pending ones lead to, each followed by what it refers
to.  The defined types are collected elsewhere. -/
def collectFrom (defined : List String) : Nat → List String → List String → List String
  | 0, met, _ => met
  | _, met, [] => met
  | fuel + 1, met, name :: pending =>
    if defined.contains name || met.contains name then collectFrom defined fuel met pending
    else
      let more := ((Builtin.types.find? (·.name == name)).map TypeDefinition.references).getD []
      collectFrom defined fuel (met ++ [name]) (more ++ pending)

def collect (defined met pending : List String) : List String :=
  collectFrom defined (collectBound pending) met pending

/-- The types with their extensions; types that need no definition stay as they are. -/
def merged (d : Document) : List TypeDefinition :=
  d.types.map fun t =>
    match Builtin.types.find? (·.name == t.name) with
    | some b => b
    | none => (d.typeExtensions.filter (·.name == t.name)).foldl TypeDefinition.extend t

def statedRoots (d : Document) : List (Operation × String) :=
  d.flatMap fun
    | .roots r | .rootsExtension r => r.roots
    | _ => []

def statesRoots (d : Document) : Bool :=
  d.any fun
    | .roots _ => true
    | _ => false

/-- The root types of a document.  Without a definition of them, types of the usual names are
root types. -/
def rootsOf (d : Document) : List (Operation × String) :=
  let stated := statedRoots d
  if statesRoots d then stated
  else
    let named := (Operation.all.map fun o => (o, o.title)).filter fun (_, name) =>
      d.types.any (·.name == name)
    named ++ stated

/-- The directives of a document with what extensions put on them, those that need no definition at
the end. -/
def directivesOf (d : Document) : List DirectiveDefinition :=
  (d.directives.map fun x => { x with directives := x.directives ++ d.addedTo x.name }) ++
    Builtin.directives.filter fun b => !d.directives.any (·.name == b.name)

/-- The type system of a document that breaks no rule. -/
def ofDocument (d : Document) : TypeSystem :=
  let types := merged d
  let defined := types.map (·.name)
  let directives := directivesOf d
  let roots := rootsOf d
  let own := types.foldl (fun met t =>
    collect defined (met ++ [t.name]) t.references) []
  let fromRoots := Operation.all.filterMap fun o => roots.lookup o
  let fromDirectives := directives.flatMap fun x => x.arguments.map (·.type.base)
  let names := collect defined own (fromRoots ++ fromDirectives ++ ["__Schema"])
  { types := names.filterMap fun n => (types ++ Builtin.types).find? (·.name == n)
    directives
    roots }

/-! ### Deprecation -/

def directive? (name : String) (ds : List Directive) : Option Directive :=
  ds.find? (·.name == name)

def deprecation? (ds : List Directive) : Option String :=
  (directive? "deprecated" ds).bind fun d =>
    match d.arguments.find? (·.name == "reason") with
    | none => some Builtin.defaultReason
    | some a =>
      match a.value with
      | .text s | .block s => some s
      | _ => none

def isOneOf (t : TypeDefinition) : Bool := (directive? "oneOf" t.directives).isSome

/-! ### Arguments of directives -/

/-- A text argument of a directive that holds something else: what is wrong with it, and the
characters left in the document where its value starts. -/
def badText (directive argument : String) (ds : List Directive) : Option (String × Nat) := do
  let d ← directive? directive ds
  let a ← d.arguments.find? (·.name == argument)
  let start := "Argument '" ++ argument ++ "' has invalid value: "
  match a.value with
  | .text _ | .block _ => none
  | .null => some (start ++ "Expected value of non-null type 'String!' not to be None.", a.left)
  | v => some (start ++ "String cannot represent a non string value: " ++ v.shown, a.left)

def badReason (ds : List Directive) : Option (String × Nat) := badText "deprecated" "reason" ds

def badLeaf (t : TypeDefinition) : Option (String × Nat) :=
  match t.body with
  | .scalar => badText "specifiedBy" "url" t.directives
  | .enum vs => vs.findSome? fun v => badReason v.directives
  | _ => none

/-- What is wrong with the directives on the definition of a directive and on its arguments. -/
def badDirective (d : DirectiveDefinition) : Option (String × Nat) :=
  (d.arguments.findSome? fun a => badReason a.directives) <|> badReason d.directives

def badField (t : TypeDefinition) : Option (String × Nat) :=
  (t.body.fields.findSome? fun f =>
    (f.arguments.findSome? fun a => badReason a.directives) <|> badReason f.directives) <|>
  t.body.inputs.findSome? fun i => badReason i.directives

/-- The first argument of a directive that its directive does not take.  Types without fields come
first and directives next; a fault in a field is reported for its type, the place inside the
message. -/
def badArgument (d : Document) (s : TypeSystem) (text : String) : Option LocatedError :=
  let at_ (fault : String × Nat) : LocatedError :=
    ⟨fault.1, [Location.ofLeft text.toList fault.2], text⟩
  (((merged d).findSome? badLeaf <|> s.directives.findSome? badDirective).map at_) <|>
    s.types.findSome? fun t =>
      (badField t).map fun fault =>
        ⟨t.name ++ " fields cannot be resolved. " ++ (at_ fault).report, [], text⟩

def ofText [Capacity] (text : String) : Except BuildError TypeSystem := do
  let d ← (Document.read text).mapError .syntaxFault
  match violations d with
  | [] =>
    let s := ofDocument d
    match badArgument d s text with
    | none => return s
    | some e => throw (.argument e)
  | found => throw (.rules (found.map Violation.message))

end TypeSystem

end SchemaSheets.Schema
