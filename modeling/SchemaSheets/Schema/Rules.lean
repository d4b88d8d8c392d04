import SchemaSheets.Schema.Builtin
import SchemaSheets.Schema.Suggestion

/-!
# Rules for definitions

A document may follow the grammar and still contradict itself: define a name
twice, use a type that nobody defines, put a directive where it does not
belong.  `violations` walks through a document from front to back and lists
what it finds, in the order of the places.
-/

namespace SchemaSheets.Schema

inductive Violation where
  | secondSchema
  | secondRoot (operation : Operation)
  | repeatedType (name : String)
  | repeatedEnumValue (type value : String)
  | repeatedField (type field : String)
  | repeatedArgumentDefinition (place name : String)
  | repeatedDirectiveDefinition (name : String)
  | unknownType (name hint : String)
  | unknownDirective (name : String)
  | misplacedDirective (name : String) (position : Position)
  | repeatedDirective (name : String)
  | otherKind (kind name : String)
  | nothingToExtend (name hint : String)
  | unknownArgument (name directive hint : String)
  | repeatedArgument (name : String)
  | repeatedInputField (name : String)
  | missingArgument (directive name : String) (type : TypeExpr)
  deriving DecidableEq, Repr

def Violation.message : Violation → String
  | secondSchema => "Must provide only one schema definition."
  | secondRoot operation => s!"There can be only one {operation.name} type in schema."
  | repeatedType name => s!"There can be only one type named '{name}'."
  | repeatedEnumValue type value => s!"Enum value '{type}.{value}' can only be defined once."
  | repeatedField type field => s!"Field '{type}.{field}' can only be defined once."
  | repeatedArgumentDefinition place name =>
    s!"Argument '{place}({name}:)' can only be defined once."
  | repeatedDirectiveDefinition name => s!"There can be only one directive named '@{name}'."
  | unknownType name hint => s!"Unknown type '{name}'.{hint}"
  | unknownDirective name => s!"Unknown directive '@{name}'."
  | misplacedDirective name position =>
    s!"Directive '@{name}' may not be used on {position.text}."
  | repeatedDirective name => s!"The directive '@{name}' can only be used once at this location."
  | otherKind kind name => s!"Cannot extend non-{kind} type '{name}'."
  | nothingToExtend name hint => s!"Cannot extend type '{name}' because it is not defined.{hint}"
  | unknownArgument name directive hint =>
    s!"Unknown argument '{name}' on directive '@{directive}'.{hint}"
  | repeatedArgument name => s!"There can be only one argument named '{name}'."
  | repeatedInputField name => s!"There can be only one input field named '{name}'."
  | missingArgument directive name type =>
    s!"Argument '@{directive}({name}:)' of type '{type.text}' is required, but it was not provided."

namespace Rules

def repeated (names : List String) : List String :=
  names.eraseDups.filter fun n => 1 < names.count n

/-- What a document defines, and what was met on the way through it. -/
structure State where
  types : List TypeDefinition
  directives : List DirectiveDefinition
  schemaMet : Bool := false
  rootsMet : List Operation := []
  typesMet : List String := []
  directivesMet : List String := []
  valuesMet : List (String × String) := []
  fieldsMet : List (String × String) := []
  schemaDirectives : List String := []
  typeDirectives : List (String × String) := []
  definitionDirectives : List (String × String) := []
  found : List Violation := []

abbrev Walk := StateM State

def report (v : Violation) : Walk Unit := modify fun s => { s with found := v :: s.found }

/-! ### Directives and values -/

mutual
def value : Literal → List Violation
  | .list items => values items
  | .object fields => fieldsFrom [] fields
  | _ => []

def values : List Literal → List Violation
  | [] => []
  | v :: vs => value v ++ values vs

def fieldsFrom (met : List String) : List (String × Literal) → List Violation
  | [] => []
  | (name, v) :: rest =>
    (if met.contains name then [.repeatedInputField name] else []) ++ value v ++
      fieldsFrom (name :: met) rest
end

def visitValue (v : Literal) : Walk Unit := (value v).forM report

def uniqueArguments (arguments : List Argument) : Walk Unit :=
  (repeated (arguments.map (·.name))).forM fun n => report (.repeatedArgument n)

def visitDirective (position : Position) (d : Directive) : Walk Unit := do
  let known := (← get).directives.reverse.find? (·.name == d.name)
  match known with
  | none => report (.unknownDirective d.name)
  | some k =>
    unless k.positions.contains position do report (.misplacedDirective d.name position)
    let names := k.arguments.map (·.name)
    for a in d.arguments do
      unless names.contains a.name do
        report (.unknownArgument a.name d.name (Suggestion.question "" a.name names))
  uniqueArguments d.arguments
  for a in d.arguments do visitValue a.value
  if let some k := known then
    for i in k.arguments do
      if i.isRequired && !(d.arguments.any (·.name == i.name)) then
        report (.missingArgument d.name i.name i.type)

/-- The names of directives, each of which can be there once unless it is
repeatable; `met` holds those that were met at the same place before. -/
def uniqueDirectives (met : List String) : List Directive → Walk (List String)
  | [] => return met
  | d :: rest => do
    let once := ((← get).directives.reverse.find? (·.name == d.name)).any (!·.repeatable)
    if once && met.contains d.name then
      report (.repeatedDirective d.name)
      uniqueDirectives met rest
    else uniqueDirectives (if once then d.name :: met else met) rest

def uniqueHere (ds : List Directive) : Walk Unit := do
  let _ ← uniqueDirectives [] ds

def visitDirectives (position : Position) (ds : List Directive) : Walk Unit :=
  ds.forM (visitDirective position)

/-! ### Types -/

/-- The use of a type.  Outside of definitions even the types that need no
definition are unknown. -/
def visitType (inDefinition : Bool) (name : String) : Walk Unit := do
  let defined := (← get).types.map (·.name)
  unless defined.contains name || (inDefinition && Builtin.typeNames.contains name) do
    let options := if inDefinition then Builtin.typeNames ++ defined else defined
    report (.unknownType name (Suggestion.question "" name options))

def visitInput (position : Position) (i : InputDefinition) : Walk Unit := do
  uniqueHere i.directives
  visitType true i.type.base
  i.fallback.forM visitValue
  visitDirectives position i.directives

def visitField (f : FieldDefinition) : Walk Unit := do
  uniqueHere f.directives
  f.arguments.forM (visitInput .argumentDefinition)
  visitType true f.type.base
  visitDirectives .fieldDefinition f.directives

def visitEnumValue (v : ValueDefinition) : Walk Unit := do
  uniqueHere v.directives
  visitDirectives .enumValue v.directives

def uniqueInputs (place : String) (is : List InputDefinition) : Walk Unit :=
  (repeated (is.map (·.name))).forM fun n => report (.repeatedArgumentDefinition place n)

def uniqueMembers (t : TypeDefinition) : Walk Unit := do
  if let .enum vs := t.body then
    for v in vs do
      if (← get).valuesMet.contains (t.name, v.name) then
        report (.repeatedEnumValue t.name v.name)
      else modify fun s => { s with valuesMet := (t.name, v.name) :: s.valuesMet }
  for f in t.body.fields.map (·.name) ++ t.body.inputs.map (·.name) do
    if (← get).fieldsMet.contains (t.name, f) then report (.repeatedField t.name f)
    else modify fun s => { s with fieldsMet := (t.name, f) :: s.fieldsMet }
  for f in t.body.fields do uniqueInputs (t.name ++ "." ++ f.name) f.arguments

def uniqueOnType (t : TypeDefinition) : Walk Unit := do
  let met := ((← get).typeDirectives.filter (·.1 == t.name)).map (·.2)
  let now ← uniqueDirectives met t.directives
  modify fun s => { s with typeDirectives := now.map ((t.name, ·)) ++ s.typeDirectives }

def uniqueOnDirective (name : String) (ds : List Directive) : Walk Unit := do
  let met := ((← get).definitionDirectives.filter (·.1 == name)).map (·.2)
  let now ← uniqueDirectives met ds
  modify fun s => { s with definitionDirectives := now.map ((name, ·)) ++ s.definitionDirectives }

def positionOf : TypeBody → Position
  | .scalar => .scalar
  | .object .. => .object
  | .interface .. => .interface
  | .union _ => .union
  | .enum _ => .enum
  | .input _ => .inputObject

def visitParts (extends_ : Bool) (t : TypeDefinition) : Walk Unit := do
  match t.body with
  | .object is _ | .interface is _ => is.forM (visitType true)
  | _ => pure ()
  visitDirectives (positionOf t.body) t.directives
  match t.body with
  | .scalar => pure ()
  | .object _ fs | .interface _ fs => fs.forM visitField
  | .union ms => ms.forM (visitType true)
  | .enum vs => vs.forM visitEnumValue
  | .input is =>
    is.forM (visitInput (if extends_ then .argumentDefinition else .inputFieldDefinition))

def extendable (t : TypeDefinition) : Walk Unit := do
  let defined := (← get).types
  match defined.reverse.find? (·.name == t.name) with
  | some d =>
    if d.body.kindText != t.body.kindText then report (.otherKind t.body.kindText t.name)
  | none =>
    report (.nothingToExtend t.name (Suggestion.question "" t.name (defined.map (·.name))))

/-! ### Operations -/

mutual
def visitSelection : Selection → Walk Unit
  | .field arguments ds inner => do
    uniqueHere ds
    uniqueArguments arguments
    for a in arguments do visitValue a.value
    visitDirectives .field ds
    visitSelections inner
  | .spread ds => do
    uniqueHere ds
    visitDirectives .fragmentSpread ds
  | .inline condition ds inner => do
    uniqueHere ds
    condition.forM (visitType false)
    visitDirectives .inlineFragment ds
    visitSelections inner

def visitSelections : List Selection → Walk Unit
  | [] => return
  | s :: rest => do
    visitSelection s
    visitSelections rest
end

def visitVariable (v : VariableDefinition) : Walk Unit := do
  uniqueHere v.directives
  visitType false v.type.base
  v.fallback.forM visitValue
  visitDirectives .variableDefinition v.directives

def operationPosition : Operation → Position
  | .query => .query
  | .mutation => .mutation
  | .subscription => .subscription

/-! ### Definitions -/

def visitRoots (d : RootsDefinition) : Walk Unit := do
  for (o, _) in d.roots do
    if (← get).rootsMet.contains o then report (.secondRoot o)
    else modify fun s => { s with rootsMet := o :: s.rootsMet }
  let now ← uniqueDirectives (← get).schemaDirectives d.directives
  modify fun s => { s with schemaDirectives := now }
  visitDirectives .schema d.directives
  d.roots.forM fun (_, name) => visitType true name

def visit : Definition → Walk Unit
  | .roots d => do
    if (← get).schemaMet then report .secondSchema
    modify fun s => { s with schemaMet := true }
    visitRoots d
  | .rootsExtension d => visitRoots d
  | .type t => do
    if (← get).typesMet.contains t.name then report (.repeatedType t.name)
    else modify fun s => { s with typesMet := t.name :: s.typesMet }
    uniqueMembers t
    uniqueOnType t
    visitParts false t
  | .typeExtension t => do
    uniqueMembers t
    uniqueOnType t
    extendable t
    visitParts true t
  | .directive d => do
    uniqueInputs ("@" ++ d.name) d.arguments
    if (← get).directivesMet.contains d.name then report (.repeatedDirectiveDefinition d.name)
    else modify fun s => { s with directivesMet := d.name :: s.directivesMet }
    uniqueOnDirective d.name d.directives
    d.arguments.forM (visitInput .argumentDefinition)
    visitDirectives .directiveDefinition d.directives
  | .directiveExtension name ds => do
    uniqueOnDirective name ds
    visitDirectives .directiveDefinition ds
  | .operation kind vs ds selections => do
    uniqueHere ds
    vs.forM visitVariable
    visitDirectives (operationPosition kind) ds
    visitSelections selections
  | .fragment condition ds selections => do
    uniqueHere ds
    visitType false condition
    visitDirectives .fragmentDefinition ds
    visitSelections selections

end Rules

def violations (d : Document) : List Violation :=
  let start : Rules.State :=
    { types := d.types, directives := Builtin.directives ++ d.directives }
  ((d.forM Rules.visit).run start).2.found.reverse

end SchemaSheets.Schema
