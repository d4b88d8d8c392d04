import SchemaSheets.Schema.TypeSystem

/-!
# Coherent type systems

The conditions that a type system has to meet before anything can be asked of
it: there is a root type for queries, types have members, members have types
that fit their place, types keep what their interfaces promise, default values
fit their types, and input objects can be finite.  `incoherences` lists the
conditions that are not met.
-/

namespace SchemaSheets.Schema

inductive Incoherence where
  | noQueryRoot
  | rootNotObject (operation : Operation) (type : String)
  | sharedRoot (type : String) (operations : List Operation)
  | reservedName (name : String)
  | notInput (place type : String)
  | notOutput (place type : String)
  | requiredButDeprecated (what place : String)
  | badDefault (place path message : String)
  | empty (what type members : String)
  | notInterface (type interface : String)
  | ownInterface (type : String)
  | interfaceTwice (type interface : String)
  | interfaceCircle (type interface : String)
  | missingInterface (type interface through : String)
  | missingField (promised type : String)
  | fieldType (promised expected place found : String)
  | missingArgument (promised place : String)
  | argumentType (promised expected place found : String)
  | requiredArgument (place type promised : String)
  | deprecatedField (promised place : String)
  | memberTwice (union member : String)
  | memberNotObject (union member : String)
  | requiredChoice (place : String)
  | choiceWithDefault (place : String)
  | infiniteInput (type : String) (path : List String)
  | circularDefault (place : String) (path : List String)
  deriving DecidableEq, Repr

def andList : List String → String
  | [] => ""
  | [a] => a
  | [a, b] => a ++ " and " ++ b
  | a :: rest => a ++ ", " ++ more rest
where
  /-- The words after the first of three or more. -/
  more : List String → String
    | [] => ""
    | [a] => "and " ++ a
    | a :: rest => a ++ ", " ++ more rest

/-- The wording of each condition that is not met. -/
def Incoherence.message : Incoherence → String
  | noQueryRoot => "Query root type must be provided."
  | rootNotObject o type =>
    let optional := if o == .query then "" else " if provided"
    s!"{o.title} root type must be Object type{optional}, it cannot be {type}."
  | sharedRoot type operations =>
    let uses := andList (operations.map Operation.name)
    s!"All root types must be different, '{type}' type is used as {uses} root types."
  | reservedName name =>
    s!"Name '{name}' must not begin with '__', which is reserved by GraphQL introspection."
  | notInput place type => s!"The type of {place} must be Input Type but got: {type}."
  | notOutput place type => s!"The type of {place} must be Output Type but got: {type}."
  | requiredButDeprecated what place => s!"Required {what} {place} cannot be deprecated."
  | badDefault place path message => s!"{place} has invalid default value{path}: {message}"
  | empty what type members => s!"{what} {type} must define one or more {members}."
  | notInterface type interface =>
    s!"Type {type} must only implement Interface types, it cannot implement {interface}."
  | ownInterface type =>
    s!"Type {type} cannot implement itself because it would create a circular reference."
  | interfaceTwice type interface => s!"Type {type} can only implement {interface} once."
  | interfaceCircle type interface =>
    s!"Type {type} cannot implement {interface} because it would create a circular reference."
  | missingInterface type interface through =>
    s!"Type {type} must implement {interface} because it is implemented by {through}."
  | missingField promised type =>
    s!"Interface field {promised} expected but {type} does not provide it."
  | fieldType promised expected place found =>
    s!"Interface field {promised} expects type {expected} but {place} is type {found}."
  | missingArgument promised place =>
    s!"Interface field argument {promised} expected but {place} does not provide it."
  | argumentType promised expected place found =>
    s!"Interface field argument {promised} expects type {expected} but {place} is type {found}."
  | requiredArgument place type promised =>
    s!"Argument '{place}' must not be required type '{type}' if not provided by the Interface field '{promised}'."
  | deprecatedField promised place =>
    s!"Interface field {promised} is not deprecated, so implementation field {place} must not be deprecated."
  | memberTwice union member => s!"Union type {union} can only include type {member} once."
  | memberNotObject union member =>
    s!"Union type {union} can only include Object types, it cannot include {member}."
  | requiredChoice place => s!"OneOf input field {place} must be nullable."
  | choiceWithDefault place => s!"OneOf input field {place} cannot have a default value."
  | infiniteInput type path =>
    let fields := ", ".intercalate path
    s!"Input Object {type} cannot be provided a finite value because it references itself through fields: {fields}."
  | circularDefault place path =>
    let through :=
      if path.isEmpty then "" else " via the default values of: " ++ ", ".intercalate path
    s!"Invalid circular reference. The default value of Input Object field {place} references itself{through}."

namespace Coherence

/-! ### Names and places -/

def checkName (name : String) : List Incoherence :=
  if name.startsWith "__" then [.reservedName name] else []

def memberPlace (type member : String) : String := type ++ "." ++ member

def argumentPlace (owner argument : String) : String := owner ++ "(" ++ argument ++ ":)"

/-! ### Input and output types -/

def isInput (s : TypeSystem) (t : TypeExpr) : Bool :=
  match s.body? t.base with
  | some .scalar | some (.enum _) | some (.input _) => true
  | _ => false

def isOutput (s : TypeSystem) (t : TypeExpr) : Bool :=
  match s.body? t.base with
  | some (.input _) => false
  | _ => true

def inputFields? (s : TypeSystem) (name : String) : Option (List InputDefinition) :=
  match s.body? name with
  | some (.input fields) => some fields
  | _ => none

/-! ### Default values -/

abbrev ValueFault := List String × String

def under (step : String) (f : ValueFault) : ValueFault := (step :: f.1, f.2)

def scalarFault (name : String) (v : Literal) : Option String :=
  match name, v with
  | "Int", .int digits =>
    let n := Literal.intValue digits
    if -2147483648 ≤ n && n < 2147483648 then none
    else some ("Int cannot represent non 32-bit signed integer value: " ++ digits)
  | "Int", v => some ("Int cannot represent non-integer value: " ++ v.shown)
  | "Float", .int _ | "Float", .float _ => none
  | "Float", v => some ("Float cannot represent non numeric value: " ++ v.shown)
  | "String", .text _ | "String", .block _ => none
  | "String", v => some ("String cannot represent a non string value: " ++ v.shown)
  | "Boolean", .bool _ => none
  | "Boolean", v => some ("Boolean cannot represent a non boolean value: " ++ v.shown)
  | "ID", .text _ | "ID", .block _ | "ID", .int _ => none
  | "ID", v => some ("ID cannot represent a non-string and non-integer value: " ++ v.shown)
  | _, _ => none

def enumFault (name : String) (values : List String) (v : Literal) : Option String :=
  let hint := Suggestion.question "the enum value " v.shown values
  match v with
  | .enum value =>
    if values.contains value then none
    else some ("Value '" ++ value ++ "' does not exist in '" ++ name ++ "' enum." ++ hint)
  | v =>
    some ("Enum '" ++ name ++ "' cannot represent non-enum value: " ++ v.shown ++ "." ++ hint)

def leafFaults (s : TypeSystem) (name : String) (v : Literal) : List ValueFault :=
  let fault : Option String := match s.body? name with
    | some .scalar => scalarFault name v
    | some (.enum values) => enumFault name (values.map (·.name)) v
    | some (.input _) =>
      some ("Expected value of type '" ++ name ++ "' to be an object, found: " ++ v.shown ++ ".")
    | _ => none
  fault.toList.map ([], ·)

/-- What an object says about the fields as a whole: required ones that are missing, unknown ones,
and for a choice their number. -/
def objectFaults (t : TypeDefinition) (fields : List (String × Literal)) (found : String) :
    List ValueFault × List ValueFault :=
  let names := t.body.inputs.map (·.name)
  let expected := "Expected value of type '" ++ t.name ++ "' "
  let unknown := (fields.filter fun (n, _) => !names.contains n).map fun (n, _) =>
    let hint := Suggestion.question "" n names
    ([], expected ++ "not to include unknown field '" ++ n ++ "'" ++
      (if hint.isEmpty then ", found" else "." ++ hint ++ " Found") ++ ": " ++ found ++ ".")
  let oneOnly := "Within OneOf Input Object type '" ++ t.name ++
    "', exactly one field must be specified, and the value for that field must be non-null."
  let choice := if !TypeSystem.isOneOf t then [] else
    match fields.filter fun (n, _) => names.contains n with
    | [(n, .null)] => [(["." ++ n], oneOnly)]
    | [_] => []
    | _ => [([], oneOnly)]
  (unknown, choice)

mutual
def valueFaults (s : TypeSystem) (t : TypeExpr) : Literal → List ValueFault
  | .null =>
    if t.isNonNull then
      [([], "Expected value of non-null type '" ++ t.text ++ "' not to be None.")]
    else []
  | .list items =>
    match t with
    | .list inner | .nonNull (.list inner) => itemFaults s inner 0 items
    | t => leafFaults s t.base (.list items)
  | .object fields =>
    match s.type? t.base with
    | some d =>
      match d.body with
      | .input inputs =>
        let found := (Literal.object fields).shown
        let given := fieldFaults s inputs fields
        let own := inputs.flatMap fun i =>
          match given.lookup i.name with
          | some faults => faults
          | none =>
            if i.isRequired then
              [([], "Expected value of type '" ++ d.name ++ "' to include required field '" ++
                i.name ++ "', found: " ++ found ++ ".")]
            else []
        let (unknown, choice) := objectFaults d fields found
        own ++ unknown ++ choice
      | _ => leafFaults s d.name (.object fields)
    | none => []
  | v => leafFaults s t.base v

def itemFaults (s : TypeSystem) (t : TypeExpr) : Nat → List Literal → List ValueFault
  | _, [] => []
  | i, v :: vs =>
    (valueFaults s t v).map (under ("[" ++ Decimal.intText i ++ "]")) ++ itemFaults s t (i + 1) vs

def fieldFaults (s : TypeSystem) (inputs : List InputDefinition) :
    List (String × Literal) → List (String × List ValueFault)
  | [] => []
  | (name, v) :: rest =>
    match inputs.find? (·.name == name) with
    | some i => (name, (valueFaults s i.type v).map (under ("." ++ name))) :: fieldFaults s inputs rest
    | none => fieldFaults s inputs rest
end

def checkDefault (s : TypeSystem) (place : String) (i : InputDefinition) : List Incoherence :=
  match i.fallback with
  | some v =>
    if isInput s i.type then
      (valueFaults s i.type v).map fun (path, message) =>
        .badDefault place (if path.isEmpty then "" else " at " ++ String.join path) message
    else []
  | none => []

/-! ### Members -/

def checkArgument (s : TypeSystem) (owner : String) (a : InputDefinition) : List Incoherence :=
  let place := argumentPlace owner a.name
  checkName a.name ++ (if isInput s a.type then [] else [.notInput place a.type.text]) ++
    (if a.isRequired && (TypeSystem.deprecation? a.directives).isSome then
      [.requiredButDeprecated "argument" place] else []) ++
    checkDefault s place a

def checkFields (s : TypeSystem) (type : String) (fs : List FieldDefinition) : List Incoherence :=
  (if fs.isEmpty then [.empty "Type" type "fields"] else []) ++
    fs.flatMap fun f =>
      let place := memberPlace type f.name
      checkName f.name ++ (if isOutput s f.type then [] else [.notOutput place f.type.text]) ++
        f.arguments.flatMap (checkArgument s place)

def checkMembers (s : TypeSystem) (union : String) (ms : List String) : List Incoherence :=
  (if ms.isEmpty then [.empty "Union type" union "member types"] else []) ++ go [] ms
where
  /-- The members after those that were met before. -/
  go (met : List String) : List String → List Incoherence
    | [] => []
    | m :: rest =>
      match s.body? m with
      | some (.object ..) =>
        if met.contains m then .memberTwice union m :: go met rest else go (m :: met) rest
      | _ => .memberNotObject union m :: go met rest

def checkValues (type : String) (vs : List ValueDefinition) : List Incoherence :=
  (if vs.isEmpty then [.empty "Enum type" type "values"] else []) ++
    vs.flatMap fun v => checkName v.name

def checkInputs (s : TypeSystem) (t : TypeDefinition) (is : List InputDefinition) :
    List Incoherence :=
  (if is.isEmpty then [.empty "Input Object type" t.name "fields"] else []) ++
    is.flatMap fun i =>
      let place := memberPlace t.name i.name
      checkName i.name ++ (if isInput s i.type then [] else [.notInput place i.type.text]) ++
        (if i.isRequired && (TypeSystem.deprecation? i.directives).isSome then
          [.requiredButDeprecated "input field" place] else []) ++
        checkDefault s place i ++
        if TypeSystem.isOneOf t then
          (if i.type.isNonNull then [.requiredChoice place] else []) ++
            (if i.fallback.isSome then [.choiceWithDefault place] else [])
        else []

/-! ### Interfaces -/

def interfacesOf (t : TypeDefinition) : List String :=
  match t.body with
  | .object is _ | .interface is _ => is
  | _ => []

def isInterface (t : TypeDefinition) : Bool :=
  match t.body with
  | .interface .. => true
  | _ => false

def isKindOf (s : TypeSystem) (sub super : String) : Bool :=
  sub == super ||
    match s.type? super, s.type? sub with
    | some u, some t =>
      match u.body, t.body with
      | .union ms, .object .. => ms.contains sub
      | .interface .., .object is _ | .interface .., .interface is _ => is.contains super
      | _, _ => false
    | _, _ => false

def isSubtype (s : TypeSystem) : TypeExpr → TypeExpr → Bool
  | .nonNull sub, .nonNull super => isSubtype s sub super
  | .nonNull sub, super => isSubtype s sub super
  | .list sub, .list super => isSubtype s sub super
  | .named sub, .named super => isKindOf s sub super
  | _, _ => false

/-- A field keeps what the field of an interface promises. -/
def checkPromise (s : TypeSystem) (type interface : String) (fs : List FieldDefinition)
    (promised : FieldDefinition) : List Incoherence :=
  let there := memberPlace interface promised.name
  match fs.find? (·.name == promised.name) with
  | none => [.missingField there type]
  | some f =>
    let place := memberPlace type f.name
    (if isSubtype s f.type promised.type then []
      else [.fieldType there promised.type.text place f.type.text]) ++
    (promised.arguments.flatMap fun p =>
      match f.arguments.find? (·.name == p.name) with
      | none => [.missingArgument (argumentPlace there p.name) place]
      | some a =>
        if a.type = p.type then []
        else [.argumentType (argumentPlace there p.name) p.type.text (argumentPlace place a.name)
          a.type.text]) ++
    (f.arguments.flatMap fun a =>
      if a.isRequired && !promised.arguments.any (·.name == a.name) then
        [.requiredArgument (argumentPlace place a.name) a.type.text there]
      else []) ++
    if (TypeSystem.deprecation? f.directives).isSome &&
        (TypeSystem.deprecation? promised.directives).isNone then
      [.deprecatedField there place]
    else []

/-- The interfaces of a type, those that were met before given. -/
def checkInterfaces (s : TypeSystem) (t : TypeDefinition) (met : List String) :
    List String → List Incoherence
  | [] => []
  | i :: rest =>
    match s.type? i with
    | none => checkInterfaces s t met rest
    | some d =>
      if !isInterface d then .notInterface t.name i :: checkInterfaces s t met rest
      else
        (if i == t.name then [.ownInterface i] else []) ++
        if met.contains i then .interfaceTwice t.name i :: checkInterfaces s t met rest
        else
          let own := interfacesOf t
          let inherited := (interfacesOf d).flatMap fun j =>
            if own.contains j then []
            else if j == t.name then [.interfaceCircle t.name i]
            else [.missingInterface t.name j i]
          inherited ++ d.body.fields.flatMap (checkPromise s t.name i t.body.fields) ++
            checkInterfaces s t (i :: met) rest

/-! ### Input objects -/

/-- The input objects that are known to have a finite value, after some rounds: a choice has one
if some field does, any other if all required fields do. -/
def finiteInputs (s : TypeSystem) : Nat → List String
  | 0 => []
  | rounds + 1 =>
    let known := finiteInputs s rounds
    s.types.filterMap fun t =>
      match t.body with
      | .input is =>
        let blocked (i : InputDefinition) : Bool :=
          match TypeSystem.isOneOf t, i.type with
          | true, .named n | false, .nonNull (.named n) =>
            (inputFields? s n).isSome && !known.contains n
          | _, _ => false
        let finite :=
          if TypeSystem.isOneOf t then is.isEmpty || is.any (!blocked ·) else !is.any blocked
        if finite then some t.name else none
      | _ => none

def forcedFields (s : TypeSystem) (finite : List String) (t : TypeDefinition) :
    List (String × String) :=
  t.body.inputs.filterMap fun i =>
    match TypeSystem.isOneOf t, i.type with
    | false, .nonNull (.named n) => if (inputFields? s n).isSome then some (i.name, n) else none
    | true, .named n =>
      if !finite.contains t.name && (inputFields? s n).isSome then some (i.name, n) else none
    | _, _ => none

/-- What a search for circles has met, and what it found. -/
structure Search where
  met : List String := []
  found : List Incoherence := []

/-- The circles that a search meets from a type on; `path` holds the fields on the way to it. -/
def circlesFrom (s : TypeSystem) (finite : List String) : Nat → List (String × String) → String →
    Search → Search
  | 0, _, _, search => search
  | fuel + 1, path, type, search =>
    if search.met.contains type then search
    else
      match s.type? type with
      | none => search
      | some t =>
        (forcedFields s finite t).foldl (fun search (field, next) =>
          let path := path ++ [(type, memberPlace type field)]
          let circle := path.dropWhile (·.1 != next)
          if circle.isEmpty then circlesFrom s finite fuel path next search
          else { search with found := search.found ++ [.infiniteInput next (circle.map (·.2))] })
          { search with met := type :: search.met }

/-- A step of the search through default values: a field's own default, or a given value. -/
inductive DefaultStep where
  | ofField (type : String) (i : InputDefinition)
  | ofValue (type : String) (v : Literal)

/-- The circles of default values that a search meets from a step on; `path` holds the fields
whose defaults led there. -/
def defaultCircles (s : TypeSystem) : Nat → List String → DefaultStep → Search → Search
  | 0, _, _, search => search
  | fuel + 1, path, .ofField type i, search =>
    match i.fallback with
    | none => search
    | some v =>
      let place := memberPlace type i.name
      if path.contains place then
        let through := (path.dropWhile (· != place)).drop 1
        { search with found := search.found ++ [.circularDefault place through] }
      else if search.met.contains place then search
      else
        defaultCircles s fuel (path ++ [place]) (.ofValue i.type.base v)
          { search with met := place :: search.met }
  | fuel + 1, path, .ofValue type v, search =>
    match v with
    | .list items => items.foldl (fun search v => defaultCircles s fuel path (.ofValue type v) search)
        search
    | .object fields =>
      ((inputFields? s type).getD []).foldl (fun search i =>
        if (inputFields? s i.type.base).isNone then search
        else
          match fields.lookup i.name with
          | some v => defaultCircles s fuel path (.ofValue i.type.base v) search
          | none => defaultCircles s fuel path (.ofField type i) search) search
    | _ => search

def defaultBound (s : TypeSystem) : Nat :=
  (s.types.flatMap fun t => t.body.inputs.map fun i =>
    (i.fallback.map fun v => v.written.length).getD 0 + 2).foldr (· + ·) 2

/-! ### All together -/

/-- One type, given what was met in the default values of those before it. -/
def checkType (s : TypeSystem) (t : TypeDefinition) (defaults : Search) : List Incoherence × Search :=
  let named := if Builtin.isMeta t.name then [] else checkName t.name
  match t.body with
  | .scalar => (named, defaults)
  | .object is fs | .interface is fs =>
    (named ++ checkFields s t.name fs ++ checkInterfaces s t [] is, defaults)
  | .union ms => (named ++ checkMembers s t.name ms, defaults)
  | .enum vs => (named ++ checkValues t.name vs, defaults)
  | .input is =>
    let defaults := defaultCircles s (defaultBound s) [] (.ofValue t.name (.object []))
      { defaults with found := [] }
    (named ++ checkInputs s t is ++ defaults.found, defaults)

def checkTypes (s : TypeSystem) (defaults : Search) : List TypeDefinition → List Incoherence
  | [] => []
  | t :: rest =>
    let (found, defaults) := checkType s t defaults
    found ++ checkTypes s defaults rest

def checkFinite (s : TypeSystem) : List Incoherence :=
  let finite := finiteInputs s (s.types.length + 1)
  let search := s.types.foldl (fun search t =>
    if (inputFields? s t.name).isSome then
      circlesFrom s finite (s.types.length + 1) [] t.name search
    else search) {}
  search.found

def checkRoots (s : TypeSystem) : List Incoherence :=
  let used := Operation.all.filterMap fun o => (s.root? o).map ((o, ·))
  let isObject (name : String) : Bool :=
    match s.body? name with
    | some (.object ..) => true
    | _ => false
  let objects := used.filter fun (_, name) => isObject name
  let shared := (objects.map (·.2)).eraseDups.filterMap fun name =>
    let operations := (objects.filter (·.2 == name)).map (·.1)
    if 1 < operations.length then some (Incoherence.sharedRoot name operations) else none
  (if (s.root? .query).isNone then [.noQueryRoot] else []) ++
    (used.filterMap fun (o, name) =>
      if isObject name then none else some (.rootNotObject o name)) ++ shared

def checkDirectives (s : TypeSystem) : List Incoherence :=
  s.directives.flatMap fun d =>
    checkName d.name ++ d.arguments.flatMap (checkArgument s ("@" ++ d.name))

end Coherence

def TypeSystem.incoherences (s : TypeSystem) : List Incoherence :=
  Coherence.checkRoots s ++ Coherence.checkDirectives s ++ Coherence.checkTypes s {} s.types ++
    Coherence.checkFinite s

end SchemaSheets.Schema
