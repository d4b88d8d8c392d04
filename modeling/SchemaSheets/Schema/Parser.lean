import SchemaSheets.Capacity
import SchemaSheets.Schema.Document
import SchemaSheets.Schema.SyntaxError
import SchemaSheets.Schema.Token

/-!
# Reading schema documents

The grammar of the schema language, from tokens to definitions.  Each rule
takes the tokens that are left and gives what it read with the tokens after it,
or the fault that it met.  Going on to a token that is a fault stops at once,
whatever the token is wanted for.  Lists, objects, list types and selections
nest up to a limit, which also bounds the rules that call themselves.
-/

namespace SchemaSheets.Schema

inductive SyntaxFault where
  | lexical (fault : LexicalFault)
  | expected (what : String) (found : Lexeme)
  | unexpected (found : Lexeme)
  | reservedName (found : Lexeme)
  | variableInConstant (name : String)
  | describedShorthand
  | describedOther
  | tooDeep
  deriving DecidableEq, Repr

def SyntaxFault.message : SyntaxFault → String
  | lexical fault => fault.message
  | expected what found => "Expected " ++ what ++ ", found " ++ found.describe ++ "."
  | unexpected found => "Unexpected " ++ found.describe ++ "."
  | reservedName found =>
    found.describe ++ " is reserved and cannot be used for an enum value."
  | variableInConstant name => "Unexpected variable '$" ++ name ++ "' in constant value."
  | describedShorthand =>
    "Unexpected description, descriptions are not supported on shorthand queries."
  | describedOther => "Unexpected description, only GraphQL definitions support descriptions."
  | tooDeep => "Document is nested too deeply. Parsing aborted."

/-- A fault, with the number of characters left where it is. -/
structure Stop where
  fault : SyntaxFault
  left : Nat
  deriving DecidableEq, Repr

abbrev Parse := StateT (List Item) (Except Stop)

namespace Parse

variable [Capacity]

/-! ### Single tokens -/

def ahead (distance : Nat) : Parse (Lexeme × Nat) := do
  match (← get)[distance]? with
  | some (.token lexeme left) => return (lexeme, left)
  | some (.fault fault left) => throw ⟨.lexical fault, left⟩
  | none => return (.endOfFile, 0)

def current : Parse (Lexeme × Nat) := ahead 0

def peek : Parse Lexeme := do return (← current).1

def advance : Parse Unit := do
  modify List.tail
  let _ ← current

def unexpected {α : Type} : Parse α := do
  let (found, left) ← current
  throw ⟨.unexpected found, left⟩

def expect (what : Lexeme) (shown : String) : Parse Unit := do
  let (found, left) ← current
  if found = what then advance else throw ⟨.expected shown found, left⟩

def mark (m : Mark) : Parse Unit := expect (.mark m) (Lexeme.mark m).describe

def keyword (s : String) : Parse Unit := expect (.name s) ("'" ++ s ++ "'")

def skip (what : Lexeme) : Parse Bool := do
  if (← peek) = what then
    advance
    return true
  else return false

def name : Parse String := do
  match ← current with
  | (.name s, _) =>
    advance
    return s
  | (found, left) => throw ⟨.expected "Name" found, left⟩

def description : Parse (Option String) := do
  match ← peek with
  | .text s | .block s =>
    advance
    return some s
  | _ => return none

/-! ### Sequences -/

def upTo {α : Type} (close : Mark) (item : Parse α) : Nat → Parse (List α)
  | 0 => unexpected
  | fuel + 1 => do
    if ← skip (.mark close) then return []
    let a ← item
    return a :: (← upTo close item fuel)

def anyUpTo {α : Type} (close : Mark) (item : Parse α) : Parse (List α) := do
  upTo close item ((← get).length + 1)

def anyBetween {α : Type} (opening : Mark) (item : Parse α) (close : Mark) : Parse (List α) := do
  mark opening
  anyUpTo close item

def atLeastOne {α : Type} (opening : Mark) (item : Parse α) (close : Mark) : Parse (List α) := do
  mark opening
  let first ← item
  return first :: (← anyUpTo close item)

def optional {α : Type} (opening : Mark) (item : Parse α) (close : Mark) : Parse (List α) := do
  if (← peek) = .mark opening then atLeastOne opening item close else return []

def separatedRest {α : Type} (separator : Mark) (item : Parse α) : Nat → Parse (List α)
  | 0 => return []
  | fuel + 1 => do
    if ← skip (.mark separator) then
      let a ← item
      return a :: (← separatedRest separator item fuel)
    else return []

def separated {α : Type} (separator : Mark) (item : Parse α) : Parse (List α) := do
  let _ ← skip (.mark separator)
  let first ← item
  return first :: (← separatedRest separator item (← get).length)

/-! ### Nesting -/

def tooDeep {α : Type} : Parse α := do
  let (_, left) ← current
  throw ⟨.tooDeep, left⟩

/-! ### Values and types -/

def plainValue (constant : Bool) : Parse Literal := do
  let (found, left) ← current
  match found with
  | .int s =>
    advance
    return .int s
  | .float s =>
    advance
    return .float s
  | .text s =>
    advance
    return .text s
  | .block s =>
    advance
    return .block s
  | .name s =>
    advance
    return match s with
      | "true" => .bool true
      | "false" => .bool false
      | "null" => .null
      | s => .enum s
  | .mark .dollar =>
    advance
    if constant then
      match ← peek with
      | .name s => throw ⟨.variableInConstant s, left⟩
      | _ => throw ⟨.unexpected found, left⟩
    return .variableNamed (← name)
  | _ => throw ⟨.unexpected found, left⟩

/-- A value with room for so many levels of lists and objects; inside a constant there are no
variables. -/
def value (constant : Bool) : Nat → Parse Literal
  | 0 => do
    match ← peek with
    | .mark .bracketOpen | .mark .braceOpen => tooDeep
    | _ => plainValue constant
  | room + 1 => do
    match ← peek with
    | .mark .bracketOpen =>
      return .list (← anyBetween .bracketOpen (value constant room) .bracketClose)
    | .mark .braceOpen =>
      let member : Parse (String × Literal) := do
        let key ← name
        mark .colon
        return (key, ← value constant room)
      return .object (← anyBetween .braceOpen member .braceClose)
    | _ => plainValue constant

def constantValue : Parse Literal := value true Capacity.schema

def bangAfter (t : TypeExpr) : Parse TypeExpr := do
  if ← skip (.mark .bang) then return .nonNull t else return t

def type : Nat → Parse TypeExpr
  | 0 => do
    if ← skip (.mark .bracketOpen) then tooDeep
    bangAfter (.named (← name))
  | room + 1 => do
    if ← skip (.mark .bracketOpen) then
      let inner ← type room
      mark .bracketClose
      bangAfter (.list inner)
    else bangAfter (.named (← name))

def typeExpr : Parse TypeExpr := type Capacity.schema

def argument (constant : Bool) (room : Nat) : Parse Argument := do
  let key ← name
  mark .colon
  let (_, left) ← current
  return ⟨key, ← value constant room, left⟩

def arguments (constant : Bool) (room : Nat) : Parse (List Argument) :=
  optional .parenOpen (argument constant room) .parenClose

def directivesFrom (constant : Bool) (room : Nat) : Nat → Parse (List Directive)
  | 0 => return []
  | fuel + 1 => do
    if ← skip (.mark .at) then
      let label ← name
      let args ← arguments constant room
      return ⟨label, args⟩ :: (← directivesFrom constant room fuel)
    else return []

def directives (constant : Bool) (room : Nat) : Parse (List Directive) := do
  directivesFrom constant room ((← get).length + 1)

def constantDirectives : Parse (List Directive) := directives true Capacity.schema

/-! ### Operations and fragments -/

def fallback : Parse (Option Literal) := do
  if ← skip (.mark .equals) then return some (← constantValue) else return none

def operationVariable : Parse VariableDefinition := do
  let _ ← description
  mark .dollar
  let _ ← name
  mark .colon
  let t ← typeExpr
  let d ← fallback
  return ⟨t, d, ← constantDirectives⟩

/-- One selection, given the rule for the selections inside it and the room for values. -/
def selection (room : Nat) (inner : Parse (List Selection)) : Parse Selection := do
  if ← skip (.mark .spread) then
    if ← skip (.name "on") then
      let condition ← name
      let ds ← directives false room
      return .inline (some condition) ds (← inner)
    match ← peek with
    | .name _ =>
      advance
      return .spread (← directives false room)
    | _ =>
      let ds ← directives false room
      return .inline none ds (← inner)
  else
    let _ ← name
    if ← skip (.mark .colon) then
      let _ ← name
    let args ← arguments false room
    let ds ← directives false room
    if (← peek) = .mark .braceOpen then return .field args ds (← inner)
    else return .field args ds []

def selectionSet : Nat → Parse (List Selection)
  | 0 => tooDeep
  | room + 1 => anyBetween .braceOpen (selection room (selectionSet room)) .braceClose

def selections : Parse (List Selection) := selectionSet Capacity.schema

def operationKind : Parse Operation := do
  let (found, left) ← current
  match Operation.ofName? (← name) with
  | some kind => return kind
  | none => throw ⟨.unexpected found, left⟩

def operation : Parse Definition := do
  let _ ← description
  let kind ← operationKind
  match ← peek with
  | .name _ => advance
  | _ => pure ()
  let vs ← optional .parenOpen operationVariable .parenClose
  let ds ← directives false Capacity.schema
  return .operation kind vs ds (← selections)

/-- A fragment, which cannot be named like the keyword that follows its name. -/
def fragment : Parse Definition := do
  let _ ← description
  keyword "fragment"
  match ← peek with
  | .name "on" | .text "on" | .block "on" => unexpected
  | _ => pure ()
  let _ ← name
  keyword "on"
  let condition ← name
  let ds ← directives false Capacity.schema
  return .fragment condition ds (← selections)

/-! ### Definitions -/

def root : Parse (Operation × String) := do
  let kind ← operationKind
  mark .colon
  return (kind, ← name)

def input : Parse InputDefinition := do
  let d ← description
  let label ← name
  mark .colon
  let t ← typeExpr
  let f ← fallback
  return ⟨d, label, t, f, ← constantDirectives⟩

def inputs : Parse (List InputDefinition) := optional .parenOpen input .parenClose

def field : Parse FieldDefinition := do
  let d ← description
  let label ← name
  let args ← inputs
  mark .colon
  let t ← typeExpr
  return ⟨d, label, args, t, ← constantDirectives⟩

def reservedNames : List String := ["true", "false", "null"]

def enumValue : Parse ValueDefinition := do
  let d ← description
  let (found, left) ← current
  match found with
  | .name s | .text s | .block s =>
    if reservedNames.contains s then throw ⟨.reservedName found, left⟩
  | _ => pure ()
  let label ← name
  return ⟨d, label, ← constantDirectives⟩

def interfaces : Parse (List String) := do
  if ← skip (.name "implements") then separated .ampersand name else return []

def typeAfter (word : String) (d : Option String) : Parse TypeDefinition := do
  let label ← name
  match word with
  | "scalar" => return ⟨d, label, ← constantDirectives, .scalar⟩
  | "union" =>
    let ds ← constantDirectives
    let members ← if ← skip (.mark .equals) then separated .pipe name else pure []
    return ⟨d, label, ds, .union members⟩
  | "enum" =>
    let ds ← constantDirectives
    return ⟨d, label, ds, .enum (← optional .braceOpen enumValue .braceClose)⟩
  | "input" =>
    let ds ← constantDirectives
    return ⟨d, label, ds, .input (← optional .braceOpen input .braceClose)⟩
  | _ =>
    let is ← interfaces
    let ds ← constantDirectives
    let fs ← optional .braceOpen field .braceClose
    return ⟨d, label, ds, if word == "interface" then .interface is fs else .object is fs⟩

def typeWords : List String := ["scalar", "type", "interface", "union", "enum", "input"]

def position : Parse Position := do
  let (found, left) ← current
  let label ← name
  match Position.words.lookup label with
  | some p => return p
  | none => throw ⟨.unexpected found, left⟩

def directiveDefinition : Parse DirectiveDefinition := do
  let d ← description
  keyword "directive"
  mark .at
  let label ← name
  let args ← inputs
  let ds ← constantDirectives
  let repeatable ← skip (.name "repeatable")
  keyword "on"
  return ⟨d, label, args, ds, repeatable, ← separated .pipe position⟩

def extension : Parse Definition := do
  let (word, left) ← ahead 1
  match word with
  | .name "schema" =>
    advance
    advance
    let ds ← constantDirectives
    let roots ← optional .braceOpen root .braceClose
    if ds.isEmpty && roots.isEmpty then unexpected
    return .rootsExtension ⟨ds, roots⟩
  | .name "directive" =>
    advance
    advance
    mark .at
    let label ← name
    let ds ← constantDirectives
    if ds.isEmpty then unexpected
    return .directiveExtension label ds
  | .name s =>
    if typeWords.contains s then
      advance
      advance
      let t ← typeAfter s none
      if t.directives.isEmpty && t.body.isEmpty then unexpected
      return .typeExtension t
    else throw ⟨.unexpected word, left⟩
  | _ => throw ⟨.unexpected word, left⟩

def isDescription : Lexeme → Bool
  | .text _ | .block _ => true
  | _ => false

def definition : Parse Definition := do
  let (first, start) ← current
  let described := isDescription first
  let (word, left) ← ahead (if described then 1 else 0)
  match word with
  | .mark .braceOpen =>
    if described then throw ⟨.describedShorthand, start⟩
    return .operation .query [] [] (← selections)
  | .name "schema" =>
    let _ ← description
    advance
    let ds ← constantDirectives
    return .roots ⟨ds, ← atLeastOne .braceOpen root .braceClose⟩
  | .name "directive" => return .directive (← directiveDefinition)
  | .name "query" | .name "mutation" | .name "subscription" => operation
  | .name "fragment" => fragment
  | .name s =>
    if typeWords.contains s then
      let d ← description
      advance
      return .type (← typeAfter s d)
    if described then throw ⟨.describedOther, start⟩
    if s == "extend" then extension else throw ⟨.unexpected word, left⟩
  | _ => throw ⟨.unexpected word, left⟩

def definitionsFrom : Nat → Parse (List Definition)
  | 0 => unexpected
  | fuel + 1 => do
    let d ← definition
    if (← peek) = .endOfFile then return [d] else return d :: (← definitionsFrom fuel)

def document : Parse Document := do definitionsFrom ((← get).length + 1)

end Parse

/-! ### Documents -/

def Location.ofLeft (text : List Char) (left : Nat) : Location :=
  go 1 1 (text.length - left) text
where
  /-- The place after some more characters. -/
  go (line column : Nat) : Nat → List Char → Location
    | 0, _ | _, [] => ⟨line, column⟩
    | n + 2, '\r' :: '\n' :: rest => go (line + 1) 1 n rest
    | n + 1, c :: rest =>
      if c == '\n' || c == '\r' then go (line + 1) 1 n rest else go line (column + 1) n rest

def Document.read [Capacity] (text : String) : Except LocatedError Document :=
  let cs := text.toList
  match Parse.document.run (tokens cs) with
  | .ok (d, _) => .ok d
  | .error stop => .error
    { message := "Syntax Error: " ++ stop.fault.message
      locations := [Location.ofLeft cs stop.left]
      document := text }

end SchemaSheets.Schema
