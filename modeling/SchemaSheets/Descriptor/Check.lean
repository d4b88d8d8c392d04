import SchemaSheets.Value.Misuse

/-!
# Checking values against descriptors

A descriptor is read from a mapping entry by entry.  Every entry is checked,
and all issues are reported together, in the order of the entries, each with
the path that leads to it.  `Checked` collects: combining two checked parts
succeeds when both do and otherwise keeps the issues of both.
-/

namespace SchemaSheets

namespace Check

inductive Step where
  | key (name : String)
  | index (i : Int)
  deriving DecidableEq, Repr

inductive Problem where
  | missing
  | notText
  | undecodableText
  | notList
  | notMapping
  | notRecord (model : String)
  | notChoice (choices : List String)
  | notTruth
  | unreadableTruth
  | keyNotText
  deriving DecidableEq, Repr

namespace Problem

def name : Problem → String
  | missing => "missing"
  | notText => "string_type"
  | undecodableText => "string_unicode"
  | notList => "list_type"
  | notMapping => "dict_type"
  | notRecord _ => "model_type"
  | notChoice _ => "enum"
  | notTruth => "bool_type"
  | unreadableTruth => "bool_parsing"
  | keyNotText => "invalid_key"

def choiceText : List String → String
  | [] => ""
  | [c] => "'" ++ c ++ "'"
  | [c, d] => "'" ++ c ++ "' or '" ++ d ++ "'"
  | c :: rest => "'" ++ c ++ "', " ++ choiceText rest

def message : Problem → String
  | missing => "Field required"
  | notText => "Input should be a valid string"
  | undecodableText => "Input should be a valid string, unable to parse raw data as a unicode string"
  | notList => "Input should be a valid list"
  | notMapping => "Input should be a valid dictionary"
  | notRecord model => "Input should be a valid dictionary or instance of " ++ model
  | notChoice choices => "Input should be " ++ choiceText choices
  | notTruth => "Input should be a valid boolean"
  | unreadableTruth => "Input should be a valid boolean, unable to interpret input"
  | keyNotText => "Keys should be strings"

end Problem

/-- A problem, the path to it, and the value found there. -/
structure Issue where
  problem : Problem
  path : List Step
  input : Value
  deriving Repr

abbrev Checked (α : Type) := Except (List Issue) α

def fail {α : Type} (problem : Problem) (input : Value) : Checked α :=
  .error [⟨problem, [], input⟩]

def within {α : Type} (step : Step) : Checked α → Checked α
  | .ok a => .ok a
  | .error issues => .error (issues.map fun i => { i with path := step :: i.path })

def both {α β : Type} : Checked α → Checked β → Checked (α × β)
  | .ok a, .ok b => .ok (a, b)
  | .ok _, .error e => .error e
  | .error e, .ok _ => .error e
  | .error e, .error f => .error (e ++ f)

theorem both_eq_ok_iff {α β : Type} {x : Checked α} {y : Checked β} {a : α} {b : β} :
    both x y = .ok (a, b) ↔ x = .ok a ∧ y = .ok b := by
  cases x <;> cases y <;> simp [both]

/-! ### Single values -/

/-- A text, no character of which is torn; bytes that encode one will do. -/
def text : Value → Checked String
  | .str s => .ok s
  | .scalar (.torn codes) => fail .undecodableText (.scalar (.torn codes))
  | .scalar (.bytes octets) =>
    match String.fromUTF8? ⟨octets.toArray⟩ with
    | some s => .ok s
    | none => fail .undecodableText (.scalar (.bytes octets))
  | v => fail .notText v

def choice {α : Type} (choices : List (String × α)) (v : Value) : Checked α :=
  match v.text?.bind fun s => choices.lookup s with
  | some a => .ok a
  | none => fail (.notChoice (choices.map (·.1))) v

def truthWords : List (String × Bool) :=
  [("0", false), ("off", false), ("f", false), ("false", false), ("n", false), ("no", false),
   ("1", true), ("on", true), ("t", true), ("true", true), ("y", true), ("yes", true)]

def truthOfWord? (s : String) : Option Bool :=
  truthWords.lookup (s.map fun c => if 'A' ≤ c && c ≤ 'Z' then Char.ofNat (c.toNat + 32) else c)

def isWord64 (n : Int) : Bool := -9223372036854775808 ≤ n && n < 9223372036854775808

/-- A truth value, or a number or word that is read as one. -/
def truth (v : Value) : Checked Bool :=
  let ofInt (n : Int) : Checked Bool :=
    if n = 0 then .ok false else if n = 1 then .ok true
    else if isWord64 n then fail .unreadableTruth v else fail .notTruth v
  match v with
  | .bool b => .ok b
  | .int n => ofInt n
  | .float x =>
    match x.toFraction? with
    | some (num, den) => if num % den = 0 then ofInt (num / den) else fail .notTruth v
    | none => fail .notTruth v
  | .str s =>
    match truthOfWord? s with
    | some b => .ok b
    | none => fail .unreadableTruth v
  | v => fail .notTruth v

def nullable {α : Type} (check : Value → Checked α) : Value → Checked (Option α)
  | .null => .ok none
  | v =>
    match check v with
    | .ok a => .ok (some a)
    | .error e => .error e

/-! ### Lists and mappings -/

def itemsFrom {α : Type} (check : Value → Checked α) : Nat → List Value → Checked (List α)
  | _, [] => .ok []
  | i, v :: vs =>
    match both (within (.index i) (check v)) (itemsFrom check (i + 1) vs) with
    | .ok (a, as) => .ok (a :: as)
    | .error e => .error e

/-- A list of checked items; a set will do. -/
def list {α : Type} (check : Value → Checked α) : Value → Checked (List α)
  | .list items => itemsFrom check 0 items
  | .set members => itemsFrom check 0 (members.map .scalar)
  | v => fail .notList v

def entries (model : String) : Value → Checked Entries
  | .map es => .ok es
  | v => fail (.notRecord model) v

def required {α : Type} (es : Entries) (name : String) (check : Value → Checked α) : Checked α :=
  match Entries.get? es name with
  | some v => within (.key name) (check v)
  | none => .error [⟨.missing, [.key name], .map es⟩]

def optional {α : Type} (es : Entries) (name : String) (fallback : α)
    (check : Value → Checked α) : Checked α :=
  match Entries.get? es name with
  | some v => within (.key name) (check v)
  | none => .ok fallback

/-- A key as a step of a path: texts and integers of 64 bits as they are, all else as displayed
inside a message. -/
def stepOfKey : Scalar → Step
  | .str s => .key s
  | .torn codes => .key (Display.plain (.scalar (.torn codes)))
  | .bool b => .index (if b then 1 else 0)
  | .int n => if isWord64 n then .index n else .key (Decimal.intText n)
  | s => .key (Display.scalar s)

def extraKey : Scalar → Checked String
  | .str s => .ok s
  | k => fail .keyNotText (.scalar k)

end Check

abbrev Extras := List (String × Value)

namespace Extras

/-- With a property set; one that is there keeps its place. -/
def insert (name : String) (v : Value) : Extras → Extras
  | [] => [(name, v)]
  | (n, w) :: rest => if n = name then (n, v) :: rest else (n, w) :: insert name v rest

def insertAll (extras : Extras) (more : Extras) : Extras :=
  more.foldl (fun acc (n, v) => insert n v acc) extras

def without (names : List String) (extras : Extras) : Extras :=
  extras.filter fun (n, _) => !names.contains n

def get? (extras : Extras) (name : String) : Option Value := extras.lookup name

end Extras

namespace Check

/-- The undeclared entries; their keys have to be texts. -/
def extrasFrom : Entries → Checked Extras
  | [] => .ok []
  | (k, v) :: rest =>
    match both (within (stepOfKey k) (extraKey k)) (extrasFrom rest) with
    | .ok (name, more) => .ok ((name, v) :: more)
    | .error e => .error e

def extras (declared : List String) (es : Entries) : Checked Extras :=
  match extrasFrom (Entries.without declared es) with
  | .ok found => .ok (Extras.insertAll [] found)
  | .error e => .error e

/-- The entries of a mapping whose keys all have to be texts. -/
def textKeyed : Value → Checked Extras
  | .map es =>
    let rec keysFrom : Entries → Checked Extras
      | [] => .ok []
      | (k, v) :: rest =>
        let key := within (stepOfKey k) (within (.key "[key]") (text (.scalar k)))
        match both key (keysFrom rest) with
        | .ok (name, more) => .ok ((name, v) :: more)
        | .error e => .error e
    match keysFrom es with
    | .ok found => .ok (Extras.insertAll [] found)
    | .error e => .error e
  | v => fail .notMapping v

/-- A record that did not pass: its model's name and the issues. -/
structure Invalid where
  model : String
  issues : List Issue
  deriving Repr

def named {α : Type} (model : String) : Checked α → Except Invalid α
  | .ok a => .ok a
  | .error issues => .error ⟨model, issues⟩

/-! ### Reports -/

namespace Issue

/-- A step in a path; a key that holds a point is set off. -/
def stepText : Step → String
  | .key name => if name.contains '.' then "`" ++ name ++ "`" else name
  | .index i => Decimal.intText i

def pathText (path : List Step) : String := ".".intercalate (path.map stepText)

def frontWithin : Nat → List Char → List Char
  | _, [] => []
  | room, c :: cs => if c.utf8Size ≤ room then c :: frontWithin (room - c.utf8Size) cs else []

def shortened (s : String) : String :=
  if s.utf8ByteSize ≤ 50 then s
  else
    let cs := s.toList
    String.ofList (frontWithin 25 cs) ++ "..." ++
      String.ofList (frontWithin 24 cs.reverse).reverse

def guide : String := "errors.pydantic.dev/2.14/v/"

def report (i : Issue) : String :=
  (if i.path.isEmpty then "" else "\n" ++ pathText i.path) ++
  "\n  " ++ i.problem.message ++ " [type=" ++ i.problem.name ++ ", input_value=" ++
  shortened (Display.value i.input) ++ ", input_type=" ++ i.input.typeName ++ "]\n" ++
  "    For further information visit https" ++ "://" ++ guide ++ i.problem.name

end Issue

def Invalid.message (e : Invalid) : String :=
  let count := Decimal.intText e.issues.length
  count ++ " validation error" ++ (if e.issues.length = 1 then "" else "s") ++ " for " ++ e.model ++
    String.join (e.issues.map Issue.report)

end Check

end SchemaSheets
