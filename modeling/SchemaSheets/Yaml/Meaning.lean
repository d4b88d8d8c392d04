import SchemaSheets.Text.Base64
import SchemaSheets.Text.Integer
import SchemaSheets.Text.Number
import SchemaSheets.Value.Misuse
import SchemaSheets.Yaml.Node

/-!
# What the nodes of a document mean

`Node.value` turns a document into a value.  A document may hold several
faults.  The one that counts is the one that lies least deep; of those on one
level it is the first.  A collection that stands again inside itself is not
looked into there.
-/

namespace SchemaSheets.Yaml

inductive Fault where
  /-- the node does not go with its tag -/
  | malformed
  | misuse (m : Misuse)
  deriving Repr

/-! ### Scalars -/

def truthOf (s : String) : Except Fault Scalar :=
  let lower := String.ofList (s.toList.map Char.toLower)
  match boolWords.lookup lower with
  | some b => .ok (.bool b)
  | none => .error (.misuse (.missingKey (.str lower)))

def signedDigits (s : String) : Except Fault (Bool × List Char) :=
  match s.toList.filter (· != '_') with
  | [] => .error (.misuse .emptyNumber)
  | cs => .ok (Text.signAndRest cs)

def digitLimit : Nat := 4300

def integerIn (base : Nat) (cs : List Char) : Except Fault Int :=
  let digits := (cs.filter Text.isDigit).length
  if base = 10 && digitLimit < digits then .error (.misuse (.numberTooLong digits))
  else
    match Text.integerIn? base cs with
    | some n => .ok n
    | none => .error (.misuse (.badInteger (String.ofList cs) base))

/-- An integer: binary, hexadecimal, octal, counted in sixties, or decimal. -/
def integerOf (s : String) : Except Fault Scalar := do
  let (negative, cs) ← signedDigits s
  let n ← match cs with
    | [] => throw (.misuse .emptyNumber)
    | ['0'] => pure 0
    | '0' :: 'b' :: rest => integerIn 2 rest
    | '0' :: 'x' :: rest => integerIn 16 rest
    | '0' :: _ => integerIn 8 cs
    | _ =>
      if cs.contains ':' then do
        let parts ← (cs.splitOnP (· == ':')).mapM (integerIn 10)
        pure (parts.foldl (fun n part => n * 60 + part) 0)
      else integerIn 10 cs
  return .int (if negative then -n else n)

def numberIn (cs : List Char) : Except Fault Binary64 :=
  match Text.number? cs with
  | some x => .ok x
  | none => .error (.misuse (.badNumber (String.ofList cs)))

def sixtieths (weight : Nat) (sum : Float) : List Binary64 → Float
  | [] => sum
  | x :: rest =>
    sixtieths (weight * 60) (sum + x.toFloat * (Binary64.ofInt weight).toFloat) rest

def opposite (x : Binary64) : Binary64 := .ofMagnitude (!x.isNegative) (x.bits.toNat % Decimal.twoTo 63)

def floatOf (s : String) : Except Fault Scalar := do
  let (negative, cs) ← signedDigits (String.ofList (s.toList.map Char.toLower))
  let x ←
    if cs == ".inf".toList then pure (Binary64.infinity false)
    else if cs == ".nan".toList then pure Binary64.nan
    else if cs.contains ':' then do
      let parts ← (cs.splitOnP (· == ':')).mapM numberIn
      pure (Binary64.ofFloat (sixtieths 1 0 parts.reverse))
    else numberIn cs
  return .float (if negative then opposite x else x)

def microseconds (fraction : List Char) : Nat :=
  Text.decimalValue ((fraction ++ List.replicate 6 '0').take 6)

def TimeText.scalar (t : TimeText) : Except Fault Scalar :=
  let number := Text.decimalValue
  let date : Date := ⟨number t.year, number t.month, number t.day⟩
  let checked (s : Scalar) (fault? : Option CalendarFault) : Except Fault Scalar :=
    match fault? with
    | some fault => .error (.misuse (.badDate fault))
    | none => .ok s
  if t.hour.isEmpty then checked (.date date) date.fault?
  else
    let offset := t.zone.map fun (west, hours, minutes) =>
      let size : Int := number hours * 60 + number minutes
      if west then -size else size
    let time : Timestamp :=
      ⟨date, number t.hour, number t.minute, number t.second, microseconds t.fraction, offset⟩
    checked (.timestamp time) time.fault?

/-- A date or a time; one line end may follow it. -/
def timeOf (s : String) : Except Fault Scalar :=
  let cs := s.toList
  let cs := if cs.getLast? == some '\n' then cs.dropLast else cs
  match timeText? false cs with
  | some t => t.scalar
  | none => .error (.misuse (.lacks "NoneType" "groupdict"))

def octetsOf (s : String) : Except Fault Scalar :=
  if s.toList.all (·.toNat < 128) then
    match Text.decodeBase64 s.toList with
    | some octets => .ok (.bytes octets)
    | none => .error .malformed
  else .error .malformed

def scalarOf (tag : Tag) (s : String) : Except Fault Scalar :=
  match tag with
  | .null => .ok .null
  | .bool => truthOf s
  | .int => integerOf s
  | .float => floatOf s
  | .timestamp => timeOf s
  | .binary => octetsOf s
  | .str => .ok (.str s)
  | _ => .error .malformed

/-- The scalar that a torn text with a tag means.  It is no number, no time and no word for
anything. -/
def tornScalarOf (tag : Tag) (codes : List Nat) : Except Fault Scalar :=
  match tag with
  | .str => .ok (.torn codes)
  | tag => scalarOf tag (String.ofList (codes.map Text.charOfCode))

/-! ### Faults on several levels -/

abbrev Outcome (α : Type) := Except (Nat × Fault) α

def gather {α : Type} : List (Outcome α) → Outcome (List α)
  | [] => .ok []
  | x :: rest =>
    match x, gather rest with
    | .ok a, .ok as => .ok (a :: as)
    | .ok _, .error e => .error e
    | .error e, .ok _ => .error e
    | .error e, .error f => .error (if f.1 < e.1 then f else e)

def at_ {α : Type} (level : Nat) (x : Except Fault α) : Outcome α := x.mapError fun e => (level, e)

inductive Kind where
  | scalar
  | seq
  | map
  | set
  | pairs
  | none
  deriving DecidableEq, Repr

def Tag.kind : Tag → Kind
  | null | bool | int | float | timestamp | binary | str => .scalar
  | seq => .seq
  | map => .map
  | set => .set
  | omap | pairs => .pairs
  | merge | .default | unknown => .none

/-- A key has to be a scalar; a value of another kind counts as a fault before its own faults. -/
def keyAt (level : Nat) : Outcome Value → Outcome Scalar
  | .ok (.scalar (.again _)) => .error (level, .malformed)
  | .ok (.scalar s) => .ok s
  | .ok _ => .error (level, .malformed)
  | .error (deep, e) => .error (level, if level < deep then .malformed else e)

def entryOf (k : Outcome Scalar) (v : Outcome Value) : Outcome (Scalar × Value) := do
  return (← k, ← v)

def pairOf (k v : Outcome Value) : Outcome Value :=
  (gather [k, v]).map .list

/-! ### Nodes -/

namespace Node

/-- What a text means under a tag.  A mapping has the text of its default entry. -/
def meaning? (tag : Tag) : Node → Option (Except Fault Scalar)
  | text _ s => some (scalarOf tag s)
  | torn _ codes => some (tornScalarOf tag codes)
  | map _ entries => default? entries
  | seq _ _ | again _ _ => none
where
  /-- The meaning of the text under the first key that stands for a default value. -/
  default? : List (Node × Node) → Option (Except Fault Scalar)
    | [] => none
    | (k, v) :: rest => if k.tag == .default then meaning? tag v else default? rest

/-- Nothing but a mapping, or a sequence of mappings, can be merged into a mapping. -/
def mergeable : Node → Bool
  | map _ entries => mergeableEntries entries
  | seq _ items => mergeableItems items
  | again _ _ => true
  | text _ _ | torn _ _ => false
where
  /-- The mappings that are merged into this one are mergeable. -/
  mergeableEntries : List (Node × Node) → Bool
    | [] => true
    | (k, v) :: rest => (k.tag != .merge || mergeable v) && mergeableEntries rest
  /-- Mappings all of which are mergeable. -/
  mergeableItems : List Node → Bool
    | [] => true
    | map _ entries :: rest => mergeableEntries entries && mergeableItems rest
    | again _ true :: rest => mergeableItems rest
    | _ :: _ => false

mutual
/-- The value of a node.  Its text counts on the given level, its parts on the next. -/
def valueAt (level : Nat) : Node → Outcome Value
  | text tag s =>
    match tag.kind with
    | .scalar => (at_ level (scalarOf tag s)).map .scalar
    | .none => .error (level, .malformed)
    | _ => .error (level + 1, .malformed)
  | torn tag codes =>
    match tag.kind with
    | .scalar => (at_ level (tornScalarOf tag codes)).map .scalar
    | .none => .error (level, .malformed)
    | _ => .error (level + 1, .malformed)
  | seq tag items =>
    match tag.kind with
    | .seq => (gather (itemsAt (level + 1) items)).map .list
    | .pairs => (gather (pairsAt (level + 1) items)).map .list
    | .map | .set => .error (level + 1, .malformed)
    | .scalar | .none => .error (level, .malformed)
  | map tag entries =>
    match tag.kind with
    | .scalar =>
      match meaning?.default? tag entries with
      | some meant => (at_ level meant).map .scalar
      | none => .error (level, .malformed)
    | .map => (entriesOf (level + 1) entries).map .map
    | .set => (entriesOf (level + 1) entries).map fun es => .set es.keys
    | .seq | .pairs => .error (level + 1, .malformed)
    | .none => .error (level, .malformed)
  | again tag _ =>
    match tag.kind with
    | .seq | .pairs => .ok (.scalar (.again false))
    | .map | .set => .ok (.scalar (.again true))
    | .scalar | .none => .error (level, .malformed)
where
  /-- The entries of a mapping after those that are merged into it. -/
  entriesOf (level : Nat) (entries : List (Node × Node)) : Outcome Entries :=
    if mergeable.mergeableEntries entries then
      (gather (mergedAt level entries ++ ownAt level entries)).map Entries.ofList
    else .error (level, .malformed)

def itemsAt (level : Nat) : List Node → List (Outcome Value)
  | [] => []
  | n :: rest => valueAt level n :: itemsAt level rest

def pairsAt (level : Nat) : List Node → List (Outcome Value)
  | [] => []
  | map _ [(k, v)] :: rest =>
    pairOf (valueAt level k) (valueAt level v) :: pairsAt level rest
  | _ :: _ => [.error (level, .malformed)]

def ownAt (level : Nat) : List (Node × Node) → List (Outcome (Scalar × Value))
  | [] => []
  | (k, v) :: rest =>
    if k.tag = .merge then ownAt level rest
    else
      let key := match k with
        | text .default s => .ok (.str s)
        | torn .default codes => .ok (.torn codes)
        | k => keyAt level (valueAt level k)
      entryOf key (valueAt level v) :: ownAt level rest

def mergedAt (level : Nat) : List (Node × Node) → List (Outcome (Scalar × Value))
  | [] => []
  | (k, v) :: rest =>
    (if k.tag = .merge then sourceAt level v else []) ++ mergedAt level rest

/-- The entries of what is merged; of several mappings the last one comes first. -/
def sourceAt (level : Nat) : Node → List (Outcome (Scalar × Value))
  | map _ entries => mergedAt level entries ++ ownAt level entries
  | seq _ items => sourcesAt level items
  | text _ _ | torn _ _ | again _ _ => []

def sourcesAt (level : Nat) : List Node → List (Outcome (Scalar × Value))
  | [] => []
  | n :: rest => sourcesAt level rest ++ sourceAt level n
end

def value (n : Node) : Except Fault Value := (valueAt 0 n).mapError (·.2)

end Node

end SchemaSheets.Yaml
