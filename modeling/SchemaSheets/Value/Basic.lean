import SchemaSheets.Text.Hex
import SchemaSheets.Value.Calendar

/-!
# Values

The dynamic values that configuration documents and introspection documents
are made of.  A mapping keeps its entries in the order in which they came, and
its keys are scalars.  A schema is a value too: it is kept as the text it was
built from.

Values are trees.  A document can say more than a tree holds: half of a
surrogate pair may stand alone in a text, and a collection may stand inside
itself.  Both are kept as scalars of their own, the collection without what is
in it.
-/

namespace SchemaSheets

/-- A value without parts; the only kind that a mapping takes as key. -/
inductive Scalar where
  | null
  | bool (b : Bool)
  | int (n : Int)
  | float (x : Binary64)
  | str (s : String)
  | date (d : Date)
  | timestamp (t : Timestamp)
  | bytes (octets : List UInt8)
  /-- a text in which half of a surrogate pair stands alone, as the codes of its characters -/
  | torn (codes : List Nat)
  /-- a mapping or list that holds itself, where it stands inside itself; no key -/
  | again (isMapping : Bool)
  deriving DecidableEq, Repr, Inhabited

inductive Value where
  | scalar (s : Scalar)
  | list (items : List Value)
  | map (entries : List (Scalar × Value))
  | set (members : List Scalar)
  | schema (definition : String)
  deriving Repr, Inhabited

abbrev Entries := List (Scalar × Value)

namespace Value

@[match_pattern] abbrev null : Value := .scalar .null
@[match_pattern] abbrev bool (b : Bool) : Value := .scalar (.bool b)
@[match_pattern] abbrev int (n : Int) : Value := .scalar (.int n)
@[match_pattern] abbrev float (x : Binary64) : Value := .scalar (.float x)
@[match_pattern] abbrev str (s : String) : Value := .scalar (.str s)

def record (fields : List (String × Value)) : Value := .map (fields.map fun (k, v) => (.str k, v))

def natural (n : Nat) : Value := .int n

/-! ### Equality -/

mutual
def decEqValue : (a b : Value) → Decidable (a = b)
  | .scalar a, .scalar b =>
    if h : a = b then isTrue (by rw [h]) else isFalse (by intro e; cases e; exact h rfl)
  | .set a, .set b =>
    if h : a = b then isTrue (by rw [h]) else isFalse (by intro e; cases e; exact h rfl)
  | .schema a, .schema b =>
    if h : a = b then isTrue (by rw [h]) else isFalse (by intro e; cases e; exact h rfl)
  | .list a, .list b =>
    match decEqValues a b with
    | isTrue h => isTrue (by rw [h])
    | isFalse h => isFalse (by intro e; cases e; exact h rfl)
  | .map a, .map b =>
    match decEqEntries a b with
    | isTrue h => isTrue (by rw [h])
    | isFalse h => isFalse (by intro e; cases e; exact h rfl)
  | .scalar _, .list _ | .scalar _, .map _ | .scalar _, .set _ | .scalar _, .schema _
  | .list _, .scalar _ | .list _, .map _ | .list _, .set _ | .list _, .schema _
  | .map _, .scalar _ | .map _, .list _ | .map _, .set _ | .map _, .schema _
  | .set _, .scalar _ | .set _, .list _ | .set _, .map _ | .set _, .schema _
  | .schema _, .scalar _ | .schema _, .list _ | .schema _, .map _ | .schema _, .set _ =>
    isFalse (by intro e; cases e)

def decEqValues : (a b : List Value) → Decidable (a = b)
  | [], [] => isTrue rfl
  | [], _ :: _ | _ :: _, [] => isFalse (by intro e; cases e)
  | x :: xs, y :: ys =>
    match decEqValue x y, decEqValues xs ys with
    | isTrue h, isTrue h' => isTrue (by rw [h, h'])
    | isFalse h, _ => isFalse (by intro e; cases e; exact h rfl)
    | _, isFalse h => isFalse (by intro e; cases e; exact h rfl)

def decEqEntries : (a b : Entries) → Decidable (a = b)
  | [], [] => isTrue rfl
  | [], _ :: _ | _ :: _, [] => isFalse (by intro e; cases e)
  | (k, x) :: xs, (l, y) :: ys =>
    match instDecidableEqScalar k l, decEqValue x y, decEqEntries xs ys with
    | isTrue h, isTrue h', isTrue h'' => isTrue (by rw [h, h', h''])
    | isFalse h, _, _ => isFalse (by intro e; cases e; exact h rfl)
    | _, isFalse h, _ => isFalse (by intro e; cases e; exact h rfl)
    | _, _, isFalse h => isFalse (by intro e; cases e; exact h rfl)
end

instance : DecidableEq Value := decEqValue

/-! ### Simple views -/

def text? : Value → Option String
  | .str s => some s
  | _ => none

def isMap : Value → Bool
  | .map _ => true
  | _ => false

/-- A value counts as true unless it is null, false, a zero, or empty. -/
def isTruthy : Value → Bool
  | .null => false
  | .bool b => b
  | .int n => n != 0
  | .float x => !x.isZero
  | .str s => s != ""
  | .scalar (.bytes b) => !b.isEmpty
  | .scalar (.date _) | .scalar (.timestamp _) | .scalar (.torn _) | .scalar (.again _) => true
  | .list items => !items.isEmpty
  | .map entries => !entries.isEmpty
  | .set members => !members.isEmpty
  | .schema _ => true

def orElse (v fallback : Value) : Value := if v.isTruthy then v else fallback

/-- An empty text is as good as none. -/
theorem orElse_str (s : String) : (str s).orElse (.str "") = .str s := by
  by_cases hempty : s = ""
  · rw [hempty]
    rfl
  · simp [orElse, isTruthy, hempty]

end Value

namespace Scalar

def ofCodes (codes : List Nat) : Scalar :=
  match codes.mapM Text.charOfCode? with
  | some cs => .str (String.ofList cs)
  | none => .torn codes

/-- The word that messages use for a scalar's type. -/
def typeName : Scalar → String
  | .null => "NoneType"
  | .bool _ => "bool"
  | .int _ => "int"
  | .float _ => "float"
  | .str _ => "str"
  | .date _ => "date"
  | .timestamp _ => "datetime"
  | .bytes _ => "bytes"
  | .torn _ => "str"
  | .again isMapping => if isMapping then "dict" else "list"

def integer? : Scalar → Option Int
  | .bool b => some (if b then 1 else 0)
  | .int n => some n
  | _ => none

/-- Two scalars name the same entry of a mapping.  Numbers are compared as
quantities whatever their kind, times as instants. -/
def sameKey (a b : Scalar) : Bool :=
  match a, b with
  | .timestamp s, .timestamp t => s.sameInstant t
  | .float x, .float y => x.sameQuantity y
  | .float x, b => match b.integer? with
    | some n => x.equalsInt n
    | none => false
  | a, .float y => match a.integer? with
    | some n => y.equalsInt n
    | none => false
  | a, b => match a.integer?, b.integer? with
    | some m, some n => m == n
    | _, _ => decide (a = b)

@[simp] theorem sameKey_str (s t : String) : sameKey (.str s) (.str t) = decide (s = t) := by
  simp [sameKey, integer?]

end Scalar

namespace Value

def typeName : Value → String
  | .scalar s => s.typeName
  | .list _ => "list"
  | .map _ => "dict"
  | .set _ => "set"
  | .schema _ => "GraphQLSchema"

end Value

end SchemaSheets
