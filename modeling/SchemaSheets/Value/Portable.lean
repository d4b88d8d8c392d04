import SchemaSheets.Text.Utf8
import SchemaSheets.Value.Misuse

/-!
# Portable values

The values that every document format can hold: null, truth values, finite
numbers, texts, lists, and mappings with text keys.  `portable` brings a value
into this form: dates and times become texts, bytes the text they encode, a set
a list, a number that is none null, and every key a text.
-/

namespace SchemaSheets

def decodedText (octets : List UInt8) : Except Misuse String :=
  match Text.decodeUtf8 octets with
  | .ok cs => .ok (String.ofList cs)
  | .error (position, fault) => .error (.undecodable position fault.octet)

def tornAt (codes : List Nat) : Misuse :=
  let position := codes.findIdx fun n => (Text.charOfCode? n).isNone
  .unencodable (codes.getD position 0) position

namespace Scalar

def portable : Scalar → Except Misuse Scalar
  | .float x => .ok (if x.toFraction?.isSome then .float x else .null)
  | .date d => .ok (.str d.isoText)
  | .timestamp t => .ok (.str t.zuluText)
  | .bytes octets => do return .str (← decodedText octets)
  | .again _ => .error .endless
  | s => .ok s

def portableKey : Scalar → Except Misuse Scalar
  | .str s => .ok (.str s)
  | .float x => .ok (.str (if x.toFraction?.isSome then Decimal.text x else "None"))
  | .bool b => .ok (.str (if b then "true" else "false"))
  | .date d => .ok (.str d.isoText)
  | .timestamp t => .ok (.str t.zuluText)
  | .bytes octets => do return .str (← decodedText octets)
  | .torn codes => .error (tornAt codes)
  | s => .ok (.str (Display.scalar s))

end Scalar

namespace Value

mutual
def portable : Value → Except Misuse Value
  | .scalar s => do return .scalar (← s.portable)
  | .list items => do return .list (← portableItems items)
  | .map entries => do return .map (Entries.ofList (← portableEntries entries))
  | .set members => do return .list ((← members.mapM Scalar.portable).map .scalar)
  | .schema _ => .error (.notPortable "<class 'graphql.type.schema.GraphQLSchema'>")

def portableItems : List Value → Except Misuse (List Value)
  | [] => .ok []
  | v :: vs => do return (← portable v) :: (← portableItems vs)

def portableEntries : Entries → Except Misuse Entries
  | [] => .ok []
  | (k, v) :: rest => do
    let k ← k.portableKey
    let v ← portable v
    return (k, v) :: (← portableEntries rest)
end

end Value

end SchemaSheets
