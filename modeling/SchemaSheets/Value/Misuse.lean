import SchemaSheets.Value.Mapping
import SchemaSheets.Value.Display

/-!
# Misused values

What is reported when a dynamic value is used in a way that its type does not
allow: a member is looked up on something without members, a list serves as a
key, a number is read as text.
-/

namespace SchemaSheets

inductive Misuse where
  /-- the type has no such operation -/
  | lacks (type operation : String)
  /-- a value with parts cannot be a key -/
  | unhashable (type : String)
  | notIterable (type : String)
  | notText (type : String)
  | notSubscriptable (type : String)
  /-- positions in a list or text are integers -/
  | badIndex (container key : String)
  | noItemAssignment (type : String)
  | notPath (type : String)
  | notJsonText (type : String)
  /-- two operands do not go together -/
  | badOperand (type : String)
  | missingKey (key : Scalar)
  | repeatedArgument (name : String)
  | notAChoice (value : Value) (choices : String)
  | emptyNumber
  | badInteger (text : String) (base : Nat)
  | badNumber (text : String)
  | numberTooLong (digits : Nat)
  | badDate (fault : CalendarFault)
  /-- an escape with a number that no character has -/
  | noSuchCharacter (code : Nat)
  /-- bytes that are no UTF-8 text, from some place on -/
  | undecodable (position : Nat) (octet : Nat)
  /-- half of a surrogate pair, at some place of a text that has to be encoded -/
  | unencodable (code position : Nat)
  /-- a value that no document can hold -/
  | notPortable (type : String)
  /-- a collection that holds itself -/
  | endless
  /-- collections inside each other, too many of them -/
  | tooDeep
  deriving Repr

def CalendarFault.message : CalendarFault → String
  | year n => s!"year {Decimal.intText n} is out of range"
  | month => "month must be in 1..12"
  | day => "day is out of range for month"
  | hour => "hour must be in 0..23"
  | minute => "minute must be in 0..59"
  | second => "second must be in 0..59"
  | offset minutes =>
    "offset must be a timedelta strictly between -timedelta(hours=24) and timedelta(hours=24), not " ++
      Display.span minutes ++ "."

namespace Misuse

def tooBigForWord (n : Nat) : Bool := 0x7FFFFFFF < n

def message : Misuse → String
  | lacks type operation => s!"'{type}' object has no attribute '{operation}'"
  | unhashable type => s!"unhashable type: '{type}'"
  | notIterable type => s!"'{type}' object is not iterable"
  | notText type => s!"expected string or bytes-like object, got '{type}'"
  | notSubscriptable type => s!"'{type}' object is not subscriptable"
  | badIndex container key =>
    if container == "str" then s!"string indices must be integers, not '{key}'"
    else s!"{container} indices must be integers or slices, not {key}"
  | noItemAssignment type => s!"'{type}' object does not support item assignment"
  | notPath type => s!"expected str, bytes or os.PathLike object, not {type}"
  | notJsonText type => s!"the JSON object must be str, bytes or bytearray, not {type}"
  | badOperand type => s!"unsupported operand type: '{type}'"
  | missingKey key => Display.scalar key
  | repeatedArgument name => s!"got multiple values for argument '{name}'"
  | notAChoice value choices => s!"{Display.value value} is not a valid {choices}"
  | emptyNumber => "string index out of range"
  | badInteger text base =>
    s!"invalid literal for int() with base {Decimal.intText base}: {Display.text text}"
  | badNumber text => s!"could not convert string to float: {Display.text text}"
  | numberTooLong digits =>
    s!"Exceeds the limit (4300 digits) for integer string conversion: value has {digits} digits; use sys.set_int_max_str_digits() to increase the limit"
  | badDate fault => fault.message
  | noSuchCharacter code =>
    if tooBigForWord code then "Python int too large to convert to C int"
    else "chr() arg not in range(0x110000)"
  | undecodable position octet =>
    "'utf-8' codec can't decode byte 0x" ++ String.ofList (Display.hex 2 octet) ++ " in position " ++
      Decimal.intText position ++ ": invalid utf-8"
  | unencodable code position =>
    "'utf-8' codec can't encode character '\\u" ++ String.ofList (Display.hex 4 code) ++
      "' in position " ++ Decimal.intText position ++ ": surrogates not allowed"
  | notPortable type => s!"Unable to serialize unknown type: {type}"
  | endless => "Circular reference detected (id repeated)"
  | tooDeep => "maximum recursion depth exceeded"

end Misuse

namespace Value

def key? : Value → Except Misuse Scalar
  | .scalar (.again isMapping) => .error (.unhashable (Scalar.again isMapping).typeName)
  | .scalar s => .ok s
  | v => .error (.unhashable v.typeName)

def entriesFor (operation : String) : Value → Except Misuse Entries
  | .map entries => .ok entries
  | v => .error (.lacks v.typeName operation)

/-- What a loop over a value visits: the items of a list, the keys of a
mapping, the members of a set, the characters of a text, the octets of bytes. -/
def visited : Value → Except Misuse (List Value)
  | .list items => .ok items
  | .map entries => .ok (entries.map fun (k, _) => .scalar k)
  | .set members => .ok (members.map .scalar)
  | .str s => .ok (s.toList.map fun c => .str (String.ofList [c]))
  | .scalar (.torn codes) => .ok (codes.map fun n => .scalar (.ofCodes [n]))
  | .scalar (.bytes octets) => .ok (octets.map fun b => .int b.toNat)
  | v => .error (.notIterable v.typeName)

def member (name : String) : Value → Except Misuse Value
  | .map entries =>
    match Entries.get? entries name with
    | some v => .ok v
    | none => .error (.missingKey (.str name))
  | .str _ | .scalar (.torn _) => .error (.badIndex "str" "str")
  | .list _ => .error (.badIndex "list" "str")
  | .scalar (.bytes _) => .error (.badIndex "byte" "str")
  | v => .error (.notSubscriptable v.typeName)

end Value

end SchemaSheets
