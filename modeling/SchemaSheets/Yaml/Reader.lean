import SchemaSheets.Yaml.Meaning

/-!
# Reading YAML

From a text to its value: the text is cut into tokens, the tokens make the only
document of the stream, and the document means a value.  A stream without a
document means null.
-/

namespace SchemaSheets.Yaml

def Stop.fault : Stop → Fault
  | malformed => .malformed
  | noSuchCharacter code => .misuse (.noSuchCharacter code)
  | tooDeep => .misuse .tooDeep

def document [Capacity] (s : String) : Except Fault (Option Node) :=
  (Node.ofTokens (tokens s.toList)).mapError Stop.fault

def read [Capacity] (s : String) : Except Fault Value := do
  match ← document s with
  | some n => n.value
  | none => return .null

end SchemaSheets.Yaml
