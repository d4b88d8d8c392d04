import SchemaSheets.Http.Fetch
import SchemaSheets.Schema.Introspection
import SchemaSheets.Source.Object
import SchemaSheets.Value.Portable

/-!
# Origins of schemas

A schema is obtained from a URL, from a text that defines it, or from a schema
that is there already.  What a text is shows by whether it is an absolute URL.
-/

namespace SchemaSheets.Introspection

/-- What half of a surrogate pair leads to.  No request can be sent to a URL that holds one, and it
is no character of a schema document. -/
def tornFailure (codes : List Nat) : Failure :=
  let cs := codes.map Text.charOfCode
  if Url.isAbsolute cs then
    match Url.Canonical.ofText (Text.trim cs) with
    | .error fault => .badUrl fault.message
    | .ok _ => .misuse (tornAt codes)
  else
    let before := codes.findIdx fun n => (Text.charOfCode? n).isNone
    let place := Text.Place.after (cs.take before)
    let number := String.ofList ((Display.hex 4 (codes.getD before 0)).map Char.toUpper)
    .build (.syntaxFault ⟨"Syntax Error: Invalid character: U+" ++ number ++ ".",
      [⟨place.line, place.column⟩], String.ofList cs⟩)

/-- The introspection document of the schema that a value stands for. -/
def ofValue [Capacity] (network : Http.Network) (source : Value) : Run Value :=
  match source with
  | .str s =>
    if Url.isAbsolute s.toList then Http.fetch network (String.ofList (Text.trim s.toList))
    else Run.ofExcept (Schema.introspectText s)
  | .scalar (.torn codes) => throw (tornFailure codes)
  | .schema definition => Run.ofExcept (Schema.introspectText definition)
  | v => throw (.unsupportedSource v.typeName)

end SchemaSheets.Introspection
