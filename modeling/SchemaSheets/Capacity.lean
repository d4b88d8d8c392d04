/-!
# Capacities

How deep the parts of a text may nest before a reader gives up.  A reader that
calls itself for each level is bounded by the machine that runs it, so nothing
but the program itself fixes these numbers.
-/

namespace SchemaSheets

/-- The levels that each reader has room for. -/
class Capacity where
  /-- lists and mappings of a JSON text -/
  json : Nat
  /-- collections of a YAML document -/
  yaml : Nat
  /-- lists, objects, list types and selections of a schema document -/
  schema : Nat

namespace Capacity

instance (priority := low) usual : Capacity := ⟨980, 488, 200⟩

end Capacity

end SchemaSheets
