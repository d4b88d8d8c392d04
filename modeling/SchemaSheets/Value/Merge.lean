import SchemaSheets.Value.Misuse

/-!
# Deep merge

One mapping laid over another.  Where both hold a mapping under a key, the two
are merged in turn; everywhere else the upper value wins.  The lower mapping's
keys keep their places, and the upper one's new keys follow in their order.
-/

namespace SchemaSheets

namespace Value

mutual
/-- The value that shows when the last argument is laid over what lies under it. -/
def laidOver (under : Option Value) : Value → Value
  | .map upper =>
    match under with
    | some (.map lower) => .map (entriesLaidOver lower upper)
    | _ => .map upper
  | v => v

def entriesLaidOver (lower : Entries) : Entries → Entries
  | [] => lower
  | (k, v) :: rest =>
    entriesLaidOver (Entries.insert k (laidOver (Entries.lookup? k lower) v) lower) rest
end

end Value

namespace Entries

def merge (lower upper : Entries) : Entries := Value.entriesLaidOver lower upper

@[simp] theorem merge_nil (lower : Entries) : merge lower [] = lower := by
  simp [merge, Value.entriesLaidOver]

end Entries

namespace Value

/-- Two values merged as mappings.  A list or a set can be copied, so that it
serves as the lower value as long as nothing is laid over it. -/
def merge (lower upper : Value) : Except Misuse Value := do
  match lower with
  | .map entries => return .map (Entries.merge entries (← upper.entriesFor "items"))
  | .list _ | .set _ =>
    match ← upper.entriesFor "items" with
    | [] => return lower
    | (k, _) :: _ =>
      match lower with
      | .list _ => throw (.badIndex "list" k.typeName)
      | _ => throw (.noItemAssignment lower.typeName)
  | v => throw (.lacks v.typeName "copy")

end Value

end SchemaSheets
