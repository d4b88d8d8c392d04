import SchemaSheets.Generate.Sheet

/-!
# Integrity of references

Sheets whose reference fields point to unknown slugs are dropped.  In the
`universe` mode the known slugs are the names of all source objects, and one
round decides.  In the `survivors` mode the rounds go on, each against the
slugs of the sheets that are left, until a round drops nothing.
-/

namespace SchemaSheets

inductive IntegrityMode where
  | universe
  | survivors
  deriving DecidableEq, Repr, Inhabited

namespace IntegrityMode

def names : List (String × IntegrityMode) := [("universe", .universe), ("survivors", .survivors)]

def ofValue (v : Value) : Except Misuse IntegrityMode :=
  match v.text?.bind fun s => names.lookup s with
  | some m => .ok m
  | none => .error (.notAChoice v "IntegrityMode")

end IntegrityMode

namespace Integrity

/-- A sheet that was dropped, and the targets that it misses, in field order. -/
structure Drop where
  sheet : Sheet
  missing : List String
  deriving DecidableEq, Repr

def Drop.diagnostic (d : Drop) : Diagnostic := .danglingReference d.sheet.slug d.missing

/-- The texts among the members of a value, all of which have to be able to be keys. -/
def knownNames (v : Value) : Except Misuse (List String) := do
  let names ← (← v.visited).mapM Value.key?
  return names.filterMap fun n => (Value.scalar n).text?

def missing (known : List String) (s : Sheet) : List String :=
  s.targets.filter fun t => !known.contains t

def kept (known : List String) (sheets : List Sheet) : List Sheet :=
  sheets.filter fun s => (missing known s).isEmpty

def dropped (known : List String) (sheets : List Sheet) : List Drop :=
  (sheets.map fun s => ⟨s, missing known s⟩).filter fun d => !d.missing.isEmpty

def slugs (sheets : List Sheet) : List String := sheets.map (·.slug)

theorem length_kept_le (known : List String) (sheets : List Sheet) :
    (kept known sheets).length ≤ sheets.length := List.length_filter_le ..

/-- At most `fuel` rounds against the slugs that are left and one last round: the sheets that stay,
and the drops in the order in which they came. -/
def roundsFrom : Nat → List String → List Sheet → List Sheet × List Drop
  | 0, known, sheets => (kept known sheets, dropped known sheets)
  | fuel + 1, known, sheets =>
    let left := kept known sheets
    if left.length = sheets.length then (left, dropped known sheets)
    else
      let (stay, later) := roundsFrom fuel (slugs left) left
      (stay, dropped known sheets ++ later)

/-- The rounds until one drops nothing; every other round drops a sheet. -/
def rounds (known : List String) (sheets : List Sheet) : List Sheet × List Drop :=
  roundsFrom sheets.length known sheets

def run (mode : IntegrityMode) (known : List String) (sheets : List Sheet) :
    List Sheet × List Drop :=
  match mode with
  | .universe => (kept known sheets, dropped known sheets)
  | .survivors => rounds known sheets

def report : List Drop → Run Unit
  | [] => return
  | d :: rest => do
    Run.warn .sheets d.diagnostic
    report rest

/-- The sheets that stay; the others are reported. -/
def check (mode : IntegrityMode) (known : List String) (sheets : List Sheet) : Run (List Sheet) := do
  let (stay, drops) := run mode known sheets
  report drops
  return stay

end Integrity

namespace Sheet

def candidates (overrides : List SheetOverride) : List SourceObject → Run (List Sheet)
  | [] => return []
  | o :: rest => do
    let s ← generate o overrides
    return s :: (← candidates overrides rest)

def generateAll (mode : IntegrityMode) (objects : List SourceObject)
    (overrides : List SheetOverride) : Run (List Sheet) := do
  let sheets ← candidates overrides objects
  Integrity.check mode (objects.filterMap (·.name.text?)) sheets

end Sheet

end SchemaSheets
