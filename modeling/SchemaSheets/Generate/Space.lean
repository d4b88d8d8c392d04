import SchemaSheets.Generate.Workbook

/-!
# Spaces from setups

The workbooks of a setup do not depend on each other.  All of them are
generated, and the space is put together in the order of the setup.  If some
fail, the first failure is reported.
-/

namespace SchemaSheets

/-- A configured space with the workbooks as they were generated. -/
structure ConfiguredSpace where
  space : Space
  results : List GeneratedWorkbook
  deriving Repr

namespace ConfiguredSpace

/-- The space of a setup with the workbooks that were generated for it. -/
def assembled (s : Setup) (results : List GeneratedWorkbook) : ConfiguredSpace :=
  { space := { workbooks := results.map (·.workbook), extras := s.space.without Space.declared }
    results }

def diagnostics (c : ConfiguredSpace) : Diagnostics :=
  (c.results.map (·.diagnostics)).foldl Diagnostics.merge {}

end ConfiguredSpace

namespace Run

/-- The outcome of a run as its result; the session goes on after a failure. -/
def attempt {α : Type} (x : Run α) : Run (Except Failure α) := fun s =>
  match x.run s with
  | (outcome, s) => (.ok outcome, s)

end Run

namespace Space

def outcomes [Capacity] (network : Http.Network) (mode : IntegrityMode) :
    List WorkbookPlan → Run (List (Except Failure GeneratedWorkbook))
  | [] => return []
  | p :: rest => do
    let outcome ← Run.attempt (Workbook.generate network mode p .null)
    return outcome :: (← outcomes network mode rest)

/-- The results of all outcomes, or the first failure among them. -/
def allResults {α : Type} : List (Except Failure α) → Except Failure (List α)
  | [] => .ok []
  | .error e :: _ => .error e
  | .ok a :: rest => (allResults rest).map (a :: ·)

def configure [Capacity] (network : Http.Network) (mode : IntegrityMode) (s : Setup) :
    Run ConfiguredSpace := do
  let results ← allResults (← outcomes network mode s.plans)
  Run.inform .spaces s!"Configured space with {results.length} workbook(s)"
  return .assembled s results

end Space

end SchemaSheets
