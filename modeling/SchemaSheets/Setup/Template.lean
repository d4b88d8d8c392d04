/-!
# A first setup

The text of a setup with one workbook, to be filled in.
-/

namespace SchemaSheets.Setup

/-- The setup that is written to a path for a source. -/
def template (path source : String) : String :=
  "# graphql-workbook setup\n" ++
  "#\n" ++
  "# Usage:\n" ++
  "#   graphql-workbook configure " ++ path ++ " -o space.json\n" ++
  "#\n" ++
  "# Each workbook needs a 'source' (GraphQL endpoint URL or inline SDL) or a\n" ++
  "# 'source_file' (path to an SDL file, relative to this file).\n" ++
  "\n" ++
  "defaults:\n" ++
  "  labels: []\n" ++
  "\n" ++
  "workbooks:\n" ++
  "  - name: GraphQL Workbook\n" ++
  "    source: " ++ source ++ "\n" ++
  "    sheets: []\n" ++
  "\n" ++
  "space: \x7b\x7d\n"

end SchemaSheets.Setup
