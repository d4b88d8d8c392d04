import SchemaSheets.Command.Run

/-!
# The program

Takes the files below the working directory and the words of the command line,
and carries out what the run ends with.  No network is reachable.
-/

namespace SchemaSheets.Main

/-- The files below a directory, down to a depth. -/
def load : Nat → Place → IO.FS.DirEntry → Files → IO Files
  | 0, _, _, files => return files
  | depth + 1, place, entry, files => do
    let here := place ++ [entry.fileName]
    if ← entry.path.isDir then
      let mut files := files.putDirectories here
      for inner in ← entry.path.readDir do
        files ← load depth here inner files
      return files
    else
      try return files.putFile here (← IO.FS.readBinFile entry.path).toList
      catch _ => return files

def depth : Nat := 64

def files : IO Files := do
  let home ← IO.currentDir
  let mut files : Files := { home := home.toString }
  for entry in ← home.readDir do
    files ← load depth [] entry files
  return files

def store (before after : Files) : IO Unit := do
  for (place, item) in after.items do
    if before.item? place != some item then
      let path := "/".intercalate place
      match item with
      | .directory => IO.FS.createDirAll path
      | .file octets => IO.FS.writeBinFile path ⟨octets.toArray⟩

end SchemaSheets.Main

def main (words : List String) : IO UInt32 := do
  let files ← SchemaSheets.Main.files
  let surroundings : SchemaSheets.Surroundings := ⟨"graphql-workbook", files, .unreachable⟩
  let ending := surroundings.call words
  SchemaSheets.Main.store files ending.files
  IO.print ending.output
  for line in ending.console do
    IO.eprintln line
  return ending.status.toUInt32
