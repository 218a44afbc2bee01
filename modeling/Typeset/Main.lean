import Typeset.Cli.Program

/-!
# The command line

The files that a command line names are read, the program is run, and the files
that it wrote are stored.  Clipboard programs are not run here.
-/

namespace Typeset.Cli

/-- Add what is found under a file name, and the folders on the way to it. -/
def loadEntry (folder : Folder) (name : String) : IO Folder := do
  let (above, place) := (FilePath.ofString name).trail
  let known := above.foldl (fun folder place => folder.put place .folder) folder
  try
    let bytes ← IO.FS.readBinFile name
    return known.put place (.file bytes.toList)
  catch _ =>
    return known

/-- The file names of a command line. -/
def fileNames (words : List String) : List String :=
  match Arguments.read words with
  | .ok arguments =>
      ([arguments.source, arguments.settings, arguments.output, arguments.stylesheet]).filterMap
        given?
  | .error _ => []

/-- Run the program on the files of the machine. -/
def perform (words : List String) : IO UInt32 := do
  let folder ← (fileNames words).foldlM loadEntry ⟨[]⟩
  let input ←
    if (fileNames words).contains "-" then (← IO.getStdin).readToEnd else pure ""
  match run ⟨folder, input, .bare, .plain⟩ words with
  | .error crash =>
      IO.eprintln crash.message
      return 1
  | .ok outcome =>
      for (place, bytes) in outcome.folder.newFiles folder do
        IO.FS.writeBinFile (Place.text place) ⟨bytes.toArray⟩
      IO.print outcome.output
      for line in outcome.notices do
        IO.eprintln line
      return outcome.exit.toUInt32

end Typeset.Cli

/-- The program. -/
def main (words : List String) : IO UInt32 :=
  Typeset.Cli.perform words
