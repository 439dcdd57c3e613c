import BootTheme.CommandLine
import BootTheme.Disk.Bytes
import BootTheme.Text.Base64

/-!
# The program

Reads the files that a run may look at, computes the outcome, and brings it about:
warnings and texts are printed, and what was written is saved.
-/

namespace BootTheme.Main

/-- Whether a path leads to a directory. -/
def isDirectory (path : String) : IO Bool := do
  try (← IO.FS.realPath path).isDir catch _ => return false

/-- The disk with what a path leads to, and with the directories on the way. -/
def survey (disk : Disk) (path : String) : IO Disk := do
  let mut disk := disk
  for stage in Path.stages path do
    if ← isDirectory stage then disk := disk.addDirectory stage
  if ← isDirectory path then return disk.addDirectory path
  try
    return disk.add path (.ofBytes (← IO.FS.readBinFile path))
  catch _ => return disk

/-- The disk with what several paths lead to. -/
def surveyAll (disk : Disk) (paths : List String) : IO Disk := paths.foldlM survey disk

/-- The base64 text of the image's file. -/
def payload (image : Image) : String := Base64.encode (Png.encode image).toList

/-- How the program is called. -/
def usage : String :=
  "Usage: boot-theme [OPTIONS] <THEME>\n\n"
    ++ "  --width <PX>           Screen width\n"
    ++ "  --height <PX>          Screen height\n"
    ++ "  -o, --output <FILE>    Output file\n"
    ++ "  -f, --format <FORMAT>  png or svg\n"
    ++ "  --outline              Outline every box\n"
    ++ "  --dump                 Print the theme\n"
    ++ "  --no-draw              Write nothing\n"
    ++ "  --font <FILE>          Font for text\n"
    ++ "  -c, --config <FILE>    Configuration\n"
    ++ "  -d, --debug            Print the boxes\n"

/-- Everything that the run may look at. -/
def surroundings (arguments : Arguments) (theme : String) : IO Disk := do
  let disk ← surveyAll .empty (arguments.config.toList ++ [theme])
  surveyAll disk (resourcePaths arguments theme disk ++ [arguments.target])

/-- Saves what was written; a run writes to the output only. -/
def save (arguments : Arguments) (disk : Disk) : IO Unit := do
  match disk.written with
  | (_, content) :: _ =>
      IO.FS.writeBinFile arguments.target content.toBytes
  | [] => return ()

/-- Runs the program with its arguments. -/
def run (args : List String) : IO UInt32 := do
  match Arguments.parse args with
  | none =>
      IO.eprint usage
      return 2
  | some (arguments, theme) =>
      let disk ← surroundings arguments theme
      let ⟨outcome, warnings⟩ := runProgram args disk payload
      for warning in warnings do
        IO.eprintln ("[WARN] " ++ warning.message)
      IO.print outcome.stdout
      IO.eprint outcome.stderr
      save arguments outcome.disk
      return UInt32.ofNat outcome.exit

end BootTheme.Main

def main (args : List String) : IO UInt32 := BootTheme.Main.run args
