import BootTheme.Preview
import BootTheme.Settings.Schema
import BootTheme.Theme.Listing
import BootTheme.Theme.Report

/-!
# The command line

The program takes the file of a theme and options, reads a configuration if one
is named, and writes the preview. What it does is a function of its arguments and
the files; it gives its texts, its exit code, and the files as they are
afterwards.
-/

namespace BootTheme

/-- What the arguments ask for. -/
structure Arguments where
  theme : Option String := none
  width : Option Nat := none
  height : Option Nat := none
  output : Option String := none
  format : Option OutputFormat := none
  outline : Bool := false
  dump : Bool := false
  noDraw : Bool := false
  font : Option String := none
  config : Option String := none
  debug : Bool := false
deriving DecidableEq, Repr

/-- The options of the program. -/
inductive Choice where
  | width
  | height
  | output
  | format
  | outline
  | dump
  | noDraw
  | font
  | config
  | debug
deriving DecidableEq, Repr

namespace Choice

/-- The option of a name behind two dashes. -/
def ofLong? : String → Option Choice
  | "width" => some width
  | "height" => some height
  | "output" => some output
  | "format" => some format
  | "outline" => some outline
  | "dump" => some dump
  | "no-draw" => some noDraw
  | "font" => some font
  | "config" => some config
  | "debug" => some debug
  | _ => none

/-- The option of a letter behind one dash. -/
def ofShort? : Char → Option Choice
  | 'o' => some output
  | 'f' => some format
  | 'c' => some config
  | 'd' => some debug
  | _ => none

/-- Whether a value follows the option. -/
def takesValue : Choice → Bool
  | outline | dump | noDraw | debug => false
  | _ => true

end Choice

namespace Arguments

/-- A value that is set for the first time. -/
def once {α : Type} (old : Option α) (new : Option α) : Option (Option α) :=
  match old, new with
  | none, some value => some (some value)
  | _, _ => none

/-- A flag that is set for the first time. -/
def first (old : Bool) : Option Bool := if old then none else some true

/-- A count of 32 bits, with a sign or none. Behind a minus sign it can only be zero. -/
def word? (text : String) : Option Nat :=
  let (greatest, digits) := match text.toList with
    | '+' :: rest => (UInt32.size - 1, rest)
    | '-' :: rest => (0, rest)
    | rest => (UInt32.size - 1, rest)
  if digits.isEmpty || !digits.all Char.isDigit then none
  else if digitsValue digits ≤ greatest then some (digitsValue digits)
  else none

/-- A path, which is not empty. -/
def path? (text : String) : Option String := if text.isEmpty then none else some text

/-- The format of a name. -/
def format? : String → Option OutputFormat
  | "png" => some .png
  | "svg" => some .svg
  | _ => none

/-- The arguments with a value for an option. Nothing can be set twice. -/
def give (arguments : Arguments) (choice : Choice) (value : String) : Option Arguments :=
  match choice with
  | .width => do return { arguments with width := ← once arguments.width (word? value) }
  | .height => do return { arguments with height := ← once arguments.height (word? value) }
  | .output => do return { arguments with output := ← once arguments.output (path? value) }
  | .format => do return { arguments with format := ← once arguments.format (format? value) }
  | .font => do return { arguments with font := ← once arguments.font (path? value) }
  | .config => do return { arguments with config := ← once arguments.config (path? value) }
  | _ => none

/-- The arguments with a flag. Nothing can be set twice. -/
def flag (arguments : Arguments) (choice : Choice) : Option Arguments :=
  match choice with
  | .outline => do return { arguments with outline := ← first arguments.outline }
  | .dump => do return { arguments with dump := ← first arguments.dump }
  | .noDraw => do return { arguments with noDraw := ← first arguments.noDraw }
  | .debug => do return { arguments with debug := ← first arguments.debug }
  | _ => none

/-- The arguments with the file of the theme. -/
def setTheme (arguments : Arguments) (path : String) : Option Arguments := do
  return { arguments with theme := ← once arguments.theme (path? path) }

/-- Whether an argument looks like an option; a single dash does not. -/
def isOption (argument : String) : Bool :=
  match argument.toList with
  | '-' :: _ :: _ => true
  | _ => false

/-- The name of a long option and the value behind its equals sign. -/
def splitLong (text : List Char) : String × Option String :=
  match text.dropWhile (· != '=') with
  | [] => (String.ofList text, none)
  | _ :: value => (String.ofList (text.takeWhile (· != '=')), some (String.ofList value))

/-- The short options of an argument. The first one that takes a value takes all that follows,
or asks for the next argument. -/
def shortOptions (arguments : Arguments) : List Char → Option (Arguments × Option Choice)
  | [] => some (arguments, none)
  | char :: rest => do
      let choice ← Choice.ofShort? char
      if choice.takesValue then
        match rest with
        | [] => return (arguments, some choice)
        | '=' :: value => return (← arguments.give choice (String.ofList value), none)
        | value => return (← arguments.give choice (String.ofList value), none)
      else shortOptions (← arguments.flag choice) rest

/-- The arguments one after the other. `wanted` is the option whose value comes next, and
`plain` says that no more options follow. -/
def read (plain : Bool) (wanted : Option Choice) (arguments : Arguments) :
    List String → Option Arguments
  | [] => if wanted.isSome then none else some arguments
  | argument :: rest =>
      match wanted with
      | some choice =>
          if isOption argument then none
          else do read plain none (← arguments.give choice argument) rest
      | none =>
          if plain || !isOption argument then do
            read plain none (← arguments.setTheme argument) rest
          else
            match argument.toList with
            | ['-', '-'] => read true none arguments rest
            | '-' :: '-' :: text => do
                let (name, value) := splitLong text
                let choice ← Choice.ofLong? name
                match choice.takesValue, value with
                | true, some value => read plain none (← arguments.give choice value) rest
                | true, none => read plain (some choice) arguments rest
                | false, some _ => none
                | false, none => read plain none (← arguments.flag choice) rest
            | _ :: text => do
                let (arguments, wanted) ← arguments.shortOptions text
                read plain wanted arguments rest
            | [] => none

/-- The arguments of the program, if they are such. The file of the theme must be among them. -/
def parse (arguments : List String) : Option (Arguments × String) := do
  let arguments ← read false none {} arguments
  return (arguments, ← arguments.theme)

/-- Where the preview goes. -/
def target (arguments : Arguments) : String := arguments.output.getD "out.png"

/-- The settings with what the arguments say. -/
def apply (arguments : Arguments) (theme : String) (settings : Settings) : Settings :=
  let directory := match Path.parent theme with
    | some directory => if directory.isEmpty then "." else directory
    | none => "."
  { settings with
    width := arguments.width.getD settings.width
    height := arguments.height.getD settings.height
    fontFile := arguments.font.orElse fun _ => settings.fontFile
    outline := settings.outline || arguments.outline
    debug := settings.debug || arguments.debug
    themeDir := some (settings.themeDir.getD directory) }

end Arguments

/-- What the program did. -/
structure Outcome where
  exit : Nat
  stdout : String := ""
  stderr : String := ""
  disk : Disk
deriving Repr

/-- What is said about the document of a configuration that cannot be read. -/
def ConfigError.message (document : String) : ConfigError → String
  | .notToml error => "Failed to parse config TOML: " ++ error.report document
  | .schema misfit => "Failed to parse config TOML: " ++ misfit.report document

/-- The settings of a configuration file, or what is said when there are none. -/
def readSettings (disk : Disk) : Option String → Except String Settings
  | none => .ok {}
  | some path =>
      let failed (cause : String) : Except String Settings :=
        .error ("Error loading config '" ++ path ++ "': " ++ cause ++ "\n")
      match disk.readText path with
      | .error error => failed ("Failed to read config file: " ++ error.message)
      | .ok text =>
          match Settings.ofToml text with
          | .error error => failed (error.message text)
          | .ok settings => .ok settings

/-- The outcome for a theme that was read. -/
def previewTheme (arguments : Arguments) (settings : Settings) (disk : Disk) (theme : Theme)
    (payload : Image → String) : Noted Outcome := do
  let stdout := if arguments.dump then theme.listing else ""
  let debug := debugListing theme settings
  let failed (disk : Disk) (error : RenderError) : Outcome :=
    { exit := 1, stdout, stderr := debug ++ "Error: " ++ error.message ++ "\n", disk }
  let done (disk : Disk) : Outcome := { exit := 0, stdout, stderr := debug, disk }
  if arguments.noDraw then
    match ← displayList theme settings disk.still settings.images with
    | .error error => return failed disk error
    | .ok _ => return done disk
  else
    let output := arguments.target
    let format := arguments.format.getD (OutputFormat.ofPath output)
    match ← renderFile theme settings disk output format payload with
    | (disk, .error error) => return failed disk error
    | (disk, .ok ()) => return done disk

/-- What the program does with its arguments and files. -/
def runProgram (arguments : List String) (disk : Disk) (payload : Image → String) :
    Noted Outcome := do
  match Arguments.parse arguments with
  | none => return { exit := 2, disk }
  | some (arguments, theme) =>
      match readSettings disk arguments.config with
      | .error text => return { exit := 1, stderr := text, disk }
      | .ok settings =>
          match disk.readText theme with
          | .error error =>
              return { exit := 1, disk
                       stderr := "Error reading file '" ++ theme ++ "': " ++ error.message ++ "\n" }
          | .ok source =>
              match ← readSource source with
              | .error error =>
                  return { exit := 1, disk
                           stderr := error.fault.report source theme ++ "Error: "
                             ++ (RenderError.parse error).message ++ "\n" }
              | .ok found =>
                  previewTheme arguments (arguments.apply theme settings) disk found payload

/-- The images that a box may show. -/
def Paint.imageNames {α : Type} : Paint α → List String
  | pixmap file => [file]
  | styleBox pattern => if pattern.isEmpty then [] else StylePart.all.map (·.imageName pattern)
  | fill _ => []
  | text _ _ _ _ => []

/-- The files that a run may look at once the configuration and the theme are known: the font
and the images. -/
def resourcePaths (arguments : Arguments) (theme : String) (disk : Disk) : List String :=
  match readSettings disk arguments.config, disk.readText theme with
  | .ok settings, .ok source =>
      let settings := arguments.apply theme settings
      let names :=
        match (parseTheme source).toOption.map (fun found => (buildTree found settings).value) with
        | some (.ok tree) =>
            (tree.boxes.toList.filterMap LayoutBox.paint).flatMap Paint.imageNames
        | _ => []
      settings.fontFile.toList ++ names.map settings.images.path
  | _, _ => []

end BootTheme
