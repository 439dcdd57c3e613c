import BootTheme.Color

/-!
# Settings of a preview
-/

namespace BootTheme

/-- An entry of the boot menu; the icon is a class of icons. -/
structure MenuEntry where
  text : String
  icon : Option String := none
deriving DecidableEq, Repr

/-- How an SVG document is written. -/
structure SvgSettings where
  /-- Starts with the declaration of XML. -/
  standalone : Bool := true
  /-- Puts every element on a line of its own. -/
  pretty : Bool := true
  /-- Stands in front of every class. -/
  classPrefix : Option String := some "gtp-"
  /-- Carries the images within the document. -/
  embed : Bool := true
deriving DecidableEq, Repr

/-- Everything a preview depends on besides the theme. -/
structure Settings where
  width : Nat := 1366
  height : Nat := 768
  /-- Where the images of the theme are; the working directory if unset. -/
  themeDir : Option String := none
  /-- Outlines every box and every part of a style box. -/
  outline : Bool := false
  fontFile : Option String := none
  entries : List MenuEntry :=
    [⟨"Deepin GNU/Linux", some "deepin"⟩, ⟨"Advanced options for Deepin GNU/Linux", none⟩,
      ⟨"Windows XP", some "windows"⟩, ⟨"System setup", none⟩]
  /-- The number of the entry that is drawn as selected. -/
  selected : Nat := 0
  /-- The seconds that the timeout label shows. -/
  timeout : Nat := 10
  palette : Palette := Palette.default
  svg : SvgSettings := {}
  /-- Prints the resolved boxes. -/
  debug : Bool := false
deriving Repr

/-- The directory that image names are relative to. -/
def Settings.resourceDir (settings : Settings) : String := settings.themeDir.getD "."

/-- The class of an element. -/
def SvgSettings.className (settings : SvgSettings) (name : String) : String :=
  settings.classPrefix.getD "" ++ name

end BootTheme
