import BootTheme.Color
import BootTheme.Theme.Piece
import BootTheme.Theme.Syntax

/-!
# Warnings

Faults of a theme that do not stop the picture from being drawn are noted and
drawing goes on. An operation that may note something gives its result together
with the warnings, in the order in which they arose.
-/

namespace BootTheme

/-- A fault that does not stop the picture. -/
inductive Warning where
  /-- Source that forms no token. -/
  | unexpectedInput (text : String) (span : Span)
  /-- A property of another type than the one asked for. -/
  | propertyType (source name wanted : String) (found : Value)
  /-- A color that is neither a literal nor a known name. -/
  | unknownColor (spec : String) (fallback : Color)
  /-- An alignment that no keyword names. -/
  | unknownAlign (keyword : String)
  /-- An image component without a file. -/
  | noFile (box : String)
  /-- A component of a kind that cannot be drawn. -/
  | unsupportedComponent (kind : String)
  /-- An image file that cannot be read. -/
  | unreadableImage (path : String)
  /-- An image of a drawing that is not there. -/
  | missingImage (name : String)
  /-- An image that has no pixels to embed. -/
  | unembeddableImage (name : String)
  /-- A font file that holds no font. -/
  | invalidFont (path : String)
  /-- A font file that cannot be used. -/
  | unusableFont (path : String)
  /-- No font file at all can be used. -/
  | noFont
deriving DecidableEq, Repr

/-- What is said about a fault. -/
def Warning.message : Warning → String
  | unexpectedInput text span =>
      "skipping unexpected input " ++ quoted text ++ " at " ++ span.text
  | propertyType source name wanted found =>
      source ++ ": property '" ++ name ++ "' should be a " ++ wanted ++ ", found "
        ++ found.typeName ++ " " ++ found.text
  | unknownColor spec fallback => "unknown color '" ++ spec ++ "', using " ++ fallback.hex
  | unknownAlign keyword => "label: unknown align '" ++ keyword ++ "', using left"
  | noFile box => box ++ ": no file set, nothing to draw"
  | unsupportedComponent kind => "unsupported component '" ++ kind ++ "' skipped"
  | unreadableImage path => "failed to load image '" ++ path ++ "'"
  | missingImage name => "image '" ++ name ++ "' unavailable, skipped"
  | unembeddableImage name => "cannot embed image '" ++ name ++ "'"
  | invalidFont path => "invalid font '" ++ path ++ "'"
  | unusableFont path => "cannot load font '" ++ path ++ "', searching system fonts"
  | noFont => "no usable font found, text will not be drawn"

/-- A result with what was noted on the way to it. -/
structure Noted (α : Type) where
  value : α
  warnings : List Warning
deriving Repr

namespace Noted

variable {α β : Type}

/-- A result without warnings. -/
def plain (value : α) : Noted α := ⟨value, []⟩

/-- One operation after the other, with the warnings of both. -/
def andThen (first : Noted α) (next : α → Noted β) : Noted β :=
  let second := next first.value
  ⟨second.value, first.warnings ++ second.warnings⟩

instance : Monad Noted where
  pure := plain
  bind := andThen

theorem bind_value (first : Noted α) (next : α → Noted β) :
    (first >>= next).value = (next first.value).value := rfl

theorem bind_warnings (first : Noted α) (next : α → Noted β) :
    (first >>= next).warnings = first.warnings ++ (next first.value).warnings := rfl

instance : LawfulMonad Noted :=
  LawfulMonad.mk' Noted
    (fun noted => by
      obtain ⟨value, warnings⟩ := noted
      exact congrArg (Noted.mk value) (List.append_nil warnings))
    (fun _ _ => rfl)
    (fun first _ _ => by
      obtain ⟨value, warnings⟩ := first
      exact congrArg (Noted.mk _) (List.append_assoc warnings _ _))

end Noted

/-- The warnings about source that forms no token. -/
def skipWarnings (skipped : List (List Char × Span)) : List Warning :=
  skipped.map fun (text, span) => .unexpectedInput (String.ofList text) span

/-- The color that a theme writes, or the fallback with a warning. -/
def Palette.resolveOr (palette : Palette) (spec : String) (fallback : Color) : Noted Color :=
  match palette.resolve spec with
  | some color => .plain color
  | none => ⟨fallback, [.unknownColor spec fallback]⟩

end BootTheme
