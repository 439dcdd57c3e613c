import BootTheme.Theme.Syntax

/-!
# Listing of a theme

The listing shows the properties of the theme, then every component with its
properties before its components, each level four blanks deeper. It is itself
the source of a theme.
-/

namespace BootTheme

/-- Blanks in front of a line of the given depth. -/
def margin (depth : Nat) : String := String.ofList (List.replicate (4 * depth) ' ')

/-- The line of a property inside a component. -/
def Property.line (depth : Nat) (property : Property) : String :=
  margin depth ++ property.name ++ " = " ++ property.value.text ++ "\n"

mutual

/-- The lines of a component. -/
def Component.listing (depth : Nat) : Component → String
  | .mk kind properties children _ =>
      margin depth ++ "+ " ++ kind ++ " \x7b\n"
        ++ String.join (properties.map (Property.line (depth + 1)))
        ++ Component.listings (depth + 1) children
        ++ margin depth ++ "\x7d\n"

/-- The lines of components, one after the other. -/
def Component.listings (depth : Nat) : List Component → String
  | [] => ""
  | component :: rest => component.listing depth ++ Component.listings depth rest

end

/-- The listing of a theme. -/
def Theme.listing (theme : Theme) : String :=
  String.join (theme.properties.map fun property =>
      property.name ++ " : " ++ property.value.text ++ "\n")
    ++ Component.listings 0 theme.components

end BootTheme
