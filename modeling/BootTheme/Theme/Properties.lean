import BootTheme.Warning

/-!
# Typed access to properties

A property of another type than the one asked for is noted and counts as absent.
-/

namespace BootTheme

/-- The properties of a theme or a component, with the name that warnings use for it. -/
structure Properties where
  owner : String
  items : List Property
deriving Repr

/-- The properties of a theme. -/
def Theme.own (theme : Theme) : Properties := ⟨"theme", theme.properties⟩

/-- The properties of a component. -/
def Component.own (component : Component) : Properties :=
  ⟨component.kind, component.properties⟩

namespace Properties

/-- The first property of the name. -/
def find? (properties : Properties) (name : String) : Option Property :=
  findProperty properties.items name

/-- The value of a property as `select` takes it, with a warning if it does not. -/
def typed {α : Type} (properties : Properties) (name wanted : String)
    (select : Value → Option α) : Noted (Option α) :=
  match properties.find? name with
  | none => .plain none
  | some property =>
      match select property.value with
      | some value => .plain (some value)
      | none => ⟨none, [.propertyType properties.owner name wanted property.value]⟩

/-- A property that should be a length. -/
def length? (properties : Properties) (name : String) : Noted (Option (Length Float)) :=
  properties.typed name "length" fun
    | .length size => some size
    | _ => none

/-- A property that should be a string. -/
def string? (properties : Properties) (name : String) : Noted (Option String) :=
  properties.typed name "string" fun
    | .string text => some text
    | _ => none

/-- A property that should be a truth value. -/
def bool? (properties : Properties) (name : String) : Noted (Option Bool) :=
  properties.typed name "bool" fun
    | .bool value => some value
    | _ => none

end Properties

end BootTheme
