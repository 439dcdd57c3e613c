import BootTheme.Layout.Length
import BootTheme.Text.Quoted
import BootTheme.Theme.Token

/-!
# Themes

A theme has properties of its own and components, which have a kind, properties
and components again. A property of a name stands for the first one with that
name.
-/

namespace BootTheme

/-- The value of a property. A bare word is a string. -/
inductive Value where
  | string (text : String)
  | length (size : Length Float)
  | bool (value : Bool)
deriving DecidableEq, Repr

/-- A named value and where it stands. -/
structure Property where
  name : String
  value : Value
  span : Span
deriving DecidableEq, Repr

/-- A block of a theme. -/
inductive Component where
  | mk (kind : String) (properties : List Property) (children : List Component) (span : Span)
deriving Repr

namespace Component

/-- What the block describes. -/
def kind : Component → String
  | mk kind _ _ _ => kind

/-- The properties of the block itself. -/
def properties : Component → List Property
  | mk _ properties _ _ => properties

/-- The blocks inside. -/
def children : Component → List Component
  | mk _ _ children _ => children

/-- Where the block stands. -/
def span : Component → Span
  | mk _ _ _ span => span

end Component

/-- A whole theme. -/
structure Theme where
  properties : List Property
  components : List Component
deriving Repr

namespace Value

/-- The type that messages call a value by. -/
def typeName : Value → String
  | string _ => "string"
  | length _ => "length"
  | bool _ => "bool"

/-- The text of a value in a listing. -/
def text : Value → String
  | string text => quoted text
  | length size => size.text decimalText
  | bool true => "true"
  | bool false => "false"

end Value

/-- The first property with the name. -/
def findProperty (properties : List Property) (name : String) : Option Property :=
  properties.find? fun property => property.name == name

end BootTheme
