import BootTheme.Theme.Listing

/-!
# Outlines of themes

An outline is a theme without the places of its parts, and with its values changed
or not. A listing and all that is collected of a theme depend on its outline alone.
-/

namespace BootTheme

/-- No place. -/
def nowhere : Span := ⟨0, 0⟩

variable (change : Value → Value)

/-- A property without its place, its value changed. -/
def Property.outline (property : Property) : Property :=
  ⟨property.name, change property.value, nowhere⟩

mutual

/-- A component without the places of its parts, its values changed. -/
def Component.outline : Component → Component
  | .mk kind properties children _ =>
      .mk kind (properties.map (Property.outline change)) (Component.outlines children) nowhere

/-- The outlines of components. -/
def Component.outlines : List Component → List Component
  | [] => []
  | component :: rest => component.outline :: Component.outlines rest

end

/-- A theme without the places of its parts, its values changed. -/
def Theme.outline (theme : Theme) : Theme :=
  ⟨theme.properties.map (Property.outline change), Component.outlines change theme.components⟩

theorem outlines_eq_map (components : List Component) :
    Component.outlines change components = components.map (Component.outline change) := by
  induction components with
  | nil => rfl
  | cons component rest ih => rw [Component.outlines, ih, List.map_cons]

/-! ## What a theme collects -/

mutual

/-- The values in a component, from front to back. -/
def Component.values : Component → List Value
  | .mk _ properties children _ =>
      properties.map Property.value ++ Component.valuesOf children

/-- The values in components. -/
def Component.valuesOf : List Component → List Value
  | [] => []
  | component :: rest => component.values ++ Component.valuesOf rest

end

/-- The values of a theme, from front to back. -/
def Theme.values (theme : Theme) : List Value :=
  theme.properties.map Property.value ++ Component.valuesOf theme.components

mutual

/-- The names of properties and the kinds of components in a component. -/
def Component.names : Component → List String
  | .mk kind properties children _ =>
      kind :: (properties.map Property.name ++ Component.namesOf children)

/-- The names in components. -/
def Component.namesOf : List Component → List String
  | [] => []
  | component :: rest => component.names ++ Component.namesOf rest

end

/-- The names of properties and the kinds of components in a theme. -/
def Theme.names (theme : Theme) : List String :=
  theme.properties.map Property.name ++ Component.namesOf theme.components

/-- The numbers of a length. -/
def Length.numbers {α : Type} : Length α → List α
  | absolute pixels => [pixels]
  | relative percent => [percent]
  | combined percent _ offset => [percent, offset]

/-- The offset of a length. -/
def Length.offsets {α : Type} : Length α → List α
  | combined _ _ offset => [offset]
  | _ => []

/-- The numbers of a value. -/
def Value.numbers : Value → List Float
  | length size => size.numbers
  | _ => []

/-- The offset of a value. -/
def Value.offsets : Value → List Float
  | length size => size.offsets
  | _ => []

/-- The text of a value that is one. -/
def Value.string? : Value → Option String
  | string text => some text
  | _ => none

/-- The numbers of a theme, from front to back. -/
def Theme.numbers (theme : Theme) : List Float := theme.values.flatMap Value.numbers

/-- The string values of a theme, from front to back. -/
def Theme.strings (theme : Theme) : List String := theme.values.filterMap Value.string?

theorem values_properties_outline (properties : List Property) :
    (properties.map (Property.outline change)).map Property.value =
      (properties.map Property.value).map change := by
  rw [List.map_map, List.map_map]
  rfl

mutual

theorem values_outline : ∀ component : Component,
    (component.outline change).values = component.values.map change
  | .mk kind properties children span => by
      rw [Component.outline, Component.values, Component.values, List.map_append,
        values_properties_outline, valuesOf_outlines children]

theorem valuesOf_outlines : ∀ components : List Component,
    Component.valuesOf (Component.outlines change components) =
      (Component.valuesOf components).map change
  | [] => rfl
  | component :: rest => by
      rw [Component.outlines, Component.valuesOf, Component.valuesOf, List.map_append,
        values_outline component, valuesOf_outlines rest]

end

/-- The values of an outline are the changed ones. -/
theorem Theme.values_outline (theme : Theme) :
    (theme.outline change).values = theme.values.map change := by
  rw [Theme.values, Theme.values, Theme.outline, List.map_append, values_properties_outline,
    valuesOf_outlines]

mutual

theorem names_outline : ∀ component : Component,
    (component.outline change).names = component.names
  | .mk kind properties children span => by
      rw [Component.outline, Component.names, Component.names, List.map_map,
        namesOf_outlines children]
      rfl

theorem namesOf_outlines : ∀ components : List Component,
    Component.namesOf (Component.outlines change components) = Component.namesOf components
  | [] => rfl
  | component :: rest => by
      rw [Component.outlines, Component.namesOf, Component.namesOf, names_outline component,
        namesOf_outlines rest]

end

/-- The names of an outline are those of the theme. -/
theorem Theme.names_outline (theme : Theme) : (theme.outline change).names = theme.names := by
  rw [Theme.names, Theme.names, Theme.outline, List.map_map, namesOf_outlines]
  rfl

/-! ## When outlines are the same -/

variable {change} {other : Value → Value}

theorem properties_outline_congr {properties : List Property}
    (same : ∀ value ∈ properties.map Property.value, change value = other value) :
    properties.map (Property.outline change) = properties.map (Property.outline other) := by
  refine List.map_congr_left ?_
  intro property inside
  unfold Property.outline
  rw [same property.value (List.mem_map_of_mem inside)]

mutual

theorem outline_congr : ∀ component : Component,
    (∀ value ∈ component.values, change value = other value) →
      component.outline change = component.outline other
  | .mk kind properties children span, same => by
      rw [Component.values] at same
      rw [Component.outline, Component.outline,
        properties_outline_congr fun value inside => same value (List.mem_append_left _ inside),
        outlines_congr children fun value inside => same value (List.mem_append_right _ inside)]

theorem outlines_congr : ∀ components : List Component,
    (∀ value ∈ Component.valuesOf components, change value = other value) →
      Component.outlines change components = Component.outlines other components
  | [], _ => rfl
  | component :: rest, same => by
      rw [Component.valuesOf] at same
      rw [Component.outlines, Component.outlines,
        outline_congr component fun value inside => same value (List.mem_append_left _ inside),
        outlines_congr rest fun value inside => same value (List.mem_append_right _ inside)]

end

/-- Two changes leave the same outline exactly when they agree on every value of the theme. -/
theorem Theme.outline_eq_iff (theme : Theme) :
    theme.outline change = theme.outline other ↔
      ∀ value ∈ theme.values, change value = other value := by
  constructor
  · intro same value inside
    have values : theme.values.map change = theme.values.map other := by
      rw [← Theme.values_outline, ← Theme.values_outline, same]
    exact List.map_inj_left.1 values value inside
  · intro same
    unfold Theme.outline
    rw [Theme.values] at same
    rw [properties_outline_congr fun value inside => same value (List.mem_append_left _ inside),
      outlines_congr _ fun value inside => same value (List.mem_append_right _ inside)]

/-! ## The listing of an outline -/

mutual

theorem listing_outline (depth : Nat) : ∀ component : Component,
    (component.outline id).listing depth = component.listing depth
  | .mk kind properties children span => by
      rw [Component.outline, Component.listing, Component.listing, List.map_map,
        listings_outlines (depth + 1) children]
      rfl

theorem listings_outlines (depth : Nat) : ∀ components : List Component,
    Component.listings depth (Component.outlines id components) =
      Component.listings depth components
  | [] => rfl
  | component :: rest => by
      rw [Component.outlines, Component.listings, Component.listings,
        listing_outline depth component, listings_outlines depth rest]

end

/-- Places are not listed. -/
theorem Theme.listing_outline (theme : Theme) : (theme.outline id).listing = theme.listing := by
  rw [Theme.listing, Theme.listing, Theme.outline, List.map_map, listings_outlines]
  rfl

end BootTheme
