import BootTheme.Component.Tree

/-!
# What boxes take from the settings

The boxes of a theme take the entries of the menu, the selected one, the seconds of the timeout
and the palette from the settings, and nothing else. The size of the screen, outlines, the
font and the form of the output come in later.
-/

namespace BootTheme

/-- Settings from which boxes take the same. -/
structure Settings.Alike (first second : Settings) : Prop where
  entries : first.entries = second.entries
  selected : first.selected = second.selected
  timeout : first.timeout = second.timeout
  palette : first.palette = second.palette

namespace Settings.Alike

variable {first second : Settings}

theorem labelBox_eq (alike : first.Alike second) (properties : Properties) :
    properties.labelBox first = properties.labelBox second := by
  simp only [Properties.labelBox, labelText, alike.timeout, alike.palette]

theorem addEntry_eq (alike : first.Alike second) (menu : Menu) (sizes : ItemSizes) (menuId : Nat)
    (width top : Expr Float) (index : Nat) (entry : MenuEntry) (tree : BoxTree Float) :
    menu.addEntry sizes first menuId width top index entry tree =
      menu.addEntry sizes second menuId width top index entry tree := by
  simp only [Menu.addEntry, alike.selected, alike.palette]

theorem addEntries_eq (alike : first.Alike second) (menu : Menu) (sizes : ItemSizes) (menuId : Nat)
    (width : Expr Float) (index : Nat) (top : Expr Float) (entries : List MenuEntry)
    (tree : BoxTree Float) :
    menu.addEntries sizes first menuId width index top entries tree =
      menu.addEntries sizes second menuId width index top entries tree := by
  induction entries generalizing index top tree with
  | nil => rfl
  | cons entry rest ih => simp only [Menu.addEntries, alike.addEntry_eq, ih]

theorem addMenu_eq (alike : first.Alike second) (parent : Nat) (properties : Properties)
    (tree : BoxTree Float) :
    addMenu first parent properties tree = addMenu second parent properties tree := by
  simp only [addMenu, alike.entries, alike.addEntries_eq]

mutual

theorem addComponent_eq (alike : first.Alike second) : ∀ (component : Component) (parent : Nat)
    (tree : BoxTree Float),
    addComponent first parent tree component = addComponent second parent tree component
  | .mk kind properties children span, parent, tree => by
      simp only [addComponent, alike.addMenu_eq, alike.labelBox_eq,
        alike.addComponents_eq children]

theorem addComponents_eq (alike : first.Alike second) : ∀ (components : List Component)
    (parent : Nat) (tree : BoxTree Float),
    addComponents first parent tree components = addComponents second parent tree components
  | [], parent, tree => rfl
  | component :: rest, parent, tree => by
      simp only [addComponents, alike.addComponent_eq component, alike.addComponents_eq rest]

end

end Settings.Alike

end BootTheme
