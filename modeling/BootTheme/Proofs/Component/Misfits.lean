import BootTheme.Component.Menu

/-!
# Misfits of menus

Some places of a menu take pixels only. A relative or a combined length there is a misfit,
and so is one in the width of a scroll bar that is shown. The menus that count are those
that are visible and stand inside visible canvases only.
-/

namespace BootTheme

/-- The value of the first property of a name. -/
def first? (properties : List Property) (name : String) : Option Value :=
  (findProperty properties name).map Property.value

/-- Whether a truth value is set, as it is where the first property of the name is none. -/
def isSet (properties : List Property) (name : String) : Bool :=
  match first? properties name with
  | some (.bool value) => value
  | _ => true

/-- The menus that are shown: visible ones inside visible canvases. -/
inductive ShownMenu : List Component → List Property → Prop where
  | menu {components children : List Component} {properties : List Property} {span : Span}
      (here : .mk "boot_menu" properties children span ∈ components)
      (visible : isSet properties "visible" = true) : ShownMenu components properties
  | canvas {components children : List Component} {properties menu : List Property} {span : Span}
      (here : .mk "canvas" properties children span ∈ components)
      (visible : isSet properties "visible" = true) (inside : ShownMenu children menu) :
      ShownMenu components menu

mutual

/-- The menu of a component or the menus inside a canvas, from front to back. -/
def Component.menus : Component → List (List Property)
  | .mk kind properties children _ =>
      if isSet properties "visible" then
        if kind = "boot_menu" then [properties]
        else if kind = "canvas" then Component.menusOf children
        else []
      else []

/-- The menus of components that are shown, from front to back. -/
def Component.menusOf : List Component → List (List Property)
  | [] => []
  | component :: rest => component.menus ++ Component.menusOf rest

end

namespace Menu

/-- The places of every menu that take pixels only, in the order in which they are looked at. -/
def itemSlots : List String :=
  ["item_height", "item_padding", "item_spacing", "icon_width", "icon_height", "item_icon_space"]

/-- Whether there is a scroll bar: it is on, and its frame has a pattern. -/
def hasScrollbar (properties : List Property) : Bool :=
  isSet properties "scrollbar" &&
    match first? properties "scrollbar_frame" with
    | some (.string pattern) => !pattern.isEmpty
    | _ => false

/-- The places of a menu that take pixels only. -/
def slots (properties : List Property) : List String :=
  itemSlots ++ if hasScrollbar properties then ["scrollbar_width"] else []

/-- The length in a place that takes pixels only, if it is not one of pixels. -/
def misfit? (properties : List Property) (name : String) : Option (MalformedLength Float) :=
  match first? properties name with
  | some (.length (.relative percent)) => some ⟨name, .relative percent⟩
  | some (.length (.combined percent sign offset)) => some ⟨name, .combined percent sign offset⟩
  | _ => none

/-- The misfits of a menu, in the order in which its places are looked at. -/
def misfits (properties : List Property) : List (MalformedLength Float) :=
  (slots properties).filterMap (misfit? properties)

end Menu

/-- The misfits of a theme, those of the first menu first. -/
def Theme.misfits (theme : Theme) : List (MalformedLength Float) :=
  (Component.menusOf theme.components).flatMap Menu.misfits

/-! ## What the lists hold -/

mutual

theorem shownMenu_of_mem_menus {menu : List Property} : ∀ component : Component,
    menu ∈ component.menus → ∀ {components : List Component}, component ∈ components →
      ShownMenu components menu
  | .mk kind properties children span, among, components, here => by
      rw [Component.menus] at among
      split at among
      · next visible =>
          split at among
          · next isMenu =>
              subst isMenu
              cases List.mem_singleton.1 among
              exact .menu here visible
          · split at among
            · next isCanvas =>
                subst isCanvas
                exact .canvas here visible (shownMenu_of_mem_menusOf children among)
            · cases among
      · cases among

theorem shownMenu_of_mem_menusOf {menu : List Property} : ∀ components : List Component,
    menu ∈ Component.menusOf components → ShownMenu components menu
  | [], among => by cases among
  | component :: rest, among => by
      rw [Component.menusOf] at among
      rcases List.mem_append.1 among with first | others
      · exact shownMenu_of_mem_menus component first List.mem_cons_self
      · cases shownMenu_of_mem_menusOf rest others with
        | menu here visible => exact .menu (List.mem_cons_of_mem _ here) visible
        | canvas here visible inside => exact .canvas (List.mem_cons_of_mem _ here) visible inside

end

theorem mem_menusOf_of_mem {menu : List Property} {component : Component}
    {components : List Component} (here : component ∈ components)
    (among : menu ∈ component.menus) : menu ∈ Component.menusOf components := by
  induction components with
  | nil => cases here
  | cons first rest ih =>
      rw [Component.menusOf]
      rcases List.mem_cons.1 here with rfl | later
      · exact List.mem_append_left _ among
      · exact List.mem_append_right _ (ih later)

/-- The listed menus are those that are shown. -/
theorem mem_menusOf {components : List Component} {menu : List Property} :
    menu ∈ Component.menusOf components ↔ ShownMenu components menu := by
  refine ⟨shownMenu_of_mem_menusOf components, ?_⟩
  intro shown
  induction shown with
  | menu here visible =>
      refine mem_menusOf_of_mem here ?_
      rw [Component.menus, if_pos visible, if_pos rfl]
      exact List.mem_singleton_self _
  | canvas here visible _ ih =>
      refine mem_menusOf_of_mem here ?_
      rw [Component.menus, if_pos visible, if_neg (by decide), if_pos rfl]
      exact ih

/-- A place of a menu that takes pixels only. -/
inductive Menu.Slot (properties : List Property) : String → Prop where
  | item {name : String} (listed : name ∈ itemSlots) : Slot properties name
  | scrollbar {pattern : String} (on : isSet properties "scrollbar" = true)
      (frame : first? properties "scrollbar_frame" = some (.string pattern))
      (nonempty : pattern ≠ "") : Slot properties "scrollbar_width"

namespace Menu

variable {properties : List Property}

theorem hasScrollbar_iff :
    hasScrollbar properties = true ↔ isSet properties "scrollbar" = true ∧
      ∃ pattern, first? properties "scrollbar_frame" = some (.string pattern) ∧ pattern ≠ "" := by
  rw [hasScrollbar, Bool.and_eq_true]
  refine and_congr_right fun _ => ?_
  constructor
  · intro framed
    split at framed
    · next pattern found => exact ⟨pattern, found, by simpa using framed⟩
    · cases framed
  · rintro ⟨pattern, found, nonempty⟩
    simp [found, nonempty]

theorem mem_slots {name : String} : name ∈ slots properties ↔ Slot properties name := by
  rw [slots, List.mem_append]
  constructor
  · rintro (listed | bar)
    · exact .item listed
    · split at bar
      · next framed =>
          obtain ⟨on, pattern, frame, nonempty⟩ := hasScrollbar_iff.1 framed
          cases List.mem_singleton.1 bar
          exact .scrollbar on frame nonempty
      · cases bar
  · rintro (listed | ⟨on, frame, nonempty⟩)
    · exact Or.inl listed
    · rw [if_pos (hasScrollbar_iff.2 ⟨on, _, frame, nonempty⟩)]
      exact Or.inr (List.mem_singleton_self _)

/-- The first property of a name is a length, and not one of pixels. -/
def Misfit (properties : List Property) (name : String) (size : Length Float) : Prop :=
  first? properties name = some (.length size) ∧ ∀ pixels, size ≠ .absolute pixels

theorem misfit?_eq_some {name : String} {fault : MalformedLength Float} :
    misfit? properties name = some fault ↔
      fault.property = name ∧ Misfit properties name fault.found := by
  obtain ⟨property, found⟩ := fault
  constructor
  · intro misfit
    unfold misfit? at misfit
    split at misfit
    · next percent is =>
        cases misfit
        exact ⟨rfl, is, fun pixels => by simp⟩
    · next percent sign offset is =>
        cases misfit
        exact ⟨rfl, is, fun pixels => by simp⟩
    · cases misfit
  · rintro ⟨rfl, is, notPixels⟩
    cases found with
    | absolute pixels => exact absurd rfl (notPixels pixels)
    | relative percent => simp only [misfit?, is]
    | combined percent sign offset => simp only [misfit?, is]

theorem mem_misfits {fault : MalformedLength Float} :
    fault ∈ misfits properties ↔
      Slot properties fault.property ∧ Misfit properties fault.property fault.found := by
  rw [misfits, List.mem_filterMap]
  constructor
  · rintro ⟨name, among, found⟩
    obtain ⟨rfl, misfit⟩ := misfit?_eq_some.1 found
    exact ⟨mem_slots.1 among, misfit⟩
  · rintro ⟨slot, misfit⟩
    exact ⟨fault.property, mem_slots.2 slot, misfit?_eq_some.2 ⟨rfl, misfit⟩⟩

end Menu

/-- The listed misfits are those of the menus that are shown. -/
theorem Theme.mem_misfits {theme : Theme} {fault : MalformedLength Float} :
    fault ∈ theme.misfits ↔ ∃ menu, ShownMenu theme.components menu ∧
      Menu.Slot menu fault.property ∧ Menu.Misfit menu fault.property fault.found := by
  rw [Theme.misfits, List.mem_flatMap]
  simp only [mem_menusOf, Menu.mem_misfits]

end BootTheme
