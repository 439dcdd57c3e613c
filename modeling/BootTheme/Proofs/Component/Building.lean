import Mathlib.Data.List.Basic
import BootTheme.Preview
import BootTheme.Proofs.Component.Misfits
import BootTheme.Proofs.Layout.ScreenBound

/-!
# Building ends at the first misfit or gives a sound tree

Every step of the building fails with the first misfit of what it looks at, or leaves a
sound tree: one grown from the screen whose boxes override their sides with expressions
over the screen. A sound tree has a rectangle for every box on every screen.
-/

namespace BootTheme

/-- An outcome that fails with the first of its faults; if there is none, it has a value with the
property. -/
inductive Settles {ε β : Type} (kept : β → Prop) : List ε → Except ε β → Prop where
  | fine {value : β} (holds : kept value) : Settles kept [] (.ok value)
  | fails (fault : ε) (rest : List ε) : Settles kept (fault :: rest) (.error fault)

namespace Settles

variable {ε β γ : Type} {kept : β → Prop} {faults : List ε} {outcome : Except ε β}

/-- The faults of one step come before those of the next. -/
theorem bind {keptToo : γ → Prop} {more : List ε} {next : β → Except ε γ}
    (first : Settles kept faults outcome)
    (second : ∀ value, kept value → Settles keptToo more (next value)) :
    Settles keptToo (faults ++ more) (outcome >>= next) := by
  cases first with
  | fine holds => exact second _ holds
  | fails fault rest => exact .fails fault (rest ++ more)

theorem mono {keptToo : β → Prop} (settles : Settles kept faults outcome)
    (implied : ∀ value, kept value → keptToo value) : Settles keptToo faults outcome := by
  cases settles with
  | fine holds => exact .fine (implied _ holds)
  | fails fault rest => exact .fails fault rest

theorem error_iff (settles : Settles kept faults outcome) (fault : ε) :
    outcome = .error fault ↔ faults.head? = some fault := by
  cases settles with
  | fine holds => simp
  | fails first rest => simp

theorem ok_iff (settles : Settles kept faults outcome) :
    (∃ value, outcome = .ok value) ↔ faults = [] := by
  cases settles with
  | fine holds => simp
  | fails fault rest => simp

theorem holds (settles : Settles kept faults outcome) {value : β} (same : outcome = .ok value) :
    kept value := by
  cases settles with
  | fine holds =>
      cases same
      exact holds
  | fails fault rest => cases same

end Settles

/-! ## Properties -/

theorem typed_value {α : Type} (properties : Properties) (name wanted : String)
    (select : Value → Option α) :
    (properties.typed name wanted select).value = (first? properties.items name).bind select := by
  unfold Properties.typed Properties.find? first?
  cases findProperty properties.items name with
  | none => rfl
  | some property =>
      dsimp only
      cases found : select property.value with
      | none => exact found.symm
      | some value => exact found.symm

theorem bool?_getD (properties : Properties) (name : String) :
    (properties.bool? name).value.getD true = isSet properties.items name := by
  rw [Properties.bool?, typed_value, isSet]
  cases first? properties.items name with
  | none => rfl
  | some value => cases value <;> rfl

theorem visible_value (properties : Properties) :
    properties.visible.value = isSet properties.items "visible" :=
  bool?_getD properties "visible"

namespace Menu

/-- A length in a place that takes pixels only is refused exactly when it is a misfit. -/
theorem settles_pixels (properties : Properties) (name : String) (pixels : Float) :
    Settles (fun _ => True) (misfit? properties.items name).toList
      ((properties.lengthOr name pixels).value.pixels name) := by
  change Settles _ _ (((properties.length? name).value.getD (.absolute pixels)).pixels name)
  rw [Properties.length?, typed_value, misfit?]
  cases first? properties.items name with
  | none => exact .fine True.intro
  | some value =>
      cases value with
      | string text => exact .fine True.intro
      | bool value => exact .fine True.intro
      | length size =>
          cases size with
          | absolute pixels => exact .fine True.intro
          | relative percent => exact .fails _ []
          | combined percent sign offset => exact .fails _ []

/-- The places of the items are looked at one after the other. -/
theorem settles_sizes (properties : Properties) :
    Settles (fun _ => True) (itemSlots.filterMap (misfit? properties.items))
      properties.menu.value.sizes := by
  simp only [itemSlots, List.filterMap_eq_flatMap_toList, List.flatMap_cons, List.flatMap_nil]
  refine (settles_pixels properties "item_height" 42).bind fun height _ => ?_
  refine (settles_pixels properties "item_padding" 14).bind fun padding _ => ?_
  refine (settles_pixels properties "item_spacing" 16).bind fun spacing _ => ?_
  refine (settles_pixels properties "icon_width" 32).bind fun iconWidth _ => ?_
  refine (settles_pixels properties "icon_height" 32).bind fun iconHeight _ => ?_
  refine (settles_pixels properties "item_icon_space" 4).bind fun iconSpace _ => ?_
  exact .fine True.intro

end Menu

/-! ## Sound trees -/

theorem hundred_nonzero : Scalar.isZero (Scalar.ofNat 100 : Float) = false := by decide

namespace BoxTree

/-- A tree grown from the screen whose boxes know only the screen. -/
structure Sound (tree : BoxTree Float) : Prop where
  grown : tree.Grown
  bound : tree.ScreenBound

/-- A sound tree with the boxes of another one and maybe more. -/
structure Extends (tree next : BoxTree Float) : Prop where
  sound : next.Sound
  size : tree.size ≤ next.size

variable {tree next last : BoxTree Float}

theorem Sound.extends (sound : tree.Sound) : tree.Extends tree := ⟨sound, Nat.le_refl _⟩

theorem Extends.trans (first : tree.Extends next) (second : next.Extends last) :
    tree.Extends last := ⟨second.sound, Nat.le_trans first.size second.size⟩

/-- A box of its own below a box of a sound tree. -/
theorem Sound.addChild (sound : tree.Sound) {parent : Nat} {box : LayoutBox Float}
    (old : parent < tree.size) (own : box.ScreenBound) :
    tree.Extends (tree.addChild parent box) ∧ tree.size < (tree.addChild parent box).size := by
  rw [size_addChild]
  refine ⟨⟨⟨.addChild sound.grown old box, sound.bound.addChild old own⟩, ?_⟩, Nat.lt_succ_self _⟩
  rw [size_addChild]
  exact Nat.le_succ _

theorem Sound.derivedExtent (sound : tree.Sound) (id : Nat) (axis : Axis) :
    (tree.derivedExtent id axis).ScreenBound :=
  sound.bound.derivedExtent hundred_nonzero id axis

end BoxTree

/-! ## Menus -/

namespace Menu

variable {tree : BoxTree Float} {width top : Expr Float}

theorem screenBound_centered (sizes : ItemSizes) (height : Float) :
    (centered sizes height).ScreenBound :=
  .div (.sub (.constant _) (.constant _)) (by decide)

theorem screenBound_itemBox (menu : Menu) (sizes : ItemSizes) (wide : width.ScreenBound)
    (high : top.ScreenBound) (index : Nat) (selected : Bool) :
    (menu.itemBox sizes width top index selected).ScreenBound where
  left expr override := by cases override
  top expr override := by cases override; exact high
  width expr override := by cases override; exact wide
  height expr override := by cases override

theorem screenBound_iconBox (sizes : ItemSizes) (icon : String) :
    (iconBox sizes icon).ScreenBound where
  left expr override := by cases override
  top expr override := by cases override; exact screenBound_centered sizes _
  width expr override := by cases override
  height expr override := by cases override

theorem screenBound_textBox (menu : Menu) (sizes : ItemSizes) (wide : width.ScreenBound)
    (index : Nat) (selected : Bool) (text : String) (color : Color) :
    (menu.textBox sizes width index selected text color).ScreenBound where
  left expr override := by cases override; exact .add (.constant _) (.constant _)
  top expr override := by cases override; exact screenBound_centered sizes _
  width expr override := by cases override; exact .sub (.sub wide (.constant _)) (.constant _)
  height expr override := by cases override

/-- An entry adds its item with an icon or none and a text. -/
theorem extends_addEntry (menu : Menu) (sizes : ItemSizes) (settings : Settings) {menuId : Nat}
    (wide : width.ScreenBound) (high : top.ScreenBound) (index : Nat) (entry : MenuEntry)
    (sound : tree.Sound) (old : menuId < tree.size) :
    tree.Extends (menu.addEntry sizes settings menuId width top index entry tree).value := by
  obtain ⟨item, inItem⟩ := sound.addChild old
    (menu.screenBound_itemBox sizes wide high index (index == settings.selected))
  have text := menu.screenBound_textBox sizes wide index (index == settings.selected) entry.text
  cases icon : entry.icon with
  | none =>
      simp only [addEntry, icon]
      exact item.trans (item.sound.addChild inItem (text _)).1
  | some name =>
      simp only [addEntry, icon]
      obtain ⟨both, inBoth⟩ := item.sound.addChild inItem (screenBound_iconBox sizes name)
      exact (item.trans both).trans (both.sound.addChild (Nat.lt_trans inItem inBoth) (text _)).1

theorem extends_addEntries (menu : Menu) (sizes : ItemSizes) (settings : Settings) {menuId : Nat}
    (wide : width.ScreenBound) (entries : List MenuEntry) :
    ∀ (index : Nat) (top : Expr Float) (tree : BoxTree Float), top.ScreenBound → tree.Sound →
      menuId < tree.size →
        tree.Extends
          (menu.addEntries sizes settings menuId width index top entries tree).value := by
  induction entries with
  | nil =>
      intro index top tree _ sound _
      exact sound.extends
  | cons entry rest ih =>
      intro index top tree high sound old
      have first := menu.extends_addEntry sizes settings wide high index entry sound old
      have next : (top + (.constant sizes.height + .constant sizes.spacing)).ScreenBound :=
        .add high (.add (.constant _) (.constant _))
      exact first.trans (ih (index + 1) _ _ next first.sound (Nat.lt_of_lt_of_le old first.size))

theorem screenBound_frameBox {menuWidth : Expr Float} (wide : menuWidth.ScreenBound)
    (pixels : Float) (frame : Paint Float) : (frameBox menuWidth pixels frame).ScreenBound where
  left expr override := by cases override; exact .sub wide (.constant _)
  top expr override := by cases override
  width expr override := by cases override
  height expr override := by cases override

/-- The frame of the scroll bar has a pattern exactly when there is a scroll bar that is on. -/
theorem scrollbar_cases (properties : Properties) :
    (hasScrollbar properties.items = true ∧ properties.menu.value.scrollbar = true ∧
      ∃ frame, stylePaint properties.menu.value.scrollbarFrame = some frame) ∨
    (hasScrollbar properties.items = false ∧
      (properties.menu.value.scrollbar = false ∨
        stylePaint properties.menu.value.scrollbarFrame = none)) := by
  have on : properties.menu.value.scrollbar = isSet properties.items "scrollbar" :=
    bool?_getD properties "scrollbar"
  have frame : properties.menu.value.scrollbarFrame =
      (first? properties.items "scrollbar_frame").bind _ :=
    typed_value properties "scrollbar_frame" "string" _
  rw [on, frame, hasScrollbar]
  cases isSet properties.items "scrollbar" with
  | false => exact Or.inr ⟨rfl, Or.inl rfl⟩
  | true =>
      cases first? properties.items "scrollbar_frame" with
      | none => exact Or.inr ⟨rfl, Or.inr rfl⟩
      | some value =>
          cases value with
          | length size => exact Or.inr ⟨rfl, Or.inr rfl⟩
          | bool value => exact Or.inr ⟨rfl, Or.inr rfl⟩
          | string pattern =>
              cases empty : pattern.isEmpty with
              | true => exact Or.inr (by simp [stylePaint, empty])
              | false => exact Or.inl (by simp [stylePaint, empty])

/-- The width of a scroll bar is looked at only if there is one. -/
theorem settles_addScrollbar (properties : Properties) {menuId : Nat} (sound : tree.Sound)
    (old : menuId < tree.size) :
    Settles tree.Extends
      ((if hasScrollbar properties.items then ["scrollbar_width"] else []).filterMap
        (misfit? properties.items))
      (properties.menu.value.addScrollbar menuId tree) := by
  rcases scrollbar_cases properties with ⟨has, on, frame, framed⟩ | ⟨hasNot, off | unframed⟩
  · rw [if_pos has, List.filterMap_eq_flatMap_toList, List.flatMap_cons, addScrollbar, if_pos on,
      framed]
    refine (settles_pixels properties "scrollbar_width" 16).bind fun pixels _ => ?_
    obtain ⟨framed, inFrame⟩ := sound.addChild old
      (screenBound_frameBox (sound.derivedExtent menuId .horizontal) pixels frame)
    have thumb : (thumbBox properties.menu.value.scrollbarThumb).ScreenBound :=
      .of_declared rfl rfl rfl rfl
    exact .fine (framed.trans (framed.sound.addChild inFrame thumb).1)
  · rw [hasNot, addScrollbar, off]
    exact .fine sound.extends
  · rw [hasNot, addScrollbar, unframed, ite_self]
    exact .fine sound.extends

end Menu

/-- A menu ends the building at its first misfit, or adds its boxes. -/
theorem settles_addMenu (settings : Settings) {parent : Nat} (properties : Properties)
    {tree : BoxTree Float} (sound : tree.Sound) (old : parent < tree.size) :
    Settles tree.Extends (Menu.misfits properties.items)
      (addMenu settings parent properties tree).value := by
  rw [Menu.misfits, Menu.slots, List.filterMap_append]
  have value : (addMenu settings parent properties tree).value =
      (properties.menu.value.sizes >>= fun sizes =>
        let menu := properties.menu.value
        let box := { menu.geometry.box (properties.boxName "boot_menu").value with
          paint := Menu.stylePaint menu.style }
        let below := tree.addChild parent box
        let width := Menu.itemWidth sizes (below.derivedExtent tree.size .horizontal)
        menu.addScrollbar tree.size (menu.addEntries sizes settings tree.size width 0
          (.constant sizes.padding) settings.entries below).value) := by
    rw [addMenu, Noted.bind_value]
    cases properties.menu.value.sizes with
    | error fault => rfl
    | ok sizes => rfl
  rw [value]
  refine (Menu.settles_sizes properties).bind fun sizes _ => ?_
  obtain ⟨below, inBelow⟩ := sound.addChild old
    (.of_declared rfl rfl rfl rfl : LayoutBox.ScreenBound
      { properties.menu.value.geometry.box (properties.boxName "boot_menu").value with
        paint := Menu.stylePaint properties.menu.value.style })
  have wide := below.sound.derivedExtent tree.size .horizontal
  have width : (Menu.itemWidth sizes _).ScreenBound :=
    .sub (.sub wide (.mul (.constant 2) (.constant sizes.padding))) (.constant 2)
  have entries := properties.menu.value.extends_addEntries sizes settings width settings.entries 0
    (.constant sizes.padding) _ (.constant sizes.padding) below.sound inBelow
  have bar := Menu.settles_addScrollbar properties entries.sound
    (Nat.lt_of_lt_of_le inBelow entries.size)
  exact bar.mono fun next grown => (below.trans entries).trans grown

/-! ## Components -/

theorem screenBound_canvasBox (properties : Properties) :
    properties.canvasBox.value.ScreenBound := .of_declared rfl rfl rfl rfl

theorem screenBound_labelBox (properties : Properties) (settings : Settings) :
    (properties.labelBox settings).value.ScreenBound := .of_declared rfl rfl rfl rfl

theorem screenBound_imageBox (properties : Properties) :
    properties.imageBox.value.ScreenBound := by
  unfold Properties.imageBox
  rw [Noted.bind_value, Noted.bind_value, Noted.bind_value]
  split <;> exact .of_declared rfl rfl rfl rfl

theorem next_value (built : Built) (step : BoxTree Float → Built) :
    (built.next step).value = built.value >>= fun tree => (step tree).value := by
  rw [Built.next, Noted.bind_value]
  cases built.value with
  | error fault => rfl
  | ok tree => rfl

mutual

/-- A component ends the building at the first misfit of its menus, or adds its boxes. -/
theorem settles_addComponent (settings : Settings) : ∀ (component : Component) {parent : Nat}
    {tree : BoxTree Float}, tree.Sound → parent < tree.size →
      Settles tree.Extends (component.menus.flatMap Menu.misfits)
        (addComponent settings parent tree component).value
  | .mk kind properties children span, parent, tree, sound, old => by
      unfold addComponent
      rw [Component.menus, Noted.bind_value, visible_value]
      cases isSet properties "visible" with
      | false => exact .fine sound.extends
      | true =>
          rw [if_pos rfl, if_pos rfl]
          by_cases isMenu : kind = "boot_menu"
          · subst isMenu
            rw [if_pos rfl, List.flatMap_singleton]
            exact settles_addMenu settings ⟨"boot_menu", properties⟩ sound old
          · by_cases isCanvas : kind = "canvas"
            · subst isCanvas
              obtain ⟨canvas, inCanvas⟩ := sound.addChild old
                (screenBound_canvasBox ⟨"canvas", properties⟩)
              rw [if_neg isMenu, if_pos rfl]
              exact (settles_addComponents settings children canvas.sound inCanvas).mono
                fun next inner => canvas.trans inner
            · -- No other kind holds menus.
              rw [if_neg isMenu, if_neg isCanvas]
              split
              · exact absurd rfl isMenu
              · exact .fine (sound.addChild old (screenBound_labelBox _ settings)).1
              · exact .fine (sound.addChild old (screenBound_imageBox _)).1
              · exact absurd rfl isCanvas
              · exact .fine sound.extends

theorem settles_addComponents (settings : Settings) : ∀ (components : List Component)
    {parent : Nat} {tree : BoxTree Float}, tree.Sound → parent < tree.size →
      Settles tree.Extends ((Component.menusOf components).flatMap Menu.misfits)
        (addComponents settings parent tree components).value
  | [], parent, tree, sound, old => by
      rw [addComponents]
      exact .fine sound.extends
  | component :: rest, parent, tree, sound, old => by
      rw [addComponents, Component.menusOf, List.flatMap_append, next_value]
      refine (settles_addComponent settings component sound old).bind fun next grown => ?_
      have others := settles_addComponents settings rest grown.sound
        (Nat.lt_of_lt_of_le old grown.size)
      exact others.mono fun last more => grown.trans more

end

/-! ## Themes -/

theorem sound_paintScreen (theme : Theme) (settings : Settings) :
    (paintScreen theme settings .screen).value.Sound := by
  unfold paintScreen
  rw [Noted.bind_value]
  split
  · exact ⟨.screen, BoxTree.screenBound_screen⟩
  · exact ⟨.edit .screen 0 _, BoxTree.screenBound_screen.edit_paint 0 _⟩

theorem sound_addBackground (theme : Theme) {tree : BoxTree Float} (sound : tree.Sound) :
    (addBackground theme tree).value.Sound := by
  unfold addBackground
  rw [Noted.bind_value]
  split
  · exact sound
  · exact (sound.addChild sound.grown.arena.nonempty (.of_declared rfl rfl rfl rfl)).1.sound

/-- The building ends at the first misfit of the theme, or gives a sound tree. -/
theorem settles_buildTree (theme : Theme) (settings : Settings) :
    Settles BoxTree.Sound theme.misfits (buildTree theme settings).value := by
  have sound := sound_addBackground theme (sound_paintScreen theme settings)
  exact (settles_addComponents settings theme.components sound sound.grown.arena.nonempty).mono
    fun _ built => built.sound

/-- A display list is refused for a misfit only. -/
theorem displayList_error (theme : Theme) (settings : Settings) (files : Files)
    (cache : ImageCache) {error : RenderError}
    (failed : (displayList theme settings files cache).value = .error error) :
    ∃ fault, error = .malformed fault ∧ (buildTree theme settings).value = .error fault := by
  unfold displayList at failed
  rw [Noted.bind_value] at failed
  cases built : (buildTree theme settings).value with
  | error fault =>
      rw [built] at failed
      cases failed
      exact ⟨fault, rfl, rfl⟩
  | ok tree =>
      have sound := (settles_buildTree theme settings).holds built
      have fine : (tree.paint settings.context files settings.outline cache).value.error = none :=
        sound.bound.walk_error hundred_nonzero settings.width settings.height
      rw [built] at failed
      simp only [Noted.bind_value, fine] at failed
      cases failed

/-- The building of a theme fails exactly when a menu that is shown has a misfit, with the first
one of the first such menu. Whatever is built has a rectangle for every box on every screen, so
no picture fails for an unknown or a division by zero. -/
theorem build_fails_for_misfits_alone (theme : Theme) (settings : Settings) :
    ((∃ fault, (buildTree theme settings).value = .error fault) ↔
      ∃ menu name size, ShownMenu theme.components menu ∧ Menu.Slot menu name ∧
        Menu.Misfit menu name size) ∧
    (∀ fault, (buildTree theme settings).value = .error fault ↔
      theme.misfits.head? = some fault) ∧
    (∀ tree, (buildTree theme settings).value = .ok tree → tree.Grown ∧
      ∀ width height, ∃ rects, tree.resolveAll (.forScreen width height) = .ok rects ∧
        rects.map Prod.fst = tree.preorder) ∧
    ∀ (α : Type) (disk : Disk) (finish : DisplayList Float → ImageCache → Noted α) error,
      (renderTheme theme settings disk finish).value ≠ .error (.eval error) := by
  have settles := settles_buildTree theme settings
  refine ⟨?_, settles.error_iff, ?_, ?_⟩
  · constructor
    · rintro ⟨fault, failed⟩
      have among := List.mem_of_head? ((settles.error_iff fault).1 failed)
      obtain ⟨menu, shown, slot, misfit⟩ := Theme.mem_misfits.1 among
      exact ⟨menu, fault.property, fault.found, shown, slot, misfit⟩
    · rintro ⟨menu, name, size, shown, slot, misfit⟩
      have among : ⟨name, size⟩ ∈ theme.misfits := Theme.mem_misfits.2 ⟨menu, shown, slot, misfit⟩
      obtain ⟨first, rest, split⟩ := List.exists_cons_of_ne_nil (List.ne_nil_of_mem among)
      exact ⟨first, (settles.error_iff first).2 (by rw [split]; rfl)⟩
  · intro tree built
    have sound := settles.holds built
    exact ⟨sound.grown, sound.bound.resolveAll hundred_nonzero⟩
  · intro α disk finish error failed
    unfold renderTheme at failed
    rw [Noted.bind_value] at failed
    split at failed
    · next reason refused =>
        cases failed
        obtain ⟨fault, impossible, _⟩ := displayList_error _ _ _ _ refused
        cases impossible
    · cases failed

/-- A menu inside a canvas, beside a menu that is not shown. -/
def canvasWithMenus (properties : List Property) : Theme :=
  ⟨[], [.mk "canvas" [] [
    .mk "boot_menu" [⟨"visible", .bool false, ⟨0, 0⟩⟩,
      ⟨"item_height", .length (.relative 9), ⟨0, 0⟩⟩] [] ⟨0, 0⟩,
    .mk "boot_menu" properties [] ⟨0, 0⟩] ⟨0, 0⟩]⟩

theorem second_menu_decides :
    (buildTree (canvasWithMenus [⟨"icon_width", .length (.relative 5), ⟨0, 0⟩⟩,
        ⟨"item_padding", .length (.absolute 3), ⟨0, 0⟩⟩,
        ⟨"item_padding", .length (.relative 7), ⟨0, 0⟩⟩]) {}).value =
      .error ⟨"icon_width", .relative 5⟩ ∧
    ∃ tree, (buildTree (canvasWithMenus []) {}).value = .ok tree ∧
      ∃ rects, tree.resolveAll (.forScreen 0 0) = .ok rects := by
  constructor
  · exact ((build_fails_for_misfits_alone _ _).2.1 _).2 (by decide +kernel)
  · obtain ⟨_, fails, fits, _⟩ := build_fails_for_misfits_alone (canvasWithMenus []) {}
    cases built : (buildTree (canvasWithMenus []) {}).value with
    | error fault =>
        have first := (fails fault).1 built
        have none : (canvasWithMenus []).misfits.head? = none := by decide +kernel
        rw [none] at first
        cases first
    | ok tree =>
        obtain ⟨rects, resolved, _⟩ := (fits tree built).2 0 0
        exact ⟨tree, rfl, rects, resolved⟩

end BootTheme
