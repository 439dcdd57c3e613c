import BootTheme.Proofs.Component.PaintOrder
import BootTheme.Proofs.Number.Packing

/-!
# Sizes of texts

The texts of a theme are those of its labels and of the entries of its menus. Each is as large as
the last word of the name of its font says, if that is a number above zero, and of the default
size otherwise. Infinity is a number above zero, so a size is always positive, and it is finite
unless the last word is read as infinity.
-/

namespace BootTheme

/-- The number that the last word of the name of a font is read as. -/
def lastNumber? (font : String) : Option Float := readDouble (String.ofList (lastWord font.toList))

/-- The size of a text in a font, or without one. -/
def sizeIn : Option String → Float
  | some font => fontSize font
  | none => defaultFontSize

/-- The size of what is painted, if it is a text. -/
def Paint.textSize? : Paint Float → Option Float
  | .text _ _ size _ => some size
  | _ => none

/-- The size of the text that a box shows, if it shows one. -/
def LayoutBox.textSize? (box : LayoutBox Float) : Option Float := box.paint.bind Paint.textSize?

/-- The string of the first property of a name, if it is one. -/
def stringOf? (properties : List Property) (name : String) : Option String :=
  match first? properties name with
  | some (.string text) => some text
  | _ => none

/-- The font of an entry of a menu. The selected entry is written like the others if it has no
font of its own. -/
def Menu.font (properties : List Property) (selected : Bool) : String :=
  let others := (stringOf? properties "item_font").getD "Unknown Regular 16"
  if selected then (stringOf? properties "selected_item_font").getD others else others

/-- The fonts of the entries of a menu. -/
def Menu.fonts (settings : Settings) (properties : List Property) : List (Option String) :=
  settings.entries.zipIdx.map fun (_, index) => some (font properties (index == settings.selected))

mutual

/-- The fonts of the texts of a component and of those inside it, from back to front. -/
def Component.fonts (settings : Settings) : Component → List (Option String)
  | .mk kind properties children _ =>
      if isSet properties "visible" then
        match kind with
        | "boot_menu" => Menu.fonts settings properties
        | "label" => [stringOf? properties "font"]
        | "canvas" => Component.fontsOf settings children
        | _ => []
      else []

/-- The fonts of the texts of components. -/
def Component.fontsOf (settings : Settings) : List Component → List (Option String)
  | [] => []
  | component :: rest => component.fonts settings ++ Component.fontsOf settings rest

end

/-- The fonts of all texts of a theme, from back to front. -/
def Theme.fonts (theme : Theme) (settings : Settings) : List (Option String) :=
  Component.fontsOf settings theme.components

/-! ## Sizes of fonts -/

theorem fontSize_of_lastNumber {font : String} {size : Float} (read : lastNumber? font = some size)
    (positive : 0 < size) : fontSize font = size := by
  unfold fontSize
  rw [← lastNumber?, read]
  exact if_pos positive

theorem fontSize_default {font : String}
    (other : ∀ size, lastNumber? font = some size → ¬ 0 < size) :
    fontSize font = defaultFontSize := by
  unfold fontSize
  rw [← lastNumber?]
  cases read : lastNumber? font with
  | none => rfl
  | some size => exact if_neg (other size read)

theorem default_positive : 0 < defaultFontSize := by decide +kernel

theorem default_finite : isFinite defaultFontSize = true := by decide +kernel

theorem infinite_positive : (0 : Float) < 1 / 0 := by decide +kernel

theorem infinite_not_finite : isFinite (1 / 0) = false := by decide +kernel

/-- The size of a font is the number of its last word or the default. -/
theorem fontSize_cases (font : String) :
    (∃ size, lastNumber? font = some size ∧ 0 < size ∧ fontSize font = size) ∨
      (∀ size, lastNumber? font = some size → ¬ 0 < size) ∧ fontSize font = defaultFontSize := by
  by_cases number : ∃ size, lastNumber? font = some size ∧ 0 < size
  · obtain ⟨size, read, positive⟩ := number
    exact .inl ⟨size, read, positive, fontSize_of_lastNumber read positive⟩
  · have other : ∀ size, lastNumber? font = some size → ¬ 0 < size :=
      fun size read positive => number ⟨size, read, positive⟩
    exact .inr ⟨other, fontSize_default other⟩

theorem fontSize_positive (font : String) : 0 < fontSize font := by
  rcases fontSize_cases font with ⟨size, _, positive, same⟩ | ⟨_, same⟩
  · rw [same]
    exact positive
  · rw [same]
    exact default_positive

theorem sizeIn_positive (font : Option String) : 0 < sizeIn font := by
  cases font with
  | none =>
      rw [sizeIn]
      exact default_positive
  | some font =>
      rw [sizeIn]
      exact fontSize_positive font

/-- A font is of finite size unless its last word is read as infinity. -/
theorem isFinite_fontSize_iff (font : String) :
    isFinite (fontSize font) = true ↔ lastNumber? font ≠ some (1 / 0) := by
  constructor
  · intro finite infinite
    rw [fontSize_of_lastNumber infinite infinite_positive, infinite_not_finite] at finite
    cases finite
  · intro other
    rcases fontSize_cases font with ⟨size, read, positive, same⟩ | ⟨_, same⟩
    · rw [same]
      by_contra infinite
      rw [eq_infinite_of_positive positive (Bool.not_eq_true _ ▸ infinite)] at read
      exact other read
    · rw [same]
      exact default_finite

/-! ## The texts of a listing -/

/-- The sizes of the texts of a listing, from back to front. -/
def textSizes (listing : List BoxAt) : List Float :=
  listing.filterMap fun entry => entry.box.textSize?

theorem textSizes_append (first second : List BoxAt) :
    textSizes (first ++ second) = textSizes first ++ textSizes second :=
  List.filterMap_append

theorem textSizes_cons_none {level : Nat} {box : LayoutBox Float} {rest : List BoxAt}
    (other : box.textSize? = none) : textSizes (⟨level, box⟩ :: rest) = textSizes rest :=
  List.filterMap_cons_none other

theorem textSizes_cons_some {level : Nat} {box : LayoutBox Float} {rest : List BoxAt} {size : Float}
    (text : box.textSize? = some size) :
    textSizes (⟨level, box⟩ :: rest) = size :: textSizes rest :=
  List.filterMap_cons_some text

theorem string?_value (properties : Properties) (name : String) :
    (properties.string? name).value = stringOf? properties.items name := by
  rw [Properties.string?, typed_value, stringOf?]
  cases first? properties.items name with
  | none => rfl
  | some value => cases value <;> rfl

theorem textSize?_labelBox (properties : Properties) (settings : Settings) :
    (properties.labelBox settings).value.textSize? =
      some (sizeIn (stringOf? properties.items "font")) := by
  rw [← string?_value]
  change some (((properties.string? "font").value.map fontSize).getD defaultFontSize) = _
  cases (properties.string? "font").value with
  | none => rw [Option.map_none, Option.getD_none, sizeIn]
  | some font => rw [Option.map_some, Option.getD_some, sizeIn]

theorem textSize?_imageBox (properties : Properties) :
    properties.imageBox.value.textSize? = none := by
  unfold Properties.imageBox
  rw [Noted.bind_value, Noted.bind_value, Noted.bind_value]
  split <;> rfl

namespace Menu

theorem textSize?_of_stylePaint {box : LayoutBox Float} {pattern : Option String}
    (style : box.paint = stylePaint pattern) : box.textSize? = none := by
  rw [LayoutBox.textSize?, style]
  cases pattern with
  | none => rfl
  | some pattern =>
      unfold stylePaint
      dsimp only
      split <;> rfl

/-- A menu has the fonts that its properties say. -/
theorem menu_font (properties : Properties) (selected : Bool) :
    (if selected then properties.menu.value.selectedFont else properties.menu.value.itemFont) =
      font properties.items selected := by
  rw [font, ← string?_value, ← string?_value]
  rfl

/-- An entry shows one text. -/
theorem textSizes_entryBoxes (properties : Properties) (sizes : ItemSizes) (settings : Settings)
    (level : Nat) (width : Expr Float) (entry : MenuEntry) (index : Nat) :
    textSizes (properties.menu.value.entryBoxes sizes settings level width entry index) =
      [fontSize (font properties.items (index == settings.selected))] := by
  have icon :
      textSizes (entry.icon.toList.map fun icon => ⟨level + 1, iconBox sizes icon⟩) = [] := by
    cases entry.icon <;> rfl
  have item : (properties.menu.value.itemBox sizes width (itemTop sizes index) index
      (index == settings.selected)).textSize? = none := textSize?_of_stylePaint rfl
  unfold entryBoxes
  dsimp only
  rw [List.cons_append, textSizes_cons_none item, textSizes_append, icon, ← menu_font]
  rfl

theorem textSizes_scrollbarBoxes (properties : Properties) (level : Nat) (width : Expr Float) :
    textSizes (scrollbarBoxes properties level width) = [] := by
  unfold scrollbarBoxes
  dsimp only
  split
  · split
    · next frame pixels framed _ =>
        refine (textSizes_cons_none (textSize?_of_stylePaint framed.symm)).trans ?_
        exact textSizes_cons_none (textSize?_of_stylePaint rfl)
    · rfl
  · rfl

/-- A menu without misfits shows the texts of its entries. -/
theorem textSizes_boxes (settings : Settings) (level : Nat) (around : Expr Float)
    {properties : Properties} (fits : misfits properties.items = []) :
    textSizes (boxes settings level around properties) =
      (fonts settings properties.items).map sizeIn := by
  -- Without misfits the sizes of the items are known, and the menu has boxes.
  have settles := settles_sizes properties
  unfold misfits slots at fits
  rw [List.filterMap_append, List.append_eq_nil_iff] at fits
  rw [fits.1] at settles
  cases settled : properties.menu.value.sizes with
  | error fault =>
      rw [settled] at settles
      cases settles
  | ok sizes =>
      have entries (width : Expr Float) :
          textSizes (settings.entries.zipIdx.flatMap fun (entry, index) =>
            properties.menu.value.entryBoxes sizes settings (level + 1) width entry index) =
          (fonts settings properties.items).map sizeIn := by
        rw [textSizes, List.filterMap_flatMap, fonts, List.map_map, List.map_eq_flatMap]
        congr 1
        funext (entry, index)
        rw [Function.comp_apply, sizeIn]
        exact textSizes_entryBoxes properties sizes settings _ _ entry index
      unfold boxes
      dsimp only
      rw [settled]
      dsimp only
      have own : (ownBox properties).textSize? = none := textSize?_of_stylePaint rfl
      rw [List.cons_append, textSizes_cons_none own, textSizes_append, entries,
        textSizes_scrollbarBoxes, List.append_nil]

end Menu

mutual

theorem textSizes_component (settings : Settings) : ∀ (component : Component) (level : Nat)
    (around : Expr Float), component.menus.flatMap Menu.misfits = [] →
      textSizes (component.boxes settings level around) = (component.fonts settings).map sizeIn
  | .mk kind properties children span, level, around, fit => by
      unfold Component.menus at fit
      unfold Component.boxes Component.fonts
      dsimp only
      split
      · next visible =>
          rw [if_pos visible] at fit
          split
          · rw [if_pos rfl, List.flatMap_singleton] at fit
            exact Menu.textSizes_boxes settings level around fit
          · exact textSizes_cons_some (textSize?_labelBox _ settings)
          · exact textSizes_cons_none (textSize?_imageBox _)
          · rw [if_neg (by decide), if_pos rfl] at fit
            exact (textSizes_cons_none rfl).trans (textSizes_components settings children _ _ fit)
          · split <;> first | rfl | contradiction
      · rfl

theorem textSizes_components (settings : Settings) : ∀ (components : List Component)
    (level : Nat) (around : Expr Float),
    (Component.menusOf components).flatMap Menu.misfits = [] →
      textSizes (Component.boxesOf settings level around components) =
        (Component.fontsOf settings components).map sizeIn
  | [], level, around, fit => rfl
  | component :: rest, level, around, fit => by
      rw [Component.menusOf, List.flatMap_append, List.append_eq_nil_iff] at fit
      rw [Component.boxesOf, Component.fontsOf, textSizes_append, List.map_append,
        textSizes_component settings component level around fit.1,
        textSizes_components settings rest level around fit.2]

end

/-- The texts of a theme without misfits have the sizes of its fonts, in order. -/
theorem Theme.textSizes_boxes (theme : Theme) (settings : Settings) (fit : theme.misfits = []) :
    textSizes (theme.boxes settings) = (theme.fonts settings).map sizeIn := by
  have screen : (theme.screenBox settings).textSize? = none := by
    unfold LayoutBox.textSize? screenBox
    dsimp only
    split <;> rfl
  have background : textSizes theme.backgroundBoxes = [] := by
    unfold backgroundBoxes
    split <;> rfl
  rw [Theme.boxes, List.cons_append, textSizes_cons_none screen, textSizes_append, background,
    textSizes_components settings theme.components 1 _ fit]
  rfl

/-! ## The texts of a tree -/

/-- A box of a tree shows a text of a size. -/
def BoxTree.ShowsText (tree : BoxTree Float) (id : Nat) (size : Float) : Prop :=
  ∃ box text color align, tree.box? id = some box ∧ box.paint = some (.text text color size align)

theorem textSize?_eq_some {box : LayoutBox Float} {size : Float} :
    box.textSize? = some size ↔
      ∃ text color align, box.paint = some (.text text color size align) := by
  unfold LayoutBox.textSize?
  constructor
  · intro found
    obtain ⟨paint, painted, found⟩ := Option.bind_eq_some_iff.1 found
    cases paint <;> cases found
    exact ⟨_, _, _, painted⟩
  · rintro ⟨text, color, align, painted⟩
    rw [painted]
    rfl

/-- The texts of a tree are those of its listing. -/
theorem BoxTree.Lists.mem_textSizes {tree : BoxTree Float} {listing : List BoxAt}
    (lists : tree.Lists listing) (size : Float) :
    size ∈ textSizes listing ↔ ∃ id, tree.ShowsText id size := by
  rw [textSizes, List.mem_filterMap]
  constructor
  · rintro ⟨entry, among, shown⟩
    obtain ⟨id, found⟩ := List.mem_iff_getElem?.1 among
    obtain ⟨text, color, align, painted⟩ := textSize?_eq_some.1 shown
    obtain ⟨-, parent, children, known⟩ := lists.listed id entry found
    exact ⟨id, _, text, color, align, known, painted⟩
  · rintro ⟨id, box, text, color, align, found, painted⟩
    have old : id < listing.length := lists.size ▸ lt_size_of_box? found
    obtain ⟨-, parent, children, known⟩ :=
      lists.listed id _ (List.getElem?_eq_getElem old)
    rw [found] at known
    cases known
    exact ⟨_, List.getElem_mem old, textSize?_eq_some.2 ⟨text, color, align, painted⟩⟩

/-- The texts of a theme that can be built have the sizes of its fonts. -/
theorem showsText_iff {theme : Theme} {settings : Settings} {tree : BoxTree Float}
    (built : (buildTree theme settings).value = .ok tree) (size : Float) :
    (∃ id, tree.ShowsText id size) ↔ ∃ font ∈ theme.fonts settings, sizeIn font = size := by
  have fit : theme.misfits = [] := (settles_buildTree theme settings).ok_iff.1 ⟨tree, built⟩
  have lists := (lists_buildTree theme settings built).1
  rw [← lists.mem_textSizes, theme.textSizes_boxes settings fit, List.mem_map]

/-- The texts of a theme that can be built are as large as their fonts say: as the number of the
last word, if it is one above zero, and of the default size otherwise. Every size is above zero.
It is finite unless the last word of the font is read as infinity. -/
theorem text_is_infinite_in_infinite_font_alone (theme : Theme) (settings : Settings)
    {tree : BoxTree Float} (built : (buildTree theme settings).value = .ok tree) :
    (∀ size, (∃ id, tree.ShowsText id size) ↔
      ∃ font ∈ theme.fonts settings, sizeIn font = size) ∧
    (∀ id size, tree.ShowsText id size → 0 < size ∧ (isFinite size = true ∨ size = 1 / 0)) ∧
    ((∀ id size, tree.ShowsText id size → isFinite size = true) ↔
      ∀ font, some font ∈ theme.fonts settings → lastNumber? font ≠ some (1 / 0)) ∧
    (∀ font size, lastNumber? font = some size → 0 < size → sizeIn (some font) = size) ∧
    ∀ font, (∀ size, lastNumber? font = some size → ¬ 0 < size) → sizeIn (some font) = 16 := by
  refine ⟨showsText_iff built, ?_, ?_, ?_, ?_⟩
  · intro id size shown
    obtain ⟨font, _, rfl⟩ := (showsText_iff built size).1 ⟨id, shown⟩
    have positive := sizeIn_positive font
    refine ⟨positive, ?_⟩
    cases finite : isFinite (sizeIn font) with
    | true => exact .inl rfl
    | false => exact .inr (eq_infinite_of_positive positive finite)
  · constructor
    · intro finite font among
      obtain ⟨id, shown⟩ := (showsText_iff built _).2 ⟨_, among, rfl⟩
      exact (isFinite_fontSize_iff font).1 (finite id _ shown)
    · intro other id size shown
      obtain ⟨font, among, rfl⟩ := (showsText_iff built size).1 ⟨id, shown⟩
      cases font with
      | none =>
          rw [sizeIn]
          exact default_finite
      | some font =>
          rw [sizeIn]
          exact (isFinite_fontSize_iff font).2 (other font among)
  · intro font size read positive
    rw [sizeIn]
    exact fontSize_of_lastNumber read positive
  · intro font other
    rw [sizeIn]
    exact fontSize_default other

/-- A label in a font of a size, one in a font without, and a menu whose selected entry is larger
than the other one. -/
def sizedTexts : Theme :=
  ⟨[], [
    .mk "label" [⟨"font", .string "DejaVu Sans Bold 24", ⟨0, 0⟩⟩] [] ⟨0, 0⟩,
    .mk "label" [⟨"font", .string "DejaVu Sans Bold", ⟨0, 0⟩⟩] [] ⟨0, 0⟩,
    .mk "boot_menu" [⟨"item_font", .string "Sans nan", ⟨0, 0⟩⟩,
      ⟨"selected_item_font", .string "Sans 2e1", ⟨0, 0⟩⟩] [] ⟨0, 0⟩]⟩

theorem sizedTexts_are_finite :
    ∃ tree, (buildTree sizedTexts twoEntries).value = .ok tree ∧
      (∃ id, tree.ShowsText id 24) ∧ (∃ id, tree.ShowsText id 20) ∧
      ∀ id size, tree.ShowsText id size → 0 < size ∧ isFinite size = true := by
  obtain ⟨tree, built⟩ := (settles_buildTree sizedTexts twoEntries).ok_iff.2
    (List.head?_eq_none_iff.1 (by decide +kernel))
  obtain ⟨listed, positive, finite, _⟩ :=
    text_is_infinite_in_infinite_font_alone sizedTexts twoEntries built
  have fonts : sizedTexts.fonts twoEntries =
      [some "DejaVu Sans Bold 24", some "DejaVu Sans Bold", some "Sans 2e1", some "Sans nan"] := by
    decide +kernel
  rw [fonts] at finite
  have large : sizeIn (some "DejaVu Sans Bold 24") = 24 := by decide +kernel
  have selected : sizeIn (some "Sans 2e1") = 20 := by decide +kernel
  refine ⟨tree, built, (listed 24).2 ⟨_, ?_, large⟩, (listed 20).2 ⟨_, ?_, selected⟩, ?_⟩
  · rw [fonts]
    exact List.mem_cons_self
  · rw [fonts]
    decide
  · intro id size shown
    refine ⟨(positive id size shown).1, finite.2 ?_ id size shown⟩
    intro font among
    simp only [List.mem_cons, Option.some.injEq, List.not_mem_nil, or_false] at among
    rcases among with rfl | rfl | rfl | rfl <;> decide +kernel

/-- A label in a font whose name ends in the word for infinity. -/
def boundlessLabel : Theme :=
  ⟨[], [.mk "label" [⟨"font", .string "Sans inf", ⟨0, 0⟩⟩] [] ⟨0, 0⟩]⟩

theorem boundlessLabel_is_infinite :
    ∃ tree, (buildTree boundlessLabel twoEntries).value = .ok tree ∧
      ∃ id size, tree.ShowsText id size ∧ size = 1 / 0 ∧ isFinite size = false := by
  obtain ⟨tree, built⟩ := (settles_buildTree boundlessLabel twoEntries).ok_iff.2
    (List.head?_eq_none_iff.1 (by decide +kernel))
  have infinite : sizeIn (some "Sans inf") = 1 / 0 := by decide +kernel
  have font : some "Sans inf" ∈ boundlessLabel.fonts twoEntries := by decide +kernel
  obtain ⟨id, shown⟩ := (showsText_iff built (1 / 0)).2 ⟨_, font, infinite⟩
  exact ⟨tree, built, id, _, shown, rfl, infinite_not_finite⟩

end BootTheme
