import BootTheme.Component.Tree

/-!
# Building says nothing about image files

The boxes of a theme are built without a look at any image, so no warning of the building is
about an image that cannot be read.
-/

namespace BootTheme

/-- Whether a warning is about an image file that cannot be read. -/
def Warning.isUnreadable : Warning → Bool
  | .unreadableImage _ => true
  | _ => false

/-- An operation without warnings about image files. -/
def Noted.Quiet {α : Type} (noted : Noted α) : Prop :=
  noted.warnings.filter Warning.isUnreadable = []

namespace Noted

variable {α β : Type}

theorem quiet_plain (value : α) : (Noted.plain value).Quiet := rfl

theorem quiet_pure (value : α) : (pure value : Noted α).Quiet := rfl

theorem quiet_single (value : α) {warning : Warning} (other : warning.isUnreadable = false) :
    (⟨value, [warning]⟩ : Noted α).Quiet := by
  rw [Quiet, List.filter_cons_of_neg (by rw [other]; exact Bool.false_ne_true)]
  rfl

theorem Quiet.bind {first : Noted α} {next : α → Noted β} (quiet : first.Quiet)
    (later : ∀ value, (next value).Quiet) : (first >>= next).Quiet := by
  rw [Quiet, bind_warnings, List.filter_append, quiet, later]
  rfl

end Noted

open Noted

namespace Properties

theorem quiet_typed {α : Type} (properties : Properties) (name wanted : String)
    (select : Value → Option α) : (properties.typed name wanted select).Quiet := by
  unfold typed
  split
  · exact quiet_plain none
  · split
    · exact quiet_plain _
    · exact quiet_single _ rfl

theorem quiet_string? (properties : Properties) (name : String) :
    (properties.string? name).Quiet := quiet_typed _ _ _ _

theorem quiet_side (properties : Properties) (name : String) : (properties.side name).Quiet :=
  (quiet_typed _ _ _ _).bind fun _ => quiet_pure _

theorem quiet_geometry (properties : Properties) : properties.geometry.Quiet :=
  (quiet_side _ _).bind fun _ => (quiet_side _ _).bind fun _ => (quiet_side _ _).bind fun _ =>
    (quiet_side _ _).bind fun _ => quiet_pure _

theorem quiet_visible (properties : Properties) : properties.visible.Quiet :=
  (quiet_typed _ _ _ _).bind fun _ => quiet_pure _

theorem quiet_boxName (properties : Properties) (kind : String) :
    (properties.boxName kind).Quiet :=
  (quiet_string? _ _).bind fun _ => quiet_pure _

theorem quiet_resolveOr (palette : Palette) (spec : String) (fallback : Color) :
    (palette.resolveOr spec fallback).Quiet := by
  unfold Palette.resolveOr
  split
  · exact quiet_plain _
  · exact quiet_single _ rfl

theorem quiet_color (properties : Properties) (palette : Palette) (name : String) :
    (properties.color palette name).Quiet := by
  refine (quiet_string? _ _).bind fun found => ?_
  cases found with
  | none => exact quiet_pure _
  | some spec => exact quiet_resolveOr _ _ _

theorem quiet_align (properties : Properties) : properties.align.Quiet := by
  refine (quiet_string? _ _).bind fun found => ?_
  cases found with
  | none => exact quiet_pure _
  | some keyword =>
      dsimp only
      split
      · exact quiet_pure _
      · exact quiet_single _ rfl

theorem quiet_labelBox (properties : Properties) (settings : Settings) :
    (properties.labelBox settings).Quiet := by
  refine (quiet_string? _ _).bind fun _ => (quiet_string? _ _).bind fun _ => ?_
  refine (quiet_color _ _ _).bind fun _ => (quiet_string? _ _).bind fun _ => ?_
  refine (quiet_align _).bind fun _ => (quiet_geometry _).bind fun _ => ?_
  exact (quiet_boxName _ _).bind fun _ => quiet_pure _

theorem quiet_imageBox (properties : Properties) : properties.imageBox.Quiet := by
  refine (quiet_geometry _).bind fun _ => (quiet_boxName _ _).bind fun name => ?_
  refine (quiet_string? _ _).bind fun file => ?_
  cases file with
  | none => exact quiet_single _ rfl
  | some file => exact quiet_pure _

theorem quiet_canvasBox (properties : Properties) : properties.canvasBox.Quiet :=
  (quiet_geometry _).bind fun _ => (quiet_boxName _ _).bind fun _ => quiet_pure _

theorem quiet_lengthOr (properties : Properties) (name : String) (pixels : Float) :
    (properties.lengthOr name pixels).Quiet :=
  (quiet_typed _ _ _ _).bind fun _ => quiet_pure _

theorem quiet_stringOr (properties : Properties) (name default : String) :
    (properties.stringOr name default).Quiet :=
  (quiet_string? _ _).bind fun _ => quiet_pure _

theorem quiet_menu (properties : Properties) : properties.menu.Quiet := by
  refine (quiet_stringOr _ _ _).bind fun _ => (quiet_stringOr _ _ _).bind fun _ => ?_
  refine (quiet_geometry _).bind fun _ => (quiet_string? _ _).bind fun _ => ?_
  refine (quiet_stringOr _ _ _).bind fun _ => (quiet_stringOr _ _ _).bind fun _ => ?_
  refine (quiet_string? _ _).bind fun _ => (quiet_string? _ _).bind fun _ => ?_
  refine (quiet_lengthOr _ _ _).bind fun _ => (quiet_lengthOr _ _ _).bind fun _ => ?_
  refine (quiet_lengthOr _ _ _).bind fun _ => (quiet_lengthOr _ _ _).bind fun _ => ?_
  refine (quiet_lengthOr _ _ _).bind fun _ => (quiet_lengthOr _ _ _).bind fun _ => ?_
  refine (quiet_typed _ _ _ _).bind fun _ => (quiet_lengthOr _ _ _).bind fun _ => ?_
  exact (quiet_string? _ _).bind fun _ => (quiet_string? _ _).bind fun _ => quiet_pure _

end Properties

open Properties

namespace Menu

theorem quiet_addEntry (menu : Menu) (sizes : ItemSizes) (settings : Settings) (menuId : Nat)
    (width top : Expr Float) (index : Nat) (entry : MenuEntry) (tree : BoxTree Float) :
    (menu.addEntry sizes settings menuId width top index entry tree).Quiet :=
  (quiet_resolveOr _ _ _).bind fun _ => quiet_pure _

theorem quiet_addEntries (menu : Menu) (sizes : ItemSizes) (settings : Settings) (menuId : Nat)
    (width : Expr Float) (entries : List MenuEntry) (index : Nat) (top : Expr Float)
    (tree : BoxTree Float) :
    (menu.addEntries sizes settings menuId width index top entries tree).Quiet := by
  induction entries generalizing index top tree with
  | nil => exact quiet_plain _
  | cons entry rest ih =>
      exact (menu.quiet_addEntry sizes settings menuId width top index entry tree).bind
        fun _ => ih _ _ _

end Menu

theorem quiet_addMenu (settings : Settings) (parent : Nat) (properties : Properties)
    (tree : BoxTree Float) : (addMenu settings parent properties tree).Quiet := by
  refine (quiet_menu properties).bind fun menu => ?_
  cases menu.sizes with
  | error fault => exact quiet_pure _
  | ok sizes =>
      refine (quiet_boxName _ _).bind fun _ => ?_
      exact (menu.quiet_addEntries _ _ _ _ _ _ _ _).bind fun _ => quiet_pure _

theorem Built.quiet_next {built : Built} {step : BoxTree Float → Built} (quiet : built.Quiet)
    (later : ∀ tree, (step tree).Quiet) : (built.next step).Quiet := by
  refine quiet.bind fun outcome => ?_
  cases outcome with
  | error fault => exact quiet_pure _
  | ok tree => exact later tree

mutual

theorem quiet_addComponent (settings : Settings) : ∀ (component : Component) (parent : Nat)
    (tree : BoxTree Float), (addComponent settings parent tree component).Quiet
  | .mk kind properties children _, parent, tree => by
      unfold addComponent
      refine (quiet_visible _).bind fun visible => ?_
      split
      · split
        · exact quiet_addMenu _ _ _ _
        · exact (quiet_labelBox _ _).bind fun _ => quiet_pure _
        · exact (quiet_imageBox _).bind fun _ => quiet_pure _
        · exact (quiet_canvasBox _).bind fun _ => quiet_addComponents settings children _ _
        · exact quiet_single _ rfl
      · exact quiet_pure _

theorem quiet_addComponents (settings : Settings) : ∀ (components : List Component)
    (parent : Nat) (tree : BoxTree Float), (addComponents settings parent tree components).Quiet
  | [], parent, tree => by
      rw [addComponents]
      exact quiet_pure _
  | component :: rest, parent, tree => by
      rw [addComponents]
      exact Built.quiet_next (quiet_addComponent settings component parent tree)
        fun tree => quiet_addComponents settings rest parent tree

end

theorem quiet_buildTree (theme : Theme) (settings : Settings) :
    (buildTree theme settings).Quiet := by
  refine Quiet.bind ?_ fun tree => Quiet.bind ?_ fun tree => quiet_addComponents _ _ _ _
  · refine (quiet_string? _ _).bind fun found => ?_
    cases found with
    | none => exact quiet_pure _
    | some spec => exact (quiet_resolveOr _ _ _).bind fun _ => quiet_pure _
  · refine (quiet_string? _ _).bind fun found => ?_
    cases found with
    | none => exact quiet_pure _
    | some file => exact quiet_pure _

end BootTheme
