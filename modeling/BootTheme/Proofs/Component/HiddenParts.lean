import BootTheme.Proofs.Component.Building
import BootTheme.Proofs.Theme.Nesting

/-!
# Hidden parts of a theme have no effect

A component that is not visible or of no kind that can be drawn is hidden with all that is inside,
and so is whatever stands inside a component other than a canvas. A theme without its hidden parts
becomes the same boxes, or fails for the same reason, and is painted alike from the same images.
-/

namespace BootTheme

/-- The kinds of components that can be drawn. -/
def drawnKinds : List String := ["boot_menu", "label", "image", "canvas"]

namespace Component

/-- A component that is visible and can be drawn, and holds others only if it is a canvas. -/
structure Bare (component : Component) : Prop where
  visible : isSet component.properties "visible" = true
  kind : component.kind ∈ drawnKinds
  children : component.kind ≠ "canvas" → component.children = []

mutual

/-- What is left of a component without its hidden parts, if it is not hidden itself. -/
def pruned : Component → Option Component
  | .mk kind properties children span =>
      if isSet properties "visible" then
        if kind = "canvas" then some (.mk kind properties (prunedOf children) span)
        else if kind ∈ drawnKinds then some (.mk kind properties [] span)
        else none
      else none

/-- What is left of components. -/
def prunedOf : List Component → List Component
  | [] => []
  | component :: rest => component.pruned.toList ++ prunedOf rest

end

/-! ## Nothing hidden is left -/

mutual

theorem bare_pruned : ∀ (component : Component) {left : Component},
    Holds component.pruned.toList left → left.Bare
  | .mk kind properties children span, left, holds => by
      rw [pruned] at holds
      split at holds
      · next visible =>
          split at holds
          · next isCanvas =>
              have canvas : Bare (.mk kind properties (prunedOf children) span) := {
                visible := visible
                kind := by
                  change kind ∈ drawnKinds
                  rw [isCanvas]
                  decide
                children := fun other => absurd isCanvas other }
              cases holds with
              | here among =>
                  cases List.mem_singleton.1 among
                  exact canvas
              | inside among holds =>
                  cases List.mem_singleton.1 among
                  exact bare_prunedOf children holds
          · split at holds
            · next drawn =>
                cases holds with
                | here among =>
                    cases List.mem_singleton.1 among
                    exact ⟨visible, drawn, fun _ => rfl⟩
                | inside among holds =>
                    cases List.mem_singleton.1 among
                    exact absurd holds not_holds_nil
            · exact absurd holds not_holds_nil
      · exact absurd holds not_holds_nil

theorem bare_prunedOf : ∀ (components : List Component) {left : Component},
    Holds (prunedOf components) left → left.Bare
  | [], left, holds => absurd holds not_holds_nil
  | component :: rest, left, holds => by
      rw [prunedOf] at holds
      rcases holds.of_append with first | others
      · exact bare_pruned component first
      · exact bare_prunedOf rest others

end

mutual

/-- A bare component is left as it is if all inside are bare. -/
theorem pruned_of_bare : ∀ component : Component, component.Bare →
    (∀ inner, Holds component.children inner → inner.Bare) → component.pruned = some component
  | .mk kind properties children span, bare, inside => by
      have visible : isSet properties "visible" = true := bare.visible
      rw [pruned, if_pos visible]
      by_cases isCanvas : kind = "canvas"
      · rw [if_pos isCanvas, prunedOf_of_bare children inside]
      · have drawn : kind ∈ drawnKinds := bare.kind
        have empty : children = [] := bare.children isCanvas
        rw [if_neg isCanvas, if_pos drawn, empty]

theorem prunedOf_of_bare : ∀ components : List Component,
    (∀ inner, Holds components inner → inner.Bare) → prunedOf components = components
  | [], _ => by rw [prunedOf]
  | component :: rest, bare => by
      have first := pruned_of_bare component (bare component (.here List.mem_cons_self))
        fun inner holds => bare inner (.inside List.mem_cons_self holds)
      have others := prunedOf_of_bare rest fun inner holds => by
        cases holds with
        | here among => exact bare inner (.here (List.mem_cons_of_mem _ among))
        | inside among holds => exact bare inner (.inside (List.mem_cons_of_mem _ among) holds)
      rw [prunedOf, first, others]
      rfl

end

end Component

open Component (Holds Bare pruned prunedOf)

/-- A theme without its hidden parts. -/
def Theme.pruned (theme : Theme) : Theme := ⟨theme.properties, prunedOf theme.components⟩

/-! ## What is left becomes the same boxes -/

variable {settings : Settings} {parent : Nat} {tree : BoxTree Float}

theorem value_addComponents_append (first second : List Component) :
    (addComponents settings parent tree (first ++ second)).value =
      (addComponents settings parent tree first).value >>= fun next =>
        (addComponents settings parent next second).value := by
  induction first generalizing tree with
  | nil => rfl
  | cons component rest ih =>
      rw [List.cons_append, addComponents, addComponents, next_value, next_value, bind_assoc]
      exact bind_congr fun next => ih

theorem value_addComponents_singleton (component : Component) :
    (addComponents settings parent tree [component]).value =
      (addComponent settings parent tree component).value := by
  rw [addComponents, next_value]
  exact bind_pure _

/-- Only a canvas looks at what is inside. -/
theorem addComponent_of_ne_canvas {kind : String} (other : kind ≠ "canvas")
    (properties : List Property) (children : List Component) (span : Span) :
    addComponent settings parent tree (.mk kind properties children span) =
      addComponent settings parent tree (.mk kind properties [] span) := by
  unfold addComponent
  split
  · rfl
  · rfl
  · rfl
  · exact absurd rfl other
  · rfl

/-- A component of another kind becomes no box. -/
theorem value_addComponent_of_not_drawn {kind : String} (other : kind ∉ drawnKinds)
    (properties : List Property) (children : List Component) (span : Span) :
    (addComponent settings parent tree (.mk kind properties children span)).value = .ok tree := by
  unfold addComponent
  rw [Noted.bind_value]
  split
  · split
    · exact absurd (by decide) other
    · exact absurd (by decide) other
    · exact absurd (by decide) other
    · exact absurd (by decide) other
    · rfl
  · rfl

mutual

/-- What is left of a component becomes the same boxes. -/
theorem value_pruned (settings : Settings) : ∀ (component : Component) (parent : Nat)
    (tree : BoxTree Float),
    (addComponents settings parent tree component.pruned.toList).value =
      (addComponent settings parent tree component).value
  | .mk kind properties children span, parent, tree => by
      rw [pruned]
      by_cases visible : isSet properties "visible" = true
      · rw [if_pos visible]
        by_cases isCanvas : kind = "canvas"
        · subst isCanvas
          rw [if_pos rfl]
          refine (value_addComponents_singleton _).trans ?_
          unfold addComponent
          rw [Noted.bind_value, Noted.bind_value, visible_value, if_pos visible, if_pos visible]
          exact value_prunedOf settings children _ _
        · rw [if_neg isCanvas, addComponent_of_ne_canvas isCanvas]
          by_cases drawn : kind ∈ drawnKinds
          · rw [if_pos drawn]
            exact value_addComponents_singleton _
          · rw [if_neg drawn, value_addComponent_of_not_drawn drawn]
            rfl
      · rw [if_neg visible]
        unfold addComponent
        rw [Noted.bind_value, visible_value, if_neg visible]
        rfl

/-- What is left of components becomes the same boxes. -/
theorem value_prunedOf (settings : Settings) : ∀ (components : List Component) (parent : Nat)
    (tree : BoxTree Float),
    (addComponents settings parent tree (prunedOf components)).value =
      (addComponents settings parent tree components).value
  | [], parent, tree => rfl
  | component :: rest, parent, tree => by
      rw [prunedOf, value_addComponents_append, value_pruned settings component, addComponents,
        next_value]
      exact bind_congr fun next => value_prunedOf settings rest parent next

end

/-- A display list depends on the boxes that a theme becomes. -/
theorem value_displayList_congr {first second : Theme}
    (same : (buildTree first settings).value = (buildTree second settings).value) (files : Files)
    (cache : ImageCache) :
    (displayList first settings files cache).value =
      (displayList second settings files cache).value := by
  unfold displayList
  rw [Noted.bind_value, Noted.bind_value, same]

/-- Without its hidden parts, a theme has nothing but visible components of kinds that can be
drawn, with others inside canvases only; a theme that has nothing else is left as it is. It becomes
the same boxes or fails for the same reason, and gives the same display list and the same cache. -/
theorem hidden_parts_have_no_effect (theme : Theme) (settings : Settings) :
    (∀ component, Holds theme.pruned.components component → component.Bare) ∧
    ((∀ component, Holds theme.components component → component.Bare) →
      theme.pruned = theme) ∧
    (buildTree theme.pruned settings).value = (buildTree theme settings).value ∧
    ∀ files cache, (displayList theme.pruned settings files cache).value =
      (displayList theme settings files cache).value := by
  have same : (buildTree theme.pruned settings).value = (buildTree theme settings).value := by
    unfold buildTree
    simp only [Noted.bind_value]
    exact value_prunedOf settings theme.components 0 _
  refine ⟨fun component => Component.bare_prunedOf theme.components, ?_, same,
    value_displayList_congr same⟩
  intro bare
  unfold Theme.pruned
  rw [Component.prunedOf_of_bare theme.components bare]

/-- A label with a component inside beside what is hidden in a canvas, and a hidden canvas with a
menu that could not be built. -/
def hiddenParts : Theme :=
  ⟨[], [
    .mk "canvas" [] [
      .mk "boot_menu" [⟨"visible", .bool false, ⟨0, 0⟩⟩] [] ⟨0, 0⟩,
      .mk "label" [⟨"text", .string "hello", ⟨0, 0⟩⟩] [.mk "label" [] [] ⟨0, 0⟩] ⟨0, 0⟩,
      .mk "progress_bar" [] [.mk "label" [] [] ⟨0, 0⟩] ⟨0, 0⟩] ⟨0, 0⟩,
    .mk "canvas" [⟨"visible", .bool false, ⟨0, 0⟩⟩] [
      .mk "boot_menu" [⟨"item_height", .length (.relative 9), ⟨0, 0⟩⟩] [] ⟨0, 0⟩] ⟨0, 0⟩]⟩

/-- The same label and canvas alone. -/
def shownParts : Theme :=
  ⟨[], [.mk "canvas" [] [
    .mk "label" [⟨"text", .string "hello", ⟨0, 0⟩⟩] [] ⟨0, 0⟩] ⟨0, 0⟩]⟩

theorem hiddenParts_become_shownParts :
    hiddenParts.pruned = shownParts ∧ shownParts.pruned = shownParts ∧
      (buildTree shownParts {}).value = (buildTree hiddenParts {}).value ∧
      ∀ files cache, (displayList shownParts {} files cache).value =
        (displayList hiddenParts {} files cache).value := by
  have left : hiddenParts.pruned = shownParts := rfl
  obtain ⟨bare, _, built, painted⟩ := hidden_parts_have_no_effect hiddenParts {}
  rw [left] at bare built painted
  exact ⟨left, (hidden_parts_have_no_effect shownParts {}).2.1 bare, built, painted⟩

end BootTheme
