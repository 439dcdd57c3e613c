import BootTheme.Proofs.Theme.Nesting
import BootTheme.Proofs.Theme.ReaderRun
import BootTheme.Proofs.Theme.Stretches

/-!
# Parts of a theme are read alone

The range of a property or a component, at any depth, is a source of its own: read alone it is
this one item, with its bytes counted from the start of the range. Comments and junk inside are
skipped again, and a plus sign behind a percentage is not part of the range.
-/

namespace BootTheme

/-! ## Items with their bytes renumbered -/

variable (move : Nat → Nat)

/-- A property with its bytes renumbered. -/
def Property.moved (property : Property) : Property :=
  { property with span := property.span.moved move }

mutual

/-- A component with its bytes renumbered, at every depth. -/
def Component.moved : Component → Component
  | .mk kind properties children span =>
      .mk kind (properties.map (Property.moved move)) (Component.movedAll children)
        (span.moved move)

/-- Components with their bytes renumbered. -/
def Component.movedAll : List Component → List Component
  | [] => []
  | component :: rest => component.moved :: Component.movedAll rest

end

/-- A leaf with its bytes renumbered. -/
def Leaf.moved {β : Type} (leaf : Leaf β) : Leaf β := ⟨leaf.datum, leaf.span.moved move⟩

/-- An offset with its bytes renumbered. -/
def OffsetPhrase.moved (phrase : OffsetPhrase) : OffsetPhrase :=
  ⟨phrase.sign.moved move, phrase.number.moved move⟩

/-- A length with its bytes renumbered. -/
def LengthPhrase.moved (phrase : LengthPhrase) : LengthPhrase where
  minus := phrase.minus.map (Span.moved move)
  number := phrase.number.moved move
  percent := phrase.percent.map fun (span, offset) =>
    (span.moved move, offset.map (OffsetPhrase.moved move))

/-- A value with its bytes renumbered. -/
def ValuePhrase.moved : ValuePhrase → ValuePhrase
  | string text => .string (text.moved move)
  | word name => .word (name.moved move)
  | bool value => .bool (value.moved move)
  | length phrase => .length (phrase.moved move)

namespace ItemPhrase

mutual

/-- An item with its bytes renumbered. -/
def moved : ItemPhrase → ItemPhrase
  | property name separator value =>
      .property (name.moved move) (separator.moved move) (value.moved move)
  | component plus kind opening items closing =>
      .component (plus.moved move) (kind.moved move) (opening.moved move) (movedAll items)
        (closing.moved move)

/-- Items with their bytes renumbered. -/
def movedAll : List ItemPhrase → List ItemPhrase
  | [] => []
  | item :: rest => item.moved :: movedAll rest

end

end ItemPhrase

namespace LengthPhrase

theorem tokens_moved (phrase : LengthPhrase) :
    (phrase.moved move).tokens = phrase.tokens.map (Located.moved move) := by
  obtain ⟨minus, number, percent⟩ := phrase
  rcases minus with _ | minus <;> rcases percent with _ | ⟨span, _ | offset⟩ <;> rfl

theorem size_moved (phrase : LengthPhrase) : (phrase.moved move).size = phrase.size := by
  obtain ⟨minus, number, percent⟩ := phrase
  rcases minus with _ | minus <;> rcases percent with _ | ⟨span, _ | offset⟩ <;> rfl

theorem stop_moved (phrase : LengthPhrase) : (phrase.moved move).stop = move phrase.stop := by
  obtain ⟨minus, number, percent⟩ := phrase
  rcases percent with _ | ⟨span, _ | offset⟩ <;> rfl

end LengthPhrase

namespace ValuePhrase

theorem tokens_moved (phrase : ValuePhrase) :
    (phrase.moved move).tokens = phrase.tokens.map (Located.moved move) := by
  cases phrase with
  | length phrase => exact phrase.tokens_moved move
  | _ => rfl

theorem value_moved (phrase : ValuePhrase) : (phrase.moved move).value = phrase.value := by
  cases phrase with
  | length phrase => exact congrArg Value.length (phrase.size_moved move)
  | _ => rfl

theorem stop_moved (phrase : ValuePhrase) : (phrase.moved move).stop = move phrase.stop := by
  cases phrase with
  | length phrase => exact phrase.stop_moved move
  | _ => rfl

end ValuePhrase

namespace ItemPhrase

mutual

theorem tokens_moved : ∀ item : ItemPhrase,
    (item.moved move).tokens = item.tokens.map (Located.moved move)
  | property name separator value => by
      rw [moved, tokens, tokens, value.tokens_moved]
      rfl
  | component plus kind opening items closing => by
      rw [moved, tokens, tokens, spell_moved items, List.map_cons, List.map_cons, List.map_cons,
        List.map_append]
      rfl

/-- Renumbered items are spelled by renumbered tokens. -/
theorem spell_moved : ∀ items : List ItemPhrase,
    spell (movedAll move items) = (spell items).map (Located.moved move)
  | [] => rfl
  | item :: rest => by
      rw [movedAll, spell, spell, List.map_append, tokens_moved item, spell_moved rest]

end

theorem property?_moved (item : ItemPhrase) :
    (item.moved move).property? = item.property?.map (Property.moved move) := by
  cases item with
  | property name separator value =>
      rw [moved, property?, property?, value.value_moved, value.stop_moved]
      rfl
  | component plus kind opening items closing =>
      rw [moved]
      rfl

theorem properties_moved (items : List ItemPhrase) :
    properties (movedAll move items) = (properties items).map (Property.moved move) := by
  induction items with
  | nil => rfl
  | cons item rest ih =>
      unfold properties at ih ⊢
      rw [movedAll, List.filterMap_cons, List.filterMap_cons, property?_moved, ih]
      cases item.property? with
      | none => rfl
      | some property => rfl

mutual

theorem component?_moved : ∀ item : ItemPhrase,
    (item.moved move).component? = item.component?.map (Component.moved move)
  | property name separator value => by
      rw [moved, component?, component?]
      rfl
  | component plus kind opening items closing => by
      rw [moved, component?, component?, properties_moved, components_moved items, Option.map_some,
        Component.moved]
      rfl

/-- Renumbered items denote renumbered components. -/
theorem components_moved : ∀ items : List ItemPhrase,
    components (movedAll move items) = Component.movedAll move (components items)
  | [] => rfl
  | item :: rest => by
      rw [movedAll, components, components, component?_moved item, components_moved rest]
      cases item.component? with
      | none => rfl
      | some component => rfl

end

end ItemPhrase

/-! ## Ranges of a source -/

/-- A range of a source is not empty, lies between characters, and read alone is a theme. -/
structure Delimits (source : String) (span : Span) (alone : Theme) : Prop where
  nonempty : span.start < span.stop
  start : String.Pos.Raw.IsValid source ⟨span.start⟩
  stop : String.Pos.Raw.IsValid source ⟨span.stop⟩
  parsed : parseTheme (span.slice source) = .ok alone

namespace ItemPhrase

variable {items : List ItemPhrase} {item : ItemPhrase} {source : String}

/-- The tokens of a source are in order. -/
theorem inOrder_lex (source : String) : InOrder (lex source).tokens where
  nonempty located among := by
    obtain ⟨text, after, stands, formed, -⟩ := stands_of_mem_tokens among
    exact stands.start_lt_stop formed.ne_nil
  apart := pairwise_tokensOf (pairwise_locate 0 (pieces source))

/-- The range of an item at any depth holds this item alone. -/
theorem delimits_of_within (spelled : spell items = (lex source).tokens)
    (within : Within items item) :
    Delimits source item.span (theme [item.moved (· - item.span.start)]) := by
  have inOrder : InOrder item.tokens := inOrder_of_within (spelled ▸ inOrder_lex source) within
  obtain ⟨before, after, split⟩ := within.spell
  obtain ⟨first, between, last, shape, ends⟩ := item.exists_ends
  have lexed : (lex source).tokens = before ++ first :: (between ++ last :: after) := by
    rw [← spelled, split, shape]
    simp only [List.cons_append, List.append_assoc, List.nil_append]
  obtain ⟨text, behind, stands, tokens⟩ := tokens_lex_slice lexed
  obtain ⟨start, stop⟩ := stands.isValid
  rw [ends]
  refine ⟨?_, start, stop, ?_⟩
  · rw [shape] at inOrder
    have firstNonempty := inOrder.nonempty first (by simp)
    have lastNonempty := inOrder.nonempty last (by simp)
    have apart := (List.pairwise_cons.1 inOrder.apart).1 last (by simp)
    dsimp only
    omega
  · rw [stands.slice]
    refine (readTheme_eq_ok_iff _ _ _).2 ⟨[item.moved _], ?_, rfl⟩
    rw [spell_singleton, tokens_moved, shape, tokens]

theorem delimits_property {property : Property} (spelled : spell items = (lex source).tokens)
    (within : Within items item) (denoted : item.property? = some property) :
    Delimits source property.span ⟨[property.moved (· - property.span.start)], []⟩ := by
  have moved : (item.moved (· - item.span.start)).property? = _ :=
    (property?_moved _ item).trans (congrArg _ denoted)
  have alone := delimits_of_within spelled within
  rw [theme_of_property? moved, ← span_of_property? denoted] at alone
  exact alone

theorem delimits_component {component : Component} (spelled : spell items = (lex source).tokens)
    (within : Within items item) (denoted : item.component? = some component) :
    Delimits source component.span ⟨[], [component.moved (· - component.span.start)]⟩ := by
  have moved : (item.moved (· - item.span.start)).component? = _ :=
    (component?_moved _ item).trans (congrArg _ denoted)
  have alone := delimits_of_within spelled within
  rw [theme_of_component? moved, ← span_of_component? denoted] at alone
  exact alone

end ItemPhrase

open ItemPhrase

/-- Every component of a theme that was read, at any depth, and every property of the theme or of
such a component stands at a range of the source that is read alone as just this item, with its
bytes counted from the start of the range. On every level properties and components are in order
and do not overlap, and those of a component lie inside its range. -/
theorem parts_are_read_alone {source : String} {theme : Theme}
    (parsed : parseTheme source = .ok theme) :
    (∀ component, Component.Holds theme.components component →
      Delimits source component.span ⟨[], [component.moved (· - component.span.start)]⟩) ∧
    (∀ property, (property ∈ theme.properties ∨
        ∃ component, Component.Holds theme.components component ∧
          property ∈ component.properties) →
      Delimits source property.span ⟨[property.moved (· - property.span.start)], []⟩) ∧
    Arranged theme.properties theme.components ∧
    ∀ component, Component.Holds theme.components component →
      Arranged component.properties component.children ∧
      (∀ property ∈ component.properties, property.span.Inside component.span) ∧
      ∀ child ∈ component.children, child.span.Inside component.span := by
  obtain ⟨items, spelled, rfl⟩ := (readTheme_eq_ok_iff _ _ _).1 parsed
  have inOrder : InOrder (spell items) := spelled ▸ inOrder_lex source
  refine ⟨?_, ?_, arranged_of_inOrder inOrder, ?_⟩
  · intro component holds
    obtain ⟨item, within, denoted⟩ := exists_item_of_holds holds
    exact delimits_component spelled within denoted
  · rintro property (among | ⟨component, holds, among⟩)
    · obtain ⟨item, here, denoted⟩ := List.mem_filterMap.1 among
      exact delimits_property spelled (.here here) denoted
    · obtain ⟨item, within, denoted⟩ := exists_item_of_mem holds among
      exact delimits_property spelled within denoted
  · intro component holds
    obtain ⟨item, within, denoted⟩ := exists_item_of_holds holds
    exact arranged_of_component? (inOrder_of_within inOrder within) denoted

/-- A component behind a percentage, with a comment and a character of no token inside. -/
def junkInside : String := "ä a = 50% + b \x7b # ö \x7d\n  c: 2%+4 ; \x7d"

/-- The items of this source. -/
def junkInsideItems : List ItemPhrase :=
  [.property ⟨"a", 3, 4⟩ ⟨.equals, 5, 6⟩ (.length ⟨none, ⟨50, 7, 9⟩, some (⟨9, 10⟩, none)⟩),
    .component ⟨11, 12⟩ ⟨"b", 13, 14⟩ ⟨15, 16⟩
      [.property ⟨"c", 26, 27⟩ ⟨.colon, 27, 28⟩
        (.length ⟨none, ⟨2, 29, 30⟩, some (⟨30, 31⟩, some ⟨⟨.plus, 31, 32⟩, ⟨4, 32, 33⟩⟩)⟩)]
      ⟨36, 37⟩]

theorem junkInside_is_read_alone :
    parseTheme junkInside = .ok (theme junkInsideItems) ∧
    (⟨3, 10⟩ : Span).slice junkInside = "a = 50%" ∧
    parseTheme "a = 50%" = .ok ⟨[⟨"a", .length (.relative 50), ⟨0, 7⟩⟩], []⟩ ∧
    (⟨11, 37⟩ : Span).slice junkInside = "+ b \x7b # ö \x7d\n  c: 2%+4 ; \x7d" ∧
    parseTheme "+ b \x7b # ö \x7d\n  c: 2%+4 ; \x7d" =
      .ok ⟨[], [.mk "b" [⟨"c", .length (.combined 2 .plus 4), ⟨15, 22⟩⟩] [] ⟨0, 26⟩]⟩ := by
  have spelled : spell junkInsideItems = (lex junkInside).tokens := by decide +kernel
  have parsed : parseTheme junkInside = .ok (theme junkInsideItems) :=
    (readTheme_eq_ok_iff _ _ _).2 ⟨junkInsideItems, spelled, rfl⟩
  obtain ⟨components, properties, -, -⟩ := parts_are_read_alone parsed
  have property := (properties _ (.inl List.mem_cons_self)).parsed
  have component := (components _ (.here List.mem_cons_self)).parsed
  have slice : (⟨3, 10⟩ : Span).slice junkInside = "a = 50%" := by decide +kernel
  have sliceToo : (⟨11, 37⟩ : Span).slice junkInside = "+ b \x7b # ö \x7d\n  c: 2%+4 ; \x7d" := by
    decide +kernel
  exact ⟨parsed, slice, slice ▸ property, sliceToo, sliceToo ▸ component⟩

end BootTheme
