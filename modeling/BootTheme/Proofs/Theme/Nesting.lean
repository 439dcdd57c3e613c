import Mathlib.Data.List.Pairwise
import BootTheme.Proofs.Theme.Grammar

/-!
# Items at any depth

An item of a theme, at any depth, is spelled by tokens that follow each other; its range goes from
the first of them to the last. So the ranges of items of one level lie one behind the other, and
those of inner items lie inside that of the item around them.
-/

namespace BootTheme

namespace Component

/-- Components with one among them or inside them, at any depth. -/
inductive Holds : List Component → Component → Prop where
  | here {components : List Component} {component : Component}
      (among : component ∈ components) : Holds components component
  | inside {components : List Component} {outer component : Component}
      (among : outer ∈ components) (holds : Holds outer.children component) :
      Holds components component

theorem Holds.of_append {first second : List Component} {component : Component}
    (holds : Holds (first ++ second) component) :
    Holds first component ∨ Holds second component := by
  cases holds with
  | here among =>
      rcases List.mem_append.1 among with left | right
      · exact .inl (.here left)
      · exact .inr (.here right)
  | inside among holds =>
      rcases List.mem_append.1 among with left | right
      · exact .inl (.inside left holds)
      · exact .inr (.inside right holds)

theorem not_holds_nil {component : Component} : ¬ Holds [] component := by
  intro holds
  cases holds with
  | here among => cases among
  | inside among _ => cases among

end Component

namespace ItemPhrase

variable {items inner : List ItemPhrase} {item : ItemPhrase}

/-- Where an item stands. -/
def span : ItemPhrase → Span
  | property name _ value => ⟨name.span.start, value.stop⟩
  | component plus _ _ _ closing => ⟨plus.start, closing.stop⟩

/-- Items with one among them or inside them, at any depth. -/
inductive Within : List ItemPhrase → ItemPhrase → Prop where
  | here {items : List ItemPhrase} {item : ItemPhrase} (among : item ∈ items) : Within items item
  | inside {items inner : List ItemPhrase} {item : ItemPhrase} {plus opening closing : Span}
      {kind : Leaf String} (among : component plus kind opening inner closing ∈ items)
      (within : Within inner item) : Within items item

theorem Within.deeper {plus opening closing : Span} {kind : Leaf String}
    (outer : Within items (component plus kind opening inner closing))
    (within : Within inner item) : Within items item := by
  generalize same : component plus kind opening inner closing = around at outer
  induction outer with
  | here among =>
      rw [← same] at among
      exact .inside among within
  | inside among _ ih => exact .inside among (ih same)

/-! ## The tokens of an item -/

theorem spell_of_mem (among : item ∈ items) :
    ∃ before after, spell items = before ++ (item.tokens ++ after) := by
  obtain ⟨front, back, rfl⟩ := List.append_of_mem among
  exact ⟨spell front, spell back, by rw [spell_append, spell]⟩

/-- The tokens of an item at any depth follow each other. -/
theorem Within.spell (within : Within items item) :
    ∃ before after, ItemPhrase.spell items = before ++ (item.tokens ++ after) := by
  induction within with
  | here among => exact spell_of_mem among
  | @inside items inner item plus opening closing kind among _ ih =>
      obtain ⟨front, back, outer⟩ := spell_of_mem among
      obtain ⟨before, after, deep⟩ := ih
      refine ⟨front ++ ⟨.plus, plus⟩ :: kind.as .ident :: ⟨.braceOpen, opening⟩ :: before,
        after ++ ⟨.braceClose, closing⟩ :: back, ?_⟩
      rw [outer, tokens, deep]
      simp only [List.append_assoc, List.cons_append, List.nil_append]

end ItemPhrase

/-- A length ends with its last token. -/
theorem LengthPhrase.exists_last (phrase : LengthPhrase) :
    ∃ before last, phrase.tokens = before ++ [last] ∧ phrase.stop = last.span.stop := by
  obtain ⟨minus, number, percent⟩ := phrase
  obtain ⟨before, last, shape, stop⟩ : ∃ before last, number.as .number :: tail percent =
      before ++ [last] ∧ LengthPhrase.stop ⟨minus, number, percent⟩ = last.span.stop := by
    rcases percent with _ | ⟨span, _ | offset⟩
    · exact ⟨[], _, rfl, rfl⟩
    · exact ⟨[_], _, rfl, rfl⟩
    · exact ⟨[_, _, _], _, rfl, rfl⟩
  refine ⟨(minus.map fun span => ⟨.minus, span⟩).toList ++ before, last, ?_, stop⟩
  rw [tokens, shape, List.append_assoc]

/-- A value ends with its last token. -/
theorem ValuePhrase.exists_last (phrase : ValuePhrase) :
    ∃ before last, phrase.tokens = before ++ [last] ∧ phrase.stop = last.span.stop := by
  cases phrase with
  | length phrase => exact phrase.exists_last
  | _ => exact ⟨[], _, rfl, rfl⟩

namespace ItemPhrase

variable {items inner : List ItemPhrase} {item : ItemPhrase}

/-- An item stands from the start of its first token to the end of its last one. -/
theorem exists_ends (item : ItemPhrase) :
    ∃ first between last, item.tokens = first :: (between ++ [last]) ∧
      item.span = ⟨first.span.start, last.span.stop⟩ := by
  cases item with
  | property name separator value =>
      obtain ⟨before, last, shape, stop⟩ := value.exists_last
      refine ⟨name.as .ident, separator.as Separator.token :: before, last, ?_, ?_⟩
      · rw [tokens, shape]
        rfl
      · rw [span, stop]
        rfl
  | component plus kind opening inner closing =>
      refine ⟨⟨.plus, plus⟩, kind.as .ident :: ⟨.braceOpen, opening⟩ :: spell inner,
        ⟨.braceClose, closing⟩, ?_, rfl⟩
      rw [tokens]
      rfl

/-! ## What an item denotes -/

theorem span_of_property? {property : Property} (denoted : item.property? = some property) :
    property.span = item.span := by
  cases item with
  | property name separator value =>
      cases denoted
      rfl
  | component plus kind opening inner closing => cases denoted

theorem span_of_component? {component : Component} (denoted : item.component? = some component) :
    component.span = item.span := by
  cases item with
  | property name separator value =>
      rw [component?] at denoted
      cases denoted
  | component plus kind opening inner closing =>
      rw [component?] at denoted
      cases denoted
      rfl

theorem theme_of_property? {property : Property} (denoted : item.property? = some property) :
    theme [item] = ⟨[property], []⟩ := by
  cases item with
  | property name separator value =>
      cases denoted
      rfl
  | component plus kind opening inner closing => cases denoted

theorem theme_of_component? {component : Component}
    (denoted : item.component? = some component) : theme [item] = ⟨[], [component]⟩ := by
  cases item with
  | property name separator value =>
      rw [component?] at denoted
      cases denoted
  | component plus kind opening inner closing =>
      rw [component?] at denoted
      cases denoted
      rfl

/-- A component at any depth is denoted by an item at some depth. -/
theorem exists_item_of_holds {component : Component}
    (holds : Component.Holds (components items) component) :
    ∃ item, Within items item ∧ item.component? = some component := by
  generalize same : components items = all at holds
  induction holds generalizing items with
  | here among =>
      rw [← same, components_eq_filterMap] at among
      obtain ⟨item, here, denoted⟩ := List.mem_filterMap.1 among
      exact ⟨item, .here here, denoted⟩
  | inside among _ ih =>
      rw [← same, components_eq_filterMap] at among
      obtain ⟨outer, here, denoted⟩ := List.mem_filterMap.1 among
      cases outer with
      | property name separator value =>
          rw [component?] at denoted
          cases denoted
      | component plus kind opening inner closing =>
          rw [component?] at denoted
          cases denoted
          obtain ⟨item, within, found⟩ := ih rfl
          exact ⟨item, .inside here within, found⟩

/-- A property at any depth is denoted by an item at some depth. -/
theorem exists_item_of_mem {component : Component} {property : Property}
    (holds : Component.Holds (components items) component)
    (among : property ∈ component.properties) :
    ∃ item, Within items item ∧ item.property? = some property := by
  obtain ⟨outer, within, denoted⟩ := exists_item_of_holds holds
  cases outer with
  | property name separator value =>
      rw [component?] at denoted
      cases denoted
  | component plus kind opening inner closing =>
      rw [component?] at denoted
      cases denoted
      obtain ⟨item, here, found⟩ := List.mem_filterMap.1 among
      exact ⟨item, within.deeper (.here here), found⟩

end ItemPhrase

/-! ## Tokens in order -/

/-- No token is empty, and each ends before the next ones start. -/
structure InOrder (tokens : List Located) : Prop where
  nonempty : ∀ located ∈ tokens, located.span.start < located.span.stop
  apart : tokens.Pairwise fun first second => first.span.stop ≤ second.span.start

theorem InOrder.sublist {tokens fewer : List Located} (inOrder : InOrder tokens)
    (among : fewer.Sublist tokens) : InOrder fewer where
  nonempty located inside := inOrder.nonempty located (among.subset inside)
  apart := inOrder.apart.sublist among

/-- A range that lies inside another one, away from both of its ends. -/
def Span.Inside (inner outer : Span) : Prop := outer.start < inner.start ∧ inner.stop < outer.stop

/-- Two ranges without a byte in common. -/
def Span.Apart (first second : Span) : Prop :=
  first.stop ≤ second.start ∨ second.stop ≤ first.start

/-- Properties and components that were read from one level: each list is in order, and no property
overlaps a component. -/
structure Arranged (properties : List Property) (components : List Component) : Prop where
  propertiesOrdered : properties.Pairwise fun first second => first.span.stop ≤ second.span.start
  componentsOrdered : components.Pairwise fun first second => first.span.stop ≤ second.span.start
  apart : ∀ property ∈ properties, ∀ component ∈ components, property.span.Apart component.span

namespace ItemPhrase

variable {items inner : List ItemPhrase} {item : ItemPhrase}

theorem inOrder_of_within (inOrder : InOrder (spell items)) (within : Within items item) :
    InOrder item.tokens := by
  obtain ⟨before, after, split⟩ := within.spell
  rw [split] at inOrder
  exact inOrder.sublist ((List.sublist_append_left _ _).trans (List.sublist_append_right _ _))

/-- The ranges of items of one level are in order. -/
theorem pairwise_of_inOrder (inOrder : InOrder (spell items)) :
    items.Pairwise fun first second => first.span.stop ≤ second.span.start := by
  induction items with
  | nil => exact .nil
  | cons item rest ih =>
      rw [spell] at inOrder
      refine .cons ?_ (ih (inOrder.sublist (List.sublist_append_right _ _)))
      intro later among
      obtain ⟨_, _, last, shape, ends⟩ := item.exists_ends
      obtain ⟨first, _, _, shapeToo, endsToo⟩ := later.exists_ends
      obtain ⟨before, after, split⟩ := spell_of_mem among
      rw [ends, endsToo]
      refine (List.pairwise_append.1 inOrder.apart).2.2 last ?_ first ?_
      · rw [shape]
        exact List.mem_cons_of_mem _ (List.mem_append_right _ List.mem_cons_self)
      · rw [split, shapeToo]
        exact List.mem_append_right _ List.mem_cons_self

/-- The range of an item inside a component lies inside that of the component. -/
theorem inside_of_inOrder {plus opening closing : Span} {kind : Leaf String}
    (inOrder : InOrder (component plus kind opening inner closing).tokens)
    (among : item ∈ inner) :
    item.span.Inside (component plus kind opening inner closing).span := by
  obtain ⟨first, between, last, shape, ends⟩ := item.exists_ends
  obtain ⟨before, after, split⟩ := spell_of_mem among
  have firstAmong : first ∈ spell inner := by
    rw [split, shape]
    exact List.mem_append_right _ List.mem_cons_self
  have lastAmong : last ∈ spell inner := by
    rw [split, shape, List.cons_append, List.append_assoc]
    exact List.mem_append_right _ (List.mem_cons_of_mem _
      (List.mem_append_right _ List.mem_cons_self))
  rw [tokens] at inOrder
  obtain ⟨behindPlus, apart⟩ := List.pairwise_cons.1 inOrder.apart
  obtain ⟨-, -, beforeClosing⟩ := List.pairwise_append.1 apart.tail.tail
  have plusNonempty := inOrder.nonempty _ List.mem_cons_self
  have closingNonempty := inOrder.nonempty ⟨.braceClose, closing⟩ (by simp)
  have start := behindPlus first (by simp [firstAmong])
  have stop := beforeClosing last lastAmong _ List.mem_cons_self
  rw [ends]
  exact ⟨Nat.lt_of_lt_of_le plusNonempty start, Nat.lt_of_le_of_lt stop closingNonempty⟩

/-- What items of one level denote is arranged. -/
theorem arranged_of_inOrder (inOrder : InOrder (spell items)) :
    Arranged (properties items) (components items) := by
  have ordered := pairwise_of_inOrder inOrder
  rw [components_eq_filterMap]
  constructor
  case propertiesOrdered =>
    refine ordered.filterMap _ ?_
    intro first second behind left leftDenoted right rightDenoted
    rw [span_of_property? leftDenoted, span_of_property? rightDenoted]
    exact behind
  case componentsOrdered =>
    refine ordered.filterMap _ ?_
    intro first second behind left leftDenoted right rightDenoted
    rw [span_of_component? leftDenoted, span_of_component? rightDenoted]
    exact behind
  case apart =>
    intro property among component amongToo
    obtain ⟨first, here, denoted⟩ := List.mem_filterMap.1 among
    obtain ⟨second, hereToo, denotedToo⟩ := List.mem_filterMap.1 amongToo
    rw [span_of_property? denoted, span_of_component? denotedToo]
    have different : first ≠ second := by
      rintro rfl
      cases first with
      | property name separator value =>
          rw [component?] at denotedToo
          cases denotedToo
      | component plus kind opening inner closing => cases denoted
    have symmetric : Std.Symm fun first second : ItemPhrase => first.span.Apart second.span :=
      ⟨fun _ _ => Or.symm⟩
    have apart : items.Pairwise fun first second => first.span.Apart second.span :=
      ordered.imp fun behind => .inl behind
    exact apart.forall here hereToo different

/-- What the items of a component denote is arranged inside it. -/
theorem arranged_of_component? {outer : Component} (inOrder : InOrder item.tokens)
    (denoted : item.component? = some outer) :
    Arranged outer.properties outer.children ∧
      (∀ property ∈ outer.properties, property.span.Inside outer.span) ∧
      ∀ child ∈ outer.children, child.span.Inside outer.span := by
  cases item with
  | property name separator value =>
      rw [component?] at denoted
      cases denoted
  | component plus kind opening inner closing =>
      rw [component?] at denoted
      cases denoted
      refine ⟨arranged_of_inOrder ?_, ?_, ?_⟩
      · rw [tokens] at inOrder
        refine inOrder.sublist (((List.sublist_append_left _ _).cons _).cons _ |>.cons _)
      · intro property among
        obtain ⟨item, here, denoted⟩ := List.mem_filterMap.1 among
        rw [span_of_property? denoted]
        exact inside_of_inOrder inOrder here
      · intro child among
        change child ∈ components inner at among
        rw [components_eq_filterMap] at among
        obtain ⟨item, here, denoted⟩ := List.mem_filterMap.1 among
        rw [span_of_component? denoted]
        exact inside_of_inOrder inOrder here

end ItemPhrase

end BootTheme
