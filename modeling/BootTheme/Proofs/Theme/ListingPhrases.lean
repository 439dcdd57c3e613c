import BootTheme.Proofs.Number.ReadBack
import BootTheme.Proofs.Theme.ListingTokens

/-!
# The derivation of a listing

A listing whose numbers are finite has a derivation. It spells the tokens of the listing
and denotes the theme, its strings with the escapes they are shown with.
-/

namespace BootTheme

open Piece

/-! ## Phrases -/

/-- What the text of a number is read as behind its sign. -/
def listedSize (value : Float) : Float :=
  match (doubleParts value).magnitude with
  | .finite mantissa exponent => (Decimal.shortest mantissa exponent).value
  | _ => value

/-- The sign in the text of a number. -/
def listedSign (value : Float) : Option Span :=
  if (doubleParts value).negative then some nowhere else none

/-- The derivation of the text of a length. -/
def Length.phrase : Length Float → LengthPhrase
  | absolute pixels => ⟨listedSign pixels, ⟨listedSize pixels, nowhere⟩, none⟩
  | relative percent => ⟨listedSign percent, ⟨listedSize percent, nowhere⟩, some (nowhere, none)⟩
  | combined percent sign offset =>
      ⟨listedSign percent, ⟨listedSize percent, nowhere⟩,
        some (nowhere, some ⟨⟨sign, nowhere⟩, ⟨listedSize offset, nowhere⟩⟩)⟩

/-- The derivation of the text of a value. -/
def Value.phrase : Value → ValuePhrase
  | string text => .string ⟨escaped text, nowhere⟩
  | length size => .length size.phrase
  | bool value => .bool ⟨value, nowhere⟩

/-- A value as it comes back from a listing. -/
def Value.listed : Value → Value
  | string text => string (escaped text)
  | value => value

/-- The derivation of a listed property. -/
def Property.phrase (separator : Separator) (property : Property) : ItemPhrase :=
  .property ⟨property.name, nowhere⟩ ⟨separator, nowhere⟩ property.value.phrase

mutual

/-- The derivation of a listed component. -/
def Component.phrase : Component → ItemPhrase
  | .mk kind properties children _ =>
      .component nowhere ⟨kind, nowhere⟩ nowhere
        (properties.map (Property.phrase .equals) ++ Component.phrasesOf children) nowhere

/-- The derivations of listed components. -/
def Component.phrasesOf : List Component → List ItemPhrase
  | [] => []
  | component :: rest => component.phrase :: Component.phrasesOf rest

end

/-- The derivation of a listing. -/
def Theme.phrases (theme : Theme) : List ItemPhrase :=
  theme.properties.map (Property.phrase .colon) ++ Component.phrasesOf theme.components

/-! ## What the derivation spells -/

/-- A value that a listing gives back: its numbers are finite and its offset has no sign. -/
structure Value.Listable (value : Value) : Prop where
  number : ∀ number ∈ value.numbers, isFinite number = true
  offset : ∀ offset ∈ value.offsets, (doubleParts offset).negative = false

theorem numberTokens_of_finite {value : Float} (finite : isFinite value = true) :
    numberTokens value = signTokens value ++ [.number (listedSize value)] := by
  obtain ⟨mantissa, exponent, size⟩ := magnitude_of_isFinite finite
  unfold numberTokens listedSize
  rw [size]

/-- The sign and the size of the text give the number again. -/
theorem signed_listedSize {value : Float} (finite : isFinite value = true) :
    (if (listedSign value).isSome then -listedSize value else listedSize value) = value := by
  obtain ⟨mantissa, exponent, size⟩ := magnitude_of_isFinite finite
  have same := shortest_value size
  unfold listedSign listedSize
  rw [size]
  split at same
  · next negative =>
      rw [if_pos negative]
      exact same
  · next negative =>
      rw [if_neg negative]
      exact same

theorem map_token_listedSign (value : Float) :
    ((listedSign value).map fun span => (⟨.minus, span⟩ : Located)).toList.map Located.token =
      signTokens value := by
  unfold listedSign signTokens
  split
  · rfl
  · rfl

theorem signTokens_of_nonnegative {value : Float}
    (nonnegative : (doubleParts value).negative = false) : signTokens value = [] := by
  unfold signTokens
  rw [nonnegative]
  rfl

theorem listedSize_of_nonnegative {value : Float} (finite : isFinite value = true)
    (nonnegative : (doubleParts value).negative = false) : listedSize value = value := by
  have same := signed_listedSize finite
  unfold listedSign at same
  rw [nonnegative] at same
  exact same

theorem Length.phrase_spec (size : Length Float) (listable : (Value.length size).Listable) :
    size.phrase.tokens.map Located.token = size.tokens ∧ size.phrase.size = size := by
  cases size with
  | absolute pixels =>
      have finite := listable.number pixels List.mem_cons_self
      constructor
      · rw [Length.tokens, numberTokens_of_finite finite, ← map_token_listedSign]
        exact List.map_append
      · exact congrArg Length.absolute (signed_listedSize finite)
  | relative percent =>
      have finite := listable.number percent List.mem_cons_self
      constructor
      · rw [Length.tokens, numberTokens_of_finite finite, ← map_token_listedSign, List.append_assoc]
        exact List.map_append
      · exact congrArg Length.relative (signed_listedSize finite)
  | combined percent sign offset =>
      have finite := listable.number percent List.mem_cons_self
      have finiteToo := listable.number offset (List.mem_cons_of_mem _ List.mem_cons_self)
      have nonnegative := listable.offset offset List.mem_cons_self
      constructor
      · rw [Length.tokens, numberTokens_of_finite finite, numberTokens_of_finite finiteToo,
          signTokens_of_nonnegative nonnegative, ← map_token_listedSign, List.append_assoc]
        exact List.map_append
      · have first := signed_listedSize finite
        have second := listedSize_of_nonnegative finiteToo nonnegative
        change Length.combined _ sign (listedSize offset) = _
        rw [second]
        exact congrArg (fun number => Length.combined number sign offset) first

theorem Value.phrase_spec (value : Value) (listable : value.Listable) :
    value.phrase.tokens.map Located.token = value.tokens ∧ value.phrase.value = value.listed := by
  cases value with
  | string text => exact ⟨rfl, rfl⟩
  | length size =>
      obtain ⟨tokens, same⟩ := size.phrase_spec listable
      exact ⟨tokens, congrArg Value.length same⟩
  | bool value => exact ⟨rfl, rfl⟩

theorem Property.phrase_spell (separator : Separator) (property : Property)
    (listable : property.value.Listable) :
    (property.phrase separator).tokens.map Located.token = property.tokens separator := by
  rw [Property.phrase, ItemPhrase.tokens, List.map_cons, List.map_cons,
    (property.value.phrase_spec listable).1]
  rfl

theorem spell_properties (separator : Separator) (properties : List Property)
    (listable : ∀ value ∈ properties.map Property.value, value.Listable) :
    (ItemPhrase.spell (properties.map (Property.phrase separator))).map Located.token =
      properties.flatMap (Property.tokens separator) := by
  induction properties with
  | nil => rfl
  | cons property rest ih =>
      rw [List.map_cons, ItemPhrase.spell, List.map_append, List.flatMap_cons,
        property.phrase_spell separator (listable _ List.mem_cons_self),
        ih fun value inside => listable value (List.mem_cons_of_mem _ inside)]

mutual

theorem spell_component : ∀ component : Component, (∀ value ∈ component.values, value.Listable) →
    component.phrase.tokens.map Located.token = component.tokens
  | .mk kind properties children span, listable => by
      rw [Component.values] at listable
      have lines := spell_properties .equals properties fun value inside =>
        listable value (List.mem_append_left _ inside)
      have inner := spell_components children fun value inside =>
        listable value (List.mem_append_right _ inside)
      rw [Component.phrase, ItemPhrase.tokens, Component.tokens, ItemPhrase.spell_append,
        List.map_cons, List.map_cons, List.map_cons, List.map_append, List.map_append, lines, inner,
        List.append_assoc]
      rfl

theorem spell_components : ∀ components : List Component,
    (∀ value ∈ Component.valuesOf components, value.Listable) →
      (ItemPhrase.spell (Component.phrasesOf components)).map Located.token =
        Component.tokensOf components
  | [], _ => rfl
  | component :: rest, listable => by
      rw [Component.valuesOf] at listable
      rw [Component.phrasesOf, ItemPhrase.spell, Component.tokensOf, List.map_append,
        spell_component component fun value inside =>
          listable value (List.mem_append_left _ inside),
        spell_components rest fun value inside =>
          listable value (List.mem_append_right _ inside)]

end

/-- The derivation spells the tokens of the listing. -/
theorem Theme.spell_phrases (theme : Theme) (listable : ∀ value ∈ theme.values, value.Listable) :
    (ItemPhrase.spell theme.phrases).map Located.token = theme.tokens := by
  rw [Theme.values] at listable
  rw [Theme.phrases, Theme.tokens, ItemPhrase.spell_append, List.map_append,
    spell_properties .colon _ fun value inside => listable value (List.mem_append_left _ inside),
    spell_components _ fun value inside => listable value (List.mem_append_right _ inside)]

/-! ## What the derivation denotes -/

theorem components_properties (separator : Separator) (properties : List Property)
    (rest : List ItemPhrase) :
    ItemPhrase.components (properties.map (Property.phrase separator) ++ rest) =
      ItemPhrase.components rest := by
  induction properties with
  | nil => rfl
  | cons property more ih => exact ih

theorem properties_components (components : List Component) :
    ItemPhrase.properties (Component.phrasesOf components) = [] := by
  induction components with
  | nil => rfl
  | cons component rest ih =>
      obtain ⟨kind, properties, children, span⟩ := component
      exact ih

theorem outline_properties (separator : Separator) (properties : List Property)
    (components : List Component)
    (listable : ∀ value ∈ properties.map Property.value, value.Listable) :
    (ItemPhrase.properties (properties.map (Property.phrase separator) ++
      Component.phrasesOf components)).map (Property.outline id) =
        properties.map (Property.outline Value.listed) := by
  rw [ItemPhrase.properties_append, properties_components, List.append_nil]
  induction properties with
  | nil => rfl
  | cons property rest ih =>
      have same := (property.value.phrase_spec (listable _ List.mem_cons_self)).2
      have head : (Property.mk property.name property.value.phrase.value
          ⟨nowhere.start, property.value.phrase.stop⟩).outline id =
          property.outline Value.listed := by
        unfold Property.outline
        rw [same]
        rfl
      rw [List.map_cons, List.map_cons, ← head,
        ← ih fun value inside => listable value (List.mem_cons_of_mem _ inside)]
      rfl

mutual

theorem outline_component : ∀ component : Component,
    (∀ value ∈ component.values, value.Listable) →
      component.phrase.component?.map (Component.outline id) =
        some (component.outline Value.listed)
  | .mk kind properties children span, listable => by
      rw [Component.values] at listable
      have lines := outline_properties .equals properties children fun value inside =>
        listable value (List.mem_append_left _ inside)
      have inner := outline_components children fun value inside =>
        listable value (List.mem_append_right _ inside)
      rw [Component.phrase, ItemPhrase.component?, Option.map_some, Component.outline,
        Component.outline, lines, components_properties, inner]

theorem outline_components : ∀ components : List Component,
    (∀ value ∈ Component.valuesOf components, value.Listable) →
      Component.outlines id (ItemPhrase.components (Component.phrasesOf components)) =
        Component.outlines Value.listed components
  | [], _ => rfl
  | component :: rest, listable => by
      rw [Component.valuesOf] at listable
      have first := outline_component component fun value inside =>
        listable value (List.mem_append_left _ inside)
      have others := outline_components rest fun value inside =>
        listable value (List.mem_append_right _ inside)
      obtain ⟨block, denoted, same⟩ := Option.map_eq_some_iff.1 first
      rw [Component.phrasesOf, ItemPhrase.components, denoted]
      dsimp only
      rw [Component.outlines, Component.outlines, same, others]

end

/-- The derivation denotes the theme with its values as they are listed. -/
theorem Theme.outline_phrases (theme : Theme)
    (listable : ∀ value ∈ theme.values, value.Listable) :
    (ItemPhrase.theme theme.phrases).outline id = theme.outline Value.listed := by
  rw [Theme.values] at listable
  unfold ItemPhrase.theme Theme.outline Theme.phrases
  rw [outline_properties .colon _ _ fun value inside =>
      listable value (List.mem_append_left _ inside),
    components_properties,
    outline_components _ fun value inside => listable value (List.mem_append_right _ inside)]

end BootTheme
