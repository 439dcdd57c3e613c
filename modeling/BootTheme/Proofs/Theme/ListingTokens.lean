import BootTheme.Proofs.Number.Doubles
import BootTheme.Proofs.Theme.Grammar
import BootTheme.Proofs.Theme.Lexing
import BootTheme.Proofs.Theme.Outline

/-!
# Tokens of a listing

What a listing is cut into is written down part by part: strings come back with their
escapes, finite numbers as a sign and a number, and the other numbers as names.
-/

namespace BootTheme

open Piece

/-! ## What each part is cut into -/

/-- The sign in front of a number. -/
def signTokens (value : Float) : List Token :=
  if (doubleParts value).negative then [.minus] else []

/-- The tokens of the text of a number. -/
def numberTokens (value : Float) : List Token :=
  match (doubleParts value).magnitude with
  | .undefined => [.ident "NaN"]
  | .infinite => signTokens value ++ [.ident "inf"]
  | .finite mantissa exponent =>
      signTokens value ++ [.number (Decimal.shortest mantissa exponent).value]

/-- The tokens of the text of a length. -/
def Length.tokens : Length Float → List Token
  | absolute pixels => numberTokens pixels
  | relative percent => numberTokens percent ++ [.percent]
  | combined percent sign offset =>
      numberTokens percent ++ .percent :: sign.token :: numberTokens offset

/-- A string value as it comes back from a listing. -/
def escaped (text : String) : String := String.ofList (quoteChars text.toList)

/-- The tokens of the text of a value. -/
def Value.tokens : Value → List Token
  | string text => [.string (escaped text)]
  | length size => size.tokens
  | bool value => [.bool value]

/-- The tokens of a property. -/
def Property.tokens (separator : Separator) (property : Property) : List Token :=
  .ident property.name :: separator.token :: property.value.tokens

mutual

/-- The tokens of a listed component. -/
def Component.tokens : Component → List Token
  | .mk kind properties children _ =>
      .plus :: .ident kind :: .braceOpen ::
        (properties.flatMap (Property.tokens .equals) ++
          (Component.tokensOf children ++ [.braceClose]))

/-- The tokens of listed components. -/
def Component.tokensOf : List Component → List Token
  | [] => []
  | component :: rest => component.tokens ++ Component.tokensOf rest

end

/-- The tokens of the listing of a theme. -/
def Theme.tokens (theme : Theme) : List Token :=
  theme.properties.flatMap (Property.tokens .colon) ++ Component.tokensOf theme.components

/-! ## Values -/

variable {rest : List Char} {tokens : List Token}

theorem lexes_sign (value : Float) {text : List Char} (lexes : Lexes (text ++ rest) tokens) :
    Lexes ((if (doubleParts value).negative then '-' :: text else text) ++ rest)
      (signTokens value ++ tokens) := by
  unfold signTokens
  split
  · exact .mark rfl lexes
  · exact lexes

theorem lexes_decimalText (value : Float) (apart : Apart rest) (lexes : Lexes rest tokens) :
    Lexes ((decimalText value).toList ++ rest) (numberTokens value ++ tokens) := by
  unfold numberTokens
  cases size : (doubleParts value).magnitude with
  | undefined =>
      have text : decimalText value = "NaN" := by
        unfold decimalText
        dsimp only
        rw [size]
      rw [text]
      exact .word 'N' ['a', 'N'] rfl (List.all_eq_true.1 rfl) apart lexes
  | infinite =>
      have text : (decimalText value).toList =
          if (doubleParts value).negative then '-' :: ['i', 'n', 'f'] else ['i', 'n', 'f'] := by
        unfold decimalText
        dsimp only
        rw [size]
        dsimp only
        split
        · rfl
        · rfl
      rw [text, List.append_assoc]
      exact lexes_sign value
        (.word 'i' ['n', 'f'] rfl (List.all_eq_true.1 rfl) apart lexes)
  | finite mantissa exponent =>
      rw [decimalText_of_finite size, String.toList_ofList, List.append_assoc]
      exact lexes_sign value (.number _ apart lexes)

theorem lexes_offset (sign : OffsetSign) (lexes : Lexes rest tokens) :
    Lexes (sign.symbol.toList ++ rest) (sign.token :: tokens) := by
  cases sign with
  | plus => exact .mark rfl lexes
  | minus => exact .mark rfl lexes

theorem lexes_lengthText (size : Length Float) (apart : Apart rest) (lexes : Lexes rest tokens) :
    Lexes ((size.text decimalText).toList ++ rest) (size.tokens ++ tokens) := by
  cases size with
  | absolute pixels => exact lexes_decimalText pixels apart lexes
  | relative percent =>
      rw [Length.text, String.toList_append, List.append_assoc, Length.tokens, List.append_assoc]
      exact lexes_decimalText percent (.cons rfl) (.mark rfl lexes)
  | combined percent sign offset =>
      have signed := lexes_offset sign (lexes_decimalText offset apart lexes)
      rw [Length.text, String.toList_append, String.toList_append, String.toList_append,
        Length.tokens]
      simp only [List.append_assoc, List.cons_append]
      exact lexes_decimalText percent (.cons rfl) (.mark rfl signed)

theorem lexes_valueText (value : Value) (apart : Apart rest) (lexes : Lexes rest tokens) :
    Lexes (value.text.toList ++ rest) (value.tokens ++ tokens) := by
  cases value with
  | string text =>
      rw [Value.text, quoted, String.toList_ofList, List.append_assoc]
      exact .quoted text.toList lexes
  | length size => exact lexes_lengthText size apart lexes
  | bool value =>
      cases value with
      | true =>
          exact .word 't' ['r', 'u', 'e'] rfl (List.all_eq_true.1 rfl) apart lexes
      | false =>
          exact .word 'f' ['a', 'l', 's', 'e'] rfl (List.all_eq_true.1 rfl) apart lexes

/-! ## Properties and components -/

theorem lexes_name {name : String} (isName : IsName name) (apart : Apart rest)
    (lexes : Lexes rest tokens) : Lexes (name.toList ++ rest) (.ident name :: tokens) := by
  obtain ⟨first, more, shape, starts, goesOn, token⟩ := isName
  rw [shape, ← token]
  exact .word first more starts goesOn apart lexes

theorem lexes_margin (depth : Nat) (lexes : Lexes rest tokens) :
    Lexes ((margin depth).toList ++ rest) tokens := by
  unfold margin
  rw [String.toList_ofList]
  induction 4 * depth with
  | zero => exact lexes
  | succ count ih => exact .space rfl ih

/-- A property between its margin and the end of its line. -/
theorem lexes_property (separator : Separator) {mark : Char}
    (marked : mark? mark = some separator.token) (property : Property)
    (isName : IsName property.name) (lexes : Lexes rest tokens) :
    Lexes (property.name.toList ++
        ' ' :: mark :: ' ' :: (property.value.text.toList ++ '\n' :: rest))
      (property.tokens separator ++ tokens) :=
  lexes_name isName (.cons rfl) (.space rfl (.mark marked (.space rfl
    (lexes_valueText property.value (.cons rfl) (.space rfl lexes)))))

theorem lexes_line (depth : Nat) (property : Property) (isName : IsName property.name)
    (lexes : Lexes rest tokens) :
    Lexes ((property.line depth).toList ++ rest) (property.tokens .equals ++ tokens) := by
  have parts : (property.line depth).toList ++ rest = (margin depth).toList ++
      (property.name.toList ++
        ' ' :: '=' :: ' ' :: (property.value.text.toList ++ '\n' :: rest)) := by
    simp [Property.line]
  rw [parts]
  exact lexes_margin depth (lexes_property .equals rfl property isName lexes)

/-- Lines one after the other are cut one after the other. -/
theorem lexes_lines (line : Property → String) (spelling : Property → List Token)
    (properties : List Property)
    (each : ∀ property ∈ properties, ∀ {rest tokens}, Lexes rest tokens →
      Lexes ((line property).toList ++ rest) (spelling property ++ tokens))
    (lexes : Lexes rest tokens) :
    Lexes ((String.join (properties.map line)).toList ++ rest)
      (properties.flatMap spelling ++ tokens) := by
  induction properties with
  | nil =>
      rw [List.map_nil, String.join_nil]
      exact lexes
  | cons property more ih =>
      have others := ih fun other inside => each other (List.mem_cons_of_mem property inside)
      rw [List.map_cons, String.join_cons, String.toList_append, List.append_assoc,
        List.flatMap_cons, List.append_assoc]
      exact each property List.mem_cons_self others

mutual

theorem lexes_component (depth : Nat) : ∀ component : Component,
    (∀ name ∈ component.names, IsName name) → ∀ {rest tokens}, Lexes rest tokens →
      Lexes ((component.listing depth).toList ++ rest) (component.tokens ++ tokens)
  | .mk kind properties children span, areNames, rest, tokens, lexes => by
      rw [Component.names] at areNames
      have isKind := areNames kind List.mem_cons_self
      have closed : Lexes ((margin depth).toList ++ '\x7d' :: '\n' :: rest)
          (.braceClose :: tokens) := lexes_margin depth (.mark rfl (.space rfl lexes))
      have inner := lexes_components (depth + 1) children (fun name inside =>
        areNames name (List.mem_cons_of_mem kind (List.mem_append_right _ inside))) closed
      have lines := lexes_lines (Property.line (depth + 1)) (Property.tokens .equals) properties
        (fun property inside => lexes_line (depth + 1) property (areNames property.name
          (List.mem_cons_of_mem kind (List.mem_append_left _ (List.mem_map_of_mem inside)))))
        inner
      have parts : ((Component.mk kind properties children span).listing depth).toList ++ rest =
          (margin depth).toList ++ '+' :: ' ' :: (kind.toList ++ ' ' :: '\x7b' :: '\n' ::
            ((String.join (properties.map (Property.line (depth + 1)))).toList ++
              ((Component.listings (depth + 1) children).toList ++
                ((margin depth).toList ++ '\x7d' :: '\n' :: rest)))) := by
        simp [Component.listing]
      have spelled : (Component.mk kind properties children span).tokens ++ tokens =
          .plus :: .ident kind :: .braceOpen :: (properties.flatMap (Property.tokens .equals) ++
            (Component.tokensOf children ++ .braceClose :: tokens)) := by
        simp [Component.tokens]
      rw [parts, spelled]
      exact lexes_margin depth (.mark rfl (.space rfl (lexes_name isKind (.cons rfl)
        (.space rfl (.mark rfl (.space rfl lines))))))

theorem lexes_components (depth : Nat) : ∀ components : List Component,
    (∀ name ∈ Component.namesOf components, IsName name) → ∀ {rest tokens}, Lexes rest tokens →
      Lexes ((Component.listings depth components).toList ++ rest)
        (Component.tokensOf components ++ tokens)
  | [], _, _, _, lexes => lexes
  | component :: more, areNames, rest, tokens, lexes => by
      rw [Component.namesOf] at areNames
      have others := lexes_components depth more
        (fun name inside => areNames name (List.mem_append_right _ inside)) lexes
      rw [Component.listings, Component.tokensOf, String.toList_append, List.append_assoc,
        List.append_assoc]
      exact lexes_component depth component
        (fun name inside => areNames name (List.mem_append_left _ inside)) others

end

/-- A listing is made of the tokens of its theme, as long as its names are words. -/
theorem lexes_listing (theme : Theme) (areNames : ∀ name ∈ theme.names, IsName name) :
    Lexes theme.listing.toList theme.tokens := by
  rw [Theme.names] at areNames
  have blocks := lexes_components 0 theme.components
    (fun name inside => areNames name (List.mem_append_right _ inside)) .nil
  rw [List.append_nil, List.append_nil] at blocks
  rw [Theme.listing, String.toList_append, Theme.tokens]
  refine lexes_lines _ (Property.tokens .colon) theme.properties ?_ blocks
  intro property inside rest tokens lexes
  have parts : (property.name ++ " : " ++ property.value.text ++ "\n").toList ++ rest =
      property.name.toList ++
        ' ' :: ':' :: ' ' :: (property.value.text.toList ++ '\n' :: rest) := by
    simp
  rw [parts]
  exact lexes_property .colon rfl property
    (areNames property.name (List.mem_append_left _ (List.mem_map_of_mem inside))) lexes

/-- The tokens of a listing are those of its theme. -/
theorem tokensIn_listing (theme : Theme) (areNames : ∀ name ∈ theme.names, IsName name) :
    tokensIn theme.listing.toList = theme.tokens :=
  (lexes_listing theme areNames).tokens_eq

end BootTheme
