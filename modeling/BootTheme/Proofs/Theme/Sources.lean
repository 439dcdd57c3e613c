import BootTheme.Proofs.Number.Doubles
import BootTheme.Proofs.Theme.Lexing
import BootTheme.Proofs.Theme.Outline
import BootTheme.Proofs.Theme.ReaderRun

/-!
# Where the parts of a theme come from

Names and values of a theme are denoted by tokens of its source. So names are words,
offsets have no sign, and every other number is that of a token or its negation.
-/

namespace BootTheme

/-- Names and values that tokens denote. -/
structure Denoted (tokens : List Located) (names : List String) (values : List Value) : Prop where
  name : ∀ name ∈ names, ∃ span, ⟨.ident name, span⟩ ∈ tokens
  value : ∀ value ∈ values, ∃ phrase : ValuePhrase, phrase.value = value ∧
    ∀ located ∈ phrase.tokens, located ∈ tokens

namespace Denoted

variable {tokens more : List Located} {names : List String} {values : List Value}

theorem mono (denoted : Denoted tokens names values) {fewerNames : List String}
    {fewerValues : List Value} (inNames : fewerNames ⊆ names) (inValues : fewerValues ⊆ values)
    (inTokens : tokens ⊆ more) : Denoted more fewerNames fewerValues := by
  constructor
  · intro name inside
    obtain ⟨span, found⟩ := denoted.name name (inNames inside)
    exact ⟨span, inTokens found⟩
  · intro value inside
    obtain ⟨phrase, same, found⟩ := denoted.value value (inValues inside)
    exact ⟨phrase, same, fun located among => inTokens (found located among)⟩

theorem append {moreNames : List String} {moreValues : List Value}
    (first : Denoted tokens names values) (second : Denoted more moreNames moreValues) :
    Denoted (tokens ++ more) (names ++ moreNames) (values ++ moreValues) := by
  constructor
  · intro name inside
    rcases List.mem_append.1 inside with front | back
    · obtain ⟨span, found⟩ := first.name name front
      exact ⟨span, List.mem_append_left _ found⟩
    · obtain ⟨span, found⟩ := second.name name back
      exact ⟨span, List.mem_append_right _ found⟩
  · intro value inside
    rcases List.mem_append.1 inside with front | back
    · obtain ⟨phrase, same, found⟩ := first.value value front
      exact ⟨phrase, same, fun located among => List.mem_append_left _ (found located among)⟩
    · obtain ⟨phrase, same, found⟩ := second.value value back
      exact ⟨phrase, same, fun located among => List.mem_append_right _ (found located among)⟩

end Denoted

theorem namesOf_append (first second : List Component) :
    Component.namesOf (first ++ second) = Component.namesOf first ++ Component.namesOf second := by
  induction first with
  | nil => rfl
  | cons component rest ih =>
      rw [List.cons_append, Component.namesOf, Component.namesOf, ih, List.append_assoc]

theorem valuesOf_append (first second : List Component) :
    Component.valuesOf (first ++ second) =
      Component.valuesOf first ++ Component.valuesOf second := by
  induction first with
  | nil => rfl
  | cons component rest ih =>
      rw [List.cons_append, Component.valuesOf, Component.valuesOf, ih, List.append_assoc]

/-- The names of items are those of the first item and those of the others. -/
theorem names_theme_cons (item : ItemPhrase) (rest : List ItemPhrase) :
    (ItemPhrase.theme (item :: rest)).names ⊆
      (ItemPhrase.theme [item]).names ++ (ItemPhrase.theme rest).names := by
  intro name inside
  have properties := ItemPhrase.properties_append [item] rest
  have components := ItemPhrase.components_append [item] rest
  unfold Theme.names ItemPhrase.theme at inside ⊢
  rw [List.singleton_append] at properties components
  rw [properties, components, List.map_append, namesOf_append] at inside
  simp only [List.mem_append] at inside ⊢
  rcases inside with (one | other) | (one | other)
  · exact .inl (.inl one)
  · exact .inr (.inl other)
  · exact .inl (.inr one)
  · exact .inr (.inr other)

/-- The values of items are those of the first item and those of the others. -/
theorem values_theme_cons (item : ItemPhrase) (rest : List ItemPhrase) :
    (ItemPhrase.theme (item :: rest)).values ⊆
      (ItemPhrase.theme [item]).values ++ (ItemPhrase.theme rest).values := by
  intro value inside
  have properties := ItemPhrase.properties_append [item] rest
  have components := ItemPhrase.components_append [item] rest
  unfold Theme.values ItemPhrase.theme at inside ⊢
  rw [List.singleton_append] at properties components
  rw [properties, components, List.map_append, valuesOf_append] at inside
  simp only [List.mem_append] at inside ⊢
  rcases inside with (one | other) | (one | other)
  · exact .inl (.inl one)
  · exact .inr (.inl other)
  · exact .inl (.inr one)
  · exact .inr (.inr other)

mutual

/-- What an item alone denotes. -/
theorem denoted_item : ∀ item : ItemPhrase,
    Denoted item.tokens (ItemPhrase.theme [item]).names (ItemPhrase.theme [item]).values
  | .property name separator value => by
      constructor
      · intro other inside
        cases List.mem_singleton.1 inside
        rw [ItemPhrase.tokens]
        exact ⟨name.span, List.mem_cons_self⟩
      · intro other inside
        cases List.mem_singleton.1 inside
        rw [ItemPhrase.tokens]
        exact ⟨value, rfl, fun located among =>
          List.mem_cons_of_mem _ (List.mem_cons_of_mem _ among)⟩
  | .component plus kind opening items closing => by
      have inner := denoted_items items
      rw [ItemPhrase.tokens]
      have behind : ItemPhrase.spell items ⊆ ⟨.plus, plus⟩ :: kind.as .ident ::
          ⟨.braceOpen, opening⟩ :: (ItemPhrase.spell items ++ [⟨.braceClose, closing⟩]) := by
        intro located among
        exact List.mem_cons_of_mem _ (List.mem_cons_of_mem _ (List.mem_cons_of_mem _
          (List.mem_append_left _ among)))
      constructor
      · intro name inside
        change name ∈ kind.datum :: (ItemPhrase.theme items).names ++ [] at inside
        rw [List.append_nil] at inside
        rcases List.mem_cons.1 inside with same | among
        · rw [same]
          exact ⟨kind.span, List.mem_cons_of_mem _ List.mem_cons_self⟩
        · obtain ⟨span, found⟩ := inner.name name among
          exact ⟨span, behind found⟩
      · intro value inside
        change value ∈ (ItemPhrase.theme items).values ++ [] at inside
        rw [List.append_nil] at inside
        obtain ⟨phrase, same, found⟩ := inner.value value inside
        exact ⟨phrase, same, fun located among => behind (found located among)⟩

theorem denoted_items : ∀ items : List ItemPhrase,
    Denoted (ItemPhrase.spell items) (ItemPhrase.theme items).names (ItemPhrase.theme items).values
  | [] => by
      constructor
      · intro name impossible
        cases impossible
      · intro value impossible
        cases impossible
  | item :: rest => by
      rw [ItemPhrase.spell]
      exact ((denoted_item item).append (denoted_items rest)).mono (names_theme_cons item rest)
        (values_theme_cons item rest) (List.Subset.refl _)

end

/-- What a source denotes. -/
theorem denoted_parseTheme {source : String} {theme : Theme}
    (parsed : parseTheme source = .ok theme) :
    Denoted (lex source).tokens theme.names theme.values := by
  obtain ⟨items, spelled, rfl⟩ := (readTheme_eq_ok_iff _ _ _).1 parsed
  rw [← spelled]
  exact denoted_items items

/-! ## Numbers -/

/-- The first number of a length may be negated, its offset is not. -/
theorem LengthPhrase.numbers_size (phrase : LengthPhrase) :
    (∀ number ∈ phrase.size.numbers, ∃ token span, ⟨.number token, span⟩ ∈ phrase.tokens ∧
      (number = token ∨ number = -token)) ∧
    ∀ offset ∈ phrase.size.offsets, ∃ span, ⟨.number offset, span⟩ ∈ phrase.tokens := by
  obtain ⟨minus, number, percent⟩ := phrase
  have first : ∃ token span, ⟨.number token, span⟩ ∈ LengthPhrase.tokens ⟨minus, number, percent⟩ ∧
      (LengthPhrase.amount ⟨minus, number, percent⟩ = token ∨
        LengthPhrase.amount ⟨minus, number, percent⟩ = -token) := by
    refine ⟨number.datum, number.span, List.mem_append_right _ List.mem_cons_self, ?_⟩
    unfold LengthPhrase.amount
    split
    · exact .inr rfl
    · exact .inl rfl
  cases percent with
  | none =>
      constructor
      · intro other inside
        cases List.mem_singleton.1 inside
        exact first
      · intro offset impossible
        cases impossible
  | some percent =>
      obtain ⟨span, offset⟩ := percent
      cases offset with
      | none =>
          constructor
          · intro other inside
            cases List.mem_singleton.1 inside
            exact first
          · intro offset impossible
            cases impossible
      | some offset =>
          have last : ⟨.number offset.number.datum, offset.number.span⟩ ∈
              LengthPhrase.tokens ⟨minus, number, some (span, some offset)⟩ :=
            List.mem_append_right _ (List.mem_cons_of_mem _ (List.mem_cons_of_mem _
              (List.mem_cons_of_mem _ List.mem_cons_self)))
          constructor
          · intro other inside
            rcases List.mem_cons.1 inside with same | inside
            · rw [same]
              exact first
            · cases List.mem_singleton.1 inside
              exact ⟨_, _, last, .inl rfl⟩
          · intro other inside
            cases List.mem_singleton.1 inside
            exact ⟨_, last⟩

namespace Denoted

variable {tokens : List Located} {names : List String} {values : List Value}

/-- Every number is that of a token or its negation. -/
theorem number (denoted : Denoted tokens names values) :
    ∀ number ∈ values.flatMap Value.numbers, ∃ token span, ⟨.number token, span⟩ ∈ tokens ∧
      (number = token ∨ number = -token) := by
  intro number inside
  obtain ⟨value, among, inside⟩ := List.mem_flatMap.1 inside
  obtain ⟨phrase, rfl, found⟩ := denoted.value value among
  cases phrase with
  | length phrase =>
      obtain ⟨token, span, here, same⟩ := phrase.numbers_size.1 number inside
      exact ⟨token, span, found _ here, same⟩
  | _ => cases inside

theorem offset (denoted : Denoted tokens names values) :
    ∀ offset ∈ values.flatMap Value.offsets, ∃ span, ⟨.number offset, span⟩ ∈ tokens := by
  intro offset inside
  obtain ⟨value, among, inside⟩ := List.mem_flatMap.1 inside
  obtain ⟨phrase, rfl, found⟩ := denoted.value value among
  cases phrase with
  | length phrase =>
      obtain ⟨span, here⟩ := phrase.numbers_size.2 offset inside
      exact ⟨span, found _ here⟩
  | _ => cases inside

end Denoted

/-! ## Names and offsets of a source -/

/-- The tokens of a source can be cut. -/
theorem cuttable_of_mem_lex {source : String} {token : Token} {span : Span}
    (among : ⟨token, span⟩ ∈ (lex source).tokens) : Piece.Cuttable token := by
  have inside := List.mem_map_of_mem (f := Located.token) among
  rw [map_token_lex] at inside
  exact Piece.tokensIn_cuttable _ _ inside

/-- The names of a theme are words. -/
theorem isName_of_mem_names {source : String} {theme : Theme}
    (parsed : parseTheme source = .ok theme) : ∀ name ∈ theme.names, Piece.IsName name := by
  intro name inside
  obtain ⟨span, among⟩ := (denoted_parseTheme parsed).name name inside
  cases cuttable_of_mem_lex among with
  | name isName => exact isName
  | mark mark => 
      unfold Piece.mark? at mark
      split at mark <;> cases mark

/-- Offsets have no sign of their own. -/
theorem offset_nonnegative {source : String} {theme : Theme}
    (parsed : parseTheme source = .ok theme) :
    ∀ offset ∈ theme.values.flatMap Value.offsets, (doubleParts offset).negative = false := by
  intro offset inside
  obtain ⟨span, among⟩ := (denoted_parseTheme parsed).offset offset inside
  cases cuttable_of_mem_lex among with
  | number whole places => exact readFraction_nonnegative whole places
  | mark mark =>
      unfold Piece.mark? at mark
      split at mark <;> cases mark

end BootTheme
