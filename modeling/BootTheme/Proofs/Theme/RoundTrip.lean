import BootTheme.Proofs.Theme.ListingPhrases
import BootTheme.Proofs.Theme.Placeless
import BootTheme.Proofs.Theme.Sources

/-!
# Listings are read again

Structure, names, numbers and truth values come back from a listing as long as its
numbers are finite, and strings come back with the escapes they were shown with.
-/

namespace BootTheme

open Piece

/-- A listing is read as the theme with its values as they are listed. -/
theorem parseTheme_of_listable {theme : Theme} (areNames : ∀ name ∈ theme.names, IsName name)
    (listable : ∀ value ∈ theme.values, value.Listable) :
    ∃ again, parseTheme theme.listing = .ok again ∧
      again.outline id = theme.outline Value.listed := by
  have tokens : (ItemPhrase.spell theme.phrases).map Located.token =
      (lex theme.listing).tokens.map Located.token := by
    rw [theme.spell_phrases listable, map_token_lex, tokensIn_listing theme areNames]
  have read := (readTheme_eq_ok_iff 0 _ _).2 ⟨theme.phrases, rfl, rfl⟩
  obtain ⟨again, readAgain, same⟩ :=
    readTheme_outline (byteCount theme.listing.toList) tokens read
  exact ⟨again, readAgain, same.trans (theme.outline_phrases listable)⟩

/-- The values of a theme that was read are listable as long as its numbers are finite. -/
theorem listable_of_finite {source : String} {theme : Theme}
    (parsed : parseTheme source = .ok theme)
    (finite : ∀ number ∈ theme.numbers, isFinite number = true) :
    ∀ value ∈ theme.values, value.Listable := by
  intro value among
  constructor
  · intro number inside
    exact finite number (List.mem_flatMap.2 ⟨value, among, inside⟩)
  · intro offset inside
    exact offset_nonnegative parsed offset (List.mem_flatMap.2 ⟨value, among, inside⟩)

/-! ## Numbers that are not finite do not come back -/

theorem mem_numberTokens {value number : Float} (among : .number number ∈ numberTokens value) :
    isFinite value = true ∧ listedSize value = number := by
  have noSign : Token.number number ∉ signTokens value := by
    unfold signTokens
    split
    · intro impossible
      cases List.mem_singleton.1 impossible
    · intro impossible
      cases impossible
  unfold numberTokens at among
  unfold isFinite listedSize
  cases size : (doubleParts value).magnitude with
  | undefined =>
      rw [size] at among
      cases List.mem_singleton.1 among
  | infinite =>
      rw [size] at among
      rcases List.mem_append.1 among with sign | word
      · exact absurd sign noSign
      · cases List.mem_singleton.1 word
  | finite mantissa exponent =>
      rw [size] at among
      rcases List.mem_append.1 among with sign | last
      · exact absurd sign noSign
      · cases List.mem_singleton.1 last
        exact ⟨rfl, rfl⟩

theorem number_mem_value {value : Value} {number : Float}
    (among : .number number ∈ value.tokens) : ∃ listed ∈ value.numbers,
      .number number ∈ numberTokens listed := by
  cases value with
  | string text => cases List.mem_singleton.1 among
  | bool value => cases List.mem_singleton.1 among
  | length size =>
      cases size with
      | absolute pixels => exact ⟨pixels, List.mem_cons_self, among⟩
      | relative percent =>
          rcases List.mem_append.1 among with here | mark
          · exact ⟨percent, List.mem_cons_self, here⟩
          · cases List.mem_singleton.1 mark
      | combined percent sign offset =>
          rcases List.mem_append.1 among with here | behind
          · exact ⟨percent, List.mem_cons_self, here⟩
          · rcases List.mem_cons.1 behind with mark | behind
            · cases mark
            · rcases List.mem_cons.1 behind with mark | last
              · cases sign <;> cases mark
              · exact ⟨offset, List.mem_cons_of_mem _ List.mem_cons_self, last⟩

theorem number_mem_properties {separator : Separator} {properties : List Property} {number : Float}
    (among : .number number ∈ properties.flatMap (Property.tokens separator)) :
    ∃ value ∈ properties.map Property.value, .number number ∈ value.tokens := by
  obtain ⟨property, inside, among⟩ := List.mem_flatMap.1 among
  refine ⟨property.value, List.mem_map_of_mem inside, ?_⟩
  rcases List.mem_cons.1 among with name | among
  · cases name
  · rcases List.mem_cons.1 among with mark | last
    · cases separator <;> cases mark
    · exact last

mutual

theorem number_mem_component {number : Float} : ∀ component : Component,
    .number number ∈ component.tokens →
      ∃ value ∈ component.values, .number number ∈ value.tokens
  | .mk kind properties children span, among => by
      rw [Component.tokens] at among
      rw [Component.values]
      simp only [List.mem_cons, List.mem_append, reduceCtorEq, false_or, List.not_mem_nil,
        or_false] at among
      rcases among with lines | inner
      · obtain ⟨value, inside, found⟩ := number_mem_properties lines
        exact ⟨value, List.mem_append_left _ inside, found⟩
      · obtain ⟨value, inside, found⟩ := number_mem_components children inner
        exact ⟨value, List.mem_append_right _ inside, found⟩

theorem number_mem_components {number : Float} : ∀ components : List Component,
    .number number ∈ Component.tokensOf components →
      ∃ value ∈ Component.valuesOf components, .number number ∈ value.tokens
  | [], among => by cases among
  | component :: rest, among => by
      rw [Component.tokensOf] at among
      rw [Component.valuesOf]
      rcases List.mem_append.1 among with first | others
      · obtain ⟨value, inside, found⟩ := number_mem_component component first
        exact ⟨value, List.mem_append_left _ inside, found⟩
      · obtain ⟨value, inside, found⟩ := number_mem_components rest others
        exact ⟨value, List.mem_append_right _ inside, found⟩

end

/-- A number among the tokens of a listing is the size of a finite number of the theme. -/
theorem number_mem_tokens {theme : Theme} {number : Float}
    (among : .number number ∈ theme.tokens) :
    ∃ listed ∈ theme.numbers, isFinite listed = true ∧ listedSize listed = number := by
  obtain ⟨value, inside, found⟩ : ∃ value ∈ theme.values, .number number ∈ value.tokens := by
    rw [Theme.values]
    rcases List.mem_append.1 among with lines | inner
    · obtain ⟨value, inside, found⟩ := number_mem_properties lines
      exact ⟨value, List.mem_append_left _ inside, found⟩
    · obtain ⟨value, inside, found⟩ := number_mem_components _ inner
      exact ⟨value, List.mem_append_right _ inside, found⟩
  obtain ⟨listed, inNumbers, found⟩ := number_mem_value found
  exact ⟨listed, List.mem_flatMap.2 ⟨value, inside, inNumbers⟩, mem_numberTokens found⟩

theorem isFinite_of_negated {first second : Float} (same : first = second ∨ first = -second) :
    isFinite first = isFinite second := by
  rcases same with rfl | rfl
  · rfl
  · exact isFinite_neg second

/-- A theme that is read from its own listing has finite numbers only. -/
theorem isFinite_of_read_again {theme again : Theme}
    (areNames : ∀ name ∈ theme.names, IsName name)
    (read : parseTheme theme.listing = .ok again)
    (same : again.outline id = theme.outline id) :
    ∀ number ∈ theme.numbers, isFinite number = true := by
  have values : again.values = theme.values := by
    have outlines := congrArg Theme.values same
    rw [Theme.values_outline, Theme.values_outline, List.map_id, List.map_id] at outlines
    exact outlines
  intro number inside
  rw [Theme.numbers, ← values] at inside
  obtain ⟨token, span, among, negated⟩ := (denoted_parseTheme read).number number inside
  have inTokens := List.mem_map_of_mem (f := Located.token) among
  rw [map_token_lex, tokensIn_listing theme areNames] at inTokens
  obtain ⟨listed, inNumbers, finite, size⟩ := number_mem_tokens inTokens
  have signed : listed = token ∨ listed = -token := by
    rw [← size]
    have whole := signed_listedSize finite
    split at whole
    · exact .inr whole.symm
    · exact .inl whole.symm
  rw [isFinite_of_negated negated, ← isFinite_of_negated signed]
  exact finite

/-! ## Reading a listing -/

/-- Only string values can change in a listing, those with a character that is escaped. -/
theorem outline_listed_iff (theme : Theme) :
    theme.outline Value.listed = theme.outline id ↔
      ∀ text ∈ theme.strings, quoteChars text.toList = text.toList := by
  rw [Theme.outline_eq_iff]
  constructor
  · intro same text inside
    obtain ⟨value, among, found⟩ := List.mem_filterMap.1 inside
    cases value with
    | string other =>
        cases found
        have shown : escaped text = text := Value.string.inj (same _ among)
        rw [← String.toList_inj, escaped, String.toList_ofList] at shown
        exact shown
    | length size => cases found
    | bool value => cases found
  · intro unchanged value among
    cases value with
    | string text =>
        have shown := unchanged text (List.mem_filterMap.2 ⟨_, among, rfl⟩)
        change Value.string (escaped text) = Value.string text
        rw [escaped, shown, String.ofList_toList]
    | length size => rfl
    | bool value => rfl

/-- What comes back from the listing of a theme. With finite numbers only, it is the theme up to
places with its strings escaped. It is the theme itself exactly when besides no string has a
character that is escaped, and then its listing is the same text. -/
theorem parseTheme_listing {source : String} {theme : Theme}
    (parsed : parseTheme source = .ok theme) :
    ((∀ number ∈ theme.numbers, isFinite number = true) →
      ∃ again, parseTheme theme.listing = .ok again ∧
        again.outline id = theme.outline Value.listed) ∧
    ((∃ again, parseTheme theme.listing = .ok again ∧ again.outline id = theme.outline id) ↔
      (∀ number ∈ theme.numbers, isFinite number = true) ∧
        ∀ text ∈ theme.strings, quoteChars text.toList = text.toList) ∧
    ∀ again, parseTheme theme.listing = .ok again → again.outline id = theme.outline id →
      again.listing = theme.listing := by
  have areNames := isName_of_mem_names parsed
  have readBack (finite : ∀ number ∈ theme.numbers, isFinite number = true) :
      ∃ again, parseTheme theme.listing = .ok again ∧
        again.outline id = theme.outline Value.listed :=
    parseTheme_of_listable areNames (listable_of_finite parsed finite)
  refine ⟨readBack, ?_, ?_⟩
  · constructor
    · rintro ⟨again, read, same⟩
      have finite := isFinite_of_read_again areNames read same
      obtain ⟨shown, readToo, listed⟩ := readBack finite
      cases read.symm.trans readToo
      exact ⟨finite, (outline_listed_iff theme).1 (listed.symm.trans same)⟩
    · rintro ⟨finite, unchanged⟩
      obtain ⟨again, read, listed⟩ := readBack finite
      exact ⟨again, read, listed.trans ((outline_listed_iff theme).2 unchanged)⟩
  · intro again _ same
    rw [← again.listing_outline, same, theme.listing_outline]

/-- The items of `a = -1.5 + b { c = 50%-2 d = "x" }`. -/
def shownLengths : List ItemPhrase :=
  [.property ⟨"a", 0, 1⟩ ⟨.equals, 2, 3⟩ (.length ⟨some ⟨4, 5⟩, ⟨1.5, 5, 8⟩, none⟩),
    .component ⟨9, 10⟩ ⟨"b", 11, 12⟩ ⟨13, 14⟩
      [.property ⟨"c", 15, 16⟩ ⟨.equals, 17, 18⟩
        (.length ⟨none, ⟨50, 19, 21⟩, some (⟨21, 22⟩, some ⟨⟨.minus, 22, 23⟩, ⟨2, 23, 24⟩⟩)⟩),
        .property ⟨"d", 25, 26⟩ ⟨.equals, 27, 28⟩ (.string ⟨"x", 29, 32⟩)]
      ⟨33, 34⟩]

theorem shownLengths_come_back :
    ∃ again, parseTheme (ItemPhrase.theme shownLengths).listing = .ok again ∧
      again.outline id = (ItemPhrase.theme shownLengths).outline id := by
  have parsed : parseTheme "a = -1.5 + b \x7b c = 50%-2 d = \"x\" \x7d" =
      .ok (ItemPhrase.theme shownLengths) :=
    (readTheme_eq_ok_iff _ _ _).2 ⟨shownLengths, by decide +kernel, rfl⟩
  exact (parseTheme_listing parsed).2.1.2
    ⟨by decide +kernel, by decide +kernel⟩

/-- A string with an escape in it. -/
def escapedQuote : List ItemPhrase :=
  [.property ⟨"a", 0, 1⟩ ⟨.equals, 2, 3⟩ (.string ⟨"x\\\"y", 4, 10⟩)]

/-- The string that its listing is read as. -/
def escapedTwice : List ItemPhrase :=
  [.property ⟨"a", 0, 1⟩ ⟨.colon, 2, 3⟩ (.string ⟨"x\\\\\\\"y", 4, 12⟩)]

/-- An offset past the greatest number. -/
def hugeOffset : List ItemPhrase :=
  [.property ⟨"a", 0, 1⟩ ⟨.equals, 2, 3⟩
    (.length ⟨none, ⟨50, 4, 6⟩, some (⟨6, 7⟩, some ⟨⟨.plus, 7, 8⟩, ⟨1 / 0, 8, 318⟩⟩)⟩)]

theorem listing_changes_theme :
    (∃ theme again, parseTheme "a = \"x\\\"y\"" = .ok theme ∧
      parseTheme theme.listing = .ok again ∧ again.outline id ≠ theme.outline id ∧
      again.listing ≠ theme.listing) ∧
    ∃ theme, parseTheme (String.ofList ("a = 50%+".toList ++ List.replicate 310 '9')) = .ok theme ∧
      ∀ again, parseTheme theme.listing ≠ .ok again := by
  constructor
  · refine ⟨ItemPhrase.theme escapedQuote, ItemPhrase.theme escapedTwice, ?_, ?_, ?_, ?_⟩
    · exact (readTheme_eq_ok_iff _ _ _).2 ⟨escapedQuote, by decide +kernel, rfl⟩
    · exact (readTheme_eq_ok_iff _ _ _).2 ⟨escapedTwice, by decide +kernel, rfl⟩
    · intro same
      exact absurd (congrArg Theme.strings same) (by decide +kernel)
    · decide +kernel
  · refine ⟨ItemPhrase.theme hugeOffset, ?_, ?_⟩
    · have spelled : ItemPhrase.spell hugeOffset =
          (lex (String.ofList ("a = 50%+".toList ++ List.replicate 310 '9'))).tokens := by
        rw [tokens_lex_ofList]
        decide +kernel
      exact (readTheme_eq_ok_iff _ _ _).2 ⟨hugeOffset, spelled, rfl⟩
    · intro again read
      have refused : (parseTheme (ItemPhrase.theme hugeOffset).listing).toOption.isNone = true := by
        decide +kernel
      rw [read] at refused
      cases refused

end BootTheme
