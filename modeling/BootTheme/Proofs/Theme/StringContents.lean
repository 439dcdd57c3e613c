import BootTheme.Proofs.Theme.RoundTrip
import BootTheme.Proofs.Theme.Tiling
import BootTheme.Theme.Reading

/-!
# Strings inject nothing into a listing

Whatever a string holds, its listing ends at its own closing quote. So a listing leaves
nothing to skip, it is read as a theme of the same shape, and themes that differ in their
strings alone have listings that differ in their string tokens alone.
-/

namespace BootTheme

/-! ## Themes that come back -/

/-- A value and the one that is read of its text: a string is what stands between its quotes. -/
inductive Value.ComesBack : Value → Value → Prop where
  | string {text between : String} (shown : quoted text = "\"" ++ between ++ "\"") :
      ComesBack (.string text) (.string between)
  | length (size : Length Float) : ComesBack (.length size) (.length size)
  | bool (value : Bool) : ComesBack (.bool value) (.bool value)

/-- Properties with the same names in the same order, their values come back. -/
inductive Property.AllComeBack : List Property → List Property → Prop where
  | nil : AllComeBack [] []
  | cons {name : String} {value again : Value} {span other : Span} {rest more : List Property}
      (first : value.ComesBack again) (others : AllComeBack rest more) :
      AllComeBack (⟨name, value, span⟩ :: rest) (⟨name, again, other⟩ :: more)

mutual

/-- Components of the same kind whose properties and components come back. -/
inductive Component.ComesBack : Component → Component → Prop where
  | mk {kind : String} {properties more : List Property} {children others : List Component}
      {span other : Span} (lines : Property.AllComeBack properties more)
      (blocks : AllComeBack children others) :
      ComesBack (.mk kind properties children span) (.mk kind more others other)

/-- Components that come back one by one. -/
inductive Component.AllComeBack : List Component → List Component → Prop where
  | nil : AllComeBack [] []
  | cons {component again : Component} {rest more : List Component}
      (first : ComesBack component again) (others : AllComeBack rest more) :
      AllComeBack (component :: rest) (again :: more)

end

/-- A theme whose properties and components come back. -/
structure Theme.ComesBack (theme again : Theme) : Prop where
  lines : Property.AllComeBack theme.properties again.properties
  blocks : Component.AllComeBack theme.components again.components

/-- A theme whose listing leaves nothing to skip and is read as the theme again. -/
structure Theme.ListsBack (theme : Theme) : Prop where
  nothingSkipped : (lex theme.listing).skipped = []
  noWarning : (readSource theme.listing).warnings = []
  back : ∃ again, parseTheme theme.listing = .ok again ∧ theme.ComesBack again

theorem quoted_eq (text : String) : quoted text = "\"" ++ escaped text ++ "\"" := by
  rw [← String.toList_inj]
  simp [quoted, escaped]

theorem Value.comesBack_listed (value : Value) : value.ComesBack value.listed := by
  cases value with
  | string text => exact .string (quoted_eq text)
  | length size => exact .length size
  | bool value => exact .bool value

theorem allComeBack_of_outline {properties again : List Property}
    (same : again.map (Property.outline id) = properties.map (Property.outline Value.listed)) :
    Property.AllComeBack properties again := by
  induction properties generalizing again with
  | nil =>
      rw [List.map_nil, List.map_eq_nil_iff] at same
      rw [same]
      exact .nil
  | cons property rest ih =>
      rw [List.map_cons] at same
      obtain ⟨first, more, rfl, here, others⟩ := List.map_eq_cons_iff.1 same
      obtain ⟨name, value, span⟩ := property
      obtain ⟨_, _, other⟩ := first
      cases here
      exact .cons value.comesBack_listed (ih others)

mutual

theorem comesBack_of_outline : ∀ component again : Component,
    again.outline id = component.outline Value.listed → component.ComesBack again
  | .mk kind properties children span, .mk other more others place, same => by
      rw [Component.outline, Component.outline] at same
      obtain ⟨rfl, lines, blocks, _⟩ := Component.mk.inj same
      exact .mk (allComeBack_of_outline lines) (comeBack_of_outlines children others blocks)

theorem comeBack_of_outlines : ∀ components again : List Component,
    Component.outlines id again = Component.outlines Value.listed components →
      Component.AllComeBack components again
  | [], [], _ => .nil
  | [], _ :: _, same => by cases same
  | _ :: _, [], same => by cases same
  | component :: rest, again :: more, same => by
      rw [Component.outlines, Component.outlines] at same
      obtain ⟨here, others⟩ := List.cons.inj same
      exact .cons (comesBack_of_outline component again here)
        (comeBack_of_outlines rest more others)

end

/-! ## Nothing is skipped -/

theorem skippedOf_locate (start : Nat) {pieces : List Piece}
    (expected : ∀ piece ∈ pieces, piece.kind ≠ .unexpected) :
    skippedOf (locate start pieces) = [] := by
  induction pieces generalizing start with
  | nil => rfl
  | cons piece rest ih =>
      have others := ih (start + byteCount piece.text) fun other later =>
        expected other (List.mem_cons_of_mem piece later)
      have here := expected piece List.mem_cons_self
      obtain ⟨kind, text⟩ := piece
      unfold skippedOf at others ⊢
      cases kind with
      | unexpected => exact absurd rfl here
      | _ => exact others

/-- A text of tokens and blanks leaves nothing to skip. -/
theorem skipped_eq_nil {source : String} {tokens : List Token}
    (lexes : Piece.Lexes source.toList tokens) : (lex source).skipped = [] := by
  unfold lex
  rw [pieces_eq_cuts]
  exact skippedOf_locate 0 lexes.expected

theorem listsBack_of_listable {theme : Theme} (areNames : ∀ name ∈ theme.names, Piece.IsName name)
    (listable : ∀ value ∈ theme.values, value.Listable) : theme.ListsBack := by
  have nothing := skipped_eq_nil (lexes_listing theme areNames)
  obtain ⟨again, read, same⟩ := parseTheme_of_listable areNames listable
  refine ⟨nothing, ?_, again, read, ?_⟩
  · have skipped := Lexed.skippedFor_sublist (lex theme.listing) (parseTheme theme.listing)
    rw [nothing] at skipped
    exact congrArg skipWarnings (List.sublist_nil.1 skipped)
  · obtain ⟨lines, blocks⟩ := Theme.mk.inj same
    exact ⟨allComeBack_of_outline lines, comeBack_of_outlines _ _ blocks⟩

/-! ## Themes that differ in their strings alone -/

/-- A value without what its string holds. -/
def Value.hushed : Value → Value
  | string _ => string ""
  | value => value

/-- A token without what its string holds. -/
def Token.hushed : Token → Token
  | string _ => string ""
  | token => token

theorem numberTokens_hushed (value : Float) :
    (numberTokens value).map Token.hushed = numberTokens value := by
  unfold numberTokens signTokens
  split
  · rfl
  · split <;> rfl
  · split <;> rfl

theorem Value.tokens_hushed (value : Value) :
    value.hushed.tokens = value.tokens.map Token.hushed := by
  cases value with
  | string text => rfl
  | bool value => rfl
  | length size =>
      cases size with
      | absolute pixels => exact (numberTokens_hushed pixels).symm
      | relative percent =>
          change numberTokens percent ++ [Token.percent] =
            (numberTokens percent ++ [Token.percent]).map Token.hushed
          rw [List.map_append, numberTokens_hushed]
          rfl
      | combined percent sign offset =>
          change numberTokens percent ++ Token.percent :: sign.token :: numberTokens offset =
            (numberTokens percent ++ Token.percent :: sign.token :: numberTokens offset).map
              Token.hushed
          rw [List.map_append, List.map_cons, List.map_cons, numberTokens_hushed,
            numberTokens_hushed]
          cases sign <;> rfl

theorem Property.tokens_hushed (separator : Separator) (properties : List Property) :
    (properties.map (Property.outline Value.hushed)).flatMap (Property.tokens separator) =
      (properties.flatMap (Property.tokens separator)).map Token.hushed := by
  rw [List.flatMap_map, List.map_flatMap]
  refine congrArg (List.flatMap · properties) (funext fun property => ?_)
  unfold Property.tokens Property.outline
  rw [List.map_cons, List.map_cons, ← property.value.tokens_hushed]
  cases separator <;> rfl

mutual

theorem tokens_hushed_component : ∀ component : Component,
    (component.outline Value.hushed).tokens = component.tokens.map Token.hushed
  | .mk kind properties children span => by
      rw [Component.outline, Component.tokens, Component.tokens, Property.tokens_hushed,
        tokens_hushed_components children]
      simp [Token.hushed]

theorem tokens_hushed_components : ∀ components : List Component,
    Component.tokensOf (Component.outlines Value.hushed components) =
      (Component.tokensOf components).map Token.hushed
  | [] => rfl
  | component :: rest => by
      rw [Component.outlines, Component.tokensOf, Component.tokensOf, List.map_append,
        tokens_hushed_component component, tokens_hushed_components rest]

end

theorem Theme.tokens_hushed (theme : Theme) :
    (theme.outline Value.hushed).tokens = theme.tokens.map Token.hushed := by
  rw [Theme.outline, Theme.tokens, Theme.tokens, List.map_append, Property.tokens_hushed,
    tokens_hushed_components]

/-- Themes that differ in what their strings hold and in places. -/
def Theme.Alike (first second : Theme) : Prop :=
  first.outline Value.hushed = second.outline Value.hushed

namespace Theme.Alike

variable {first second : Theme}

theorem names_eq (alike : first.Alike second) : first.names = second.names := by
  have names := congrArg Theme.names alike
  rw [Theme.names_outline, Theme.names_outline] at names
  exact names

theorem tokens_eq (alike : first.Alike second) :
    first.tokens.map Token.hushed = second.tokens.map Token.hushed := by
  rw [← Theme.tokens_hushed, ← Theme.tokens_hushed, alike]

theorem listable (alike : first.Alike second)
    (listable : ∀ value ∈ second.values, value.Listable) :
    ∀ value ∈ first.values, value.Listable := by
  have values := congrArg Theme.values alike
  rw [Theme.values_outline, Theme.values_outline] at values
  intro value among
  have inside := List.mem_map_of_mem (f := Value.hushed) among
  rw [values] at inside
  obtain ⟨other, amongToo, same⟩ := List.mem_map.1 inside
  have known := listable other amongToo
  cases value with
  | string text => constructor <;> intro number impossible <;> cases impossible
  | bool value => constructor <;> intro number impossible <;> cases impossible
  | length size =>
      cases other with
      | length other =>
          cases same
          exact known
      | string text => cases same
      | bool value => cases same

end Theme.Alike

/-- Whatever the strings of a theme hold, its listing leaves nothing to skip and is read as the
theme again, each string as what stands between its quotes. Listings of themes that differ in
their strings alone are made of the same tokens but for what string tokens hold. -/
theorem strings_inject_nothing {source : String} {theme : Theme}
    (parsed : parseTheme source = .ok theme)
    (finite : ∀ number ∈ theme.numbers, isFinite number = true) :
    theme.ListsBack ∧
    ∀ other : Theme, other.Alike theme → other.ListsBack ∧
      (lex other.listing).tokens.map (fun located => located.token.hushed) =
        (lex theme.listing).tokens.map (fun located => located.token.hushed) := by
  have areNames := isName_of_mem_names parsed
  have listable := listable_of_finite parsed finite
  refine ⟨listsBack_of_listable areNames listable, ?_⟩
  intro other alike
  have otherNames : ∀ name ∈ other.names, Piece.IsName name := alike.names_eq ▸ areNames
  refine ⟨listsBack_of_listable otherNames (alike.listable listable), ?_⟩
  have tokens (theme : Theme) (areNames : ∀ name ∈ theme.names, Piece.IsName name) :
      (lex theme.listing).tokens.map (fun located => located.token.hushed) =
        theme.tokens.map Token.hushed := by
    rw [← tokensIn_listing theme areNames, ← map_token_lex, List.map_map]
    rfl
  rw [tokens other otherNames, tokens theme areNames, alike.tokens_eq]

/-- The items of `a = "…" + c { d: 5% }` with a string. -/
def aroundString (text : String) : List ItemPhrase :=
  [.property ⟨"a", 0, 1⟩ ⟨.equals, 2, 3⟩ (.string ⟨text, 4, 19⟩),
    .component ⟨20, 21⟩ ⟨"c", 22, 23⟩ ⟨24, 25⟩
      [.property ⟨"d", 26, 27⟩ ⟨.colon, 27, 28⟩
        (.length ⟨none, ⟨5, 29, 30⟩, some (⟨30, 31⟩, none)⟩)]
      ⟨32, 33⟩]

/-- A quote, braces, a comment mark and a line end in a string change nothing around it. -/
theorem marks_in_string_inject_nothing :
    (ItemPhrase.theme (aroundString "x\\\" \x7d # \x7b\n+ b")).ListsBack ∧
    (ItemPhrase.theme (aroundString "\"")).ListsBack := by
  have parsed : parseTheme "a = \"x\\\" \x7d # \x7b\n+ b\" + c \x7b d: 5% \x7d" =
      .ok (ItemPhrase.theme (aroundString "x\\\" \x7d # \x7b\n+ b")) :=
    (readTheme_eq_ok_iff _ _ _).2 ⟨_, by decide +kernel, rfl⟩
  obtain ⟨back, alike⟩ := strings_inject_nothing parsed (by decide +kernel)
  exact ⟨back, (alike (ItemPhrase.theme (aroundString "\"")) rfl).1⟩

end BootTheme
