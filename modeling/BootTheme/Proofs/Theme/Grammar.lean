import BootTheme.Theme.Parser

/-!
# The grammar of themes

    theme     := item*
    item      := name separator value | '+' name '{' item* '}'
    separator := ':' | '='
    value     := string | name | 'true' | 'false' | length
    length    := '-'? number ('%' (('+' | '-') number)?)?

A phrase is a derivation: it spells a list of tokens and denotes a part of a theme.
No two phrases spell the same tokens.
-/

namespace BootTheme

/-- The datum of a token and where the token stands. -/
structure Leaf (β : Type) where
  datum : β
  span : Span
deriving DecidableEq, Repr

/-- What stands between a name and its value. -/
inductive Separator where
  | colon
  | equals
deriving DecidableEq, Repr

/-- A derivation of `('+' | '-') number`. -/
structure OffsetPhrase where
  sign : Leaf OffsetSign
  number : Leaf Float
deriving DecidableEq, Repr

/-- A derivation of a length. -/
structure LengthPhrase where
  minus : Option Span
  number : Leaf Float
  percent : Option (Span × Option OffsetPhrase)
deriving DecidableEq, Repr

/-- A derivation of a value. -/
inductive ValuePhrase where
  | string (text : Leaf String)
  | word (name : Leaf String)
  | bool (value : Leaf Bool)
  | length (phrase : LengthPhrase)
deriving DecidableEq, Repr

/-- A derivation of an item; the places of the marks are kept. -/
inductive ItemPhrase where
  | property (name : Leaf String) (separator : Leaf Separator) (value : ValuePhrase)
  | component (plus : Span) (kind : Leaf String) (opening : Span) (items : List ItemPhrase)
      (closing : Span)
deriving Repr

/-- What a plus sign is there for; other tokens have no use of their own. -/
inductive Use where
  | offset
  | component
  | other
deriving DecidableEq, Repr

/-! ## What a phrase spells -/

/-- The token of a leaf. -/
def Leaf.as {β : Type} (leaf : Leaf β) (token : β → Token) : Located :=
  ⟨token leaf.datum, leaf.span⟩

/-- The token of a separator. -/
def Separator.token : Separator → Token
  | colon => .colon
  | equals => .equals

/-- The token of the sign of an offset. -/
def OffsetSign.token : OffsetSign → Token
  | plus => .plus
  | minus => .minus

namespace LengthPhrase

/-- The tokens behind the number. -/
def tail : Option (Span × Option OffsetPhrase) → List Located
  | none => []
  | some (span, none) => [⟨.percent, span⟩]
  | some (span, some offset) =>
      [⟨.percent, span⟩, offset.sign.as OffsetSign.token, offset.number.as .number]

/-- The tokens of a length. -/
def tokens (phrase : LengthPhrase) : List Located :=
  (phrase.minus.map fun span => ⟨.minus, span⟩).toList ++
    phrase.number.as .number :: tail phrase.percent

/-- The uses of the tokens behind the number. -/
def tailUses : Option (Span × Option OffsetPhrase) → List Use
  | none => []
  | some (_, none) => [.other]
  | some (_, some _) => [.other, .offset, .other]

/-- The uses of the tokens of a length. -/
def uses (phrase : LengthPhrase) : List Use :=
  (phrase.minus.map fun _ => .other).toList ++ .other :: tailUses phrase.percent

end LengthPhrase

namespace ValuePhrase

/-- The tokens of a value. -/
def tokens : ValuePhrase → List Located
  | string text => [text.as .string]
  | word name => [name.as .ident]
  | bool value => [value.as .bool]
  | length phrase => phrase.tokens

/-- The uses of the tokens of a value. -/
def uses : ValuePhrase → List Use
  | string _ => [.other]
  | word _ => [.other]
  | bool _ => [.other]
  | length phrase => phrase.uses

end ValuePhrase

namespace ItemPhrase

mutual

/-- The tokens of an item. -/
def tokens : ItemPhrase → List Located
  | property name separator value =>
      name.as .ident :: separator.as Separator.token :: value.tokens
  | component plus kind opening items closing =>
      ⟨.plus, plus⟩ :: kind.as .ident :: ⟨.braceOpen, opening⟩ ::
        (spell items ++ [⟨.braceClose, closing⟩])

/-- The tokens of items, one after the other. -/
def spell : List ItemPhrase → List Located
  | [] => []
  | item :: rest => item.tokens ++ spell rest

end

mutual

/-- The uses of the tokens of an item. -/
def uses : ItemPhrase → List Use
  | property _ _ value => .other :: .other :: value.uses
  | component _ _ _ items _ => .component :: .other :: .other :: (usesAll items ++ [.other])

/-- The uses of the tokens of items. -/
def usesAll : List ItemPhrase → List Use
  | [] => []
  | item :: rest => item.uses ++ usesAll rest

end

theorem spell_append (first second : List ItemPhrase) :
    spell (first ++ second) = spell first ++ spell second := by
  induction first with
  | nil => rfl
  | cons item rest ih => rw [List.cons_append, spell, spell, ih, List.append_assoc]

theorem spell_singleton (item : ItemPhrase) : spell [item] = item.tokens := by
  rw [spell, spell, List.append_nil]

end ItemPhrase

/-! ## What a phrase denotes -/

namespace LengthPhrase

/-- The number with its sign. -/
def amount (phrase : LengthPhrase) : Float :=
  if phrase.minus.isSome then -phrase.number.datum else phrase.number.datum

/-- The length that is denoted. -/
def size (phrase : LengthPhrase) : Length Float :=
  match phrase.percent with
  | none => .absolute phrase.amount
  | some (_, none) => .relative phrase.amount
  | some (_, some offset) => .combined phrase.amount offset.sign.datum offset.number.datum

/-- Where a length ends. -/
def stop (phrase : LengthPhrase) : Nat :=
  match phrase.percent with
  | none => phrase.number.span.stop
  | some (span, none) => span.stop
  | some (_, some offset) => offset.number.span.stop

end LengthPhrase

namespace ValuePhrase

/-- The value that is denoted. -/
def value : ValuePhrase → Value
  | string text => .string text.datum
  | word name => .string name.datum
  | bool value => .bool value.datum
  | length phrase => .length phrase.size

/-- Where a value ends. -/
def stop : ValuePhrase → Nat
  | string text => text.span.stop
  | word name => name.span.stop
  | bool value => value.span.stop
  | length phrase => phrase.stop

end ValuePhrase

namespace ItemPhrase

/-- The property that is denoted, if the item is one. -/
def property? : ItemPhrase → Option Property
  | property name _ value => some ⟨name.datum, value.value, ⟨name.span.start, value.stop⟩⟩
  | component _ _ _ _ _ => none

/-- The properties among items, in order. -/
def properties (items : List ItemPhrase) : List Property := items.filterMap property?

mutual

/-- The component that is denoted, if the item is one. -/
def component? : ItemPhrase → Option Component
  | property _ _ _ => none
  | component plus kind _ items closing =>
      some (.mk kind.datum (properties items) (components items) ⟨plus.start, closing.stop⟩)

/-- The components among items, in order. -/
def components : List ItemPhrase → List Component
  | [] => []
  | item :: rest =>
      match item.component? with
      | some block => block :: components rest
      | none => components rest

end

/-- The theme that items denote. -/
def theme (items : List ItemPhrase) : Theme := ⟨properties items, components items⟩

theorem components_eq_filterMap (items : List ItemPhrase) :
    components items = items.filterMap component? := by
  induction items with
  | nil => rfl
  | cons item rest ih =>
      rw [components, ih, List.filterMap_cons]
      cases item.component? with
      | none => rfl
      | some block => rfl

theorem components_append (first second : List ItemPhrase) :
    components (first ++ second) = components first ++ components second := by
  rw [components_eq_filterMap, components_eq_filterMap, components_eq_filterMap,
    List.filterMap_append]

theorem properties_append (first second : List ItemPhrase) :
    properties (first ++ second) = properties first ++ properties second :=
  List.filterMap_append

end ItemPhrase

/-! ## No two phrases spell the same tokens -/

/-- What may stand behind all items of a level. -/
inductive Closed : List Located → Prop where
  | ending : Closed []
  | brace (span : Span) (rest : List Located) : Closed (⟨.braceClose, span⟩ :: rest)

/-- What may stand behind an item. -/
inductive Behind : List Located → Prop where
  | closed {rest : List Located} (closed : Closed rest) : Behind rest
  | name (name : String) (span : Span) (rest : List Located) : Behind (⟨.ident name, span⟩ :: rest)
  | component (plus : Span) (kind : String) (span : Span) (rest : List Located) :
      Behind (⟨.plus, plus⟩ :: ⟨.ident kind, span⟩ :: rest)

theorem behind_spell (items : List ItemPhrase) {rest : List Located} (closed : Closed rest) :
    Behind (ItemPhrase.spell items ++ rest) := by
  cases items with
  | nil => exact .closed closed
  | cons item more =>
      rw [ItemPhrase.spell]
      cases item with
      | property name separator value =>
          rw [ItemPhrase.tokens]
          exact .name name.datum name.span _
      | component plus kind opening items closing =>
          rw [ItemPhrase.tokens]
          exact .component plus kind.datum kind.span _

/-- An item starts with a name or a plus sign, so none stands where a level is closed. -/
theorem Closed.not_item {item : ItemPhrase} {rest : List Located} :
    ¬ Closed (item.tokens ++ rest) := by
  intro closed
  cases item with
  | property name separator value =>
      rw [ItemPhrase.tokens] at closed
      cases closed
  | component plus kind opening items closing =>
      rw [ItemPhrase.tokens] at closed
      cases closed

theorem OffsetSign.token_injective {first second : OffsetSign}
    (same : first.token = second.token) : first = second := by
  cases first <;> cases second <;> first | rfl | cases same

theorem Separator.token_injective {first second : Separator}
    (same : first.token = second.token) : first = second := by
  cases first <;> cases second <;> first | rfl | cases same

/-- Behind an item stands neither a percent sign nor a minus sign. -/
theorem Behind.not_percent {span : Span} {rest : List Located} :
    ¬ Behind (⟨.percent, span⟩ :: rest) := by
  intro behind
  cases behind with
  | closed closed => cases closed

/-- Behind an item stands no sign with a number behind it. -/
theorem Behind.not_offset {offset : OffsetPhrase} {rest : List Located} :
    ¬ Behind (offset.sign.as OffsetSign.token :: offset.number.as .number :: rest) := by
  obtain ⟨⟨sign, span⟩, number⟩ := offset
  intro behind
  cases sign with
  | plus =>
      cases behind with
      | closed closed => cases closed
  | minus =>
      cases behind with
      | closed closed => cases closed

theorem Leaf.as_injective {β : Type} {token : β → Token}
    (injective : ∀ {first second : β}, token first = token second → first = second)
    {first second : Leaf β} (same : first.as token = second.as token) : first = second := by
  obtain ⟨datum, span⟩ := first
  obtain ⟨other, place⟩ := second
  obtain ⟨sameToken, samePlace⟩ := Located.mk.inj same
  have sameDatum : datum = other := injective sameToken
  have sameSpan : span = place := samePlace
  rw [sameDatum, sameSpan]

theorem LengthPhrase.tail_unique {first second : Option (Span × Option OffsetPhrase)}
    {rest other : List Located} (behind : Behind rest) (behindOther : Behind other)
    (same : tail first ++ rest = tail second ++ other) : first = second ∧ rest = other := by
  cases first with
  | none =>
      cases second with
      | none => exact ⟨rfl, same⟩
      | some percent =>
          obtain ⟨span, offset⟩ := percent
          have percentFirst : ∃ more, rest = ⟨.percent, span⟩ :: more := by
            cases offset with
            | none => exact ⟨_, same⟩
            | some offset => exact ⟨_, same⟩
          obtain ⟨more, shape⟩ := percentFirst
          rw [shape] at behind
          exact absurd behind Behind.not_percent
  | some percent =>
      obtain ⟨span, offset⟩ := percent
      cases second with
      | none =>
          have percentFirst : ∃ more, other = ⟨.percent, span⟩ :: more := by
            cases offset with
            | none => exact ⟨_, same.symm⟩
            | some offset => exact ⟨_, same.symm⟩
          obtain ⟨more, shape⟩ := percentFirst
          rw [shape] at behindOther
          exact absurd behindOther Behind.not_percent
      | some percent =>
          obtain ⟨place, otherOffset⟩ := percent
          cases offset with
          | none =>
              cases otherOffset with
              | none =>
                  obtain ⟨head, same⟩ := List.cons.inj same
                  exact ⟨by rw [(Located.mk.inj head).2], same⟩
              | some offset =>
                  have shape := (List.cons.inj same).2
                  change rest = _ at shape
                  rw [shape] at behind
                  exact absurd behind Behind.not_offset
          | some offset =>
              cases otherOffset with
              | none =>
                  have shape := (List.cons.inj same).2
                  change _ = other at shape
                  rw [← shape] at behindOther
                  exact absurd behindOther Behind.not_offset
              | some otherOffset =>
                  obtain ⟨sign, number⟩ := offset
                  obtain ⟨otherSign, otherNumber⟩ := otherOffset
                  obtain ⟨head, sameTail⟩ := List.cons.inj same
                  obtain ⟨signHead, sameTail⟩ := List.cons.inj sameTail
                  obtain ⟨numberHead, sameTail⟩ := List.cons.inj sameTail
                  have sameSign : sign = otherSign :=
                    Leaf.as_injective OffsetSign.token_injective signHead
                  have sameNumber : number = otherNumber :=
                    Leaf.as_injective Token.number.inj numberHead
                  rw [(Located.mk.inj head).2, sameSign, sameNumber]
                  exact ⟨rfl, sameTail⟩

theorem LengthPhrase.tokens_unique {first second : LengthPhrase} {rest other : List Located}
    (behind : Behind rest) (behindOther : Behind other)
    (same : first.tokens ++ rest = second.tokens ++ other) : first = second ∧ rest = other := by
  obtain ⟨minus, number, percent⟩ := first
  obtain ⟨otherMinus, otherNumber, otherPercent⟩ := second
  have numbers (equal : number.as .number :: tail percent ++ rest =
      otherNumber.as .number :: tail otherPercent ++ other) :
      number = otherNumber ∧ percent = otherPercent ∧ rest = other := by
    obtain ⟨head, equal⟩ := List.cons.inj equal
    exact ⟨Leaf.as_injective Token.number.inj head, tail_unique behind behindOther equal⟩
  cases minus with
  | none =>
      cases otherMinus with
      | none =>
          obtain ⟨sameNumber, samePercent, sameRest⟩ := numbers same
          rw [sameNumber, samePercent]
          exact ⟨rfl, sameRest⟩
      | some span => cases (Located.mk.inj (List.cons.inj same).1).1
  | some span =>
      cases otherMinus with
      | none => cases (Located.mk.inj (List.cons.inj same).1).1
      | some place =>
          obtain ⟨head, same⟩ := List.cons.inj same
          obtain ⟨sameNumber, samePercent, sameRest⟩ := numbers same
          rw [sameNumber, samePercent, (Located.mk.inj head).2]
          exact ⟨rfl, sameRest⟩

/-- The first token of a value tells its kind; only a length may go on. -/
theorem ValuePhrase.tokens_unique {first second : ValuePhrase} {rest other : List Located}
    (behind : Behind rest) (behindOther : Behind other)
    (same : first.tokens ++ rest = second.tokens ++ other) : first = second ∧ rest = other := by
  have apart {phrase : LengthPhrase} {located : Located} {front back : List Located}
      (number : ∀ value, located.token ≠ .number value) (minus : located.token ≠ .minus) :
      phrase.tokens ++ back ≠ located :: front := by
    intro equal
    obtain ⟨sign, value, percent⟩ := phrase
    cases sign with
    | none => exact number _ (congrArg Located.token (List.cons.inj equal).1).symm
    | some span => exact minus (congrArg Located.token (List.cons.inj equal).1).symm
  cases first with
  | string text =>
      cases second with
      | string otherText =>
          obtain ⟨head, same⟩ := List.cons.inj same
          rw [Leaf.as_injective Token.string.inj head]
          exact ⟨rfl, same⟩
      | word name => cases (Located.mk.inj (List.cons.inj same).1).1
      | bool value => cases (Located.mk.inj (List.cons.inj same).1).1
      | length phrase =>
          exact absurd same.symm (apart (fun _ => Token.noConfusion) Token.noConfusion)
  | word name =>
      cases second with
      | string otherText => cases (Located.mk.inj (List.cons.inj same).1).1
      | word otherName =>
          obtain ⟨head, same⟩ := List.cons.inj same
          rw [Leaf.as_injective Token.ident.inj head]
          exact ⟨rfl, same⟩
      | bool value => cases (Located.mk.inj (List.cons.inj same).1).1
      | length phrase =>
          exact absurd same.symm (apart (fun _ => Token.noConfusion) Token.noConfusion)
  | bool value =>
      cases second with
      | string otherText => cases (Located.mk.inj (List.cons.inj same).1).1
      | word otherName => cases (Located.mk.inj (List.cons.inj same).1).1
      | bool otherValue =>
          obtain ⟨head, same⟩ := List.cons.inj same
          rw [Leaf.as_injective Token.bool.inj head]
          exact ⟨rfl, same⟩
      | length phrase =>
          exact absurd same.symm (apart (fun _ => Token.noConfusion) Token.noConfusion)
  | length phrase =>
      cases second with
      | string otherText => exact absurd same (apart (fun _ => Token.noConfusion) Token.noConfusion)
      | word otherName => exact absurd same (apart (fun _ => Token.noConfusion) Token.noConfusion)
      | bool otherValue => exact absurd same (apart (fun _ => Token.noConfusion) Token.noConfusion)
      | length otherPhrase =>
          obtain ⟨samePhrase, sameRest⟩ := LengthPhrase.tokens_unique behind behindOther same
          rw [samePhrase]
          exact ⟨rfl, sameRest⟩

namespace ItemPhrase

mutual

theorem tokens_unique {rest other : List Located} (behind : Behind rest)
    (behindOther : Behind other) :
    ∀ first second : ItemPhrase, first.tokens ++ rest = second.tokens ++ other →
      first = second ∧ rest = other
  | property name separator value, property otherName otherSeparator otherValue, same => by
      rw [tokens, tokens] at same
      obtain ⟨nameHead, same⟩ := List.cons.inj same
      obtain ⟨separatorHead, same⟩ := List.cons.inj same
      obtain ⟨sameValue, sameRest⟩ := ValuePhrase.tokens_unique behind behindOther same
      rw [Leaf.as_injective Token.ident.inj nameHead,
        Leaf.as_injective Separator.token_injective separatorHead, sameValue]
      exact ⟨rfl, sameRest⟩
  | property name separator value, component plus kind opening items closing, same => by
      rw [tokens, tokens] at same
      cases (Located.mk.inj (List.cons.inj same).1).1
  | component plus kind opening items closing, property name separator value, same => by
      rw [tokens, tokens] at same
      cases (Located.mk.inj (List.cons.inj same).1).1
  | component plus kind opening items closing,
      component otherPlus otherKind otherOpening otherItems otherClosing, same => by
      rw [tokens, tokens] at same
      obtain ⟨plusHead, same⟩ := List.cons.inj same
      obtain ⟨kindHead, same⟩ := List.cons.inj same
      obtain ⟨openingHead, same⟩ := List.cons.inj same
      have inner : spell items ++ ⟨.braceClose, closing⟩ :: rest =
          spell otherItems ++ ⟨.braceClose, otherClosing⟩ :: other := by
        simpa using same
      obtain ⟨sameItems, closings⟩ := spell_unique (.brace closing rest)
        (.brace otherClosing other) items otherItems inner
      obtain ⟨closingHead, sameRest⟩ := List.cons.inj closings
      rw [(Located.mk.inj plusHead).2, Leaf.as_injective Token.ident.inj kindHead,
        (Located.mk.inj openingHead).2, sameItems, (Located.mk.inj closingHead).2]
      exact ⟨rfl, sameRest⟩

/-- Items end where a closing brace or the end of the source follows, so their tokens tell them. -/
theorem spell_unique {rest other : List Located} (closed : Closed rest)
    (closedOther : Closed other) :
    ∀ first second : List ItemPhrase, spell first ++ rest = spell second ++ other →
      first = second ∧ rest = other
  | [], [], same => ⟨rfl, same⟩
  | [], item :: more, same => by
      rw [spell, spell, List.nil_append, List.append_assoc] at same
      rw [same] at closed
      exact absurd closed Closed.not_item
  | item :: more, [], same => by
      rw [spell, spell, List.nil_append, List.append_assoc] at same
      rw [← same] at closedOther
      exact absurd closedOther Closed.not_item
  | first :: more, second :: otherMore, same => by
      rw [spell, spell, List.append_assoc, List.append_assoc] at same
      obtain ⟨sameItem, same⟩ := tokens_unique (behind_spell more closed)
        (behind_spell otherMore closedOther) first second same
      obtain ⟨sameMore, sameRest⟩ := spell_unique closed closedOther more otherMore same
      rw [sameItem, sameMore]
      exact ⟨rfl, sameRest⟩

end

/-- Two derivations of one list of tokens are the same. -/
theorem spell_injective {first second : List ItemPhrase} (same : spell first = spell second) :
    first = second :=
  (spell_unique .ending .ending first second
    ((List.append_nil _).trans (same.trans (List.append_nil _).symm))).1

end ItemPhrase

/-! ## What plus signs are used for -/

/-- Every plus sign is used for an offset with a number behind it, or for a component with a name
behind it. -/
inductive Used : List Located → List Use → Prop where
  | nil : Used [] []
  | other {located : Located} {rest : List Located} {uses : List Use}
      (mark : located.token ≠ .plus) (use : Use) (used : Used rest uses) :
      Used (located :: rest) (use :: uses)
  | offset {plus span : Span} {value : Float} {rest : List Located} {uses : List Use}
      (used : Used (⟨.number value, span⟩ :: rest) uses) :
      Used (⟨.plus, plus⟩ :: ⟨.number value, span⟩ :: rest) (.offset :: uses)
  | component {plus span : Span} {kind : String} {rest : List Located} {uses : List Use}
      (used : Used (⟨.ident kind, span⟩ :: rest) uses) :
      Used (⟨.plus, plus⟩ :: ⟨.ident kind, span⟩ :: rest) (.component :: uses)

namespace Used

theorem append {first second : List Located} {uses more : List Use} (left : Used first uses)
    (right : Used second more) : Used (first ++ second) (uses ++ more) := by
  induction left with
  | nil => exact right
  | other mark use _ ih => exact .other mark use ih
  | offset _ ih => exact .offset ih
  | component _ ih => exact .component ih

theorem single (located : Located) (mark : located.token ≠ .plus) : Used [located] [.other] :=
  .other mark .other .nil

end Used

/-- Whether a number is the first of the tokens. -/
def startsWithNumber : List Located → Bool
  | ⟨.number _, _⟩ :: _ => true
  | _ => false

/-- The token behind a plus sign tells its use. -/
theorem Used.at_plus {tokens : List Located} {uses : List Use} (used : Used tokens uses) :
    ∀ before plus after, tokens = before ++ plus :: after → plus.token = .plus →
      uses[before.length]? = some (if startsWithNumber after then .offset else .component) := by
  induction used with
  | nil =>
      intro before plus after split
      cases before <;> cases split
  | other mark use _ ih =>
      intro before plus after split token
      cases before with
      | nil =>
          rw [(List.cons.inj split).1] at mark
          exact absurd token mark
      | cons head before => exact ih before plus after (List.cons.inj split).2 token
  | offset _ ih =>
      intro before plus after split token
      cases before with
      | nil =>
          rw [← (List.cons.inj split).2]
          rfl
      | cons head before => exact ih before plus after (List.cons.inj split).2 token
  | component _ ih =>
      intro before plus after split token
      cases before with
      | nil =>
          rw [← (List.cons.inj split).2]
          rfl
      | cons head before => exact ih before plus after (List.cons.inj split).2 token

theorem LengthPhrase.used (phrase : LengthPhrase) : Used phrase.tokens phrase.uses := by
  obtain ⟨minus, number, percent⟩ := phrase
  have tailUsed : Used (tail percent) (tailUses percent) := by
    cases percent with
    | none => exact .nil
    | some percent =>
        obtain ⟨span, offset⟩ := percent
        cases offset with
        | none => exact .single _ Token.noConfusion
        | some offset =>
            obtain ⟨⟨sign, place⟩, amount⟩ := offset
            refine .other Token.noConfusion .other ?_
            cases sign with
            | plus => exact .offset (.single _ Token.noConfusion)
            | minus => exact .other Token.noConfusion .offset (.single _ Token.noConfusion)
  have numberUsed : Used (number.as .number :: tail percent) (.other :: tailUses percent) :=
    .other Token.noConfusion .other tailUsed
  cases minus with
  | none => exact numberUsed
  | some span => exact .other Token.noConfusion .other numberUsed

theorem ValuePhrase.used (phrase : ValuePhrase) : Used phrase.tokens phrase.uses := by
  cases phrase with
  | string text => exact .single _ Token.noConfusion
  | word name => exact .single _ Token.noConfusion
  | bool value => exact .single _ Token.noConfusion
  | length phrase => exact phrase.used

namespace ItemPhrase

mutual

theorem used : ∀ item : ItemPhrase, Used item.tokens item.uses
  | property name separator value => by
      rw [tokens, uses]
      refine .other Token.noConfusion .other (.other ?_ .other value.used)
      cases mark : separator.datum with
      | colon =>
          unfold Leaf.as
          rw [mark]
          exact Token.noConfusion
      | equals =>
          unfold Leaf.as
          rw [mark]
          exact Token.noConfusion
  | component plus kind opening items closing => by
      rw [tokens, uses]
      exact .component (.other Token.noConfusion .other (.other Token.noConfusion .other
        ((usedAll items).append (.single _ Token.noConfusion))))

theorem usedAll : ∀ items : List ItemPhrase, Used (spell items) (usesAll items)
  | [] => .nil
  | item :: rest => by
      rw [spell, usesAll]
      exact (used item).append (usedAll rest)

end

end ItemPhrase

end BootTheme
