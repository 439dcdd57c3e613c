import Mathlib
import BootTheme.Svg.Escape

/-!
# Well-formed markup

A document of XML 1.0 is a text that is spelled by a tree of elements. The grammar here is the
part of it without comments, instructions and sections of raw characters; names are of ASCII
characters, values stand between double quotes, and a greater-than sign within text is always
written as an entity. Line ends are read as they are written.
-/

namespace BootTheme

namespace Xml

/-! ## Characters -/

/-- The characters that a document may hold. -/
def IsChar (char : Char) : Prop :=
  char ∈ ['\t', '\n', '\r'] ∨
    (32 ≤ char.toNat ∧ char.toNat ≠ 0xFFFE ∧ char.toNat ≠ 0xFFFF)

instance (char : Char) : Decidable (IsChar char) := inferInstanceAs (Decidable (_ ∨ _))

theorem isChar_of_ascii {char : Char} (printed : 32 ≤ char.toNat) (small : char.toNat < 128) :
    IsChar char :=
  .inr ⟨printed, by omega, by omega⟩

/-- Letters and digits lie between zero and the small z. -/
theorem toNat_of_isAlphanum {char : Char} (letter : char.isAlphanum = true) :
    48 ≤ char.toNat ∧ char.toNat ≤ 122 := by
  simp only [Char.isAlphanum, Char.isAlpha, Char.isUpper, Char.isLower, Char.isDigit,
    Bool.or_eq_true, Bool.and_eq_true, decide_eq_true_eq, ge_iff_le,
    UInt32.le_iff_toNat_le] at letter
  have upper : 'A'.val.toNat = 65 ∧ 'Z'.val.toNat = 90 := ⟨rfl, rfl⟩
  have lower : 'a'.val.toNat = 97 ∧ 'z'.val.toNat = 122 := ⟨rfl, rfl⟩
  have digit : '0'.val.toNat = 48 ∧ '9'.val.toNat = 57 := ⟨rfl, rfl⟩
  rw [Char.toNat]
  omega

/-- A text of such characters. -/
def IsText (text : String) : Prop := ∀ char ∈ text.toList, IsChar char

instance (text : String) : Decidable (IsText text) := List.decidableBAll IsChar text.toList

/-- The characters that have an entity, with what stands behind the ampersand of a reference. -/
inductive Reference : Char → List Char → Prop where
  | ampersand : Reference '&' ['a', 'm', 'p', ';']
  | less : Reference '<' ['l', 't', ';']
  | greater : Reference '>' ['g', 't', ';']
  | quote : Reference '"' ['q', 'u', 'o', 't', ';']
  | apostrophe : Reference '\'' ['a', 'p', 'o', 's', ';']

/-- A text and its spelling, in which some characters stand for themselves and others are
written as references. -/
inductive Spelled (bare : Char → Prop) : List Char → List Char → Prop where
  | nil : Spelled bare [] []
  | bare {char : Char} {value raw : List Char} (allowed : IsChar char) (itself : bare char)
      (rest : Spelled bare value raw) : Spelled bare (char :: value) (char :: raw)
  | reference {char : Char} {entity value raw : List Char} (named : Reference char entity)
      (rest : Spelled bare value raw) :
      Spelled bare (char :: value) ('&' :: (entity ++ raw))

/-- The characters that stand for themselves in the value of an attribute. -/
def BareInValue (char : Char) : Prop := char ≠ '<' ∧ char ≠ '&' ∧ char ≠ '"'

/-- The characters that stand for themselves in text. -/
def BareInText (char : Char) : Prop := char ≠ '<' ∧ char ≠ '&' ∧ char ≠ '>'

instance (char : Char) : Decidable (BareInText char) := inferInstanceAs (Decidable (_ ∧ _ ∧ _))

/-- The value of an attribute and how it is spelled between the quotes. -/
def SpelledValue (value raw : String) : Prop := Spelled BareInValue value.toList raw.toList

/-- Text and how it is spelled between tags. -/
def SpelledText (text raw : String) : Prop := Spelled BareInText text.toList raw.toList

/-- No reference begins another one. -/
theorem Reference.unique {first second : Char} {entity other raw more : List Char}
    (one : Reference first entity) (two : Reference second other)
    (same : entity ++ raw = other ++ more) : first = second ∧ raw = more := by
  cases one <;> cases two <;> simp_all

namespace Spelled

variable {bare : Char → Prop} {first second raw more : List Char}

theorem append (one : Spelled bare first raw) (other : Spelled bare second more) :
    Spelled bare (first ++ second) (raw ++ more) := by
  induction one with
  | nil => exact other
  | bare allowed itself rest ih => exact .bare allowed itself ih
  | reference named rest ih =>
      rw [List.cons_append, List.cons_append, List.append_assoc]
      exact .reference named ih

/-- Text without a special character is its own spelling. -/
theorem self {text : List Char} (allowed : ∀ char ∈ text, IsChar char)
    (itself : ∀ char ∈ text, bare char) : Spelled bare text text := by
  induction text with
  | nil => exact .nil
  | cons char rest ih =>
      rw [List.forall_mem_cons] at allowed itself
      exact .bare allowed.1 itself.1 (ih allowed.2 itself.2)

/-- A spelling is one of one text only. -/
theorem unique (marked : ¬ bare '&') (one : Spelled bare first raw)
    (other : Spelled bare second raw) : first = second := by
  -- The first character of the spelling says whether a reference starts there.
  induction one generalizing second with
  | nil =>
      cases other with
      | nil => rfl
  | bare allowed itself rest ih =>
      cases other with
      | bare _ _ others => rw [ih others]
      | reference => exact absurd itself marked
  | reference named rest ih =>
      generalize whole : '&' :: (_ ++ _) = raw at other
      cases other with
      | nil => cases whole
      | bare _ itself _ =>
          obtain ⟨rfl, -⟩ := List.cons.inj whole
          exact absurd itself marked
      | reference others tail =>
          obtain ⟨rfl, rfl⟩ := named.unique others (List.cons.inj whole).2
          rw [ih tail]

end Spelled

/-! ## Escaped texts -/

theorem replaceChar_append (char : Char) (entity first second : List Char) :
    replaceChar char entity (first ++ second) =
      replaceChar char entity first ++ replaceChar char entity second :=
  List.flatMap_append

theorem escapeChars_cons (char : Char) (rest : List Char) :
    escapeChars (char :: rest) = escapeChars [char] ++ escapeChars rest := by
  unfold escapeChars
  rw [← List.singleton_append (x := char), replaceChar_append, replaceChar_append,
    replaceChar_append, replaceChar_append, replaceChar_append]

theorem replaceChar_singleton {char other : Char} (apart : other ≠ char) (entity : List Char) :
    replaceChar char entity [other] = [other] := by
  rw [replaceChar, List.flatMap_singleton, if_neg apart]

/-- Escaping writes a character as its reference or as itself. -/
theorem escapeChars_singleton (char : Char) :
    (∃ entity, Reference char entity ∧ escapeChars [char] = '&' :: entity) ∨
      (char ≠ '&' ∧ char ≠ '<' ∧ char ≠ '>' ∧ char ≠ '"' ∧ char ≠ '\'') ∧
        escapeChars [char] = [char] := by
  by_cases ampersand : char = '&'
  · subst ampersand
    exact .inl ⟨_, .ampersand, by decide⟩
  by_cases less : char = '<'
  · subst less
    exact .inl ⟨_, .less, by decide⟩
  by_cases greater : char = '>'
  · subst greater
    exact .inl ⟨_, .greater, by decide⟩
  by_cases quote : char = '"'
  · subst quote
    exact .inl ⟨_, .quote, by decide⟩
  by_cases apostrophe : char = '\''
  · subst apostrophe
    exact .inl ⟨_, .apostrophe, by decide⟩
  · refine .inr ⟨⟨ampersand, less, greater, quote, apostrophe⟩, ?_⟩
    rw [escapeChars, replaceChar_singleton ampersand, replaceChar_singleton less,
      replaceChar_singleton greater, replaceChar_singleton quote, replaceChar_singleton apostrophe]

/-- An escaped text spells the text. -/
theorem spelled_escapeChars {bare : Char → Prop} {text : List Char}
    (allowed : ∀ char ∈ text, IsChar char)
    (unmarked : ∀ char, char ≠ '&' → char ≠ '<' → char ≠ '>' → char ≠ '"' → bare char) :
    Spelled bare text (escapeChars text) := by
  induction text with
  | nil => exact .nil
  | cons char rest ih =>
      rw [List.forall_mem_cons] at allowed
      rw [escapeChars_cons]
      rcases escapeChars_singleton char with
        ⟨entity, named, same⟩ | ⟨⟨ampersand, less, greater, quote, -⟩, same⟩
      · rw [same]
        exact .reference named (ih allowed.2)
      · rw [same]
        exact .bare allowed.1 (unmarked char ampersand less greater quote) (ih allowed.2)

theorem value_escapeMarkup {text : String} (allowed : IsText text) :
    SpelledValue text (escapeMarkup text) := by
  unfold SpelledValue escapeMarkup
  rw [String.toList_ofList]
  exact spelled_escapeChars allowed fun _ ampersand less _ quote => ⟨less, ampersand, quote⟩

theorem text_escapeMarkup {text : String} (allowed : IsText text) :
    SpelledText text (escapeMarkup text) := by
  unfold SpelledText escapeMarkup
  rw [String.toList_ofList]
  exact spelled_escapeChars allowed fun _ ampersand less greater _ => ⟨less, ampersand, greater⟩

/-- What is written of a text is read as this text and no other. -/
theorem spelledText_escapeMarkup_iff {text : String} (allowed : IsText text) (other : String) :
    SpelledText other (escapeMarkup text) ↔ other = text := by
  constructor
  · intro spelled
    exact String.toList_inj.1 (spelled.unique (fun bare => bare.2.1 rfl)
      (text_escapeMarkup allowed))
  · rintro rfl
    exact text_escapeMarkup allowed

/-! ## Elements -/

/-- The characters of names. -/
def inName (char : Char) : Bool :=
  char.isAlphanum || char == '-' || char == '.' || char == '_' || char == ':'

/-- A name of ASCII letters, digits and marks that starts with a letter. -/
def IsName (name : String) : Prop :=
  name.toList.head?.any Char.isAlpha = true ∧ name.toList.all inName = true

instance (name : String) : Decidable (IsName name) := inferInstanceAs (Decidable (_ ∧ _))

/-- What stands between the tags of an element: texts and elements with the values of their
attributes. -/
inductive Node where
  | text (text : String)
  | element (name : String) (attributes : List (String × String)) (children : List Node)

/-- Attributes and how they are spelled, each behind a blank. -/
inductive Attributes : List (String × String) → String → Prop where
  | nil : Attributes [] ""
  | cons {name value raw tail : String} {rest : List (String × String)} (named : IsName name)
      (spelled : SpelledValue value raw) (others : Attributes rest tail) :
      Attributes ((name, value) :: rest) (" " ++ name ++ "=\"" ++ raw ++ "\"" ++ tail)

/-- Texts and elements one after the other and how they are spelled. No attribute of an element
is given twice, and every tag is closed by its own. -/
inductive Content : List Node → String → Prop where
  | nil : Content [] ""
  | text {text raw tail : String} {rest : List Node} (spelled : SpelledText text raw)
      (others : Content rest tail) : Content (.text text :: rest) (raw ++ tail)
  | empty {name raw tail : String} {attributes : List (String × String)} {rest : List Node}
      (named : IsName name) (once : (attributes.map Prod.fst).Nodup)
      (spelled : Attributes attributes raw) (others : Content rest tail) :
      Content (.element name attributes [] :: rest) ("<" ++ name ++ raw ++ "/>" ++ tail)
  | element {name raw inner tail : String} {attributes : List (String × String)}
      {children rest : List Node} (named : IsName name) (once : (attributes.map Prod.fst).Nodup)
      (spelled : Attributes attributes raw) (within : Content children inner)
      (others : Content rest tail) :
      Content (.element name attributes children :: rest)
        ("<" ++ name ++ raw ++ ">" ++ inner ++ "</" ++ name ++ ">" ++ tail)

/-- The declaration that a document may start with. -/
def declaration : String := "<?xml version=\"1.0\" encoding=\"UTF-8\"?>"

/-- The element of a document and how the document is spelled: behind a declaration and blank
space, or alone. -/
inductive Document : Node → String → Prop where
  | plain {name raw : String} {attributes : List (String × String)} {children : List Node}
      (root : Content [.element name attributes children] raw) :
      Document (.element name attributes children) raw
  | declared {name raw gap : String} {attributes : List (String × String)} {children : List Node}
      (blank : ∀ char ∈ gap.toList, char = ' ' ∨ char = '\n')
      (root : Content [.element name attributes children] raw) :
      Document (.element name attributes children) (declaration ++ gap ++ raw)

theorem IsText.append {first second : String} (one : IsText first) (other : IsText second) :
    IsText (first ++ second) := by
  unfold IsText
  rw [String.toList_append, List.forall_mem_append]
  exact ⟨one, other⟩

theorem Attributes.append {first second : List (String × String)} {raw more : String}
    (one : Attributes first raw) (other : Attributes second more) :
    Attributes (first ++ second) (raw ++ more) := by
  induction one with
  | nil =>
      rw [String.empty_append]
      exact other
  | cons named spelled others ih =>
      rw [String.append_assoc]
      exact .cons named spelled ih

theorem Content.append {first second : List Node} {raw more : String}
    (one : Content first raw) (other : Content second more) :
    Content (first ++ second) (raw ++ more) := by
  induction one with
  | nil =>
      rw [String.empty_append]
      exact other
  | text spelled others ih =>
      rw [String.append_assoc]
      exact .text spelled ih
  | empty named once spelled others ih =>
      rw [String.append_assoc]
      exact .empty named once spelled ih
  | element named once spelled within others _ ih =>
      rw [String.append_assoc]
      exact .element named once spelled within ih

/-! ## What holds of every document -/

/-- Characters that a document may hold, without an ampersand. -/
def IsUnmarked (raw : List Char) : Prop := ∀ char ∈ raw, IsChar char ∧ char ≠ '&'

instance (raw : List Char) : Decidable (IsUnmarked raw) :=
  List.decidableBAll (fun char => IsChar char ∧ char ≠ '&') raw

/-- A property that unmarked texts and references have, and that two texts pass on to their
joining. So every document has it. -/
structure Compositional (holds : List Char → Prop) : Prop where
  unmarked : ∀ raw, IsUnmarked raw → holds raw
  reference : ∀ char entity, Reference char entity → holds ('&' :: entity)
  append : ∀ first second, holds first → holds second → holds (first ++ second)

theorem IsName.unmarked {name : String} (named : IsName name) : IsUnmarked name.toList := by
  intro char among
  have held := List.all_eq_true.1 named.2 char among
  simp only [inName, Bool.or_eq_true, beq_iff_eq] at held
  rcases held with (((letter | rfl) | rfl) | rfl) | rfl
  · have bounds := toNat_of_isAlphanum letter
    refine ⟨isChar_of_ascii (by omega) (by omega), ?_⟩
    rintro rfl
    exact absurd letter (by decide)
  all_goals decide

namespace Compositional

variable {holds : List Char → Prop} (parts : Compositional holds)

include parts

theorem join {first second : String} (one : holds first.toList) (other : holds second.toList) :
    holds (first ++ second).toList := by
  rw [String.toList_append]
  exact parts.append _ _ one other

theorem spelled {bare : Char → Prop} {text raw : List Char} (marked : ¬ bare '&')
    (spelled : Spelled bare text raw) : holds raw := by
  induction spelled with
  | nil => exact parts.unmarked [] (by decide)
  | @bare char value raw allowed itself rest ih =>
      refine parts.append [char] raw (parts.unmarked _ ?_) ih
      refine List.forall_mem_singleton.2 ⟨allowed, ?_⟩
      rintro rfl
      exact marked itself
  | @reference char entity value raw named rest ih =>
      exact parts.append ('&' :: entity) raw (parts.reference char entity named) ih

theorem attributes {attributes : List (String × String)} {raw : String}
    (spelled : Attributes attributes raw) : holds raw.toList := by
  have blank := parts.unmarked " ".toList (by decide)
  have opening := parts.unmarked "=\"".toList (by decide)
  have closing := parts.unmarked "\"".toList (by decide)
  induction spelled with
  | nil => exact parts.unmarked [] (by decide)
  | cons named value others ih =>
      have name := parts.unmarked _ named.unmarked
      have inside := parts.spelled (fun bare => bare.2.1 rfl) value
      exact parts.join (parts.join (parts.join (parts.join (parts.join blank name)
        opening) inside) closing) ih

theorem content {nodes : List Node} {raw : String} (content : Content nodes raw) :
    holds raw.toList := by
  have opening := parts.unmarked "<".toList (by decide)
  have closing := parts.unmarked ">".toList (by decide)
  have leaving := parts.unmarked "</".toList (by decide)
  have alone := parts.unmarked "/>".toList (by decide)
  induction content with
  | nil => exact parts.unmarked [] (by decide)
  | text spelled others ih =>
      exact parts.join (parts.spelled (fun bare => bare.2.1 rfl) spelled) ih
  | empty named once spelled others ih =>
      have tag := parts.join opening (parts.unmarked _ named.unmarked)
      have inside := parts.join tag (parts.attributes spelled)
      exact parts.join (parts.join inside alone) ih
  | element named once spelled within others inner ih =>
      have name := parts.unmarked _ named.unmarked
      have start := parts.join (parts.join (parts.join opening name)
        (parts.attributes spelled)) closing
      have full := parts.join (parts.join (parts.join start inner) leaving) name
      exact parts.join (parts.join full closing) ih

theorem document {root : Node} {raw : String} (document : Document root raw) :
    holds raw.toList := by
  cases document with
  | plain root => exact parts.content root
  | declared blank root =>
      refine parts.join (parts.join (parts.unmarked declaration.toList (by decide)) ?_)
        (parts.content root)
      apply parts.unmarked
      intro char among
      rcases blank char among with rfl | rfl
      · decide
      · decide

end Compositional

theorem Reference.isChar {char : Char} {entity : List Char} (named : Reference char entity) :
    ∀ other ∈ entity, IsChar other := by
  cases named <;> simp [IsChar]

theorem compositional_isChar : Compositional fun raw => ∀ char ∈ raw, IsChar char where
  unmarked _ unmarked char among := (unmarked char among).1
  reference _ _ named := List.forall_mem_cons.2 ⟨by decide, named.isChar⟩
  append _ _ one other := List.forall_mem_append.2 ⟨one, other⟩

/-- Every character of a document is one that a document may hold. -/
theorem Document.isText {root : Node} {raw : String} (document : Document root raw) :
    IsText raw :=
  compositional_isChar.document document

/-- Every ampersand of a text starts a reference. -/
def Refers (raw : List Char) : Prop :=
  ∀ before behind, raw = before ++ '&' :: behind →
    ∃ char entity tail, Reference char entity ∧ behind = entity ++ tail

theorem refers_of_none {raw : List Char} (none : '&' ∉ raw) : Refers raw := by
  rintro before behind rfl
  simp at none

theorem Refers.append {first second : List Char} (one : Refers first) (other : Refers second) :
    Refers (first ++ second) := by
  intro before behind whole
  rw [List.append_eq_append_iff] at whole
  rcases whole with ⟨more, rfl, rest⟩ | ⟨more, inside, rest⟩
  · exact other more behind rest
  -- An ampersand of the first text starts a reference that ends within it.
  · cases more with
    | nil => exact other [] behind rest.symm
    | cons first more =>
        rw [List.cons_append, List.cons.injEq] at rest
        obtain ⟨rfl, rfl⟩ := rest
        obtain ⟨char, entity, tail, named, same⟩ := one before more inside
        exact ⟨char, entity, tail ++ second, named, by rw [same, List.append_assoc]⟩

theorem Reference.refers {char : Char} {entity : List Char} (named : Reference char entity) :
    Refers ('&' :: entity) := by
  have none : '&' ∉ entity := by cases named <;> decide
  rintro before behind whole
  cases before with
  | nil =>
      obtain ⟨-, rfl⟩ := List.cons.inj whole
      exact ⟨char, entity, [], named, (List.append_nil entity).symm⟩
  | cons first before =>
      obtain ⟨-, rfl⟩ := List.cons.inj whole
      simp at none

theorem compositional_refers : Compositional Refers where
  unmarked _ unmarked := refers_of_none fun among => (unmarked '&' among).2 rfl
  reference _ _ named := named.refers
  append _ _ := Refers.append

/-- Every ampersand of a document starts a reference. -/
theorem Document.refers {root : Node} {raw : String} (document : Document root raw) :
    Refers raw.toList :=
  compositional_refers.document document

end Xml

end BootTheme
