import BootTheme.Proofs.Svg.Markup

/-!
# Escaped texts

Five replacements run over a text, each over what the ones before it have written. As the
ampersand is replaced first, they write every character once, as its reference or as itself, and
the text is read back from what is written.
-/

namespace BootTheme

namespace Xml

/-- A character as it is written by itself: one of the five as its reference, any other one as
it is. -/
def written : Char → List Char
  | '&' => "&amp;".toList
  | '<' => "&lt;".toList
  | '>' => "&gt;".toList
  | '"' => "&quot;".toList
  | '\'' => "&apos;".toList
  | char => [char]

/-- What is read where references are taken from the left and all else stands for itself. -/
def unescape : List Char → List Char
  | '&' :: 'a' :: 'm' :: 'p' :: ';' :: rest => '&' :: unescape rest
  | '&' :: 'l' :: 't' :: ';' :: rest => '<' :: unescape rest
  | '&' :: 'g' :: 't' :: ';' :: rest => '>' :: unescape rest
  | '&' :: 'q' :: 'u' :: 'o' :: 't' :: ';' :: rest => '"' :: unescape rest
  | '&' :: 'a' :: 'p' :: 'o' :: 's' :: ';' :: rest => '\'' :: unescape rest
  | char :: rest => char :: unescape rest
  | [] => []

/-! ## One character -/

theorem Reference.written_eq {char : Char} {entity : List Char} (named : Reference char entity) :
    written char = '&' :: entity := by
  cases named <;> rfl

/-- A character without a reference is written as it is. -/
theorem written_cases (char : Char) :
    (∃ entity, Reference char entity ∧ written char = '&' :: entity) ∨
      (char ≠ '&' ∧ char ∉ ['<', '>', '"', '\'']) ∧ written char = [char] := by
  rcases escapeChars_singleton char with
    ⟨entity, named, -⟩ | ⟨⟨ampersand, less, greater, quote, apostrophe⟩, -⟩
  · exact .inl ⟨entity, named, named.written_eq⟩
  · refine .inr ⟨⟨ampersand, by simp [less, greater, quote, apostrophe]⟩, ?_⟩
    unfold written
    split
    all_goals first | contradiction | rfl

/-- The replacements write a single character as it is written by itself. -/
theorem escapeChars_singleton_eq (char : Char) : escapeChars [char] = written char := by
  rcases escapeChars_singleton char with ⟨entity, named, same⟩ | ⟨plain, same⟩
  · rw [same, named.written_eq]
  · rcases written_cases char with ⟨entity, named, -⟩ | ⟨-, itself⟩
    · cases named <;> simp at plain
    · rw [same, itself]

theorem Reference.unescape_append {char : Char} {entity : List Char}
    (named : Reference char entity) (rest : List Char) :
    unescape ('&' :: (entity ++ rest)) = char :: unescape rest := by
  cases named <;> rfl

theorem unescape_cons {char : Char} (plain : char ≠ '&') (rest : List Char) :
    unescape (char :: rest) = char :: unescape rest := by
  conv_lhs => unfold unescape
  split <;> simp_all

theorem unescape_written (char : Char) (rest : List Char) :
    unescape (written char ++ rest) = char :: unescape rest := by
  rcases written_cases char with ⟨entity, named, same⟩ | ⟨⟨plain, -⟩, same⟩
  · rw [same, List.cons_append, named.unescape_append]
  · rw [same, List.singleton_append, unescape_cons plain]

theorem Reference.unmarked {char : Char} {entity : List Char} (named : Reference char entity) :
    ∀ other ∈ '&' :: entity, other ∉ ['<', '>', '"', '\''] := by
  cases named <;> simp

theorem unmarked_written (char : Char) : ∀ other ∈ written char, other ∉ ['<', '>', '"', '\''] := by
  rcases written_cases char with ⟨entity, named, same⟩ | ⟨⟨-, plain⟩, same⟩
  · rw [same]
    exact named.unmarked
  · rw [same]
    exact List.forall_mem_singleton.2 plain

theorem refers_written (char : Char) : Refers (written char) := by
  rcases written_cases char with ⟨entity, named, same⟩ | ⟨⟨plain, -⟩, same⟩
  · rw [same]
    exact named.refers
  · rw [same]
    exact refers_of_none (by simpa using plain.symm)

/-! ## Texts -/

variable (text : List Char)

/-- The replacements write the characters one by one. -/
theorem escapeChars_eq_flatMap : escapeChars text = text.flatMap written := by
  induction text with
  | nil => rfl
  | cons char rest ih =>
      rw [escapeChars_cons, escapeChars_singleton_eq, ih, List.flatMap_cons]

theorem unescape_flatMap : unescape (text.flatMap written) = text := by
  induction text with
  | nil => rfl
  | cons char rest ih => rw [List.flatMap_cons, unescape_written, ih]

theorem unmarked_flatMap : ∀ char ∈ text.flatMap written, char ∉ ['<', '>', '"', '\''] := by
  intro char among
  obtain ⟨source, -, inside⟩ := List.mem_flatMap.1 among
  exact unmarked_written source char inside

theorem refers_flatMap : Refers (text.flatMap written) := by
  induction text with
  | nil => exact refers_of_none List.not_mem_nil
  | cons char rest ih =>
      rw [List.flatMap_cons]
      exact (refers_written char).append ih

theorem unescape_escapeMarkup (text : String) :
    unescape (escapeMarkup text).toList = text.toList := by
  rw [escapeMarkup, String.toList_ofList, escapeChars_eq_flatMap, unescape_flatMap]

end Xml

open Xml

/-- The five replacements write every character once and by itself. What they write holds no
bracket and no quote, every ampersand in it begins a reference, and the text is read back from
it, so that no two texts are written alike. -/
theorem escaped_once_and_read_back :
    (∀ text, escapeMarkup text = String.ofList (text.toList.flatMap written)) ∧
    (∀ text, ∀ char ∈ (escapeMarkup text).toList, char ∉ ['<', '>', '"', '\'']) ∧
    (∀ text, Refers (escapeMarkup text).toList) ∧
    (∀ text, String.ofList (unescape (escapeMarkup text).toList) = text) ∧
    Function.Injective escapeMarkup := by
  have shape (text : String) : (escapeMarkup text).toList = text.toList.flatMap written := by
    rw [escapeMarkup, String.toList_ofList, escapeChars_eq_flatMap]
  refine ⟨?_, ?_, ?_, ?_, ?_⟩
  · intro text
    rw [← shape, String.ofList_toList]
  · intro text
    rw [shape]
    exact unmarked_flatMap text.toList
  · intro text
    rw [shape]
    exact refers_flatMap text.toList
  · intro text
    rw [unescape_escapeMarkup, String.ofList_toList]
  · intro first second same
    rw [← String.toList_inj, ← unescape_escapeMarkup first, same, unescape_escapeMarkup second]

/-- A text that holds references already comes back with them. -/
example : escapeMarkup "&lt; &am <'b'>" = "&amp;lt; &amp;am &lt;&apos;b&apos;&gt;" := by
  decide +kernel

end BootTheme
