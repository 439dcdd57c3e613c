import BootTheme.Proofs.Theme.Tiling

/-!
# Tokens with space between them

Tokens may be written in any of their forms, with any blanks and comments between them: cutting
the text gives the tokens back. A character that nothing begins with is skipped when it stands
between blanks, and the tokens around it stay what they are. So identifiers are never split, and
the truth values are words only where the whole run of an identifier says so.
-/

namespace BootTheme

open Piece (Formed Apart isSpace startsIdent continuesIdent front cuts tokensIn word)

/-! ## What is written -/

/-- A token and a text of its form. -/
structure Spelling where
  token : Token
  text : List Char
  formed : Formed (.token token) text

/-- A character that no text with a form begins with. -/
def IsStray (char : Char) : Prop := ∀ kind rest, ¬ Formed kind (char :: rest)

/-- What may stand between tokens: a blank, a comment with the end of its line, and a stray
character with the blank behind it. -/
inductive Filler where
  | blank (char : Char) (space : isSpace char = true)
  | comment (body : List Char) (oneLine : '\n' ∉ body)
  | stray (char : Char) (isStray : IsStray char) (behind : Char) (space : isSpace behind = true)

namespace Filler

def text : Filler → List Char
  | blank char _ => [char]
  | comment body _ => '#' :: (body ++ ['\n'])
  | stray char _ behind _ => [char, behind]

def strays : Filler → List Char
  | blank _ _ => []
  | comment _ _ => []
  | stray char _ _ _ => [char]

end Filler

/-- What stands between two tokens. Every filler ends with a blank, so a stray character that is
not the first has blanks on both sides. -/
structure Gap where
  first : Filler
  more : List Filler
  soft : first.strays = []

namespace Gap

def fillers (gap : Gap) : List Filler := gap.first :: gap.more

def text (gap : Gap) : List Char := gap.fillers.flatMap Filler.text

def strays (gap : Gap) : List Char := gap.fillers.flatMap Filler.strays

end Gap

/-- Tokens with a gap behind each of them, but for a last one that ends the text. -/
structure SpacedText where
  lead : List Filler
  parts : List (Spelling × Gap)
  last : Option Spelling

namespace SpacedText

def text (spaced : SpacedText) : List Char :=
  spaced.lead.flatMap Filler.text ++
    (spaced.parts.flatMap (fun part => part.1.text ++ part.2.text) ++
      spaced.last.toList.flatMap Spelling.text)

def tokens (spaced : SpacedText) : List Token :=
  spaced.parts.map (fun part => part.1.token) ++ spaced.last.toList.map Spelling.token

def strays (spaced : SpacedText) : List Char :=
  spaced.lead.flatMap Filler.strays ++ spaced.parts.flatMap fun part => part.2.strays

def source (spaced : SpacedText) : String := String.ofList spaced.text

end SpacedText

namespace Piece

/-! ## Pieces from the front -/

variable {first : Char} {text rest : List Char}

/-- A token is cut off at its end if nothing goes on with it there. -/
theorem front_of_formed {token : Token} (formed : Formed (.token token) text) (apart : Apart rest) :
    ∃ first more, text = first :: more ∧ front first (more ++ rest) = ⟨.token token, text⟩ := by
  cases formed with
  | @word first more starts goesOn =>
      refine ⟨first, more, rfl, ?_⟩
      rw [front_word _ starts, (takeWhile_run goesOn apart).1]
  | number decimal =>
      obtain ⟨first, more, shape, digit⟩ := decimal.text_eq_cons
      refine ⟨first, more, shape, ?_⟩
      rw [front_digit _ digit, ← List.cons_append, ← shape, number_decimal decimal apart]
  | @string body between =>
      refine ⟨'"', body ++ ['"'], rfl, ?_⟩
      change Piece.string (body ++ ['"'] ++ rest) = _
      rw [List.append_assoc, Piece.string, List.singleton_append, stringBody_of_between between]
      rfl
  | @mark char _ mark => exact ⟨char, [], rfl, front_mark _ mark⟩

theorem front_comment {body : List Char} (oneLine : '\n' ∉ body) (rest : List Char) :
    front '#' (body ++ '\n' :: rest) = ⟨.comment, '#' :: body⟩ := by
  have kept : ∀ char ∈ body, (char != '\n') = true := by
    intro char among
    simp only [bne_iff_ne, ne_eq]
    rintro rfl
    exact oneLine among
  have run : (body ++ '\n' :: rest).takeWhile (· != '\n') = body :=
    (takeWhile_run kept (by simp)).1
  change Piece.mk .comment ('#' :: (body ++ '\n' :: rest).takeWhile (· != '\n')) = _
  rw [run]

/-- What begins with none of the characters of the forms is stray, and nothing else is. -/
theorem isStray_iff (char : Char) :
    IsStray char ↔ isSpace char = false ∧ char ≠ '#' ∧ startsIdent char = false ∧
      char.isDigit = false ∧ char ≠ '"' ∧ mark? char = none := by
  constructor
  · intro isStray
    refine ⟨?_, ?_, ?_, ?_, ?_, ?_⟩
    · exact eq_false_of_ne_true fun space =>
        isStray .blank [] (.blank (by simp) (by simpa using space))
    · rintro rfl
      exact isStray .comment [] (.comment (by simp))
    · exact eq_false_of_ne_true fun starts => isStray _ [] (.word starts (by simp))
    · exact eq_false_of_ne_true fun digit =>
        isStray _ [] (.number ⟨[char], [], by simp, by simpa using digit, by simp⟩)
    · rintro rfl
      exact isStray _ ['"'] (.string .nil)
    · cases found : mark? char with
      | none => rfl
      | some token => exact absurd (.mark found) (isStray _ [])
  · rintro ⟨noSpace, noComment, noName, noDigit, noQuote, noMark⟩ kind rest formed
    generalize shape : char :: rest = text at formed
    cases formed with
    | blank _ blanks =>
        subst shape
        simp [blanks char List.mem_cons_self] at noSpace
    | comment _ => exact noComment (List.cons.inj shape).1
    | word starts _ =>
        obtain ⟨rfl, -⟩ := List.cons.inj shape
        simp [starts] at noName
    | number decimal =>
        obtain ⟨first, more, written, digit⟩ := decimal.text_eq_cons
        obtain ⟨rfl, -⟩ := List.cons.inj (shape.trans written)
        simp [digit] at noDigit
    | string _ => exact noQuote (List.cons.inj shape).1
    | mark mark =>
        obtain ⟨rfl, -⟩ := List.cons.inj shape
        simp [mark] at noMark

/-- A stray character is a piece of its own. -/
theorem front_stray (isStray : IsStray first) (rest : List Char) :
    front first rest = ⟨.unexpected, [first]⟩ := by
  obtain ⟨noSpace, noComment, noName, noDigit, noQuote, noMark⟩ := (isStray_iff first).1 isStray
  simp [front, noSpace, noComment, noName, noDigit, noQuote, noMark]

/-! ## Tokens and strays of a text -/

/-- A text with the tokens that it is cut into and what is skipped of it. -/
structure Reads (text : List Char) (tokens : List Token) (strays : List Char) : Prop where
  tokens_eq : tokensIn text = tokens
  skipped_eq : (cuts text).filterMap skipped? = strays.map fun char => [char]

namespace Reads

variable {tokens : List Token} {strays : List Char}

theorem nil : Reads [] [] [] where
  tokens_eq := rfl
  skipped_eq := rfl

theorem token {token : Token} (formed : Formed (.token token) text) (apart : Apart rest)
    (reads : Reads rest tokens strays) : Reads (text ++ rest) (token :: tokens) strays := by
  obtain ⟨first, more, rfl, piece⟩ := front_of_formed formed apart
  have whole : (front first (more ++ rest)).text ++ rest = first :: (more ++ rest) := by
    rw [piece, List.cons_append]
  constructor
  · rw [List.cons_append, tokensIn_front whole, reads.tokens_eq, piece]
    rfl
  · rw [List.cons_append, cuts_front whole, piece, List.filterMap_cons_none rfl, reads.skipped_eq]

theorem blank (space : isSpace first = true) (reads : Reads rest tokens strays) :
    Reads (first :: rest) tokens strays where
  tokens_eq := (filterMap_cuts_space (fun _ => rfl) space rest).trans reads.tokens_eq
  skipped_eq := (filterMap_cuts_space (fun _ => rfl) space rest).trans reads.skipped_eq

theorem comment {body : List Char} (oneLine : '\n' ∉ body) (reads : Reads rest tokens strays) :
    Reads ('#' :: (body ++ '\n' :: rest)) tokens strays := by
  have piece := front_comment oneLine rest
  have whole : (front '#' (body ++ '\n' :: rest)).text ++ '\n' :: rest =
      '#' :: (body ++ '\n' :: rest) := by
    rw [piece, List.cons_append]
  have behind : Reads ('\n' :: rest) tokens strays := reads.blank rfl
  constructor
  · rw [tokensIn_front whole, behind.tokens_eq, piece]
    rfl
  · rw [cuts_front whole, piece, List.filterMap_cons_none rfl, behind.skipped_eq]

theorem stray (isStray : IsStray first) (reads : Reads rest tokens strays) :
    Reads (first :: rest) tokens (first :: strays) := by
  have piece := front_stray isStray rest
  have whole : (front first rest).text ++ rest = first :: rest := by
    rw [piece, List.singleton_append]
  constructor
  · rw [tokensIn_front whole, reads.tokens_eq, piece]
    rfl
  · rw [cuts_front whole, piece, List.map_cons, ← reads.skipped_eq]
    rfl

theorem filler (filler : Filler) (reads : Reads rest tokens strays) :
    Reads (filler.text ++ rest) tokens (filler.strays ++ strays) := by
  cases filler with
  | blank char space => exact reads.blank space
  | comment body oneLine =>
      simpa [Filler.text, Filler.strays] using reads.comment oneLine
  | stray char isStray behind space => exact (reads.blank space).stray isStray

theorem fillers (fillers : List Filler) (reads : Reads rest tokens strays) :
    Reads (fillers.flatMap Filler.text ++ rest) tokens
      (fillers.flatMap Filler.strays ++ strays) := by
  induction fillers with
  | nil => exact reads
  | cons filler more ih => simpa [List.append_assoc] using ih.filler filler

end Reads

/-! ## Spaced texts -/

/-- No token goes on into a gap. -/
theorem apart_gap (gap : Gap) (rest : List Char) : Apart (gap.text ++ rest) := by
  obtain ⟨first, more, soft⟩ := gap
  cases first with
  | blank char space =>
      refine .cons ?_
      unfold isSpace at space
      simp only [Bool.or_eq_true, beq_iff_eq] at space
      rcases space with ((rfl | rfl) | rfl) | rfl <;> rfl
  | comment body oneLine => exact .cons rfl
  | stray char isStray behind space => cases soft

theorem reads_parts (parts : List (Spelling × Gap)) {rest : List Char} {tokens : List Token}
    {strays : List Char} (reads : Reads rest tokens strays) :
    Reads (parts.flatMap (fun part => part.1.text ++ part.2.text) ++ rest)
      (parts.map (fun part => part.1.token) ++ tokens)
      (parts.flatMap (fun part => part.2.strays) ++ strays) := by
  induction parts with
  | nil => exact reads
  | cons part more ih =>
      obtain ⟨spelling, gap⟩ := part
      have gapped := ih.fillers gap.fillers
      simpa [Gap.text, Gap.strays, List.append_assoc] using
        gapped.token spelling.formed (apart_gap gap _)

/-- A text of tokens with gaps between them is cut into these tokens, and nothing is skipped but
its stray characters. -/
theorem reads_spacedText (spaced : SpacedText) :
    Reads spaced.text spaced.tokens spaced.strays := by
  have ending : Reads (spaced.last.toList.flatMap Spelling.text)
      (spaced.last.toList.map Spelling.token) [] := by
    cases spaced.last with
    | none => exact .nil
    | some spelling => simpa using Reads.nil.token spelling.formed (by simp [Apart])
  simpa [SpacedText.text, SpacedText.tokens, SpacedText.strays] using
    (reads_parts spaced.parts ending).fillers spaced.lead

/-! ## Whole runs of identifiers -/

/-- A run of an identifier that nothing behind it goes on with. -/
structure WholeRun (text after : List Char) : Prop where
  run : ∃ first more, text = first :: more ∧ startsIdent first = true ∧
    ∀ char ∈ more, continuesIdent char = true
  ended : Apart after

/-- An identifier and a truth value stand where a whole run of an identifier stands. -/
def RunsAs (text after : List Char) : Token → Prop
  | .bool true => WholeRun text after ∧ text = "true".toList
  | .bool false => WholeRun text after ∧ text = "false".toList
  | .ident name => WholeRun text after ∧ text = name.toList ∧ text ≠ "true".toList ∧
      text ≠ "false".toList
  | _ => True

theorem wholeRun_of_longest {more after : List Char} (starts : startsIdent first = true)
    (goesOn : ∀ char ∈ more, continuesIdent char = true)
    (longest : Longest (first :: more) after) : WholeRun (first :: more) after := by
  refine ⟨⟨first, more, rfl, starts, goesOn⟩, ?_⟩
  intro next head
  refine eq_false_of_ne_true fun continues => ?_
  obtain ⟨rest, rfl⟩ : ∃ rest, after = next :: rest := by
    cases after with
    | nil => cases head
    | cons first rest => exact ⟨rest, by simpa using head⟩
  have longer : Formed (.token (word (first :: (more ++ [next])))) (first :: (more ++ [next])) := by
    refine .word starts ?_
    simpa [or_imp, forall_and] using ⟨goesOn, continues⟩
  have length := longest _ _ rest longer (by simp)
  simp only [List.length_cons, List.length_append, List.length_nil] at length
  omega

theorem runsAs_of_formed {token : Token} {after : List Char}
    (formed : Formed (.token token) text) (longest : Longest text after) :
    RunsAs text after token := by
  cases formed with
  | @word first more starts goesOn =>
      have whole := wholeRun_of_longest starts goesOn longest
      unfold word
      split
      · next isTrue => exact ⟨whole, isTrue⟩
      · next notTrue =>
          split
          · next isFalse => exact ⟨whole, isFalse⟩
          · next notFalse => exact ⟨whole, by simp, notTrue, notFalse⟩
  | number decimal => trivial
  | string between => trivial
  | mark mark =>
      unfold mark? at mark
      split at mark <;> cases mark <;> trivial

end Piece

/-- The tokens that a source can be cut into are those that can be written. -/
theorem mem_tokens_iff (token : Token) :
    (∃ source, token ∈ (lex source).tokens.map Located.token) ↔
      ∃ spelling : Spelling, spelling.token = token := by
  constructor
  · rintro ⟨source, among⟩
    obtain ⟨located, inside, rfl⟩ := List.mem_map.1 among
    obtain ⟨text, -, -, formed, -⟩ := stands_of_mem_tokens inside
    exact ⟨⟨located.token, text, formed⟩, rfl⟩
  · rintro ⟨spelling, rfl⟩
    have reads := Piece.reads_spacedText ⟨[], [], some spelling⟩
    refine ⟨String.ofList (SpacedText.text ⟨[], [], some spelling⟩), ?_⟩
    rw [map_token_lex, String.toList_ofList, reads.tokens_eq]
    simp [SpacedText.tokens]

theorem map_fst_skippedOf (start : Nat) (pieces : List Piece) :
    (skippedOf (locate start pieces)).map Prod.fst = pieces.filterMap Piece.skipped? := by
  induction pieces generalizing start with
  | nil => rfl
  | cons piece rest ih =>
      obtain ⟨kind, text⟩ := piece
      have more := ih (start + byteCount text)
      unfold skippedOf at more ⊢
      cases kind <;> simp [locate, List.filterMap_cons, Piece.skipped?, more]

/-- Tokens that are written with gaps between them are cut out again, and what is skipped, with a
warning each, is the stray characters in the gaps. Every token that a source is cut into can be
written so. In any source an identifier and a truth value stand where nothing goes on with the run
of the identifier, and the truth values are the runs that spell them. -/
theorem lex_undoes_spacing (spaced : SpacedText) :
    ((lex spaced.source).tokens.map Located.token = spaced.tokens ∧
      (lex spaced.source).skipped.map Prod.fst = spaced.strays.map fun char => [char]) ∧
    (∀ token, (∃ source, token ∈ (lex source).tokens.map Located.token) ↔
      ∃ spelling : Spelling, spelling.token = token) ∧
    ∀ source, ∀ located ∈ (lex source).tokens, ∃ text after,
      Stands source.toList located.span text after ∧ Piece.RunsAs text after located.token := by
  have reads := Piece.reads_spacedText spaced
  refine ⟨⟨?_, ?_⟩, mem_tokens_iff, ?_⟩
  · rw [map_token_lex, SpacedText.source, String.toList_ofList, reads.tokens_eq]
  · rw [lex, map_fst_skippedOf, pieces_eq_cuts, SpacedText.source, String.toList_ofList,
      reads.skipped_eq]
  · intro source located among
    obtain ⟨text, after, stands, formed, longest⟩ := stands_of_mem_tokens among
    exact ⟨text, after, stands, Piece.runsAs_of_formed formed longest⟩

/-- A name with a dash and a point, a string with marks, a comment, a truth value in front of a name
that begins like it, and stray characters. -/
def spacedTruths : SpacedText where
  lead := [.stray ';' ((Piece.isStray_iff ';').2 (by decide)) ' ' rfl]
  parts :=
    [(⟨.ident "a-b.c", ['a', '-', 'b', '.', 'c'],
          @Formed.word 'a' ['-', 'b', '.', 'c'] rfl (List.all_eq_true.1 rfl)⟩,
        ⟨.blank '\t' rfl, [], rfl⟩),
      (⟨.string "#=", ['"', '#', '=', '"'],
          .string (.plain (by decide) (by decide) (.plain (by decide) (by decide) .nil))⟩,
        ⟨.comment ['x'] (by decide),
          [.stray '.' ((Piece.isStray_iff '.').2 (by decide)) ' ' rfl], rfl⟩),
      (⟨.bool true, ['t', 'r', 'u', 'e'],
          @Formed.word 't' ['r', 'u', 'e'] rfl (List.all_eq_true.1 rfl)⟩,
        ⟨.blank ' ' rfl, [], rfl⟩)]
  last := some ⟨.ident "truest", ['t', 'r', 'u', 'e', 's', 't'],
    @Formed.word 't' ['r', 'u', 'e', 's', 't'] rfl (List.all_eq_true.1 rfl)⟩

theorem spacedTruths_are_cut_out :
    spacedTruths.source = "; a-b.c\t\"#=\"#x\n. true truest" ∧
      (lex spacedTruths.source).tokens.map Located.token =
        [.ident "a-b.c", .string "#=", .bool true, .ident "truest"] ∧
      (lex spacedTruths.source).skipped.map Prod.fst = [[';'], ['.']] := by
  obtain ⟨⟨tokens, skipped⟩, -, -⟩ := lex_undoes_spacing spacedTruths
  exact ⟨by decide, tokens, skipped⟩

end BootTheme
