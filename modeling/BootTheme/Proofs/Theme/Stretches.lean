import Mathlib.Data.String.Basic
import BootTheme.Proofs.Theme.Tiling

/-!
# Stretches of a source

A piece is told by its own text: what is behind it may be taken away, and it is cut all the same.
So the text of any pieces that follow each other is cut into just these, and a stretch of a source
from the start of a token to the end of a token has the tokens that lie there.
-/

namespace BootTheme

namespace Piece

/-! ## Pieces with less behind them -/

/-- A run that ends within a text is the run of this text. -/
theorem takeWhile_truncated {keep : Char → Bool} {text back left : List Char}
    (whole : (text ++ back).takeWhile keep ++ left = text) :
    text.takeWhile keep = (text ++ back).takeWhile keep := by
  induction text with
  | nil => exact (List.append_eq_nil_iff.1 whole).1.symm
  | cons char rest ih =>
      rw [List.cons_append] at whole ⊢
      by_cases kept : keep char = true
      · rw [List.takeWhile_cons_of_pos kept] at whole ⊢
        rw [List.takeWhile_cons_of_pos kept, ih (List.cons.inj whole).2]
      · rw [List.takeWhile_cons_of_neg kept, List.takeWhile_cons_of_neg kept]

/-- The text behind a run that ends within a text. -/
theorem dropWhile_truncated {keep : Char → Bool} {text back left : List Char}
    (whole : (text ++ back).takeWhile keep ++ left = text) :
    text.dropWhile keep = left ∧ (text ++ back).dropWhile keep = left ++ back := by
  have run := takeWhile_truncated whole
  constructor
  · rw [← run] at whole
    exact List.append_cancel_left (List.takeWhile_append_dropWhile.trans whole.symm)
  · have both := congrArg (· ++ back) whole
    rw [List.append_assoc] at both
    exact List.append_cancel_left (List.takeWhile_append_dropWhile.trans both.symm)

theorem fraction_dot (rest : List Char) : fraction ('.' :: rest) = rest.takeWhile Char.isDigit :=
  rfl

theorem fraction_other {text : List Char} (other : ∀ rest, text ≠ '.' :: rest) :
    fraction text = [] := by
  unfold fraction
  split
  · next rest => exact absurd rfl (other rest)
  · rfl

/-- Where no fraction follows a number, none follows it with less behind. -/
theorem fraction_nil_of_append {text back : List Char} (none : fraction (text ++ back) = []) :
    fraction text = [] := by
  by_cases dot : ∃ rest, text = '.' :: rest
  · obtain ⟨rest, rfl⟩ := dot
    rw [List.cons_append, fraction_dot] at none
    rw [fraction_dot]
    cases rest with
    | nil => rfl
    | cons char rest =>
        refine List.takeWhile_cons_of_neg fun digit => ?_
        rw [List.cons_append, List.takeWhile_cons_of_pos digit] at none
        cases none
  · exact fraction_other fun rest same => dot ⟨rest, same⟩

theorem number_truncated {text back left : List Char}
    (whole : (number (text ++ back)).text ++ left = text) :
    number text = number (text ++ back) := by
  unfold number at whole ⊢
  dsimp only at whole ⊢
  generalize found : fraction ((text ++ back).dropWhile Char.isDigit) = places at whole ⊢
  suffices same : fraction (text.dropWhile Char.isDigit) = places ∧
      text.takeWhile Char.isDigit = (text ++ back).takeWhile Char.isDigit by
    rw [same.1, same.2]
  cases places with
  | nil =>
      obtain ⟨behind, behindToo⟩ := dropWhile_truncated whole
      rw [behindToo] at found
      rw [behind]
      exact ⟨fraction_nil_of_append found, takeWhile_truncated whole⟩
  | cons digit more =>
      rw [if_neg Bool.noConfusion, List.append_assoc] at whole
      obtain ⟨behind, behindToo⟩ := dropWhile_truncated whole
      rw [behindToo] at found
      rw [behind]
      refine ⟨?_, takeWhile_truncated whole⟩
      -- The digits of the fraction are a run of their own behind the point.
      have run : (digit :: more ++ left ++ back).takeWhile Char.isDigit = digit :: more := found
      have truncated := takeWhile_truncated (congrArg (· ++ left) run)
      exact truncated.trans run

/-- A string that is not closed goes on no further with less behind. -/
theorem stringBody_truncated {full : List Char} (unclosed : (stringBody full).2 = false)
    (left back : List Char) (whole : (stringBody full).1 ++ (left ++ back) = full) :
    stringBody ((stringBody full).1 ++ left) = ((stringBody full).1, false) := by
  fun_induction stringBody full generalizing left with
  | case1 =>
      cases left with
      | nil => rfl
      | cons first more => cases whole
  | case2 rest => cases unclosed
  | case3 =>
      rcases left with _ | ⟨first, _ | ⟨second, more⟩⟩
      · rfl
      · cases whole
        rfl
      · cases whole
  | case4 rest =>
      rcases left with _ | ⟨first, _ | ⟨second, more⟩⟩
      · rfl
      · cases whole
        rfl
      · cases whole
        rfl
  | case5 char rest noLineEnd body closed found ih =>
      rw [found] at ih
      have inner := ih unclosed left (List.cons.inj (List.cons.inj whole).2).2
      change stringBody ('\\' :: char :: (body ++ left)) = _
      rw [stringBody_escape char _ noLineEnd, inner]
  | case6 char rest noQuote alone lineEnd pair body closed found ih =>
      have noBackslash : char ≠ '\\' := by
        intro backslash
        cases rest with
        | nil => exact alone backslash rfl
        | cons next rest => exact pair next rest backslash rfl
      rw [found] at ih
      have inner := ih unclosed left (List.cons.inj whole).2
      change stringBody (char :: (body ++ left)) = _
      rw [stringBody_plain _ noQuote noBackslash, inner]

theorem string_truncated {text back left : List Char}
    (whole : (string (text ++ back)).text ++ left = '"' :: text) :
    string text = string (text ++ back) := by
  suffices same : stringBody text = stringBody (text ++ back) by
    unfold string
    rw [same]
  unfold string at whole
  cases closed : (stringBody (text ++ back)).2 with
  | true =>
      have between := stringBody_between closed
      generalize stringBody (text ++ back) = found at whole closed between ⊢
      obtain ⟨body, _⟩ := found
      cases closed
      rw [← (List.cons.inj whole).2]
      change stringBody (body ++ ['"'] ++ left) = _
      rw [List.append_assoc]
      exact stringBody_of_between between left
  | false =>
      have truncated := stringBody_truncated closed left back
      generalize stringBody (text ++ back) = found at whole closed truncated ⊢
      obtain ⟨body, _⟩ := found
      cases closed
      have split := (List.cons.inj whole).2
      change body ++ left = text at split
      rw [← split]
      exact truncated (by rw [← split, List.append_assoc])

/-- A piece is cut all the same if what is behind it ends earlier. -/
theorem front_truncated {first : Char} {rest back left : List Char}
    (whole : (front first (rest ++ back)).text ++ left = first :: rest) :
    front first rest = front first (rest ++ back) := by
  have run {keep : Char → Bool}
      (same : first :: (rest ++ back).takeWhile keep ++ left = first :: rest) :
      rest.takeWhile keep = (rest ++ back).takeWhile keep :=
    takeWhile_truncated (List.cons.inj same).2
  unfold front at whole ⊢
  by_cases space : isSpace first = true
  · rw [if_pos space] at whole
    rw [if_pos space, if_pos space, run whole]
  rw [if_neg space] at whole
  rw [if_neg space, if_neg space]
  by_cases comment : first = '#'
  · rw [if_pos comment] at whole
    rw [if_pos comment, if_pos comment, run whole]
  rw [if_neg comment] at whole
  rw [if_neg comment, if_neg comment]
  by_cases starts : startsIdent first = true
  · rw [if_pos starts] at whole
    rw [if_pos starts, if_pos starts, run whole]
  rw [if_neg starts] at whole
  rw [if_neg starts, if_neg starts]
  by_cases digit : first.isDigit = true
  · rw [if_pos digit] at whole
    rw [if_pos digit, if_pos digit]
    exact number_truncated whole
  rw [if_neg digit] at whole
  rw [if_neg digit, if_neg digit]
  by_cases quote : first = '"'
  · rw [if_pos quote, quote] at whole
    rw [if_pos quote, if_pos quote]
    exact string_truncated whole
  · rw [if_neg quote, if_neg quote]

/-! ## Pieces that follow each other -/

/-- The text of pieces at the front is taken off, and the rest is cut into the other pieces. -/
theorem cuts_split {text : List Char} {first second : List Piece}
    (split : cuts text = first ++ second) :
    ∃ rest, first.flatMap Piece.text ++ rest = text ∧ cuts rest = second := by
  induction first generalizing text with
  | nil => exact ⟨text, rfl, split⟩
  | cons piece more ih =>
      cases text with
      | nil => cases split
      | cons char after =>
          obtain ⟨behind, whole⟩ := front_text_append char after
          rw [cuts_front whole] at split
          obtain ⟨same, others⟩ := List.cons.inj split
          obtain ⟨rest, left, cut⟩ := ih others
          refine ⟨rest, ?_, cut⟩
          rw [List.flatMap_cons, List.append_assoc, left, ← same]
          exact whole

/-- The text of the first pieces is cut into them alone. -/
theorem cuts_truncated {text back : List Char} {pieces more : List Piece}
    (split : cuts (text ++ back) = pieces ++ more) (whole : pieces.flatMap Piece.text = text) :
    cuts text = pieces := by
  induction pieces generalizing text with
  | nil =>
      rw [← whole]
      rfl
  | cons piece others ih =>
      rw [List.flatMap_cons] at whole
      cases text with
      | nil =>
          have empty := (List.append_eq_nil_iff.1 whole).1
          cases shape : back with
          | nil =>
              rw [shape] at split
              cases split
          | cons char after =>
              obtain ⟨behind, full⟩ := front_text_append char after
              rw [shape, List.nil_append, cuts_front full] at split
              rw [← (List.cons.inj split).1] at empty
              exact absurd empty (front_text_ne_nil char after)
      | cons char rest =>
          obtain ⟨behind, full⟩ := front_text_append char (rest ++ back)
          rw [List.cons_append, cuts_front full] at split
          obtain ⟨same, follow⟩ := List.cons.inj split
          rw [← same] at whole ⊢
          have front := front_truncated whole
          have behindToo : behind = others.flatMap Piece.text ++ back := by
            have both := congrArg (· ++ back) whole
            rw [List.append_assoc] at both
            exact List.append_cancel_left (full.trans both.symm)
          rw [behindToo] at follow
          rw [cuts_front (front.symm ▸ whole), front, ih follow rfl]

/-- The text of pieces that follow each other is cut into them. -/
theorem cuts_stretch {text : List Char} {before stretch after : List Piece}
    (split : cuts text = before ++ (stretch ++ after)) :
    cuts (stretch.flatMap Piece.text) = stretch := by
  obtain ⟨rest, -, follow⟩ := cuts_split split
  obtain ⟨behind, whole, -⟩ := cuts_split follow
  rw [← whole] at follow
  exact cuts_truncated follow rfl

end Piece

/-! ## Stretches of tokens -/

/-- The text of a source at a range of its bytes. -/
def Span.slice (source : String) (span : Span) : String :=
  String.Pos.Raw.extract source ⟨span.start⟩ ⟨span.stop⟩

/-- A range with its bytes renumbered. -/
def Span.moved (move : Nat → Nat) (span : Span) : Span := ⟨move span.start, move span.stop⟩

/-- A token with its bytes renumbered. -/
def Located.moved (move : Nat → Nat) (located : Located) : Located :=
  ⟨located.token, located.span.moved move⟩

theorem Stands.slice {source : String} {span : Span} {text after : List Char}
    (stands : Stands source.toList span text after) : span.slice source = String.ofList text := by
  have bytes (text : List Char) : String.utf8Len text = byteCount text := by
    induction text with
    | nil => rfl
    | cons char rest ih => rw [String.utf8Len_cons, byteCount_cons, ih, Nat.add_comm]
  obtain ⟨before, split, rfl⟩ := stands
  have extracted := String.extract_of_valid before text after
  rw [List.append_assoc, ← split, String.ofList_toList, bytes, bytes] at extracted
  exact extracted

theorem Stands.isValid {source : String} {span : Span} {text after : List Char}
    (stands : Stands source.toList span text after) :
    String.Pos.Raw.IsValid source ⟨span.start⟩ ∧ String.Pos.Raw.IsValid source ⟨span.stop⟩ := by
  obtain ⟨before, split, rfl⟩ := stands
  constructor
  · exact isValid_byteCount split
  · rw [← List.append_assoc] at split
    have valid := isValid_byteCount split
    rw [byteCount_append] at valid
    exact valid

/-- Located pieces in two parts are pieces in two parts. -/
theorem locate_eq_append {start : Nat} {pieces : List Piece} {first second : List (Piece × Span)}
    (split : locate start pieces = first ++ second) :
    ∃ front back, pieces = front ++ back ∧ locate start front = first ∧
      locate (start + byteCount (front.flatMap Piece.text)) back = second := by
  induction first generalizing start pieces with
  | nil => exact ⟨[], pieces, rfl, rfl, split⟩
  | cons head rest ih =>
      cases pieces with
      | nil => cases split
      | cons piece more =>
          obtain ⟨same, others⟩ := List.cons.inj split
          obtain ⟨front, back, rfl, located, behind⟩ := ih others
          refine ⟨piece :: front, back, rfl, ?_, ?_⟩
          · rw [locate, located, same]
          · rw [List.flatMap_cons, byteCount_append, ← Nat.add_assoc]
            exact behind

/-- The first piece starts where the pieces start. -/
theorem start_of_locate {start : Nat} {pieces : List Piece} {first : Piece × Span}
    {rest : List (Piece × Span)} (shape : locate start pieces = first :: rest) :
    first.2.start = start := by
  cases pieces with
  | nil => cases shape
  | cons piece more => rw [← (List.cons.inj shape).1]

/-- The last piece ends where the pieces end. -/
theorem stop_of_locate {start : Nat} {pieces : List Piece} {last : Piece × Span}
    {rest : List (Piece × Span)} (shape : locate start pieces = rest ++ [last]) :
    last.2.stop = start + byteCount (pieces.flatMap Piece.text) := by
  obtain ⟨front, back, rfl, -, ending⟩ := locate_eq_append shape
  cases back with
  | nil => cases ending
  | cons piece more =>
      obtain ⟨same, none⟩ := List.cons.inj ending
      cases more with
      | nil =>
          rw [← same, List.flatMap_append, List.flatMap_singleton, byteCount_append, Nat.add_assoc]
      | cons next more => cases none

theorem tokensOf_append (first second : List (Piece × Span)) :
    tokensOf (first ++ second) = tokensOf first ++ tokensOf second :=
  List.filterMap_append

theorem tokensOf_eq_append {located : List (Piece × Span)} {first second : List Located}
    (split : tokensOf located = first ++ second) :
    ∃ front back, located = front ++ back ∧ tokensOf front = first ∧ tokensOf back = second :=
  List.filterMap_eq_append_iff.1 split

/-- In front of the first token there may be pieces that are none. -/
theorem tokensOf_eq_cons {located : List (Piece × Span)} {first : Located} {rest : List Located}
    (split : tokensOf located = first :: rest) :
    ∃ front text back, located = front ++ (⟨.token first.token, text⟩, first.span) :: back ∧
      tokensOf front = [] ∧ tokensOf back = rest := by
  obtain ⟨front, ⟨⟨kind, text⟩, span⟩, back, same, none, token, others⟩ :=
    List.filterMap_eq_cons_iff.1 split
  cases kind <;> cases token
  exact ⟨front, text, back, same, List.filterMap_eq_nil_iff.2 none, others⟩

/-- Pieces further behind have the same tokens further behind. -/
theorem tokensOf_locate_moved (start further : Nat) (pieces : List Piece) :
    (tokensOf (locate (start + further) pieces)).map (Located.moved (· - start)) =
      tokensOf (locate further pieces) := by
  induction pieces generalizing further with
  | nil => rfl
  | cons piece rest ih =>
      obtain ⟨kind, text⟩ := piece
      have more := ih (further + byteCount text)
      rw [← Nat.add_assoc] at more
      unfold tokensOf at more ⊢
      rw [locate, locate, List.filterMap_cons, List.filterMap_cons]
      cases kind with
      | token token =>
          dsimp only
          rw [List.map_cons, more, Located.moved, Span.moved, Nat.add_assoc,
            Nat.add_sub_cancel_left, Nat.add_sub_cancel_left]
      | _ => exact more

/-- A range from the start of a token to the end of a token holds, taken alone, the tokens that
lie there. -/
theorem tokens_lex_slice {source : String} {before between after : List Located}
    {first last : Located}
    (split : (lex source).tokens = before ++ first :: (between ++ last :: after)) :
    ∃ text behind, Stands source.toList ⟨first.span.start, last.span.stop⟩ text behind ∧
      (lex (String.ofList text)).tokens =
        (first :: (between ++ [last])).map (Located.moved (· - first.span.start)) := by
  -- The pieces from that of the first token to that of the last one.
  obtain ⟨front, back, located, -, rest⟩ := tokensOf_eq_append split
  obtain ⟨skipped, word, back, rfl, none, rest⟩ := tokensOf_eq_cons rest
  obtain ⟨inside, back, rfl, among, rest⟩ := tokensOf_eq_append rest
  obtain ⟨skippedToo, lastWord, back, rfl, noneToo, -⟩ := tokensOf_eq_cons rest
  have regrouped : locate 0 (pieces source) = (front ++ skipped) ++
      (((⟨.token first.token, word⟩, first.span) :: (inside ++ skippedToo) ++
        [(⟨.token last.token, lastWord⟩, last.span)]) ++ back) := by
    rw [located]
    simp only [List.append_assoc, List.cons_append, List.nil_append]
  obtain ⟨piecesBefore, others, cut, -, rest⟩ := locate_eq_append regrouped
  obtain ⟨stretch, piecesBehind, rfl, here, -⟩ := locate_eq_append rest
  rw [Nat.zero_add] at here
  have start := start_of_locate here
  have stop := stop_of_locate here
  dsimp only at start stop
  have alone : Piece.cuts (stretch.flatMap Piece.text) = stretch := by
    rw [pieces_eq_cuts] at cut
    exact Piece.cuts_stretch cut
  have whole := flatMap_text_pieces source
  rw [cut, List.flatMap_append, List.flatMap_append] at whole
  refine ⟨stretch.flatMap Piece.text, piecesBehind.flatMap Piece.text,
    ⟨piecesBefore.flatMap Piece.text, whole.symm, by rw [start, stop]⟩, ?_⟩
  have tokens : tokensOf ((⟨.token first.token, word⟩, first.span) :: (inside ++ skippedToo) ++
      [(⟨.token last.token, lastWord⟩, last.span)]) = first :: (between ++ [last]) := by
    change first :: tokensOf (inside ++ skippedToo ++ [_]) = _
    rw [tokensOf_append, tokensOf_append, among, noneToo, List.append_nil]
    rfl
  have moved := tokensOf_locate_moved (byteCount (piecesBefore.flatMap Piece.text)) 0 stretch
  rw [Nat.add_zero, here, tokens, ← start] at moved
  rw [tokens_lex_ofList, ← Piece.cuts, alone, moved]

end BootTheme
