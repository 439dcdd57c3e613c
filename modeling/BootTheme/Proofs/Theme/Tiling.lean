import BootTheme.Proofs.Theme.LongestMatch

/-!
# Nothing of a source is lost

The pieces of a source lie one behind the other from its first byte to its last. So every byte
lies in one token, one run of blanks, one comment or one stretch that is skipped, and each of
these is what the source holds at its place.
-/

namespace BootTheme

open Piece (Formed Longest Formless Taken Munched)

/-- Whether a byte lies in a range. -/
def Span.has (span : Span) (byte : Nat) : Bool := decide (span.start ≤ byte ∧ byte < span.stop)

/-- The text that a source holds at a range of its bytes, with the rest of the source behind. -/
def Stands (source : List Char) (span : Span) (text after : List Char) : Prop :=
  ∃ before, source = before ++ (text ++ after) ∧
    span = ⟨byteCount before, byteCount before + byteCount text⟩

theorem byteCount_toList (source : String) : byteCount source.toList = source.utf8ByteSize := by
  have ofList : ∀ text, byteCount text = (String.ofList text).utf8ByteSize := by
    intro text
    induction text with
    | nil => rfl
    | cons char rest ih =>
        have parts : String.ofList (char :: rest) =
            String.singleton char ++ String.ofList rest := by
          rw [String.singleton_eq_ofList, ← String.ofList_append, List.singleton_append]
        rw [byteCount_cons, ih, parts, String.utf8ByteSize_append, String.utf8ByteSize_singleton]
  rw [ofList, String.ofList_toList]

theorem byteCount_pos {text : List Char} (nonempty : text ≠ []) : 0 < byteCount text := by
  obtain ⟨first, rest, rfl⟩ := List.exists_cons_of_ne_nil nonempty
  rw [byteCount_cons]
  exact Nat.add_pos_left first.utf8Size_pos _

namespace Stands

variable {source text after : List Char} {span : Span}

theorem start_lt_stop (stands : Stands source span text after) (nonempty : text ≠ []) :
    span.start < span.stop := by
  obtain ⟨before, _, rfl⟩ := stands
  exact Nat.lt_add_of_pos_right (byteCount_pos nonempty)

theorem stop_le (stands : Stands source span text after) : span.stop ≤ byteCount source := by
  obtain ⟨before, rfl, rfl⟩ := stands
  rw [byteCount_append, byteCount_append]
  exact Nat.add_le_add_left (Nat.le_add_right _ _) _

end Stands

theorem isValid_byteCount {source : String} {before after : List Char}
    (split : source.toList = before ++ after) :
    String.Pos.Raw.IsValid source ⟨byteCount before⟩ := by
  refine String.Pos.Raw.isValid_iff_exists_append.2
    ⟨String.ofList before, String.ofList after, ?_, ?_⟩
  · rw [← String.ofList_append, ← split, String.ofList_toList]
  · have size := byteCount_toList (String.ofList before)
    rw [String.toList_ofList] at size
    rw [size]
    rfl

/-! ## Pieces in their places -/

/-- Every located piece stands at its place in the source. What is in front of the pieces grows
by each piece that is taken. -/
theorem stands_of_mem_locate {text : List Char} {pieces : List Piece}
    (munched : Munched text pieces) (before : List Char) :
    ∀ piece span, (piece, span) ∈ locate (byteCount before) pieces →
      ∃ after, Stands (before ++ text) span piece.text after ∧ Taken piece after := by
  induction munched generalizing before with
  | done =>
      intro piece span impossible
      cases impossible
  | @more first rest pieces taken _ ih =>
      intro piece span among
      rcases List.mem_cons.1 among with same | later
      · cases same
        exact ⟨rest, ⟨before, rfl, rfl⟩, taken⟩
      · rw [← byteCount_append] at later
        rw [← List.append_assoc]
        exact ih (before ++ first.text) piece span later

theorem start_le_of_mem_locate {start : Nat} {pieces : List Piece} :
    ∀ located ∈ locate start pieces, start ≤ located.2.start := by
  induction pieces generalizing start with
  | nil =>
      intro located impossible
      cases impossible
  | cons piece rest ih =>
      intro located among
      rcases List.mem_cons.1 among with rfl | later
      · exact Nat.le_refl start
      · exact Nat.le_trans (Nat.le_add_right _ _) (ih located later)

/-- Each piece ends before the next ones start. -/
theorem pairwise_locate (start : Nat) (pieces : List Piece) :
    (locate start pieces).Pairwise fun first second => first.2.stop ≤ second.2.start := by
  induction pieces generalizing start with
  | nil => exact .nil
  | cons piece rest ih => exact .cons start_le_of_mem_locate (ih _)

theorem pairwise_tokensOf {located : List (Piece × Span)}
    (apart : located.Pairwise fun first second => first.2.stop ≤ second.2.start) :
    (tokensOf located).Pairwise fun first second => first.span.stop ≤ second.span.start := by
  refine List.Pairwise.filterMap _ ?_ apart
  rintro ⟨⟨kind, text⟩, span⟩ ⟨⟨kind', text'⟩, span'⟩ behind left leftFound right rightFound
  cases kind <;> cases leftFound
  cases kind' <;> cases rightFound
  exact behind

theorem mem_tokensOf {pieces : List (Piece × Span)} {located : Located} :
    located ∈ tokensOf pieces ↔
      ∃ text, (⟨.token located.token, text⟩, located.span) ∈ pieces := by
  refine List.mem_filterMap.trans ⟨?_, ?_⟩
  · rintro ⟨⟨⟨kind, text⟩, span⟩, among, found⟩
    cases kind <;> cases found
    exact ⟨text, among⟩
  · rintro ⟨text, among⟩
    exact ⟨_, among, rfl⟩

/-- Where each piece of a source stands. -/
theorem stands_of_mem_pieces (source : String) {piece : Piece} {span : Span}
    (among : (piece, span) ∈ locate 0 (pieces source)) :
    ∃ after, Stands source.toList span piece.text after ∧ Taken piece after :=
  stands_of_mem_locate (munched_pieces source) [] piece span among

/-- A piece that is not unexpected is the longest match at its place. -/
theorem formed_of_mem_pieces {source : String} {kind : PieceKind} {text : List Char} {span : Span}
    (expected : kind ≠ .unexpected) (among : (⟨kind, text⟩, span) ∈ locate 0 (pieces source)) :
    ∃ after, Stands source.toList span text after ∧ Formed kind text ∧ Longest text after := by
  obtain ⟨after, stands, taken⟩ := stands_of_mem_pieces source among
  cases taken with
  | formed formed longest => exact ⟨after, stands, formed, longest⟩
  | skipped unexpected _ _ => exact absurd unexpected expected

/-- Every token is the longest match at its place. -/
theorem stands_of_mem_tokens {source : String} {located : Located}
    (among : located ∈ (lex source).tokens) :
    ∃ text after, Stands source.toList located.span text after ∧
      Formed (.token located.token) text ∧ Longest text after := by
  obtain ⟨text, among⟩ := mem_tokensOf.1 among
  exact ⟨text, formed_of_mem_pieces PieceKind.noConfusion among⟩

end BootTheme
