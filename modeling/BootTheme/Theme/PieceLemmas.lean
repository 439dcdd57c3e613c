import BootTheme.Theme.Piece

/-!
# Pieces make up the source

Every piece is the front of the text that it was cut from and takes a character at
least, so cutting ends and the pieces, one after the other, are the source.
-/

namespace BootTheme

namespace Piece

theorem takeWhile_append_rest (keep : Char → Bool) (text : List Char) :
    ∃ rest, text.takeWhile keep ++ rest = text :=
  ⟨text.dropWhile keep, List.takeWhile_append_dropWhile⟩

theorem number_text_append (text : List Char) : ∃ rest, (number text).text ++ rest = text := by
  obtain ⟨rest, whole⟩ := takeWhile_append_rest Char.isDigit text
  have behind : text.dropWhile Char.isDigit = rest := by
    have both : text.takeWhile Char.isDigit ++ text.dropWhile Char.isDigit = text :=
      List.takeWhile_append_dropWhile
    exact List.append_cancel_left (both.trans whole.symm)
  unfold number
  rw [behind]
  cases rest with
  | nil => exact ⟨[], by simpa [fraction] using whole⟩
  | cons point places =>
      by_cases dot : point = '.'
      · subst dot
        by_cases empty : (places.takeWhile Char.isDigit).isEmpty = true
        · exact ⟨'.' :: places, by simpa [fraction, empty] using whole⟩
        · refine ⟨places.dropWhile Char.isDigit, ?_⟩
          simp only [fraction, empty]
          simpa [List.append_assoc, List.takeWhile_append_dropWhile] using whole
      · refine ⟨point :: places, ?_⟩
        have absent : fraction (point :: places) = [] := by
          unfold fraction
          split
          · next eq => cases eq; exact absurd rfl dot
          · rfl
        simpa [absent] using whole

theorem stringBody_append (text : List Char) :
    ∃ rest, (stringBody text).1 ++ rest = text ∧
      ((stringBody text).2 = true → ∃ after, rest = '"' :: after) := by
  fun_induction stringBody text with
  | case1 => exact ⟨[], rfl, fun h => Bool.noConfusion h⟩
  | case2 after => exact ⟨'"' :: after, rfl, fun _ => ⟨after, rfl⟩⟩
  | case3 => exact ⟨['\\'], rfl, fun h => Bool.noConfusion h⟩
  | case4 after => exact ⟨'\\' :: '\n' :: after, rfl, fun h => Bool.noConfusion h⟩
  | case5 char after _ body closed found ih =>
      rw [found] at ih
      obtain ⟨rest, whole, quote⟩ := ih
      exact ⟨rest, by rw [← whole]; rfl, quote⟩
  | case6 char after _ _ _ _ body closed found ih =>
      rw [found] at ih
      obtain ⟨rest, whole, quote⟩ := ih
      exact ⟨rest, by rw [← whole]; rfl, quote⟩

theorem string_text_append (after : List Char) :
    ∃ rest, (string after).text ++ rest = '"' :: after := by
  obtain ⟨rest, whole, quote⟩ := stringBody_append after
  unfold string
  split
  · next body found =>
      rw [found] at whole quote
      obtain ⟨behind, eq⟩ := quote rfl
      exact ⟨behind, by rw [← whole, eq]; simp⟩
  · next body found =>
      rw [found] at whole
      exact ⟨rest, by rw [← whole]; rfl⟩

/-- A piece is the front of the text it was cut from. -/
theorem front_text_append (first : Char) (after : List Char) :
    ∃ rest, (front first after).text ++ rest = first :: after := by
  have run (keep : Char → Bool) :
      ∃ rest, first :: after.takeWhile keep ++ rest = first :: after := by
    obtain ⟨rest, whole⟩ := takeWhile_append_rest keep after
    exact ⟨rest, by rw [List.cons_append, whole]⟩
  unfold front
  split
  · exact run isSpace
  · split
    · exact run (· != '\n')
    · split
      · exact run continuesIdent
      · split
        · exact number_text_append (first :: after)
        · split
          · next quote => rw [quote]; exact string_text_append after
          · split
            · exact ⟨after, rfl⟩
            · exact ⟨after, rfl⟩

/-- A piece takes a character at least. -/
theorem front_text_ne_nil (first : Char) (after : List Char) : (front first after).text ≠ [] := by
  unfold front
  split
  · exact List.cons_ne_nil _ _
  · split
    · exact List.cons_ne_nil _ _
    · split
      · exact List.cons_ne_nil _ _
      · split
        · next digit =>
            have taken : ((first :: after).takeWhile Char.isDigit) =
                first :: after.takeWhile Char.isDigit := by simp [digit]
            unfold number
            rw [taken]
            dsimp only
            split
            · exact List.cons_ne_nil _ _
            · exact List.cons_ne_nil _ _
        · split
          · unfold string
            split
            · exact List.cons_ne_nil _ _
            · exact List.cons_ne_nil _ _
          · split
            · exact List.cons_ne_nil _ _
            · exact List.cons_ne_nil _ _

/-- Cutting loses no character. -/
theorem flatMap_text_cut (fuel : Nat) (text : List Char) (enough : text.length ≤ fuel) :
    (cut fuel text).flatMap Piece.text = text := by
  induction fuel generalizing text with
  | zero =>
      have empty : text = [] := List.length_eq_zero_iff.mp (Nat.le_zero.mp enough)
      rw [empty]
      rfl
  | succ fuel ih =>
      cases text with
      | nil => rfl
      | cons first after =>
          obtain ⟨rest, whole⟩ := front_text_append first after
          have shorter : rest.length ≤ fuel := by
            have lengths := congrArg List.length whole
            have taken := List.length_pos_iff.mpr (front_text_ne_nil first after)
            simp only [List.length_append, List.length_cons] at lengths enough
            omega
          have left : (first :: after).drop (front first after).text.length = rest := by
            rw [← whole, List.drop_left]
          rw [cut, List.flatMap_cons, left, ih rest shorter, whole]

end Piece

/-- The pieces of a source make up the source. -/
theorem flatMap_text_pieces (source : String) :
    (pieces source).flatMap Piece.text = source.toList :=
  Piece.flatMap_text_cut source.length source.toList (Nat.le_of_eq String.length_toList)

end BootTheme
