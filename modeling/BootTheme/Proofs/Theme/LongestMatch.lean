import BootTheme.Proofs.Theme.Lexing

/-!
# Pieces are longest matches

Every kind of piece but the unexpected one has a form of its own, told by what may stand
in it. From front to back, the next piece of a source is the longest text there that has
a form, and unexpected input stands where no text has one.
-/

namespace BootTheme

namespace Piece

/-- What stands between the quotes of a string: no quote, and no line end behind a backslash. -/
inductive StringBody : List Char → Prop where
  | nil : StringBody []
  | plain {char : Char} {rest : List Char} (noQuote : char ≠ '"') (noBackslash : char ≠ '\\')
      (body : StringBody rest) : StringBody (char :: rest)
  | escaped {char : Char} {rest : List Char} (noLineEnd : char ≠ '\n') (body : StringBody rest) :
      StringBody ('\\' :: char :: rest)

/-- The texts that have the form of a kind. -/
inductive Formed : PieceKind → List Char → Prop where
  | blank {text : List Char} (nonempty : text ≠ []) (blanks : ∀ char ∈ text, isSpace char = true) :
      Formed .blank text
  | comment {body : List Char} (oneLine : '\n' ∉ body) : Formed .comment ('#' :: body)
  | word {first : Char} {more : List Char} (starts : startsIdent first = true)
      (goesOn : ∀ char ∈ more, continuesIdent char = true) :
      Formed (.token (word (first :: more))) (first :: more)
  | number (decimal : Decimal) : Formed (.token (.number decimal.value)) decimal.text
  | string {body : List Char} (between : StringBody body) :
      Formed (.token (.string (String.ofList body))) ('"' :: (body ++ ['"']))
  | mark {char : Char} {token : Token} (mark : mark? char = some token) :
      Formed (.token token) [char]

/-- No text with a form that stands where the text stands is longer. -/
def Longest (text after : List Char) : Prop :=
  ∀ kind other behind, Formed kind other → other ++ behind = text ++ after →
    other.length ≤ text.length

/-- No text with a form stands at the front. -/
def Formless (text : List Char) : Prop :=
  ∀ kind other behind, Formed kind other → other ++ behind ≠ text

/-- A piece that is the longest match at its place, or is skipped where nothing matches. -/
inductive Taken (piece : Piece) (after : List Char) : Prop where
  | formed (formed : Formed piece.kind piece.text) (longest : Longest piece.text after)
  | skipped (unexpected : piece.kind = .unexpected) (nonempty : piece.text ≠ [])
      (formless : Formless (piece.text ++ after))

/-- Pieces that are taken from a text one after the other, up to its end. -/
inductive Munched : List Char → List Piece → Prop where
  | done : Munched [] []
  | more {piece : Piece} {rest : List Char} {pieces : List Piece} (taken : Taken piece rest)
      (munched : Munched rest pieces) : Munched (piece.text ++ rest) (piece :: pieces)

theorem Formed.ne_nil {kind : PieceKind} {text : List Char} (formed : Formed kind text) :
    text ≠ [] := by
  cases formed with
  | blank nonempty _ => exact nonempty
  | number decimal =>
      obtain ⟨first, more, shape, _⟩ := decimal.text_eq_cons
      rw [shape]
      exact List.cons_ne_nil _ _
  | _ => exact List.cons_ne_nil _ _

/-! ## A piece has the form of its kind -/

theorem stringBody_between {text : List Char} (closed : (stringBody text).2 = true) :
    StringBody (stringBody text).1 := by
  fun_induction stringBody text with
  | case1 => cases closed
  | case2 => exact .nil
  | case3 => cases closed
  | case4 => cases closed
  | case5 char rest noLineEnd body ended found ih =>
      rw [found] at ih
      exact .escaped noLineEnd (ih closed)
  | case6 char rest noQuote alone lineEnd pair body ended found ih =>
      have noBackslash : char ≠ '\\' := by
        intro backslash
        cases rest with
        | nil => exact alone backslash rfl
        | cons next rest => exact pair next rest backslash rfl
      rw [found] at ih
      exact .plain noQuote noBackslash (ih closed)

theorem takeWhile_kept (keep : Char → Bool) (text : List Char) :
    ∀ char ∈ text.takeWhile keep, keep char = true :=
  List.all_eq_true.1 List.all_takeWhile

theorem fraction_digits (text : List Char) : ∀ char ∈ fraction text, char.isDigit = true := by
  unfold fraction
  split
  · exact takeWhile_kept Char.isDigit _
  · intro char impossible
    cases impossible

/-- The decimal at the front of a text that starts with a digit. -/
def decimalAt (first : Char) (rest : List Char) (digit : first.isDigit = true) : Decimal where
  whole := (first :: rest).takeWhile Char.isDigit
  places := fraction ((first :: rest).dropWhile Char.isDigit)
  nonempty := by
    rw [List.takeWhile_cons_of_pos digit]
    exact List.cons_ne_nil _ _
  whole_digits := takeWhile_kept Char.isDigit _
  place_digits := fraction_digits _

theorem front_decimal (first : Char) (rest : List Char) (digit : first.isDigit = true) :
    front first rest =
      ⟨.token (.number (decimalAt first rest digit).value), (decimalAt first rest digit).text⟩ := by
  rw [front_digit rest digit, number, Decimal.text_eq_ite]
  rfl

/-- A piece that is not unexpected has the form of its kind. -/
theorem front_formed (first : Char) (rest : List Char)
    (expected : (front first rest).kind ≠ .unexpected) :
    Formed (front first rest).kind (front first rest).text := by
  by_cases space : isSpace first = true
  · rw [front_space rest space]
    refine .blank (List.cons_ne_nil _ _) ?_
    intro char among
    rcases List.mem_cons.1 among with rfl | later
    · exact space
    · exact takeWhile_kept isSpace rest char later
  by_cases comment : first = '#'
  · subst comment
    refine .comment ?_
    intro lineEnd
    cases takeWhile_kept (· != '\n') rest '\n' lineEnd
  by_cases starts : startsIdent first = true
  · rw [front_word rest starts]
    exact .word starts (takeWhile_kept continuesIdent rest)
  by_cases digit : first.isDigit = true
  · rw [front_decimal first rest digit]
    exact .number _
  unfold front at expected ⊢
  rw [if_neg space, if_neg comment, if_neg starts, if_neg digit] at expected ⊢
  split
  · next quote =>
      rw [if_pos quote] at expected
      have between : (stringBody rest).2 = true → StringBody (stringBody rest).1 :=
        stringBody_between
      unfold string at expected ⊢
      split
      · next body found =>
          rw [found] at between
          exact .string (between rfl)
      · next body found =>
          rw [found] at expected
          exact absurd rfl expected
  · next quote =>
      rw [if_neg quote] at expected
      split
      · next token mark => exact .mark mark
      · next mark =>
          rw [mark] at expected
          exact absurd rfl expected

/-! ## No text with a form is longer -/

theorem length_le_takeWhile {keep : Char → Bool} {run after : List Char}
    (kept : ∀ char ∈ run, keep char = true) :
    run.length ≤ ((run ++ after).takeWhile keep).length := by
  rw [List.takeWhile_append_of_pos kept, List.length_append]
  exact Nat.le_add_right _ _

theorem stringBody_of_between {body : List Char} (between : StringBody body) (after : List Char) :
    stringBody (body ++ '"' :: after) = (body, true) := by
  induction between with
  | nil => rfl
  | plain noQuote noBackslash _ ih =>
      rw [List.cons_append, stringBody_plain _ noQuote noBackslash, ih]
  | escaped noLineEnd _ ih =>
      rw [List.cons_append, List.cons_append, stringBody_escape _ _ noLineEnd, ih]

theorem length_le_decimalAt (decimal : Decimal) {first : Char} {rest after : List Char}
    (digit : first.isDigit = true) (starts : decimal.text ++ after = first :: rest) :
    decimal.text.length ≤ (decimalAt first rest digit).text.length := by
  have whole : decimal.whole.length ≤ ((first :: rest).takeWhile Char.isDigit).length := by
    rw [← starts, Decimal.text, List.append_assoc]
    exact length_le_takeWhile decimal.whole_digits
  cases shape : decimal.places with
  | nil =>
      rw [Decimal.text_eq_ite decimal, shape, Decimal.text, List.length_append]
      exact Nat.le_trans whole (Nat.le_add_right _ _)
  | cons place places =>
      have written : decimal.text = decimal.whole ++ '.' :: decimal.places := by
        rw [Decimal.text_eq_ite, shape]
        rfl
      obtain ⟨taken, left⟩ : (first :: rest).takeWhile Char.isDigit = decimal.whole ∧
          (first :: rest).dropWhile Char.isDigit = '.' :: (decimal.places ++ after) := by
        rw [← starts, written, List.append_assoc]
        refine takeWhile_run decimal.whole_digits ?_
        intro char head
        cases head
        rfl
      have fractionEq : (decimalAt first rest digit).places =
          decimal.places ++ after.takeWhile Char.isDigit := by
        change fraction ((first :: rest).dropWhile Char.isDigit) = _
        rw [left]
        exact List.takeWhile_append_of_pos decimal.place_digits
      have nonempty : (decimalAt first rest digit).places.isEmpty = false := by
        rw [fractionEq, shape]
        rfl
      rw [written, Decimal.text_eq_ite, nonempty, fractionEq]
      change _ ≤ ((first :: rest).takeWhile Char.isDigit ++ _).length
      rw [taken]
      simp only [List.length_append, List.length_cons]
      omega

/-- Where a text has a form, the piece there is not unexpected and at least as long. -/
theorem front_longest {kind : PieceKind} {text after : List Char} {first : Char} {rest : List Char}
    (formed : Formed kind text) (starts : text ++ after = first :: rest) :
    (front first rest).kind ≠ .unexpected ∧ text.length ≤ (front first rest).text.length := by
  cases formed with
  | blank nonempty blanks =>
      obtain ⟨head, more, rfl⟩ := List.exists_cons_of_ne_nil nonempty
      obtain ⟨rfl, rfl⟩ := List.cons.inj starts
      rw [front_space _ (blanks head List.mem_cons_self)]
      refine ⟨PieceKind.noConfusion, Nat.succ_le_succ (length_le_takeWhile ?_)⟩
      exact fun char later => blanks char (List.mem_cons_of_mem head later)
  | @comment body oneLine =>
      obtain ⟨rfl, rfl⟩ := List.cons.inj starts
      refine ⟨PieceKind.noConfusion, Nat.succ_le_succ
        (length_le_takeWhile ?_)⟩
      intro char among
      exact bne_iff_ne.2 fun lineEnd => oneLine (lineEnd ▸ among)
  | word startsWord goesOn =>
      obtain ⟨rfl, rfl⟩ := List.cons.inj starts
      rw [front_word _ startsWord]
      exact ⟨PieceKind.noConfusion, Nat.succ_le_succ (length_le_takeWhile goesOn)⟩
  | number decimal =>
      obtain ⟨head, more, shape, digit⟩ := decimal.text_eq_cons
      have same : head = first := by
        rw [shape] at starts
        exact (List.cons.inj starts).1
      subst same
      rw [front_decimal head rest digit]
      exact ⟨PieceKind.noConfusion, length_le_decimalAt decimal digit starts⟩
  | @string body between =>
      have behind : body ++ '"' :: after = rest := by
        rw [← (List.cons.inj starts).2]
        exact (List.append_assoc body ['"'] after).symm
      obtain ⟨rfl, _⟩ := List.cons.inj starts
      have piece : front '"' rest =
          ⟨.token (.string (String.ofList body)), '"' :: body ++ ['"']⟩ := by
        change string rest = _
        unfold string
        rw [← behind, stringBody_of_between between]
      rw [piece]
      exact ⟨PieceKind.noConfusion, Nat.le_refl _⟩
  | mark mark =>
      obtain ⟨rfl, rfl⟩ := List.cons.inj starts
      rw [front_mark _ mark]
      exact ⟨PieceKind.noConfusion, Nat.le_refl _⟩

/-- A text is cut into longest matches. -/
theorem munched_cuts (text : List Char) : Munched text (cuts text) := by
  induction length : text.length using Nat.strongRecOn generalizing text with
  | ind size ih =>
      cases text with
      | nil => exact .done
      | cons first after =>
          obtain ⟨rest, whole⟩ := front_text_append first after
          have nonempty := front_text_ne_nil first after
          have shorter : rest.length < size := by
            have lengths := congrArg List.length whole
            have taken := List.length_pos_iff.mpr nonempty
            rw [List.length_append] at lengths
            omega
          have more := ih rest.length shorter rest rfl
          rw [cuts_front whole]
          by_cases expected : (front first after).kind = .unexpected
          · have formless : Formless ((front first after).text ++ rest) := by
              intro kind text behind formed starts
              exact (front_longest formed (starts.trans whole)).1 expected
            exact whole ▸ .more (.skipped expected nonempty formless) more
          · have longest : Longest (front first after).text rest := by
              intro kind text behind formed starts
              exact (front_longest formed (starts.trans whole)).2
            exact whole ▸ .more (.formed (front_formed first after expected) longest) more

end Piece

/-- A source is cut into longest matches. -/
theorem munched_pieces (source : String) : Piece.Munched source.toList (pieces source) := by
  rw [pieces_eq_cuts]
  exact Piece.munched_cuts source.toList

end BootTheme
