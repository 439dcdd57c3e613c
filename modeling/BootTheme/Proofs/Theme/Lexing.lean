import BootTheme.Proofs.Number.Decimals
import BootTheme.Text.Quoted
import BootTheme.Theme.PieceLemmas

/-!
# Tokens of a text

The tokens of a text are read off its front: a word, a number, a string or a mark with
its token, and blanks with none. What follows a word or a number must not go on with it.
A text that is made of these alone leaves nothing to skip.
-/

namespace BootTheme

namespace Piece

/-! ## Tokens from the front -/

theorem cut_congr (fuel other : Nat) (text : List Char) (enough : text.length ≤ fuel)
    (alsoEnough : text.length ≤ other) : cut fuel text = cut other text := by
  induction fuel generalizing other text with
  | zero =>
      rw [List.length_eq_zero_iff.mp (Nat.le_zero.mp enough)]
      cases other <;> rfl
  | succ fuel ih =>
      cases text with
      | nil => cases other <;> rfl
      | cons first rest =>
          cases other with
          | zero => cases alsoEnough
          | succ other =>
              have taken := List.length_pos_iff.mpr (front_text_ne_nil first rest)
              have shorter : ((first :: rest).drop (front first rest).text.length).length =
                  (first :: rest).length - (front first rest).text.length := List.length_drop
              rw [List.length_cons] at enough alsoEnough shorter
              rw [cut, cut, ih other _ (by omega) (by omega)]

/-- The token of a piece, if it is one. -/
def token? (piece : Piece) : Option Token :=
  match piece.kind with
  | .token token => some token
  | _ => none

/-- The pieces of a text. -/
def cuts (text : List Char) : List Piece := cut text.length text

/-- The piece at the front comes first, then what the rest of the text is cut into. -/
theorem cuts_front {first : Char} {after rest : List Char}
    (whole : (front first after).text ++ rest = first :: after) :
    cuts (first :: after) = front first after :: cuts rest := by
  have taken := List.length_pos_iff.mpr (front_text_ne_nil first after)
  have lengths := congrArg List.length whole
  rw [List.length_append, List.length_cons] at lengths
  have left : (first :: after).drop (front first after).text.length = rest := by
    rw [← whole, List.drop_left]
  unfold cuts
  rw [List.length_cons, cut, left, cut_congr after.length rest.length rest (by omega) (by omega)]

/-- The tokens of a text without their places. -/
def tokensIn (text : List Char) : List Token := (cuts text).filterMap token?

theorem tokensIn_front {first : Char} {after rest : List Char}
    (whole : (front first after).text ++ rest = first :: after) :
    tokensIn (first :: after) = (front first after).token?.toList ++ tokensIn rest := by
  unfold tokensIn
  rw [cuts_front whole, List.filterMap_cons]
  cases (front first after).token? with
  | none => rfl
  | some token => rfl

theorem map_token_tokensOf (start : Nat) (cuts : List Piece) :
    (tokensOf (locate start cuts)).map Located.token = cuts.filterMap token? := by
  induction cuts generalizing start with
  | nil => rfl
  | cons piece rest ih =>
      obtain ⟨kind, text⟩ := piece
      have more := ih (start + byteCount text)
      unfold tokensOf at more
      unfold tokensOf
      rw [locate, List.filterMap_cons, List.filterMap_cons]
      cases kind with
      | token token =>
          change token :: _ = token :: _
          rw [more]
      | _ => exact more

end Piece

/-- The pieces of a source are those of its text. -/
theorem pieces_eq_cuts (source : String) : pieces source = Piece.cuts source.toList := by
  unfold pieces Piece.cuts
  rw [String.length_toList]

/-- The tokens of a source are those of its text. -/
theorem map_token_lex (source : String) :
    (lex source).tokens.map Located.token = Piece.tokensIn source.toList := by
  unfold lex
  rw [Piece.map_token_tokensOf, pieces_eq_cuts, Piece.tokensIn]

theorem tokens_lex_ofList (text : List Char) :
    (lex (String.ofList text)).tokens = tokensOf (locate 0 (Piece.cut text.length text)) := by
  unfold lex
  rw [pieces_eq_cuts, String.toList_ofList, Piece.cuts]

namespace Piece

/-- A text of tokens with blanks or comments between them and nothing else. -/
structure Lexes (text : List Char) (tokens : List Token) : Prop where
  tokens_eq : tokensIn text = tokens
  expected : ∀ piece ∈ cuts text, piece.kind ≠ .unexpected

namespace Lexes

variable {rest : List Char} {tokens : List Token}

theorem nil : Lexes [] [] where
  tokens_eq := rfl
  expected := by
    intro piece impossible
    cases impossible

theorem cons {first : Char} {after : List Char}
    (whole : (front first after).text ++ rest = first :: after)
    (expected : (front first after).kind ≠ .unexpected) (lexes : Lexes rest tokens) :
    Lexes (first :: after) ((front first after).token?.toList ++ tokens) where
  tokens_eq := by rw [tokensIn_front whole, lexes.tokens_eq]
  expected := by
    rw [cuts_front whole]
    intro piece among
    rcases List.mem_cons.1 among with rfl | later
    · exact expected
    · exact lexes.expected piece later

/-- A token in front of a text. -/
theorem token {first : Char} {after text : List Char} {token : Token}
    (found : front first after = ⟨.token token, text⟩) (whole : text ++ rest = first :: after)
    (lexes : Lexes rest tokens) : Lexes (first :: after) (token :: tokens) := by
  have whole' : (front first after).text ++ rest = first :: after := by rw [found, whole]
  have expected : (front first after).kind ≠ .unexpected := by
    rw [found]
    exact PieceKind.noConfusion
  have step := cons whole' expected lexes
  rw [found] at step
  exact step

end Lexes

/-! ## Marks and blanks -/

theorem front_mark {char : Char} {token : Token} (rest : List Char)
    (mark : mark? char = some token) : front char rest = ⟨.token token, [char]⟩ := by
  unfold mark? at mark
  split at mark <;> cases mark <;> rfl

theorem front_space {char : Char} (rest : List Char) (space : isSpace char = true) :
    front char rest = ⟨.blank, char :: rest.takeWhile isSpace⟩ := by
  unfold front
  rw [if_pos space]

theorem Lexes.mark {char : Char} {token : Token} {rest : List Char} {tokens : List Token}
    (mark : mark? char = some token) (lexes : Lexes rest tokens) :
    Lexes (char :: rest) (token :: tokens) :=
  .token (front_mark rest mark) rfl lexes

theorem cuts_space {char : Char} (rest : List Char) (space : isSpace char = true) :
    cuts (char :: rest) =
      ⟨.blank, char :: rest.takeWhile isSpace⟩ :: cuts (rest.dropWhile isSpace) := by
  have run := front_space rest space
  have whole : (front char rest).text ++ rest.dropWhile isSpace = char :: rest := by
    rw [run, List.cons_append, List.takeWhile_append_dropWhile]
  rw [cuts_front whole, run]

/-- A blank at the front adds nothing to what is gathered from other pieces. -/
theorem filterMap_cuts_space {β : Type} {pick : Piece → Option β}
    (silent : ∀ text, pick ⟨.blank, text⟩ = none) {char : Char} (space : isSpace char = true)
    (rest : List Char) : (cuts (char :: rest)).filterMap pick = (cuts rest).filterMap pick := by
  -- The blank joins the run that the rest may start with.
  rw [cuts_space rest space, List.filterMap_cons_none (silent _)]
  cases rest with
  | nil => rfl
  | cons next rest =>
      by_cases more : isSpace next = true
      · rw [cuts_space rest more, List.filterMap_cons_none (silent _),
          List.dropWhile_cons_of_pos more]
      · rw [List.dropWhile_cons_of_neg more]

/-- What is skipped of a piece. -/
def skipped? (piece : Piece) : Option (List Char) :=
  match piece.kind with
  | .unexpected => some piece.text
  | _ => none

theorem filterMap_skipped_eq_nil {pieces : List Piece} :
    pieces.filterMap skipped? = [] ↔ ∀ piece ∈ pieces, piece.kind ≠ .unexpected := by
  rw [List.filterMap_eq_nil_iff]
  refine forall₂_congr fun piece _ => ?_
  unfold skipped?
  cases piece.kind <;> simp

/-- One blank more or less at the front makes no token. -/
theorem Lexes.space {char : Char} {rest : List Char} {tokens : List Token}
    (space : isSpace char = true) (lexes : Lexes rest tokens) : Lexes (char :: rest) tokens where
  tokens_eq := (filterMap_cuts_space (fun _ => rfl) space rest).trans lexes.tokens_eq
  expected := by
    rw [← filterMap_skipped_eq_nil, filterMap_cuts_space (fun _ => rfl) space rest,
      filterMap_skipped_eq_nil]
    exact lexes.expected

/-! ## Words and numbers -/

/-- A text that does not go on with a word or a number in front of it. -/
def Apart (rest : List Char) : Prop := ∀ char ∈ rest.head?, continuesIdent char = false

theorem Apart.cons {char : Char} {rest : List Char} (mark : continuesIdent char = false) :
    Apart (char :: rest) := by
  intro head same
  cases same
  exact mark

theorem startsIdent_not_space {char : Char} (starts : startsIdent char = true) :
    ¬ isSpace char = true := by
  intro space
  unfold isSpace at space
  simp only [Bool.or_eq_true, beq_iff_eq] at space
  rcases space with ((rfl | rfl) | rfl) | rfl <;> cases starts

theorem front_word {first : Char} (rest : List Char) (starts : startsIdent first = true) :
    front first rest =
      ⟨.token (word (first :: rest.takeWhile continuesIdent)),
        first :: rest.takeWhile continuesIdent⟩ := by
  have comment : first ≠ '#' := by
    rintro rfl
    cases starts
  unfold front
  rw [if_neg (startsIdent_not_space starts), if_neg comment, if_pos starts]

theorem Lexes.word (first : Char) (more : List Char) {rest : List Char} {tokens : List Token}
    (starts : startsIdent first = true) (goesOn : ∀ char ∈ more, continuesIdent char = true)
    (apart : Apart rest) (lexes : Lexes rest tokens) :
    Lexes (first :: (more ++ rest)) (Piece.word (first :: more) :: tokens) := by
  have name := front_word (more ++ rest) starts
  rw [(takeWhile_run goesOn apart).1] at name
  exact .token name rfl lexes

theorem digit_continuesIdent {char : Char} (digit : char.isDigit = true) :
    continuesIdent char = true := by
  unfold continuesIdent Char.isAlphanum
  rw [digit, Bool.or_true]
  rfl

theorem number_decimal (decimal : Decimal) {rest : List Char} (apart : Apart rest) :
    number (decimal.text ++ rest) = ⟨.token (.number decimal.value), decimal.text⟩ := by
  have noDigit : ∀ char ∈ rest.head?, char.isDigit = false := by
    intro char head
    rw [Bool.eq_false_iff]
    intro digit
    have impossible := apart char head
    rw [digit_continuesIdent digit] at impossible
    cases impossible
  have found : fraction (decimal.point ++ rest) = decimal.places := by
    unfold Decimal.point
    have digits := decimal.place_digits
    cases shape : decimal.places with
    | nil =>
        unfold fraction
        split
        · next places same =>
            change rest = '.' :: places at same
            rw [same] at apart
            cases apart '.' rfl
        · rfl
    | cons place places =>
        rw [shape] at digits
        exact (takeWhile_run digits noDigit).1
  obtain ⟨taken, left⟩ := decimal.span_text noDigit
  unfold number
  dsimp only
  rw [taken, left, found, ← decimal.text_eq_ite]
  rfl

theorem front_digit {first : Char} (rest : List Char) (digit : first.isDigit = true) :
    front first rest = number (first :: rest) := by
  have noSpace : ¬ isSpace first = true := by
    intro space
    unfold isSpace at space
    simp only [Bool.or_eq_true, beq_iff_eq] at space
    rcases space with ((rfl | rfl) | rfl) | rfl <;> cases digit
  have comment : first ≠ '#' := by
    rintro rfl
    cases digit
  have noName : ¬ startsIdent first = true := by
    intro starts
    unfold startsIdent at starts
    simp only [Bool.or_eq_true, beq_iff_eq] at starts
    rcases starts with letter | rfl
    · -- Digits lie in front of the letters.
      change (decide ('0'.val ≤ first.val) && decide (first.val ≤ '9'.val)) = true at digit
      change (decide ('A'.val ≤ first.val ∧ first.val ≤ 'Z'.val) ||
        (decide ('a'.val ≤ first.val) && decide (first.val ≤ 'z'.val))) = true at letter
      simp only [Bool.or_eq_true, Bool.and_eq_true, decide_eq_true_eq,
        UInt32.le_iff_toNat_le] at letter digit
      have nine : '9'.val.toNat = 57 := rfl
      have upper : 'A'.val.toNat = 65 := rfl
      have lower : 'a'.val.toNat = 97 := rfl
      omega
    · cases digit
  unfold front
  rw [if_neg noSpace, if_neg comment, if_neg noName, if_pos digit]

theorem Lexes.number (decimal : Decimal) {rest : List Char} {tokens : List Token}
    (apart : Apart rest) (lexes : Lexes rest tokens) :
    Lexes (decimal.text ++ rest) (.number decimal.value :: tokens) := by
  have value := number_decimal decimal apart
  obtain ⟨first, more, shape, digit⟩ := decimal.text_eq_cons
  rw [shape] at value ⊢
  have piece : front first (more ++ rest) = ⟨.token (.number decimal.value), first :: more⟩ := by
    rw [front_digit _ digit]
    exact value
  exact .token piece rfl lexes

/-! ## Strings -/

theorem stringBody_plain {char : Char} (rest : List Char) (noQuote : char ≠ '"')
    (noBackslash : char ≠ '\\') :
    stringBody (char :: rest) = (char :: (stringBody rest).1, (stringBody rest).2) := by
  rw [stringBody]
  · exact noQuote
  · intro same
    exact absurd same noBackslash
  · intro more same
    exact absurd same noBackslash
  · intro other more same
    exact absurd same noBackslash

theorem stringBody_escape (char : Char) (rest : List Char) (noLineEnd : char ≠ '\n') :
    stringBody ('\\' :: char :: rest) =
      ('\\' :: char :: (stringBody rest).1, (stringBody rest).2) := by
  rw [stringBody]
  exact noLineEnd

/-- Characters that neither end a string nor take the next one with them. -/
theorem stringBody_run {run : List Char} (rest : List Char)
    (plain : ∀ char ∈ run, char ≠ '"' ∧ char ≠ '\\') :
    stringBody (run ++ rest) = (run ++ (stringBody rest).1, (stringBody rest).2) := by
  induction run with
  | nil => rfl
  | cons char run ih =>
      obtain ⟨noQuote, noBackslash⟩ := plain char List.mem_cons_self
      rw [List.cons_append, stringBody_plain _ noQuote noBackslash,
        ih fun other inRun => plain other (List.mem_cons_of_mem char inRun)]
      rfl

theorem hexDigits_plain (code : Nat) : ∀ char ∈ hexDigits code, char ≠ '"' ∧ char ≠ '\\' := by
  have single : ∀ digit < 16, digit.digitChar ≠ '"' ∧ digit.digitChar ≠ '\\' := by decide
  unfold hexDigits
  induction code using Nat.strongRecOn with
  | ind code ih =>
      intro char inDigits
      rw [Nat.toDigits_eq_if (by decide)] at inDigits
      split at inDigits
      · next small =>
          cases List.mem_singleton.1 inDigits
          exact single code small
      · next great =>
          rcases List.mem_append.1 inDigits with front | last
          · exact ih (code / 16) (by omega) char front
          · cases List.mem_singleton.1 last
            exact single (code % 16) (Nat.mod_lt code (by decide))

/-- What is shown for a character neither ends a string nor lets its last backslash take the next
character with it. -/
theorem stringBody_quoteChar (char : Char) (rest : List Char) :
    stringBody (quoteChar char ++ rest) =
      (quoteChar char ++ (stringBody rest).1, (stringBody rest).2) := by
  unfold quoteChar
  split
  · exact stringBody_escape _ rest (by decide)
  split
  · exact stringBody_escape _ rest (by decide)
  split
  · exact stringBody_escape _ rest (by decide)
  split
  · exact stringBody_escape _ rest (by decide)
  split
  · exact stringBody_escape _ rest (by decide)
  split
  · exact stringBody_escape _ rest (by decide)
  split
  · have plain : ∀ other ∈ '\x7b' :: hexDigits char.toNat ++ ['\x7d'],
        other ≠ '"' ∧ other ≠ '\\' := by
      intro other inside
      rcases List.mem_append.1 inside with front | last
      · rcases List.mem_cons.1 front with rfl | digit
        · decide
        · exact hexDigits_plain char.toNat other digit
      · cases List.mem_singleton.1 last
        decide
    have escaped := stringBody_escape 'u'
      (('\x7b' :: hexDigits char.toNat ++ ['\x7d']) ++ rest) (by decide)
    rw [stringBody_run rest plain] at escaped
    exact escaped
  · next noQuote noBackslash _ => exact stringBody_plain rest noQuote noBackslash

theorem stringBody_quoteChars (text rest : List Char) :
    stringBody (quoteChars text ++ '"' :: rest) = (quoteChars text, true) := by
  unfold quoteChars
  induction text with
  | nil => rfl
  | cons char text ih =>
      rw [List.flatMap_cons, List.append_assoc, stringBody_quoteChar, ih]

/-- The body of a string is what was put between its quotes, escapes untouched. -/
theorem front_quoted (text rest : List Char) :
    front '"' (quoteChars text ++ '"' :: rest) =
      ⟨.token (.string (String.ofList (quoteChars text))), '"' :: quoteChars text ++ ['"']⟩ := by
  change string _ = _
  unfold string
  rw [stringBody_quoteChars]

theorem Lexes.quoted (text : List Char) {rest : List Char} {tokens : List Token}
    (lexes : Lexes rest tokens) :
    Lexes ('"' :: quoteChars text ++ '"' :: rest)
      (.string (String.ofList (quoteChars text)) :: tokens) :=
  .token (front_quoted text rest) (by rw [List.append_assoc]; rfl) lexes

/-! ## What tokens can be -/

/-- A word that is not a truth value. -/
def IsName (name : String) : Prop :=
  ∃ first more, name.toList = first :: more ∧ startsIdent first = true ∧
    (∀ char ∈ more, continuesIdent char = true) ∧ word (first :: more) = .ident name

/-- Tokens that a piece can be: names are words, and numbers were read from digits. -/
inductive Cuttable : Token → Prop where
  | bool (value : Bool) : Cuttable (.bool value)
  | name {name : String} (isName : IsName name) : Cuttable (.ident name)
  | string (text : String) : Cuttable (.string text)
  | number (whole places : List Char) : Cuttable (.number (readFraction whole places))
  | mark {char : Char} {token : Token} (mark : mark? char = some token) : Cuttable token

theorem cuttable_word {first : Char} {more : List Char} (starts : startsIdent first = true)
    (goesOn : ∀ char ∈ more, continuesIdent char = true) : Cuttable (word (first :: more)) := by
  have shape : word (first :: more) = .bool true ∨ word (first :: more) = .bool false ∨
      word (first :: more) = .ident (String.ofList (first :: more)) := by
    unfold word
    split
    · exact .inl rfl
    · split
      · exact .inr (.inl rfl)
      · exact .inr (.inr rfl)
  rcases shape with same | same | same
  · rw [same]
    exact .bool true
  · rw [same]
    exact .bool false
  · rw [same]
    exact .name ⟨first, more, String.toList_ofList, starts, goesOn, same⟩

theorem front_cuttable (first : Char) (rest : List Char) {token : Token}
    (found : (front first rest).token? = some token) : Cuttable token := by
  unfold front at found
  split at found
  · cases found
  · split at found
    · cases found
    · split at found
      · next starts =>
          cases found
          exact cuttable_word starts (List.all_eq_true.1 List.all_takeWhile)
      · split at found
        · cases found
          exact .number _ _
        · split at found
          · unfold string at found
            split at found
            · cases found
              exact .string _
            · cases found
          · split at found
            · next mark =>
                cases found
                exact .mark mark
            · cases found

/-- Every token of a text can be cut. -/
theorem tokensIn_cuttable (text : List Char) : ∀ token ∈ tokensIn text, Cuttable token := by
  have pieces : ∀ fuel text, ∀ piece ∈ cut fuel text, ∃ first rest, piece = front first rest := by
    intro fuel
    induction fuel with
    | zero =>
        intro text piece impossible
        cases impossible
    | succ fuel ih =>
        intro text piece among
        cases text with
        | nil => cases among
        | cons first rest =>
            rcases List.mem_cons.1 among with same | later
            · exact ⟨first, rest, same⟩
            · exact ih _ piece later
  intro token among
  obtain ⟨piece, inPieces, found⟩ := List.mem_filterMap.1 among
  obtain ⟨first, rest, rfl⟩ := pieces _ _ piece inPieces
  exact front_cuttable first rest found

end Piece

end BootTheme
