import BootTheme.Theme.Parser
import BootTheme.Warning

/-!
# Reading a source

Tokens are taken from a source in batches while it is read. A source with an
offending token is not looked at behind the batch of that token, so what forms no
token there is not noted.
-/

namespace BootTheme

/-- How many tokens are taken at once. -/
def batchSize : Nat := 512

/-- The last token of the batch that holds the token at a byte, if the batch is full. -/
def lastTaken? (tokens : List Located) (start : Nat) : Option Located :=
  let before := tokens.countP fun located => decide (located.span.start < start)
  tokens[batchSize * (before / batchSize + 1) - 1]?

/-- What was skipped on the way to an answer. -/
def Lexed.skippedFor (lexed : Lexed) (answer : Except SyntaxError Theme) :
    List (List Char × Span) :=
  match answer with
  | .error ⟨some _, span, _⟩ =>
      match lastTaken? lexed.tokens span.start with
      | some last =>
          lexed.skipped.filter fun (_, skipped) => decide (skipped.start < last.span.start)
      | none => lexed.skipped
  | _ => lexed.skipped

/-- Nothing is noted twice or out of order. -/
theorem Lexed.skippedFor_sublist (lexed : Lexed) (answer : Except SyntaxError Theme) :
    (lexed.skippedFor answer).Sublist lexed.skipped := by
  unfold skippedFor
  split
  · split
    · exact List.filter_sublist
    · exact List.Sublist.refl _
  · exact List.Sublist.refl _

/-- The theme of a source, with what was skipped on the way. -/
def readSource (source : String) : Noted (Except SyntaxError Theme) :=
  let lexed := lex source
  let answer := readTheme (byteCount source.toList) lexed.tokens
  ⟨answer, skipWarnings (lexed.skippedFor answer)⟩

end BootTheme
