/-!
# Text in markup

Five characters have a meaning of their own in markup and are written as
entities. They are replaced one after the other, the ampersand first, because the
entities of the others start with it.
-/

namespace BootTheme

/-- A character replaced wherever it stands. -/
def replaceChar (char : Char) (entity : List Char) (text : List Char) : List Char :=
  text.flatMap fun other => if other = char then entity else [other]

/-- A text as markup. -/
def escapeChars (text : List Char) : List Char :=
  replaceChar '\'' "&apos;".toList
    (replaceChar '"' "&quot;".toList
      (replaceChar '>' "&gt;".toList
        (replaceChar '<' "&lt;".toList
          (replaceChar '&' "&amp;".toList text))))

/-- A text as markup. -/
def escapeMarkup (text : String) : String := String.ofList (escapeChars text.toList)

end BootTheme
