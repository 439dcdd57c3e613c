import BootTheme.Proofs.Layout.Culprits
import BootTheme.Proofs.Number.Decimals

/-!
# Reading the text of an expression

Every operation stands in parentheses, with blanks around its sign, and numbers and names hold
neither. So a text says where the sides of an operation end, and two expressions with one text
are the same as soon as numbers and names are told apart by their texts.
-/

namespace BootTheme

namespace Operator

/-- The sign of an operation is told by its character. -/
theorem symbol_unique {first second : Operator} {rest more : List Char}
    (same : first.symbol.toList ++ rest = second.symbol.toList ++ more) :
    first = second ∧ rest = more := by
  cases first <;> cases second <;> simp_all [symbol]

end Operator

namespace Expr

/-- A character of a number or a name. -/
def inAtom (char : Char) : Bool := char != ' ' && char != '(' && char != ')'

/-- A text without blanks and parentheses. -/
def IsAtom (text : String) : Prop := ∀ char ∈ text.toList, inAtom char = true

instance (text : String) : Decidable (IsAtom text) := inferInstanceAs (Decidable (∀ _ ∈ _, _))

/-- What stands behind an expression within another one, or at the end. -/
def Ends (rest : List Char) : Prop := ∀ char ∈ rest.head?, char = ' ' ∨ char = ')'

theorem ends_nil : Ends [] := by simp [Ends]

theorem ends_blank (rest : List Char) : Ends (' ' :: rest) := by simp [Ends]

theorem ends_closing (rest : List Char) : Ends (')' :: rest) := by simp [Ends]

variable {first second : String} {rest more : List Char}

theorem Ends.not_inAtom (ends : Ends rest) : ∀ char ∈ rest.head?, inAtom char = false := by
  intro char head
  rcases ends char head with rfl | rfl <;> rfl

/-- A number or a name is told by its characters up to a blank or a parenthesis. -/
theorem IsAtom.unique (atom : IsAtom first) (other : IsAtom second) (ends : Ends rest)
    (alsoEnds : Ends more) (same : first.toList ++ rest = second.toList ++ more) :
    first = second ∧ rest = more := by
  obtain ⟨texts, behind⟩ := run_unique same atom other ends.not_inAtom alsoEnds.not_inAtom
  exact ⟨String.toList_inj.1 texts, behind⟩

/-- A number or a name does not start like an operation. -/
theorem IsAtom.ne_opening (atom : IsAtom first) (ends : Ends rest) :
    first.toList ++ rest ≠ '(' :: more := by
  intro same
  cases shape : first.toList with
  | nil =>
      rw [shape, List.nil_append] at same
      have opening := ends '(' (by rw [same]; rfl)
      simp at opening
  | cons char tail =>
      rw [shape, List.cons_append, List.cons.injEq] at same
      have inside := atom '(' (by rw [shape, ← same.1]; exact List.mem_cons_self)
      cases inside

variable {α : Type} {write : α → String} {names : List String}

/-- Numbers are written so that no two are written alike, nor like one of the names, and neither
with a blank or a parenthesis. -/
structure Legible (write : α → String) (names : List String) : Prop where
  number : ∀ value, IsAtom (write value)
  name : ∀ name ∈ names, IsAtom name
  injective : Function.Injective write
  apart : ∀ value, write value ∉ names

/-- An expression with unknowns of the given names only. -/
def Knows (names : List String) (expr : Expr α) : Prop := ∀ name ∈ expr.unknowns, name ∈ names

theorem knows_binary {operator : Operator} {left right : Expr α} :
    (binary operator left right).Knows names ↔ left.Knows names ∧ right.Knows names := by
  simp [Knows, unknowns, or_imp, forall_and]

theorem knows_unknown {name : String} : (unknown name : Expr α).Knows names ↔ name ∈ names := by
  simp [Knows, unknowns]

/-- What a node knows is known to the whole expression. -/
theorem Knows.of_mem_postorder {expr node : Expr α} (knows : expr.Knows names)
    (among : node ∈ expr.postorder) : node.Knows names := by
  induction expr with
  | constant value => rwa [List.mem_singleton.1 among]
  | unknown name => rwa [List.mem_singleton.1 among]
  | binary operator left right onLeft onRight =>
      obtain ⟨here, there⟩ := knows_binary.1 knows
      simp only [postorder, List.mem_append, List.mem_singleton] at among
      rcases among with (inLeft | inRight) | rfl
      · exact onLeft here inLeft
      · exact onRight there inRight
      · exact knows

theorem text_binary (operator : Operator) (left right : Expr α) (rest : List Char) :
    ((binary operator left right).text write).toList ++ rest =
      '(' :: ((left.text write).toList ++ ' ' :: (operator.symbol.toList ++
        ' ' :: ((right.text write).toList ++ ')' :: rest))) := by
  simp [text, String.toList_append]

/-- The text of an expression is read in one way, whatever stands behind it. -/
theorem text_unique (legible : Legible write names) {expr other : Expr α} {rest more : List Char}
    (knows : expr.Knows names) (alsoKnows : other.Knows names) (ends : Ends rest)
    (alsoEnds : Ends more)
    (same : (expr.text write).toList ++ rest = (other.text write).toList ++ more) :
    expr = other ∧ rest = more := by
  -- The first side of an operation ends at the blank in front of its sign.
  induction expr generalizing other rest more with
  | constant value =>
      have atom := legible.number value
      cases other with
      | constant number =>
          obtain ⟨texts, behind⟩ := atom.unique (legible.number number) ends alsoEnds same
          exact ⟨congrArg constant (legible.injective texts), behind⟩
      | unknown name =>
          have named := knows_unknown.1 alsoKnows
          obtain ⟨texts, -⟩ := atom.unique (legible.name name named) ends alsoEnds same
          exact absurd (texts ▸ named) (legible.apart value)
      | binary operator left right =>
          rw [text_binary] at same
          exact absurd same (atom.ne_opening ends)
  | unknown name =>
      have named := knows_unknown.1 knows
      have atom := legible.name name named
      cases other with
      | constant number =>
          obtain ⟨texts, -⟩ := atom.unique (legible.number number) ends alsoEnds same
          exact absurd (texts ▸ named) (legible.apart number)
      | unknown another =>
          have alsoNamed := knows_unknown.1 alsoKnows
          obtain ⟨texts, behind⟩ := atom.unique (legible.name another alsoNamed) ends alsoEnds same
          exact ⟨congrArg unknown texts, behind⟩
      | binary operator left right =>
          rw [text_binary] at same
          exact absurd same (atom.ne_opening ends)
  | binary operator left right onLeft onRight =>
      rw [text_binary] at same
      cases other with
      | constant number =>
          exact absurd same.symm ((legible.number number).ne_opening alsoEnds)
      | unknown name =>
          have atom := legible.name name (knows_unknown.1 alsoKnows)
          exact absurd same.symm (atom.ne_opening alsoEnds)
      | binary another first second =>
          obtain ⟨here, there⟩ := knows_binary.1 knows
          obtain ⟨alsoHere, alsoThere⟩ := knows_binary.1 alsoKnows
          rw [text_binary, List.cons.injEq] at same
          obtain ⟨rfl, signs⟩ := onLeft here alsoHere (ends_blank _) (ends_blank _) same.2
          obtain ⟨rfl, sides⟩ := Operator.symbol_unique (List.cons.inj signs).2
          obtain ⟨rfl, closing⟩ := onRight there alsoThere (ends_closing _) (ends_closing _)
            (List.cons.inj sides).2
          exact ⟨rfl, (List.cons.inj closing).2⟩

theorem eq_of_text_eq (legible : Legible write names) {expr other : Expr α}
    (knows : expr.Knows names) (alsoKnows : other.Knows names)
    (same : expr.text write = other.text write) : expr = other :=
  (text_unique legible knows alsoKnows ends_nil ends_nil (by rw [same])).1

end Expr

end BootTheme
