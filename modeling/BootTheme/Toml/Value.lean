/-!
# Values of TOML

A document is a table: values by key, in the order in which the keys first
appear. Keys and values know where they stand in the document, so that a message
can show them. A table that was only passed through on the way to another one
stands nowhere.
-/

namespace BootTheme

/-- A range of a document. Its ends are counted in characters from the end of the document. -/
structure TomlRange where
  start : Nat
  stop : Nat
deriving DecidableEq, Repr

/-- Something and where it stands. -/
structure Ranged (α : Type) where
  range : Option TomlRange
  item : α
deriving Repr

/-- A value. A date or time is kept as its text. -/
inductive Toml where
  | string (text : String)
  | integer (value : Int)
  | float (value : Float)
  | bool (value : Bool)
  | datetime (text : String)
  | array (items : List (Ranged Toml))
  | table (entries : List (Ranged String × Ranged Toml))
deriving Repr

namespace TomlRange

/-- The range between two texts that are left of a document: the first one starts with the range,
and the second one follows it. -/
def between (text rest : List Char) : TomlRange := ⟨text.length, rest.length⟩

/-- The range from the start of one to the end of another. -/
def upTo (first last : TomlRange) : TomlRange := ⟨first.start, last.stop⟩

end TomlRange

/-- The end of a table moved to the end of its latest value, if both stand somewhere. -/
def extendRange (range value : Option TomlRange) : Option TomlRange :=
  match range, value with
  | some range, some value => some (range.upTo value)
  | range, _ => range

end BootTheme
