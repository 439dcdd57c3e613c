/-!
# Dictionaries

A dictionary holds one value for each of its names. A name that is set again
keeps its place and takes the new value.
-/

namespace BootTheme

/-- Values by name. -/
structure Dictionary (α : Type) where
  entries : List (String × α)
deriving Repr

namespace Dictionary

variable {α : Type}

/-- No name has a value. -/
def empty : Dictionary α := ⟨[]⟩

/-- An entry added at the end, or put in the place of the one with its name. -/
def setEntry (name : String) (value : α) : List (String × α) → List (String × α)
  | [] => [(name, value)]
  | (other, old) :: rest =>
      if other = name then (name, value) :: rest else (other, old) :: setEntry name value rest

/-- The dictionary in which the name has the value. -/
def set (dictionary : Dictionary α) (name : String) (value : α) : Dictionary α :=
  ⟨setEntry name value dictionary.entries⟩

/-- The value of a name. -/
def get? (dictionary : Dictionary α) (name : String) : Option α :=
  dictionary.entries.lookup name

/-- The number of names. -/
def size (dictionary : Dictionary α) : Nat := dictionary.entries.length

theorem get?_empty (name : String) : (empty : Dictionary α).get? name = none := rfl

theorem lookup_setEntry (name other : String) (value : α) (entries : List (String × α)) :
    (setEntry name value entries).lookup other =
      if other = name then some value else entries.lookup other := by
  induction entries with
  | nil =>
      by_cases h : other = name
      · simp [setEntry, h]
      · have apart : (other == name) = false := by simpa using h
        simp [setEntry, List.lookup_cons, h, apart]
  | cons entry rest ih =>
      obtain ⟨first, old⟩ := entry
      by_cases same : first = name
      · by_cases h : other = name
        · simp [setEntry, same, h]
        · have apart : (other == name) = false := by simpa using h
          simp [setEntry, same, h, List.lookup_cons, apart]
      · by_cases h : other = first
        · have apart : ¬ other = name := fun eq => same (h ▸ eq)
          simp [setEntry, same, h]
        · have apart : (other == first) = false := by simpa using h
          simpa [setEntry, same, List.lookup_cons, apart] using ih

theorem get?_set (dictionary : Dictionary α) (name other : String) (value : α) :
    (dictionary.set name value).get? other =
      if other = name then some value else dictionary.get? other :=
  lookup_setEntry name other value dictionary.entries

end Dictionary

end BootTheme
