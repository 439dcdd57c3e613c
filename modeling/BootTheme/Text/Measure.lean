/-!
# Measures of texts

Spans count the bytes of a text in UTF-8; margins are texts repeated.
-/

namespace BootTheme

/-- The bytes of a text. -/
def byteCount : List Char → Nat
  | [] => 0
  | char :: rest => char.utf8Size + byteCount rest

theorem byteCount_nil : byteCount [] = 0 := rfl

theorem byteCount_cons (char : Char) (rest : List Char) :
    byteCount (char :: rest) = char.utf8Size + byteCount rest := rfl

theorem byteCount_append (first second : List Char) :
    byteCount (first ++ second) = byteCount first + byteCount second := by
  induction first with
  | nil => rw [List.nil_append, byteCount_nil, Nat.zero_add]
  | cons char rest ih => rw [List.cons_append, byteCount_cons, byteCount_cons, ih, Nat.add_assoc]

theorem length_le_byteCount (text : List Char) : text.length ≤ byteCount text := by
  induction text with
  | nil => exact Nat.le_refl 0
  | cons char rest ih =>
      have positive := char.utf8Size_pos
      rw [byteCount_cons, List.length_cons]
      omega

/-- Bytes are counted as characters where every character is of one byte. -/
theorem byteCount_eq_length_iff (text : List Char) :
    byteCount text = text.length ↔ ∀ char ∈ text, char.utf8Size = 1 := by
  induction text with
  | nil => exact iff_of_true rfl (List.forall_mem_nil _)
  | cons char rest ih =>
      have positive := char.utf8Size_pos
      have atLeast := length_le_byteCount rest
      rw [List.forall_mem_cons, ← ih, byteCount_cons, List.length_cons]
      omega

/-- A text repeated. -/
def repeated (text : String) (count : Nat) : String := String.join (List.replicate count text)

end BootTheme
