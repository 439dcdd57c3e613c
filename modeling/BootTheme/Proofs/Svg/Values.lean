import BootTheme.Proofs.Number.Decimals
import BootTheme.Proofs.Svg.Markup
import BootTheme.Svg.Document
import BootTheme.Text.Base64

/-!
# Values that are written as they are

Numbers, colors and the texts of bytes hold no character that has an entity, so they are the
values of their attributes without being escaped.
-/

namespace BootTheme

namespace Xml

/-- A character of ASCII that stands for itself in the value of an attribute. -/
def IsPlain (char : Char) : Prop :=
  (32 ≤ char.toNat ∧ char.toNat < 128) ∧ BareInValue char

instance (char : Char) : Decidable (IsPlain char) := inferInstanceAs (Decidable (_ ∧ _ ∧ _ ∧ _))

theorem IsPlain.isChar {char : Char} (plain : IsPlain char) : IsChar char :=
  isChar_of_ascii plain.1.1 plain.1.2

theorem isPlain_of_isDigit {char : Char} (digit : char.isDigit = true) : IsPlain char := by
  have letter : char.isAlphanum = true := by rw [Char.isAlphanum, digit, Bool.or_true]
  have bounds := toNat_of_isAlphanum letter
  refine ⟨by omega, ?_, ?_, ?_⟩
  all_goals
    rintro rfl
    exact absurd digit (by decide)

/-- A text of such characters. -/
def IsPlainText (text : String) : Prop := ∀ char ∈ text.toList, IsPlain char

instance (text : String) : Decidable (IsPlainText text) :=
  List.decidableBAll IsPlain text.toList

theorem IsPlainText.isText {text : String} (plain : IsPlainText text) : IsText text :=
  fun char among => (plain char among).isChar

theorem IsPlainText.value {text : String} (plain : IsPlainText text) : SpelledValue text text :=
  Spelled.self (fun char among => (plain char among).isChar)
    fun char among => (plain char among).2

theorem IsPlainText.append {first second : String} (one : IsPlainText first)
    (other : IsPlainText second) : IsPlainText (first ++ second) := by
  unfold IsPlainText
  rw [String.toList_append, List.forall_mem_append]
  exact ⟨one, other⟩

/-! ## Numbers -/

theorem isPlain_toString (count : Nat) : IsPlainText (toString count) := by
  intro char among
  rw [toList_toString] at among
  exact isPlain_of_isDigit (digitsOf_digits count char among)

theorem isPlain_decimalText (value : Float) : IsPlainText (decimalText value) :=
  forall_mem_decimalText (fun _ => isPlain_of_isDigit) (by simp [IsPlain, BareInValue]) value

/-! ## Colors and bytes -/

theorem isPlain_hexPair (value : UInt8) : ∀ char ∈ Color.hexPair value, IsPlain char := by
  have digit : ∀ nibble : Fin 16, IsPlain (Nat.digitChar nibble) := by decide
  have small := UInt8.toNat_lt value
  unfold Color.hexPair
  rw [List.forall_mem_cons, List.forall_mem_singleton]
  exact ⟨digit ⟨value.toNat / 16, by omega⟩, digit ⟨value.toNat % 16, by omega⟩⟩

theorem isPlain_hex (color : Color) : IsPlainText color.hex := by
  unfold IsPlainText Color.hex
  rw [String.toList_ofList, List.cons_append, List.cons_append, List.forall_mem_cons,
    List.forall_mem_append, List.forall_mem_append]
  exact ⟨by decide, ⟨isPlain_hexPair _, isPlain_hexPair _⟩, isPlain_hexPair _⟩

theorem isPlain_digitAt (number place : Nat) : IsPlain (Base64.digitAt number place) := by
  have digit : ∀ bits : Fin 64, IsPlain (Base64.digit bits) := by decide
  exact digit ⟨(number >>> (6 * place)) % 64, Nat.mod_lt _ (by decide)⟩

theorem IsPlainText.push {text : String} {char : Char} (plain : IsPlainText text)
    (last : IsPlain char) : IsPlainText (text.push char) := by
  unfold IsPlainText
  rw [String.toList_push, List.forall_mem_append, List.forall_mem_singleton]
  exact ⟨plain, last⟩

theorem isPlain_addTo (bytes : List UInt8) {out : String} (plain : IsPlainText out) :
    IsPlainText (Base64.addTo out bytes) := by
  induction out, bytes using Base64.addTo.induct with
  | case1 out => exact plain
  | case2 out a =>
      have filled : IsPlainText "==" := by decide
      exact ((plain.push (isPlain_digitAt _ _)).push (isPlain_digitAt _ _)).append filled
  | case3 out a b =>
      have filled : IsPlainText "=" := by decide
      exact (((plain.push (isPlain_digitAt _ _)).push (isPlain_digitAt _ _)).push
        (isPlain_digitAt _ _)).append filled
  | case4 out a b c rest number ih =>
      exact ih ((((plain.push (isPlain_digitAt _ _)).push (isPlain_digitAt _ _)).push
        (isPlain_digitAt _ _)).push (isPlain_digitAt _ _))

theorem isPlain_base64 (bytes : List UInt8) : IsPlainText (Base64.encode bytes) :=
  isPlain_addTo bytes (by decide)

end Xml

end BootTheme
