import BootTheme.Proofs.Color.Slices
import BootTheme.Proofs.Settings.NamedColors

/-!
# What a color string stands for

A theme writes a color out in digits or in components, or asks for one by name. A name stands
for the text that the last pair under it has put into the palette, whatever has been put in under
other names.
-/

namespace BootTheme

/-- The palette of every theme with batches of colors added, one after the other. -/
def Palette.extended (batches : List (List (String × String))) : Palette :=
  batches.foldl Palette.extend Palette.default

/-- Of the pairs with one name up to the case of ASCII letters, the last has the text. -/
def StoredLast (pairs : List (String × String)) (name value : String) : Prop :=
  ∃ before called after, pairs = before ++ (called, value) :: after ∧
    lowerAscii called = lowerAscii name ∧ ∀ pair ∈ after, lowerAscii pair.1 ≠ lowerAscii name

/-- A color string without white space around it, and its color where the pairs are stored. -/
inductive StandsFor (pairs : List (String × String)) : List Char → Color → Prop where
  | digits {digits : List Char} {color : Color} (spells : Color.SpellsHex digits color) :
      StandsFor pairs ('#' :: digits) color
  | components {text : List Char} {color : Color} (sharpless : text.head? ≠ some '#')
      (comma : ',' ∈ text) (spells : Color.SpellsComponents text color) :
      StandsFor pairs text color
  | name {text digits : List Char} {value : String} {color : Color}
      (sharpless : text.head? ≠ some '#') (whole : ',' ∉ text)
      (stored : StoredLast pairs (String.ofList text) value)
      (core : HasCore value.toList ('#' :: digits)) (spells : Color.SpellsHex digits color) :
      StandsFor pairs text color

theorem Color.SpellsHex.alpha {digits : List Char} {color : Color}
    (spells : SpellsHex digits color) : color.alpha = 255 := by
  induction spells with
  | long => rfl
  | short _ ih => exact ih

theorem StandsFor.alpha {pairs : List (String × String)} {text : List Char} {color : Color}
    (stands : StandsFor pairs text color) : color.alpha = 255 := by
  cases stands with
  | digits spells => exact spells.alpha
  | components _ _ spells =>
      obtain ⟨_, _, _, _, _, _, _, _, _, _, _, rfl⟩ := spells
      rfl
  | name _ _ _ _ spells => exact spells.alpha

section

variable {pairs : List (String × String)} {text : List Char} {color : Color}

theorem standsFor_iff_of_sharp (sharp : text.head? = some '#') :
    StandsFor pairs text color ↔ ∃ digits, text = '#' :: digits ∧ Color.SpellsHex digits color := by
  constructor
  · rintro (spells | ⟨sharpless, _, _⟩ | ⟨sharpless, _, _, _, _⟩)
    · exact ⟨_, rfl, spells⟩
    · exact absurd sharp sharpless
    · exact absurd sharp sharpless
  · rintro ⟨digits, rfl, spells⟩
    exact .digits spells

theorem standsFor_iff_of_comma (sharpless : text.head? ≠ some '#') (comma : ',' ∈ text) :
    StandsFor pairs text color ↔ Color.SpellsComponents text color := by
  constructor
  · rintro (_ | ⟨_, _, spells⟩ | ⟨_, whole, _, _, _⟩)
    · exact absurd rfl sharpless
    · exact spells
    · exact absurd comma whole
  · exact .components sharpless comma

theorem standsFor_iff_of_name (sharpless : text.head? ≠ some '#') (whole : ',' ∉ text) :
    StandsFor pairs text color ↔ ∃ value, StoredLast pairs (String.ofList text) value ∧
      ∃ digits, HasCore value.toList ('#' :: digits) ∧ Color.SpellsHex digits color := by
  constructor
  · rintro (_ | ⟨_, comma, _⟩ | ⟨_, _, stored, core, spells⟩)
    · exact absurd rfl sharpless
    · exact absurd comma whole
    · exact ⟨_, stored, _, core, spells⟩
  · rintro ⟨value, stored, digits, core, spells⟩
    exact .name sharpless whole stored core spells

end

theorem lowerAscii_eq_iff {first second : String} :
    lowerAscii first = lowerAscii second ↔
      first.toList.map Char.toLower = second.toList.map Char.toLower := by
  rw [lowerAscii, lowerAscii, ← String.toList_inj, String.toList_map, String.toList_map]

namespace Palette

theorem storedLast_iff {pairs : List (String × String)} {name value : String} :
    StoredLast pairs name value ↔ lastUnder? (lowerAscii name) pairs = some value := by
  constructor
  · rintro ⟨before, called, after, rfl, same, none⟩
    rw [← List.singleton_append, lastUnder?_append, lastUnder?_append, lastUnder?_eq_none.2 none,
      lastUnder?_singleton, if_pos same.symm]
    rfl
  · intro last
    obtain ⟨⟨called, text⟩, found, rfl⟩ := Option.map_eq_some_iff.1 last
    obtain ⟨same, after, before, parted, none⟩ := List.find?_eq_some_iff_append.1 found
    refine ⟨before.reverse, called, after.reverse, ?_, by simpa using same, by simpa using none⟩
    rw [← List.reverse_reverse pairs, parted]
    simp

theorem foldl_extend (batches : List (List (String × String))) (palette : Palette) :
    batches.foldl Palette.extend palette = palette.extend batches.flatten := by
  induction batches generalizing palette with
  | nil => rfl
  | cons batch rest ih => rw [List.foldl_cons, ih, List.flatten_cons, extend_append]

theorem extended_eq (batches : List (List (String × String))) :
    extended batches = extend Dictionary.empty (builtin ++ batches.flatten) := by
  rw [extended, foldl_extend, extend_append, default]

theorem get?_extended (batches : List (List (String × String))) (name value : String) :
    (extended batches).get? (lowerAscii name) = some value ↔
      StoredLast (builtin ++ batches.flatten) name value := by
  rw [extended_eq, get?_extend, Dictionary.get?_empty, Option.or_none, storedLast_iff]

/-- A color string is resolved as it stands for a color where the palette holds the pairs. -/
theorem resolve_eq_some_iff {palette : Palette} {pairs : List (String × String)}
    (holds : ∀ name value,
      palette.get? (lowerAscii name) = some value ↔ StoredLast pairs name value)
    {spec : String} {core : List Char} (has : HasCore spec.toList core) (color : Color) :
    palette.resolve spec = some color ↔ StandsFor pairs core color := by
  unfold resolve
  rw [has.trim_eq]
  dsimp only
  split
  · next sharp => rw [Color.ofHex?_eq_some_iff, standsFor_iff_of_sharp sharp]
  · next sharpless =>
      split
      · next comma =>
          rw [Color.ofComponents?_eq_some_iff, standsFor_iff_of_comma sharpless comma]
      · next whole =>
          simp only [standsFor_iff_of_name sharpless whole, ← holds, hasCore_iff,
            Option.bind_eq_some_iff, Color.ofHex?_eq_some_iff]

/-- A color string is resolved by the entry under its own name alone. -/
theorem resolve_congr {palette other : Palette} {spec : String} {core : List Char}
    (has : HasCore spec.toList core)
    (same : palette.get? (lowerAscii (String.ofList core)) =
      other.get? (lowerAscii (String.ofList core))) :
    palette.resolve spec = other.resolve spec := by
  unfold resolve
  rw [has.trim_eq]
  dsimp only
  rw [same]

end Palette

open Palette

/-- A color string stands for a color by itself or by the last pair under its name, and always
for an opaque one. It never stops the reader, and pairs under other names do not matter. -/
theorem color_strings_stand_for_colors (batches : List (List (String × String))) (spec : String) :
    (∃ core, HasCore spec.toList core) ∧
    ∀ core, HasCore spec.toList core →
      (∀ color, (extended batches).resolve spec = some color ↔
        StandsFor (builtin ++ batches.flatten) core color) ∧
      (∀ color, (extended batches).resolve spec = some color → color.alpha = 255) ∧
      ((extended batches).slicedResolve? spec).run = .ok ((extended batches).resolve spec) ∧
      ∀ other : Palette,
        other.get? (lowerAscii (String.ofList core)) =
          (extended batches).get? (lowerAscii (String.ofList core)) →
        other.resolve spec = (extended batches).resolve spec := by
  refine ⟨⟨_, hasCore_trim _⟩, fun core has => ?_⟩
  have exact := resolve_eq_some_iff (get?_extended batches) has
  exact ⟨exact, fun color found => ((exact color).1 found).alpha, slicedResolve?_run _ _,
    fun other same => resolve_congr has same⟩

/-- Two batches of colors, of which the second names the color of the first again. -/
def accents : List (List (String × String)) :=
  [[("Accent", "#000000")], [("ACCENT", " #F80\t"), ("night", "#000040")]]

theorem accents_stand_for_colors :
    (extended accents).resolve "\taccEnt " = some (.rgb 255 136 0) ∧
    (Palette.add Dictionary.empty "accent" " #F80\t").resolve "\taccEnt " =
      some (.rgb 255 136 0) ∧
    (extended accents).resolve "10, +020 ,255" = some (.rgb 10 20 255) ∧
    ((extended accents).slicedResolve? "#é1").run = .ok none := by
  have core {spec core : String} (same : trim spec.toList = core.toList) :
      HasCore spec.toList core.toList := hasCore_iff.2 same
  obtain ⟨-, accent⟩ := color_strings_stand_for_colors accents "\taccEnt "
  obtain ⟨-, components⟩ := color_strings_stand_for_colors accents "10, +020 ,255"
  obtain ⟨-, cut⟩ := color_strings_stand_for_colors accents "#é1"
  have accEnt : HasCore "\taccEnt ".toList "accEnt".toList := core (by decide +kernel)
  have orange : Color.SpellsHex "F80".toList (.rgb 255 136 0) :=
    .short (.long ⟨15, 15, by decide, by decide, rfl⟩ ⟨8, 8, by decide, by decide, rfl⟩
      ⟨0, 0, by decide, by decide, rfl⟩)
  have stored : StoredLast (builtin ++ accents.flatten) (String.ofList "accEnt".toList)
      " #F80\t" := by
    refine ⟨builtin ++ [("Accent", "#000000")], "ACCENT", [("night", "#000040")], rfl, ?_, ?_⟩
    · rw [lowerAscii_eq_iff, String.ofList_toList]
      decide +kernel
    · simp only [List.forall_mem_singleton, ne_eq, lowerAscii_eq_iff, String.ofList_toList]
      decide +kernel
  have found : (extended accents).resolve "\taccEnt " = some (.rgb 255 136 0) :=
    ((accent _ accEnt).1 _).2
      (.name (by decide) (by decide) stored (core (by decide +kernel : _ = "#F80".toList)) orange)
  refine ⟨found, ?_, ?_, ?_⟩
  · rw [← found]
    refine (accent _ accEnt).2.2.2 _ ?_
    rw [(get?_extended _ _ _).2 stored, add, Dictionary.get?_set, if_pos]
    rw [lowerAscii_eq_iff, String.ofList_toList]
    decide +kernel
  · have whole : HasCore "10, +020 ,255".toList "10, +020 ,255".toList := core (by decide +kernel)
    have decimal {digits : String} {byte : UInt8} (some : digits.toList ≠ [])
        (each : digits.toList.all Char.isDigit = true)
        (value : Nat.ofDigitChars 10 digits.toList 0 = byte.toNat) :
        Color.IsDecimal digits.toList byte := ⟨some, List.all_eq_true.1 each, value⟩
    have ten : Color.DecimalField "10".toList 10 :=
      ⟨"10".toList, decimal (by decide) rfl rfl, .inl (core (by decide +kernel))⟩
    have twenty : Color.DecimalField " +020 ".toList 20 :=
      ⟨"020".toList, decimal (by decide) rfl rfl,
        .inr (core (by decide +kernel : _ = "+020".toList))⟩
    have most : Color.DecimalField "255".toList 255 :=
      ⟨"255".toList, decimal (by decide) rfl rfl, .inl (core (by decide +kernel))⟩
    exact ((components _ whole).1 _).2 (.components (by decide) (by decide)
      ⟨_, _, _, _, _, _, rfl, by decide, ten, twenty, most, rfl⟩)
  · rw [(cut _ (core (by decide +kernel : _ = "#é1".toList))).2.2.1]
    exact congrArg _ (by decide +kernel)

end BootTheme
