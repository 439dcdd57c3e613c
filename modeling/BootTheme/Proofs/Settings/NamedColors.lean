import BootTheme.Proofs.Settings.Records
import Mathlib.Data.List.Nodup

/-!
# The order in which colors are named

A palette keeps one text for every name, names in either case of letters being one, and of two
pairs with one name the later one is kept. So the order in which pairs are put into a palette
can be seen exactly where a name that can be asked for has texts of different colors.
-/

namespace BootTheme

namespace Palette

/-- The text of the last pair that goes by a name. -/
def lastUnder? (name : String) (colors : List (String × String)) : Option String :=
  (colors.reverse.find? fun pair => lowerAscii pair.1 == name).map Prod.snd

theorem lastUnder?_append (name : String) (first second : List (String × String)) :
    lastUnder? name (first ++ second) = (lastUnder? name second).or (lastUnder? name first) := by
  simp only [lastUnder?, List.reverse_append, List.find?_append, Option.map_or]

theorem lastUnder?_singleton (name : String) (pair : String × String) :
    lastUnder? name [pair] = if name = lowerAscii pair.1 then some pair.2 else none := by
  by_cases same : name = lowerAscii pair.1
  · simp [lastUnder?, same]
  · simp [lastUnder?, same, Ne.symm same]

theorem mem_of_lastUnder? {name value : String} {colors : List (String × String)}
    (last : lastUnder? name colors = some value) :
    ∃ pair ∈ colors, lowerAscii pair.1 = name ∧ pair.2 = value := by
  obtain ⟨pair, found, same⟩ := Option.map_eq_some_iff.1 last
  have named : (lowerAscii pair.1 == name) = true :=
    List.find?_some (p := fun pair : String × String => lowerAscii pair.1 == name) found
  exact ⟨pair, List.mem_reverse.1 (List.mem_of_find?_eq_some found), eq_of_beq named, same⟩

theorem lastUnder?_eq_none {name : String} {colors : List (String × String)} :
    lastUnder? name colors = none ↔ ∀ pair ∈ colors, lowerAscii pair.1 ≠ name := by
  simp [lastUnder?]

theorem extend_append (palette : Palette) (first second : List (String × String)) :
    palette.extend (first ++ second) = (palette.extend first).extend second :=
  List.foldl_append

/-- Of the pairs of a name the last one is kept. -/
theorem get?_extend (palette : Palette) (colors : List (String × String)) (name : String) :
    (palette.extend colors).get? name = (lastUnder? name colors).or (palette.get? name) := by
  induction colors generalizing palette with
  | nil => rfl
  | cons pair rest ih =>
      have first : (palette.add pair.1 pair.2).get? name =
          (lastUnder? name [pair]).or (palette.get? name) := by
        rw [add, Dictionary.get?_set, lastUnder?_singleton]
        split <;> rfl
      change ((palette.add pair.1 pair.2).extend rest).get? name = _
      rw [ih, first, ← Option.or_assoc, ← lastUnder?_append, List.singleton_append]

/-- The color of a text that a palette keeps. -/
def colorOf (value : String) : Option Color := Color.ofHex? (trim value.toList)

/-- The name that a color string asks for, unless it writes a color out. -/
def name? (spec : String) : Option String :=
  let text := trim spec.toList
  if text.head? = some '#' ∨ ',' ∈ text then none else some (lowerAscii (String.ofList text))

/-- A name is looked up in the palette. -/
theorem resolve_of_name {spec name : String} (asked : name? spec = some name)
    (palette : Palette) : palette.resolve spec = (palette.get? name).bind colorOf := by
  unfold name? at asked
  dsimp only at asked
  split at asked
  · cases asked
  · next plain =>
      cases asked
      rw [resolve, if_neg fun sharp => plain (.inl sharp), if_neg fun comma => plain (.inr comma)]
      rfl

/-- A color that is written out is the same in every palette. -/
theorem resolve_of_written {spec : String} (written : name? spec = none)
    (palette other : Palette) : palette.resolve spec = other.resolve spec := by
  unfold name? at written
  dsimp only at written
  split at written
  · next out =>
      unfold resolve
      dsimp only
      split
      · rfl
      · next plain => rw [if_pos (out.resolve_left plain), if_pos (out.resolve_left plain)]
  · cases written

/-- No two names are the same up to case. -/
def NamesApart (colors : List (String × String)) : Prop :=
  (colors.map fun pair => lowerAscii pair.1).Nodup

instance (colors : List (String × String)) : Decidable (NamesApart colors) :=
  inferInstanceAs (Decidable (List.Nodup _))

/-- Every order in which the pairs are put into the palette gives every color string one color. -/
def InAnyOrder (palette : Palette) (colors : List (String × String)) : Prop :=
  ∀ other : List (String × String), other.Perm colors → ∀ spec,
    (palette.extend other).resolve spec = (palette.extend colors).resolve spec

/-- The pairs of every name that can be asked for give one color. -/
def OneColorEach (colors : List (String × String)) : Prop :=
  ∀ spec name, name? spec = some name → ∀ first ∈ colors, ∀ second ∈ colors,
    lowerAscii first.1 = name → lowerAscii second.1 = name → colorOf first.2 = colorOf second.2

/-- Where no two names are the same up to case, each has one color. -/
theorem NamesApart.oneColorEach {colors : List (String × String)} (apart : NamesApart colors) :
    OneColorEach colors := by
  intro spec name _ first amongFirst second amongSecond toFirst toSecond
  have same := List.inj_on_of_nodup_map apart amongFirst amongSecond (toFirst.trans toSecond.symm)
  rw [same]

/-- Pairs that give each name one color are put into a palette in any order. -/
theorem OneColorEach.inAnyOrder {colors : List (String × String)} (one : OneColorEach colors)
    (palette : Palette) : InAnyOrder palette colors := by
  intro other perm spec
  cases asked : name? spec with
  | none => exact resolve_of_written asked _ _
  | some name =>
      rw [resolve_of_name asked, resolve_of_name asked, get?_extend, get?_extend]
      cases last : lastUnder? name colors with
      | none =>
          have absent := lastUnder?_eq_none.1 last
          rw [lastUnder?_eq_none.2 fun pair among => absent pair (perm.mem_iff.1 among)]
      | some value =>
          obtain ⟨pair, among, named, rfl⟩ := mem_of_lastUnder? last
          cases moved : lastUnder? name other with
          | none => exact absurd named (lastUnder?_eq_none.1 moved pair (perm.mem_iff.2 among))
          | some text =>
              obtain ⟨found, inOther, called, rfl⟩ := mem_of_lastUnder? moved
              exact one spec name asked found (perm.mem_iff.1 inOther) pair among called named

/-- The pair that is put in last decides its name. -/
theorem resolve_extend_last {spec name : String} (asked : name? spec = some name)
    {colors : List (String × String)} {pair : String × String} (among : pair ∈ colors)
    (named : lowerAscii pair.1 = name) (palette : Palette) :
    ∃ other, other.Perm colors ∧ (palette.extend other).resolve spec = colorOf pair.2 := by
  refine ⟨colors.erase pair ++ [pair], ?_, ?_⟩
  · exact (List.perm_append_singleton pair _).trans (List.perm_cons_erase among).symm
  · rw [resolve_of_name asked, get?_extend, lastUnder?_append, lastUnder?_singleton,
      if_pos named.symm]
    rfl

/-- Pairs can be put into a palette in any order exactly when each name has one color. -/
theorem inAnyOrder_iff (palette : Palette) (colors : List (String × String)) :
    InAnyOrder palette colors ↔ OneColorEach colors := by
  refine ⟨fun anyOrder => ?_, fun one => one.inAnyOrder palette⟩
  intro spec name asked first amongFirst second amongSecond toFirst toSecond
  obtain ⟨behind, perm, color⟩ := resolve_extend_last asked amongFirst toFirst palette
  obtain ⟨ahead, swapped, other⟩ := resolve_extend_last asked amongSecond toSecond palette
  rw [← color, ← other, anyOrder behind perm, anyOrder ahead swapped]

end Palette

namespace Schema

/-- The key and the text of an entry that holds a string. -/
def pair? (entry : Ranged String × Ranged Toml) : Option (String × String) :=
  match entry.2.item with
  | .string text => some (entry.1.item, text)
  | _ => none

/-- The strings of a table with their keys. -/
def pairsOf (value : Toml) : List (String × String) := ((entries? value).getD []).filterMap pair?

/-- The named colors of a configuration. -/
def namedColors (document : Entries) : List (String × String) :=
  document.flatMap fun entry => if entry.1.item = "colors" then pairsOf entry.2.item else []

theorem string_eq_ok {value : Ranged Toml} {text : String} (fine : string value = .ok text) :
    value.item = .string text := by
  have fine := within_eq_ok.1 fine
  dsimp only at fine
  split at fine
  · next found same =>
      cases fine
      exact same
  · cases fine

theorem stringEntries_eq_ok {entries : Entries} : ∀ {pairs : List (String × String)},
    stringEntries entries = .ok pairs → pairs = entries.filterMap pair? := by
  induction entries with
  | nil =>
      intro pairs fine
      cases fine
      rfl
  | cons entry rest ih =>
      obtain ⟨key, value⟩ := entry
      intro pairs fine
      obtain ⟨text, first, fine⟩ := exists_of_bind_eq_ok fine
      obtain ⟨others, later, done⟩ := exists_of_bind_eq_ok fine
      cases done
      have same : pair? (key, value) = some (key.item, text) := by
        rw [pair?, string_eq_ok (within_eq_ok.1 first)]
      rw [List.filterMap_cons_some same, ih later]

theorem strings_eq_ok {value : Ranged Toml} {pairs : List (String × String)}
    (fine : strings value = .ok pairs) : pairs = pairsOf value.item := by
  have fine := within_eq_ok.1 fine
  dsimp only at fine
  split at fine
  · next entries same =>
      rw [pairsOf, same, Option.getD_some]
      exact stringEntries_eq_ok fine
  · cases fine

/-- Of the parts of a configuration only the named colors reach the palette. -/
theorem palette_of_field {field : Field Settings} (among : field ∈ settingsRecord.fields)
    {state next : Settings} {value : Ranged Toml} (fine : field.read state value = .ok next) :
    next.palette =
      state.palette.extend (if field.name = "colors" then pairsOf value.item else []) := by
  -- The screen, the drawing and the menu are records of which no field is the palette.
  have part (record : Record Settings)
      (kept : ∀ field ∈ record.fields, Keeps Settings.palette field.read)
      (fine : record.read state value = .ok next) : next.palette = state.palette :=
    Record.keeps_read kept fine
  simp only [settingsRecord, List.mem_cons, List.not_mem_nil, or_false] at among
  rcases among with rfl | rfl | rfl | rfl | rfl
  · refine part screenRecord ?_ fine
    simp [screenRecord, keeps_setting]
  · refine part renderRecord ?_ fine
    simp [renderRecord, keeps_setting]
  · refine part menuRecord ?_ fine
    simp [menuRecord, keeps_setting]
  · obtain ⟨pairs, read, done⟩ := exists_of_bind_eq_ok fine
    cases done
    rw [strings_eq_ok read]
    rfl
  · obtain ⟨svg, -, done⟩ := exists_of_bind_eq_ok fine
    cases done
    rfl

/-- A configuration that is read extends the palette by its named colors, in their order. -/
theorem palette_readEntries {document : Entries} : ∀ {state next : Settings},
    settingsRecord.readEntries document state = .ok next →
      next.palette = state.palette.extend (namedColors document) := by
  induction document with
  | nil =>
      intro state next fine
      cases fine
      rfl
  | cons entry rest ih =>
      intro state next fine
      rcases Record.readEntries_cons_eq_ok fine with ⟨field, among, named, middle, first, others⟩ |
        ⟨isOpen, _⟩
      · have part := palette_of_field among first
        rw [named] at part
        rw [ih others, part, ← Palette.extend_append]
        rfl
      · cases isOpen

end Schema

/-- The palette of a configuration is the one that every theme knows, with its named colors. -/
theorem Settings.palette_ofToml {text : String} {settings : Settings}
    (fine : Settings.ofToml text = .ok settings) :
    ∃ document, parseToml text = .ok document ∧
      settings.palette = Palette.default.extend (Schema.namedColors document) := by
  unfold Settings.ofToml at fine
  cases parsed : parseToml text with
  | error fault =>
      rw [parsed] at fine
      cases fine
  | ok document =>
      rw [parsed] at fine
      dsimp only at fine
      split at fine
      · next found read =>
          cases fine
          exact ⟨document, rfl, Schema.palette_readEntries (Schema.within_eq_ok.1 read)⟩
      · cases fine

open Palette

/-- Colors whose names are apart up to case are put into a palette in any order; any others only
if each name that can be asked for has one color. So a configuration with such names gives one
palette, in whichever order its colors are taken from the table. -/
theorem named_colors_in_any_order :
    (∀ palette colors, NamesApart colors → InAnyOrder palette colors) ∧
    (∀ palette colors, InAnyOrder palette colors ↔ OneColorEach colors) ∧
    ∀ text settings, Settings.ofToml text = .ok settings →
      ∃ document, parseToml text = .ok document ∧
        settings.palette = Palette.default.extend (Schema.namedColors document) ∧
        (NamesApart (Schema.namedColors document) →
          InAnyOrder Palette.default (Schema.namedColors document)) := by
  refine ⟨fun palette colors apart => apart.oneColorEach.inAnyOrder palette, inAnyOrder_iff, ?_⟩
  intro text settings fine
  obtain ⟨document, parsed, extended⟩ := Settings.palette_ofToml fine
  exact ⟨document, parsed, extended, fun apart => apart.oneColorEach.inAnyOrder Palette.default⟩

/-- Two named colors. -/
def accentAndNight : String := "[colors]\nnight = '#000040'\nAccent = '#f00'"

theorem accentAndNight_in_any_order :
    InAnyOrder Palette.default [("Accent", "#ff0000"), ("accent", "#f00")] ∧
    ∃ settings, Settings.ofToml accentAndNight = .ok settings ∧
      (Palette.default.extend [("Accent", "#f00"), ("night", "#000040")]).resolve "ACCENT" =
        settings.palette.resolve "ACCENT" := by
  obtain ⟨_, exact, configured⟩ := named_colors_in_any_order
  constructor
  · refine (exact _ _).2 ?_
    intro spec name _ first amongFirst second amongSecond _ _
    have color (pair : String × String)
        (among : pair ∈ [("Accent", "#ff0000"), ("accent", "#f00")]) :
        colorOf pair.2 = some (.rgb 255 0 0) := by
      simp only [List.mem_cons, List.not_mem_nil, or_false] at among
      rcases among with rfl | rfl
      · decide +kernel
      · decide +kernel
    rw [color first amongFirst, color second amongSecond]
  · obtain ⟨settings, read, -⟩ := exists_of_map_toOption
      (by decide +kernel : (Settings.ofToml accentAndNight).toOption.map Settings.width = some 1366)
    obtain ⟨document, parsed, listed⟩ := exists_of_map_toOption
      (by decide +kernel : (parseToml accentAndNight).toOption.map Schema.namedColors =
        some [("night", "#000040"), ("Accent", "#f00")])
    obtain ⟨same, again, extended, anyOrder⟩ := configured _ _ read
    obtain rfl := Except.ok.inj (parsed.symm.trans again)
    rw [listed] at extended anyOrder
    refine ⟨settings, read, ?_⟩
    rw [extended]
    exact anyOrder (by decide +kernel) _ (.swap _ _ _) "ACCENT"

/-- Names that are different and yet the same up to case show the order. -/
theorem order_shows_for_name_in_two_cases :
    ¬ ∀ (palette : Palette) (colors other : List (String × String)),
      (colors.map Prod.fst).Nodup → other.Perm colors → ∀ spec,
        (palette.extend other).resolve spec = (palette.extend colors).resolve spec := by
  intro always
  have same := always Palette.default [("Accent", "#ff0000"), ("accent", "#00ff00")]
    [("accent", "#00ff00"), ("Accent", "#ff0000")] (by decide) (.swap _ _ _) "accent"
  have asked : name? "accent" = some "accent" := by decide +kernel
  have red : lastUnder? "accent" [("accent", "#00ff00"), ("Accent", "#ff0000")] =
      some "#ff0000" := by decide +kernel
  have green : lastUnder? "accent" [("Accent", "#ff0000"), ("accent", "#00ff00")] =
      some "#00ff00" := by decide +kernel
  rw [resolve_of_name asked, resolve_of_name asked, get?_extend, get?_extend, red, green] at same
  exact absurd same (by decide +kernel)

end BootTheme
