import BootTheme.Settings.Schema

/-!
# The layout of a configuration file

A layout says which keys the tables of a document have, at every depth. It *covers* a document in
which every key of every table is one of it, and any document is covered once it is *tidied*, that
is, without all the other keys. A record may stand as an array of its fields, so items beyond
the last field are left out as well.
-/

namespace BootTheme

/-- What stands at a place of a configuration: anything, a list, or a record with its keys. -/
inductive Layout where
  | any
  | list (item : Layout)
  | record (fields : List (String × Layout))

namespace Layout

open Schema (Entries)

mutual

/-- Whether every key of every table is one of the layout. -/
def covers : Layout → Toml → Bool
  | .list item, .array items => coversAll item items
  | .record fields, .array items => coversInTurn fields items
  | .record fields, .table entries => coversEntries fields entries
  | _, _ => true

/-- Items that follow one layout. -/
def coversAll (layout : Layout) : List (Ranged Toml) → Bool
  | [] => true
  | ⟨_, item⟩ :: rest => layout.covers item && coversAll layout rest

/-- Items that stand for the fields of a record, of which the last ones may lack. -/
def coversInTurn : List (String × Layout) → List (Ranged Toml) → Bool
  | _, [] => true
  | [], _ :: _ => false
  | (_, layout) :: fields, ⟨_, item⟩ :: rest => layout.covers item && coversInTurn fields rest

/-- Entries of a table. -/
def coversEntries (fields : List (String × Layout)) : Entries → Bool
  | [] => true
  | (key, ⟨_, item⟩) :: rest =>
      (match fields.lookup key.item with
        | some layout => layout.covers item
        | none => false) && coversEntries fields rest

end

mutual

/-- A value without the keys and items that its layout does not have. -/
def tidy : Layout → Toml → Toml
  | .list item, .array items => .array (tidyAll item items)
  | .record fields, .array items => .array (tidyInTurn fields items)
  | .record fields, .table entries => .table (tidyEntries fields entries)
  | _, value => value

/-- Items that follow one layout, tidied. -/
def tidyAll (layout : Layout) : List (Ranged Toml) → List (Ranged Toml)
  | [] => []
  | ⟨range, item⟩ :: rest => ⟨range, layout.tidy item⟩ :: tidyAll layout rest

/-- Items that stand for the fields of a record, tidied. -/
def tidyInTurn : List (String × Layout) → List (Ranged Toml) → List (Ranged Toml)
  | _, [] => []
  | [], _ :: _ => []
  | (_, layout) :: fields, ⟨range, item⟩ :: rest =>
      ⟨range, layout.tidy item⟩ :: tidyInTurn fields rest

/-- Entries of a table, without those of other keys. -/
def tidyEntries (fields : List (String × Layout)) : Entries → Entries
  | [] => []
  | (key, ⟨range, item⟩) :: rest =>
      match fields.lookup key.item with
      | some layout => (key, ⟨range, layout.tidy item⟩) :: tidyEntries fields rest
      | none => tidyEntries fields rest

end

/-! ## A tidied document is covered -/

theorem tidy_any (value : Toml) : any.tidy value = value := by
  cases value <;> simp [tidy]

mutual

theorem covers_tidy : ∀ (layout : Layout) (value : Toml), layout.covers (layout.tidy value) = true
  | .any, value => by
      rw [tidy_any]
      cases value <;> simp [covers]
  | .list item, value => by
      cases value with
      | array items => simpa only [tidy, covers] using coversAll_tidy item items
      | _ => simp [tidy, covers]
  | .record fields, value => by
      cases value with
      | array items => simpa only [tidy, covers] using coversInTurn_tidy fields items
      | table entries => simpa only [tidy, covers] using coversEntries_tidy fields entries
      | _ => simp [tidy, covers]

theorem coversAll_tidy (layout : Layout) : ∀ items : List (Ranged Toml),
    coversAll layout (tidyAll layout items) = true
  | [] => by simp [tidyAll, coversAll]
  | ⟨range, item⟩ :: rest => by
      simp [tidyAll, coversAll, covers_tidy layout item, coversAll_tidy layout rest]

theorem coversInTurn_tidy : ∀ (fields : List (String × Layout)) (items : List (Ranged Toml)),
    coversInTurn fields (tidyInTurn fields items) = true
  | _, [] => by simp [tidyInTurn, coversInTurn]
  | [], _ :: _ => by simp [tidyInTurn, coversInTurn]
  | (_, layout) :: fields, ⟨range, item⟩ :: rest => by
      simp [tidyInTurn, coversInTurn, covers_tidy layout item, coversInTurn_tidy fields rest]

theorem coversEntries_tidy (fields : List (String × Layout)) : ∀ entries : Entries,
    coversEntries fields (tidyEntries fields entries) = true
  | [] => by simp [tidyEntries, coversEntries]
  | (key, ⟨range, item⟩) :: rest => by
      rw [tidyEntries]
      cases known : fields.lookup key.item with
      | none => exact coversEntries_tidy fields rest
      | some layout =>
          simp [coversEntries, known, covers_tidy layout item, coversEntries_tidy fields rest]

end

/-! ## What is covered is tidy -/

mutual

theorem tidy_of_covers : ∀ {layout : Layout} {value : Toml}, layout.covers value = true →
    layout.tidy value = value
  | .any, value, _ => tidy_any value
  | .list item, value, covered => by
      cases value with
      | array items =>
          simp only [covers] at covered
          simp only [tidy, tidyAll_of_covers covered]
      | _ => simp [tidy]
  | .record fields, value, covered => by
      cases value with
      | array items =>
          simp only [covers] at covered
          simp only [tidy, tidyInTurn_of_covers covered]
      | table entries =>
          simp only [covers] at covered
          simp only [tidy, tidyEntries_of_covers covered]
      | _ => simp [tidy]

theorem tidyAll_of_covers {layout : Layout} : ∀ {items : List (Ranged Toml)},
    coversAll layout items = true → tidyAll layout items = items
  | [], _ => by simp [tidyAll]
  | ⟨range, item⟩ :: rest, covered => by
      simp only [coversAll, Bool.and_eq_true] at covered
      rw [tidyAll, tidy_of_covers covered.1, tidyAll_of_covers covered.2]

theorem tidyInTurn_of_covers : ∀ {fields : List (String × Layout)} {items : List (Ranged Toml)},
    coversInTurn fields items = true → tidyInTurn fields items = items
  | _, [], _ => by simp [tidyInTurn]
  | [], _ :: _, covered => by simp [coversInTurn] at covered
  | (_, layout) :: fields, ⟨range, item⟩ :: rest, covered => by
      simp only [coversInTurn, Bool.and_eq_true] at covered
      rw [tidyInTurn, tidy_of_covers covered.1, tidyInTurn_of_covers covered.2]

theorem tidyEntries_of_covers {fields : List (String × Layout)} : ∀ {entries : Entries},
    coversEntries fields entries = true → tidyEntries fields entries = entries
  | [], _ => by simp [tidyEntries]
  | (key, ⟨range, item⟩) :: rest, covered => by
      simp only [coversEntries, Bool.and_eq_true] at covered
      rw [tidyEntries]
      cases known : fields.lookup key.item with
      | none =>
          rw [known] at covered
          cases covered.1
      | some layout =>
          rw [known] at covered
          dsimp only
          rw [tidy_of_covers covered.1, tidyEntries_of_covers covered.2]

end

/-! ## The file -/

/-- The parts of a configuration file. -/
def fileParts : List (String × Layout) :=
  [("screen", .record [("width", .any), ("height", .any)]),
    ("render", .record [("outline", .any), ("font", .any), ("theme_dir", .any)]),
    ("menu", .record [("entries", .list (.record [("text", .any), ("icon", .any)])),
      ("selected", .any), ("timeout", .any)]),
    ("colors", .any),
    ("svg", .record [("standalone", .any), ("pretty_print", .any), ("class_prefix", .any),
      ("embed_images", .any)])]

/-- The layout of a configuration file. -/
def file : Layout := .record fileParts

end Layout

end BootTheme
