import BootTheme.Proofs.Settings.FileLayout
import BootTheme.Proofs.Settings.Records

/-!
# Keys that a configuration does not know

The top of a configuration is a closed record: a key that names none of its parts is refused.
The parts are open records, so what the layout of the file does not have is overlooked there, in
the entries of the menu too. A configuration with known parts is read as the same one *tidied*,
whatever it holds below them.
-/

namespace BootTheme

namespace Schema

open Layout (tidyAll tidyInTurn tidyEntries)

variable {α σ : Type}

/-- The keys of a table. -/
def keys (entries : Entries) : List String := entries.map fun entry => entry.1.item

/-- A reader reads a value as it would be without what the layout does not have. -/
def Overlooks (layout : Layout) (read : Reader α) : Prop :=
  ∀ range item, read ⟨range, layout.tidy item⟩ = read ⟨range, item⟩

theorem overlooks_any (read : Reader α) : Overlooks .any read := by
  intro range item
  rw [Layout.tidy_any]

theorem Overlooks.each {layout : Layout} {read : Reader α} (item : Overlooks layout read)
    (items : List (Ranged Toml)) :
    Schema.each read (tidyAll layout items) = Schema.each read items := by
  induction items with
  | nil => rw [tidyAll]
  | cons first rest ih => rw [tidyAll, Schema.each, Schema.each, item, ih]

theorem Overlooks.list {layout : Layout} {read : Reader α} (item : Overlooks layout read) :
    Overlooks (.list layout) (Schema.list read) := by
  intro range value
  cases value with
  | array items =>
      rw [Layout.tidy]
      exact congrArg (within range) (item.each items)
  | _ => rw [Layout.tidy_of_covers (by simp [Layout.covers])]

/-- A layout names the fields of a record in their order, and each field overlooks what its own
layout does not have. -/
inductive Names : List (String × Layout) → List (Field σ) → Prop where
  | nil : Names [] []
  | cons {layouts : List (String × Layout)} {fields : List (Field σ)} {name : String}
      {layout : Layout} {field : Field σ} (named : name = field.name)
      (overlooks : ∀ state, Overlooks layout (field.read state)) (rest : Names layouts fields) :
      Names ((name, layout) :: layouts) (field :: fields)

variable {layouts : List (String × Layout)} {fields : List (Field σ)} {record : Record σ}

/-- A field may hold anything. -/
theorem Names.any {name : String} {field : Field σ} (named : name = field.name)
    (rest : Names layouts fields) : Names ((name, .any) :: layouts) (field :: fields) :=
  .cons named (fun _ => overlooks_any _) rest

/-- A key has a layout exactly if it has a field. -/
theorem Names.find (names : Names layouts fields) (key : String) :
    (layouts.lookup key = none ∧ fields.find? (fun field => field.name == key) = none) ∨
    ∃ layout field, layouts.lookup key = some layout ∧
      fields.find? (fun field => field.name == key) = some field ∧
      ∀ state, Overlooks layout (field.read state) := by
  induction names with
  | nil => exact .inl ⟨rfl, rfl⟩
  | @cons layouts fields name layout field named overlooks rest ih =>
      subst named
      by_cases found : field.name = key
      · subst found
        exact .inr ⟨layout, field, by simp, by simp, overlooks⟩
      · have apart : (key == field.name) = false := by simpa using Ne.symm found
        simpa [List.lookup_cons, apart, found] using ih

namespace Record

/-- A table is read as it would be without the keys that the record does not have, unless one of
them is refused. -/
theorem readEntries_tidy (names : Names layouts record.fields) (entries : Entries) :
    (record.closed = false ∨ ∀ key ∈ keys entries, layouts.lookup key ≠ none) →
      ∀ state, record.readEntries (tidyEntries layouts entries) state =
        record.readEntries entries state := by
  induction entries with
  | nil =>
      intro _ state
      rw [tidyEntries]
  | cons entry rest ih =>
      obtain ⟨key, range, item⟩ := entry
      intro known state
      have others := ih (known.imp_right fun all other among =>
        all other (List.mem_cons_of_mem _ among))
      rw [tidyEntries, readEntries]
      rcases names.find key.item with ⟨unnamed, none⟩ | ⟨layout, field, named, found, overlooks⟩
      · have isOpen : record.closed = false := by
          rcases known with isOpen | all
          · exact isOpen
          · exact absurd unnamed (all _ List.mem_cons_self)
        simp only [unnamed, none, isOpen, others, Bool.false_eq_true, if_false]
      · have same : field.read state ⟨range, layout.tidy item⟩ = field.read state ⟨range, item⟩ :=
          overlooks state range item
        simp only [named, readEntries, found, same, others]
        rfl

/-- An array is read as it would be without items behind those of the fields. -/
theorem readItems_tidy (names : Names layouts fields) :
    ∀ (place : Nat) (items : List (Ranged Toml)) (state : σ),
      record.readItems place fields (tidyInTurn layouts items) state =
        record.readItems place fields items state := by
  induction names with
  | nil =>
      intro place items state
      cases items <;> rfl
  | cons _ overlooks rest ih =>
      intro place items state
      cases items with
      | nil => rw [tidyInTurn]
      | cons item others =>
          rw [tidyInTurn, readItems, readItems, overlooks state]
          simp only [ih]

/-- An open record overlooks what its layout does not have. -/
theorem overlooks (names : Names layouts record.fields) (isOpen : record.closed = false)
    (state : σ) : Overlooks (.record layouts) (record.read state) := by
  intro range value
  cases value with
  | table entries =>
      rw [Layout.tidy]
      exact congrArg (within range) (readEntries_tidy names entries (.inl isOpen) state)
  | array items =>
      rw [Layout.tidy]
      exact congrArg (within range) (readItems_tidy names 0 items state)
  | _ => rw [Layout.tidy_of_covers (by simp [Layout.covers])]

/-- A closed record knows every key of a table that it reads. -/
theorem known_of_closed (closed : record.closed = true) (entries : Entries) :
    ∀ {state next : σ}, record.readEntries entries state = .ok next →
      ∀ key ∈ keys entries, key ∈ record.fields.map Field.name := by
  induction entries with
  | nil =>
      intro state next _ key among
      cases among
  | cons first rest ih =>
      intro state next fine key among
      rcases readEntries_cons_eq_ok fine with ⟨field, inside, named, middle, _, others⟩ |
        ⟨isOpen, _⟩
      · rcases List.mem_cons.1 among with rfl | later
        · exact List.mem_map.2 ⟨field, inside, named⟩
        · exact ih others key later
      · rw [closed] at isOpen
        cases isOpen

end Record

/-! ## The parts of a configuration -/

/-- What a field sets is read as its reader reads it. -/
theorem Overlooks.setting {layout : Layout} {reader : Reader α}
    (overlooks : Overlooks layout reader) (name : String) (set : σ → α → σ) (state : σ) :
    Overlooks layout ((Schema.setting name reader set).read state) := by
  intro range item
  exact congrArg (· >>= fun value => pure (set state value)) (overlooks range item)

theorem overlooks_entry : Overlooks (.record [("text", .any), ("icon", .any)]) entry := by
  have names : Names [("text", .any), ("icon", .any)] entryRecord.fields :=
    .any rfl (.any rfl .nil)
  intro range item
  unfold entry
  rw [Record.overlooks names rfl {} range item]

theorem names_screen : Names [("width", .any), ("height", .any)] screenRecord.fields :=
  .any rfl (.any rfl .nil)

theorem names_render :
    Names [("outline", .any), ("font", .any), ("theme_dir", .any)] renderRecord.fields :=
  .any rfl (.any rfl (.any rfl .nil))

theorem names_menu :
    Names [("entries", .list (.record [("text", .any), ("icon", .any)])), ("selected", .any),
      ("timeout", .any)] menuRecord.fields :=
  .cons rfl (overlooks_entry.list.setting _ _) (.any rfl (.any rfl .nil))

theorem names_svg :
    Names [("standalone", .any), ("pretty_print", .any), ("class_prefix", .any),
      ("embed_images", .any)] svgRecord.fields :=
  .any rfl (.any rfl (.any rfl (.any rfl .nil)))

theorem names_settings : Names Layout.fileParts settingsRecord.fields := by
  refine .cons rfl (Record.overlooks names_screen rfl) ?_
  refine .cons rfl (Record.overlooks names_render rfl) ?_
  refine .cons rfl (Record.overlooks names_menu rfl) (.any rfl (.cons rfl ?_ .nil))
  intro settings range item
  exact congrArg (· >>= fun svg => pure { settings with svg })
    (Record.overlooks names_svg rfl settings.svg range item)

end Schema

open Schema

/-- The settings of a document that can be read are those of its table. -/
theorem Settings.ofToml_of_parsed {text : String} {document : Entries}
    (parsed : parseToml text = .ok document) :
    Settings.ofToml text =
      (settingsRecord.read {} ⟨none, .table document⟩).mapError ConfigError.schema := by
  rw [Settings.ofToml, parsed]
  dsimp only
  cases settingsRecord.read {} ⟨none, .table document⟩ with
  | ok settings => rfl
  | error misfit => rfl

/-- An unknown key is refused at the top of a configuration and nowhere else. Below it the keys
that the layout of the file does not have change neither the settings nor what is refused: the
document is read as the one without them. -/
theorem unknown_keys_refused_at_top_alone {text : String} {document : Entries}
    (parsed : parseToml text = .ok document) :
    ((∃ key ∈ keys document, key ∉ ["screen", "render", "menu", "colors", "svg"]) →
      ∃ misfit, Settings.ofToml text = .error (.schema misfit)) ∧
    ((∀ key ∈ keys document, key ∈ ["screen", "render", "menu", "colors", "svg"]) →
      Settings.ofToml text =
        (settingsRecord.read {} ⟨none, Layout.file.tidy (.table document)⟩).mapError
          ConfigError.schema) ∧
    Layout.file.covers (Layout.file.tidy (.table document)) = true ∧
    (Layout.file.covers (.table document) = true →
      Layout.file.tidy (.table document) = .table document) := by
  rw [Settings.ofToml_of_parsed parsed]
  refine ⟨?_, ?_, Layout.covers_tidy _ _, Layout.tidy_of_covers⟩
  · rintro ⟨key, among, unknown⟩
    cases read : settingsRecord.read {} ⟨none, .table document⟩ with
    | error misfit => exact ⟨misfit, rfl⟩
    | ok settings =>
        exact absurd (Record.known_of_closed rfl document (mapError_eq_ok.1 read) key among)
          unknown
  · intro known
    have layouts : ∀ key ∈ keys document, Layout.fileParts.lookup key ≠ none := by
      intro key among
      have named := known key among
      simp only [List.mem_cons, List.not_mem_nil, or_false] at named
      rcases named with rfl | rfl | rfl | rfl | rfl <;> simp [Layout.fileParts, List.lookup_cons]
    have same := Record.readEntries_tidy names_settings document (.inr layouts) {}
    rw [Layout.file, Layout.tidy]
    exact congrArg (fun result => (within none result).mapError ConfigError.schema) same.symm

/-- A misspelt key below the top. -/
def misspeltWidth : String := "[screen]\nwidht = 1\nheight = 480"

theorem misspelt_screen_is_refused_and_misspelt_width_overlooked :
    (∃ misfit, Settings.ofToml "[screne]\nheight = 480" = .error (.schema misfit)) ∧
    ∃ document settings, parseToml misspeltWidth = .ok document ∧
      Settings.ofToml misspeltWidth = .ok settings ∧ settings.height = 480 ∧
      (settingsRecord.read {} ⟨none, Layout.file.tidy (.table document)⟩).mapError
        ConfigError.schema = .ok settings := by
  constructor
  · obtain ⟨document, parsed, same⟩ := exists_of_map_toOption
      (by decide +kernel : (parseToml "[screne]\nheight = 480").toOption.map keys = some ["screne"])
    refine (unknown_keys_refused_at_top_alone parsed).1 ⟨"screne", ?_, by decide⟩
    rw [same]
    exact List.mem_singleton_self _
  · obtain ⟨document, parsed, same⟩ := exists_of_map_toOption
      (by decide +kernel : (parseToml misspeltWidth).toOption.map keys = some ["screen"])
    obtain ⟨settings, read, high⟩ := exists_of_map_toOption
      (by decide +kernel : (Settings.ofToml misspeltWidth).toOption.map Settings.height = some 480)
    refine ⟨document, settings, parsed, read, high, ?_⟩
    rw [← (unknown_keys_refused_at_top_alone parsed).2.1 ?_, read]
    rw [same]
    decide

/-- A configuration with a key that the layout of the file does not have is accepted. -/
theorem misspelt_width_is_accepted :
    ∃ document settings, parseToml misspeltWidth = .ok document ∧
      Settings.ofToml misspeltWidth = .ok settings ∧
      Layout.file.covers (.table document) = false := by
  obtain ⟨document, parsed, covered⟩ := exists_of_map_toOption
    (by decide +kernel : (parseToml misspeltWidth).toOption.map
      (fun document => Layout.file.covers (.table document)) = some false)
  obtain ⟨settings, read, -⟩ := exists_of_map_toOption
    (by decide +kernel : (Settings.ofToml misspeltWidth).toOption.map Settings.height = some 480)
  exact ⟨document, settings, parsed, read, covered⟩

end BootTheme
