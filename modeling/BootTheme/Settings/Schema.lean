import BootTheme.Number.Shortest
import BootTheme.Settings.Basic
import BootTheme.Text.Quoted
import BootTheme.Toml.Excerpt
import BootTheme.Toml.Parser

/-!
# Settings from a configuration file

A configuration is a TOML document; every key is optional. A record may be
written as a table, or as an array of its fields in order. Keys are taken in the
order of the document, and the first one that does not fit is reported. Only the
top level refuses keys that it does not know.
-/

namespace BootTheme

/-- Why a document is no configuration. -/
inductive SchemaError where
  | invalidType (found : Toml) (wanted : String)
  | invalidValue (found : Int) (wanted : String)
  | unknownField (name : String) (known : List String)
  | missingField (name : String)
  | invalidLength (count : Nat) (title : String) (fields : Nat)
deriving Repr

/-- Why a document is no configuration, and where that shows. -/
structure Misfit where
  range : Option TomlRange
  error : SchemaError
deriving Repr

/-- Why a text gives no settings. -/
inductive ConfigError where
  | notToml (error : TomlError)
  | schema (misfit : Misfit)
deriving Repr

namespace SchemaError

/-- The text of a number, with a point unless it is no real number. -/
def pointed (value : Float) : String :=
  let text := decimalText value
  if value.isFinite && !text.contains '.' then text ++ ".0" else text

/-- How a message names a value. -/
def describe : Toml → String
  | .string text => "string " ++ quoted text
  | .integer value => "integer `" ++ toString value ++ "`"
  | .float value => "floating point `" ++ pointed value ++ "`"
  | .bool true => "boolean `true`"
  | .bool false => "boolean `false`"
  | .array _ => "sequence"
  | .datetime _ => "map"
  | .table _ => "map"

/-- Names in backticks. -/
def ticked (name : String) : String := "`" ++ name ++ "`"

/-- What is said about a document that is no configuration. -/
def message : SchemaError → String
  | invalidType found wanted => "invalid type: " ++ describe found ++ ", expected " ++ wanted
  | invalidValue found wanted =>
      "invalid value: integer `" ++ toString found ++ "`, expected " ++ wanted
  | unknownField name known =>
      "unknown field " ++ ticked name ++ ", expected one of "
        ++ String.intercalate ", " (known.map ticked)
  | missingField name => "missing field " ++ ticked name
  | invalidLength count title fields =>
      "invalid length " ++ toString count ++ ", expected struct " ++ title ++ " with "
        ++ toString fields ++ " elements"

end SchemaError

namespace Misfit

/-- The misfit, in the given range unless its own is known. -/
def within (misfit : Misfit) (range : Option TomlRange) : Misfit :=
  { misfit with range := misfit.range.or range }

/-- What is said about the misfit: the range, if it is known, and the cause. -/
def report (misfit : Misfit) (document : String) : String :=
  ((misfit.range.map fun range => range.excerpt document).getD "") ++ misfit.error.message ++ "\n"

end Misfit

namespace Schema

/-- What comes of reading. -/
abbrev Result (α : Type) := Except Misfit α

/-- A reader of values. -/
abbrev Reader (α : Type) := Ranged Toml → Result α

/-- A cause in a range that is not known yet. -/
def fail {α : Type} (error : SchemaError) : Result α := .error ⟨none, error⟩

/-- A result in a range. -/
def within {α : Type} (range : Option TomlRange) (result : Result α) : Result α :=
  result.mapError fun misfit => misfit.within range

/-- A reader that places what is amiss in the value. -/
def placed {α : Type} (read : Toml → Result α) : Reader α := fun value =>
  within value.range (read value.item)

/-- A count below a bound. -/
def count (bound : Nat) (wanted : String) : Reader Nat := placed fun
  | .integer value =>
      if 0 ≤ value ∧ value < bound then .ok value.toNat else fail (.invalidValue value wanted)
  | other => fail (.invalidType other wanted)

/-- A count of 32 bits. -/
def word : Reader Nat := count UInt32.size "u32"

/-- A count of 64 bits. -/
def index : Reader Nat := count UInt64.size "usize"

/-- A truth value. -/
def bool : Reader Bool := placed fun
  | .bool value => .ok value
  | other => fail (.invalidType other "a boolean")

/-- A text. -/
def string : Reader String := placed fun
  | .string text => .ok text
  | other => fail (.invalidType other "a string")

/-- A text that names a file. -/
def path : Reader String := placed fun
  | .string text => .ok text
  | other => fail (.invalidType other "path string")

/-- Readers one after the other. -/
def each {α : Type} (read : Reader α) : List (Ranged Toml) → Result (List α)
  | [] => .ok []
  | item :: rest => do
      let first ← read item
      let others ← each read rest
      return first :: others

/-- Values of one kind, one after the other. -/
def list {α : Type} (read : Reader α) : Reader (List α) := placed fun
  | .array items => each read items
  | other => fail (.invalidType other "a sequence")

/-- The key under which a date stands when it is read as a table. -/
def dateKey : String := "$__toml_private_datetime"

/-- Values by key. -/
abbrev Entries := List (Ranged String × Ranged Toml)

/-- The entries of a table; a date is a table of one entry. -/
def entries? : Toml → Option Entries
  | .table entries => some entries
  | .datetime text => some [(⟨none, dateKey⟩, ⟨none, .string text⟩)]
  | _ => none

/-- Where the value of an entry stands, or else its key. -/
def entryRange (key : Ranged String) (value : Ranged Toml) : Option TomlRange :=
  value.range.or key.range

/-- The strings of a table. -/
def stringEntries : Entries → Result (List (String × String))
  | [] => .ok []
  | (key, value) :: rest => do
      let text ← within (entryRange key value) (string value)
      let others ← stringEntries rest
      return (key.item, text) :: others

/-- Strings by key. -/
def strings : Reader (List (String × String)) := placed fun value =>
  match entries? value with
  | some entries => stringEntries entries
  | none => fail (.invalidType value "a map")

/-- A field of a record, which its reader puts into the record. -/
structure Field (σ : Type) where
  name : String
  /-- May lack at the end of an array. -/
  spare : Bool
  read : σ → Reader σ

/-- A record with fields. -/
structure Record (σ : Type) where
  title : String
  /-- Refuses other keys. -/
  closed : Bool
  fields : List (Field σ)

namespace Record

variable {σ : Type}

/-- The record with the entries of a table. -/
def readEntries (record : Record σ) : Entries → σ → Result σ
  | [], state => .ok state
  | (key, value) :: rest, state => do
      match record.fields.find? fun field => field.name == key.item with
      | some field =>
          let state ← within (entryRange key value) (field.read state value)
          record.readEntries rest state
      | none =>
          if record.closed then
            within key.range (fail (.unknownField key.item (record.fields.map Field.name)))
          else record.readEntries rest state

/-- The record with the items of an array. -/
def readItems (record : Record σ) :
    Nat → List (Field σ) → List (Ranged Toml) → σ → Result σ
  | _, [], _, state => .ok state
  | place, field :: fields, [], state =>
      if field.spare then record.readItems (place + 1) fields [] state
      else fail (.invalidLength place record.title record.fields.length)
  | place, field :: fields, item :: items, state => do
      let state ← field.read state item
      record.readItems (place + 1) fields items state

/-- The record with what a value says. -/
def read (record : Record σ) (state : σ) : Reader σ := placed fun value =>
  match entries? value, value with
  | some entries, _ => record.readEntries entries state
  | none, .array items => record.readItems 0 record.fields items state
  | none, other => fail (.invalidType other ("struct " ++ record.title))

end Record

/-- A field that sets something. -/
def setting {σ α : Type} (name : String) (reader : Reader α) (set : σ → α → σ) : Field σ :=
  ⟨name, false, fun state value => do return set state (← reader value)⟩

/-- An entry of the menu that is not finished. -/
structure EntryDraft where
  text : Option String := none
  icon : Option String := none

/-- The fields of an entry of the menu. -/
def entryRecord : Record EntryDraft :=
  { title := "MenuEntry"
    closed := false
    fields :=
      [setting "text" string fun draft text => { draft with text := some text },
        { setting "icon" string fun draft icon => { draft with icon := some icon } with
          spare := true }] }

/-- An entry of the menu. -/
def entry : Reader MenuEntry := fun value => do
  let draft ← entryRecord.read {} value
  match draft.text with
  | some text => return ⟨text, draft.icon⟩
  | none => within value.range (fail (.missingField "text"))

/-- The fields of the screen. -/
def screenRecord : Record Settings :=
  { title := "TomlScreen"
    closed := false
    fields :=
      [setting "width" word fun settings width => { settings with width },
        setting "height" word fun settings height => { settings with height }] }

/-- The fields of drawing. -/
def renderRecord : Record Settings :=
  { title := "TomlRender"
    closed := false
    fields :=
      [setting "outline" bool fun settings outline => { settings with outline },
        setting "font" path fun settings font => { settings with fontFile := some font },
        setting "theme_dir" path fun settings dir => { settings with themeDir := some dir }] }

/-- The fields of the menu. -/
def menuRecord : Record Settings :=
  { title := "TomlMenu"
    closed := false
    fields :=
      [setting "entries" (list entry) fun settings entries => { settings with entries },
        setting "selected" index fun settings selected => { settings with selected },
        setting "timeout" word fun settings timeout => { settings with timeout }] }

/-- The fields of SVG documents. -/
def svgRecord : Record SvgSettings :=
  { title := "TomlSvg"
    closed := false
    fields :=
      [setting "standalone" bool fun svg standalone => { svg with standalone },
        setting "pretty_print" bool fun svg pretty => { svg with pretty },
        setting "class_prefix" string fun svg text =>
          { svg with classPrefix := if text.isEmpty then none else some text },
        setting "embed_images" bool fun svg embed => { svg with embed }] }

/-- A part of the settings. -/
def part (name : String) (read : Settings → Reader Settings) : Field Settings := ⟨name, true, read⟩

/-- The parts of a configuration. -/
def settingsRecord : Record Settings :=
  { title := "TomlConfig"
    closed := true
    fields :=
      [part "screen" screenRecord.read,
        part "render" renderRecord.read,
        part "menu" menuRecord.read,
        part "colors" fun settings value => do
          return { settings with palette := settings.palette.extend (← strings value) },
        part "svg" fun settings value => do
          return { settings with svg := ← svgRecord.read settings.svg value }] }

end Schema

/-- The settings that a configuration gives, with defaults for what it leaves out. Colors are added
to the palette from a hash map of their names, which may be read in any order: the order of the
colors table in the document stands for one of these orders. -/
def Settings.ofToml (text : String) : Except ConfigError Settings :=
  match parseToml text with
  | .error error => .error (.notToml error)
  | .ok entries =>
      match Schema.settingsRecord.read {} ⟨none, .table entries⟩ with
      | .ok settings => .ok settings
      | .error misfit => .error (.schema misfit)

end BootTheme
