import BootTheme.Toml.Fault

/-!
# Putting tables together

The lines of a document name tables in several ways: by a header, by a header of
an array, and by keys with points. A table may be defined once; a table that was
only passed through on the way to another may be defined later, and keys with
points may add only to tables that were made by such keys. A table with a header
stands from its header to its latest value. In braces the same holds, but a table
in braces is finished at its closing brace.
-/

namespace BootTheme

/-- A value of a document that is not finished. -/
inductive TomlNode where
  | leaf (value : Ranged Toml)
  /-- A table; `implicit` if only passed through, `dotted` if made by a key with points. -/
  | table (implicit dotted : Bool) (range : Option TomlRange)
      (entries : List (Ranged String × TomlNode))
  /-- An array of tables that grows by headers: its tables but the latest one, and that one. -/
  | tables (earlier : List (Option TomlRange × List (Ranged String × TomlNode)))
      (range : Option TomlRange) (entries : List (Ranged String × TomlNode))
deriving Repr

namespace TomlNode

mutual

/-- The finished value. -/
def toValue : TomlNode → Ranged Toml
  | leaf value => value
  | table _ _ range entries => ⟨range, .table (entryValues entries)⟩
  | tables earlier range entries =>
      let latest : Ranged Toml := ⟨range, .table (entryValues entries)⟩
      let values := elementValues earlier ++ [latest]
      let whole :=
        match values.head?.bind Ranged.range, range with
        | some first, some last => some (first.upTo last)
        | _, _ => none
      ⟨whole, .array values⟩

/-- The finished values of a table. -/
def entryValues : List (Ranged String × TomlNode) → List (Ranged String × Ranged Toml)
  | [] => []
  | (key, node) :: rest => (key, node.toValue) :: entryValues rest

/-- The finished tables of an array. -/
def elementValues :
    List (Option TomlRange × List (Ranged String × TomlNode)) → List (Ranged Toml)
  | [] => []
  | (range, entries) :: rest => ⟨range, .table (entryValues entries)⟩ :: elementValues rest

end

/-- Values by key. -/
abbrev Entries := List (Ranged String × TomlNode)

namespace Entries

/-- The value of a key. -/
def find (entries : Entries) (key : String) : Option TomlNode :=
  (entries.find? fun (other, _) => other.item == key).map Prod.snd

/-- The entries with the value of a key replaced; the key stands where it stood. -/
def replace (entries : Entries) (key : String) (node : TomlNode) : Entries :=
  entries.map fun (other, old) => if other.item == key then (other, node) else (other, old)

/-- The entries with a new key at the end. -/
def addLast (entries : Entries) (key : Ranged String) (node : TomlNode) : Entries :=
  entries ++ [(key, node)]

/-- The entries without a key. -/
def without (entries : Entries) (key : String) : Entries :=
  entries.filter fun (other, _) => other.item != key

end Entries

/-- A table that is being changed: where it stands, whether it was made by a key with points, and
its values. -/
structure Open where
  range : Option TomlRange
  dotted : Bool
  entries : Entries

/-- The table of a document or of braces before anything is in it. -/
def Open.start : Open := ⟨none, false, []⟩

/-- What leads to a table. -/
inductive Route where
  /-- The parts of a header. -/
  | header
  /-- The parts of a key on a line, below a header. -/
  | line (above : List String)
  /-- The parts of a key in braces. -/
  | braces
deriving DecidableEq, Repr

namespace Route

/-- Whether the route is a key, and makes the tables that it lacks. -/
def isKey : Route → Bool
  | header => false
  | line _ | braces => true

/-- What a route says of a value in its way. In braces a finished table is a key that is there. -/
def blocked (route : Route) (path : List String) (key : String) (found : Toml) : TomlCause :=
  match route, found with
  | braces, .table _ => .repeatedKey key none
  | _, _ => .noTable (path ++ [key]) found

/-- What a route says of a key that is there at its end. -/
def taken (route : Route) (key : String) : TomlCause :=
  match route with
  | line above => .repeatedKey key (some above)
  | header | braces => .repeatedKey key none

end Route

/-- Changes the table at the end of a route; tables on the way are made where they lack. `passed`
are the parts that are behind. -/
def descend (route : Route) (change : Open → Except TomlCause Open) (passed : List String) :
    List (Ranged String) → Open → Except TomlCause Open
  | [], reached => change reached
  | key :: path, reached =>
      let onward := descend route change (passed ++ [key.item]) path
      match reached.entries.find key.item with
      | none => do
          let inner ← onward ⟨none, route.isKey, []⟩
          return { reached with
            entries := reached.entries.addLast key
              (table true route.isKey inner.range inner.entries) }
      | some (leaf value) => .error (route.blocked passed key.item value.item)
      | some (table implicit made range inner) =>
          if route.isKey && !implicit then .error (.repeatedKey key.item none)
          else do
            let inner ← onward ⟨range, made, inner⟩
            return { reached with
              entries := reached.entries.replace key.item
                (table implicit made inner.range inner.entries) }
      | some (tables earlier range latest) => do
          let latest ← onward ⟨range, false, latest⟩
          return { reached with
            entries := reached.entries.replace key.item
              (tables earlier latest.range latest.entries) }

/-- A new value under a key with or without points, in a table. -/
def addValue (route : Route) (path : TomlPath) (value : Ranged Toml) (reached : Open) :
    Except TomlCause Open :=
  let last := path.last
  descend route (fun inner =>
    if inner.dotted == path.before.isEmpty then .error (.repeatedKey last.item none)
    else
      match inner.entries.find last.item with
      | some _ => .error (route.taken last.item)
      | none => .ok { inner with entries := inner.entries.addLast last (leaf value) })
    [] path.before { reached with dotted := false }

/-- A new value in the table of a header. -/
def addBelow (header : List (Ranged String)) (path : TomlPath) (value : Ranged Toml)
    (document : Open) : Except TomlCause Open :=
  descend .header (fun inner => do
    let changed ← addValue (.line (header.map Ranged.item)) path value inner
    return { changed with dotted := inner.dotted, range := extendRange inner.range value.range })
    [] header document

/-- The table of braces. -/
def ofPairs : List (TomlPath × Ranged Toml) → Open → Except TomlCause Open
  | [], reached => .ok reached
  | (path, value) :: rest, reached => do ofPairs rest (← addValue .braces path value reached)

/-- What is said about a header of what is there already. -/
def repeatedHeader (path : TomlPath) : TomlCause :=
  .repeatedHeader (path.before.map Ranged.item) path.last.item

/-- The table of a header, which stands in the given range. -/
def openTable (path : TomlPath) (range : TomlRange) (document : Open) : Except TomlCause Open :=
  let last := path.last
  descend .header (fun inner =>
    match inner.entries.find last.item with
    | none =>
        .ok { inner with entries := inner.entries.addLast last (table false false range []) }
    | some (table true false _ found) =>
        .ok { inner with
          entries := (inner.entries.without last.item).addLast last
            (table false false range found) }
    | some _ => .error (repeatedHeader path)) [] path.before document

/-- One more table of the array of a header, which stands in the given range. -/
def openElement (path : TomlPath) (range : TomlRange) (document : Open) : Except TomlCause Open :=
  let last := path.last
  descend .header (fun inner =>
    match inner.entries.find last.item with
    | none =>
        .ok { inner with entries := inner.entries.addLast last (tables [] (some range) []) }
    | some (tables earlier before latest) =>
        .ok { inner with
          entries := inner.entries.replace last.item
            (tables (earlier ++ [(before, latest)]) (some range) []) }
    | some _ => .error (repeatedHeader path)) [] path.before document

end TomlNode

end BootTheme
