import BootTheme.Proofs.Outcomes
import BootTheme.Settings.Schema

/-!
# What a record keeps

A record is read field by field, from a table in the order of the table and from an array in
the order of the fields. What no field changes is the same when the record has been read.
-/

namespace BootTheme

namespace Schema

variable {α β σ : Type}

/-- A range around a result changes no success. -/
theorem within_eq_ok {range : Option TomlRange} {result : Result α} {value : α} :
    within range result = .ok value ↔ result = .ok value := mapError_eq_ok

/-- A reader leaves a view of what it adds to as it is. -/
def Keeps (view : σ → β) (read : σ → Reader σ) : Prop :=
  ∀ {state value next}, read state value = .ok next → view next = view state

/-- A field that sets something else keeps the view. -/
theorem keeps_setting {view : σ → β} {name : String} {reader : Reader α} {set : σ → α → σ}
    (apart : ∀ state value, view (set state value) = view state) :
    Keeps view (setting name reader set).read := by
  intro state value next fine
  obtain ⟨found, -, done⟩ := exists_of_bind_eq_ok fine
  cases done
  exact apart state found

namespace Record

variable {record : Record σ} {view : σ → β}

/-- The first entry of a table that is read is for the field of its key, or the record is open and
has no such field. -/
theorem readEntries_cons_eq_ok {key : Ranged String} {value : Ranged Toml} {rest : Entries}
    {state next : σ} (fine : record.readEntries ((key, value) :: rest) state = .ok next) :
    (∃ field ∈ record.fields, field.name = key.item ∧
      ∃ middle, field.read state value = .ok middle ∧ record.readEntries rest middle = .ok next) ∨
    record.closed = false ∧ key.item ∉ record.fields.map Field.name ∧
      record.readEntries rest state = .ok next := by
  rw [readEntries] at fine
  cases found : record.fields.find? fun field => field.name == key.item with
  | some field =>
      rw [found] at fine
      obtain ⟨middle, first, others⟩ := exists_of_bind_eq_ok fine
      have named : (field.name == key.item) = true :=
        List.find?_some (p := fun field : Field σ => field.name == key.item) found
      exact .inl ⟨field, List.mem_of_find?_eq_some found, eq_of_beq named, middle,
        within_eq_ok.1 first, others⟩
  | none =>
      rw [found] at fine
      dsimp only at fine
      split at fine
      · cases within_eq_ok.1 fine
      · next isOpen =>
          refine .inr ⟨Bool.eq_false_iff.2 isOpen, ?_, fine⟩
          simpa using found

/-- A table leaves what no field changes. -/
theorem readEntries_keeps (kept : ∀ field ∈ record.fields, Keeps view field.read)
    (entries : Entries) : ∀ {state next : σ}, record.readEntries entries state = .ok next →
      view next = view state := by
  induction entries with
  | nil =>
      intro state next fine
      cases fine
      rfl
  | cons entry rest ih =>
      intro state next fine
      rcases readEntries_cons_eq_ok fine with ⟨field, among, _, middle, first, others⟩ |
        ⟨_, _, others⟩
      · rw [ih others]
        exact kept field among first
      · exact ih others

/-- An array leaves what no field changes. -/
theorem readItems_keeps {fields : List (Field σ)} (kept : ∀ field ∈ fields, Keeps view field.read) :
    ∀ {place : Nat} {items : List (Ranged Toml)} {state next : σ},
      record.readItems place fields items state = .ok next → view next = view state := by
  induction fields with
  | nil =>
      intro place items state next fine
      cases items <;> (cases fine; rfl)
  | cons field others ih =>
      have later := @ih fun other among => kept other (List.mem_cons_of_mem field among)
      intro place items state next fine
      cases items with
      | nil =>
          rw [readItems] at fine
          split at fine
          · exact later fine
          · cases fine
      | cons item rest =>
          obtain ⟨middle, first, behind⟩ := exists_of_bind_eq_ok fine
          rw [later behind]
          exact kept field List.mem_cons_self first

/-- What no field changes, the record keeps. -/
theorem keeps_read (kept : ∀ field ∈ record.fields, Keeps view field.read) :
    Keeps view record.read := by
  intro state value next fine
  have fine := within_eq_ok.1 fine
  dsimp only at fine
  split at fine
  · exact readEntries_keeps kept _ fine
  · exact readItems_keeps kept fine
  · cases fine

end Record

end Schema

end BootTheme
