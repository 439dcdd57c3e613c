import Mathlib.Data.List.Nodup
import BootTheme.Picture.Cache

/-!
# Asking a cache for images

A cache only grows: a name that it knows is answered without a look at the disk, and a name
that it does not know is loaded and put behind the others. So the entries behind those of the
start are what was loaded, in this order, each name once, and nothing else of the disk matters.
-/

namespace BootTheme

/-- Only what comes after the value counts. -/
theorem Noted.bind_congr {α β : Type} {first : Noted α} {next other : α → Noted β}
    (same : next first.value = other first.value) : first >>= next = first >>= other := by
  change Noted.mk _ _ = Noted.mk _ _
  rw [same]

namespace Dictionary

variable {α : Type}

/-- A new name goes behind the others. -/
theorem entries_set_of_get?_none {dictionary : Dictionary α} {name : String}
    (fresh : dictionary.get? name = none) (value : α) :
    (dictionary.set name value).entries = dictionary.entries ++ [(name, value)] := by
  obtain ⟨entries⟩ := dictionary
  simp only [get?, set] at fresh ⊢
  induction entries with
  | nil => rfl
  | cons entry rest ih =>
      obtain ⟨other, old⟩ := entry
      rw [List.lookup_cons] at fresh
      by_cases same : other = name
      · subst same
        simp at fresh
      · have apart : (name == other) = false := by simpa using fun eq => same eq.symm
        rw [apart] at fresh
        rw [setEntry, if_neg same, ih fresh]
        rfl

end Dictionary

namespace ImageCache

variable {files : Files} {cache before middle after : ImageCache} {name : String}

/-- The image of a name as far as the cache knows. -/
def answer (cache : ImageCache) (name : String) : Option Image := (cache.images.get? name).join

/-- The warning about a name that was loaded, if its image could not be read. -/
def failure (cache : ImageCache) : String × Option Image → Option Warning
  | (name, none) => some (.unreadableImage (cache.path name))
  | (_, some _) => none

/-- Asks for names one after the other. -/
def askAll (files : Files) : List String → ImageCache → Noted ImageCache
  | [], cache => .plain cache
  | name :: rest, cache => do
      let (_, cache) ← cache.get files name
      askAll files rest cache

/-! ## A single question -/

theorem get_of_known {known : Option Image} (found : cache.images.get? name = some known) :
    cache.get files name = .plain (known, cache) := by
  rw [get, found]

/-- The cache that has loaded a name. -/
def loading (cache : ImageCache) (files : Files) (name : String) : ImageCache :=
  { cache with
    images := cache.images.set name (cache.load (files cache.images.size) name) }

theorem get_of_fresh (fresh : cache.images.get? name = none) :
    cache.get files name =
      ⟨(cache.load (files cache.images.size) name, cache.loading files name),
        (cache.failure (name, cache.load (files cache.images.size) name)).toList⟩ := by
  rw [get, fresh, loading]
  cases cache.load (files cache.images.size) name with
  | none => rfl
  | some image => rfl

/-- Behind a question the cache knows its answer. -/
theorem get?_get (files : Files) (cache : ImageCache) (name : String) :
    (cache.get files name).value.2.images.get? name = some (cache.get files name).value.1 := by
  cases found : cache.images.get? name with
  | some known => rw [get_of_known found]; exact found
  | none =>
      rw [get_of_fresh found]
      exact (Dictionary.get?_set _ _ _ _).trans (if_pos rfl)

/-! ## What was loaded -/

/-- What a cache has loaded on its way to another one: new names, each once, with the image
that the disk held at the time. -/
structure Loads (files : Files) (before after : ImageCache)
    (loaded : List (String × Option Image)) : Prop where
  themeDir : after.themeDir = before.themeDir
  entries : after.images.entries = before.images.entries ++ loaded
  once : (loaded.map Prod.fst).Nodup
  fresh : ∀ name ∈ loaded.map Prod.fst, before.images.get? name = none
  fromDisk : ∀ place entry, loaded[place]? = some entry →
    entry.2 = before.load (files (before.images.size + place)) entry.1

namespace Loads

variable {loaded more : List (String × Option Image)}

theorem refl (files : Files) (cache : ImageCache) : Loads files cache cache [] where
  themeDir := rfl
  entries := (List.append_nil _).symm
  once := List.nodup_nil
  fresh _ among := nomatch among
  fromDisk _ _ among := nomatch among

theorem load_eq (loads : Loads files before after loaded) : after.load = before.load := by
  funext disk name
  rw [load, load, path, path, loads.themeDir]

theorem failure_eq (loads : Loads files before after loaded) : after.failure = before.failure := by
  funext entry
  obtain ⟨name, _ | image⟩ := entry
  · rw [failure, failure, path, path, loads.themeDir]
  · rfl

theorem unique (loads : Loads files before after loaded) (others : Loads files before after more) :
    loaded = more := by
  have same := loads.entries.symm.trans others.entries
  exact List.append_cancel_left same

theorem size (loads : Loads files before after loaded) :
    after.images.size = before.images.size + loaded.length := by
  rw [Dictionary.size, loads.entries, List.length_append, Dictionary.size]

/-- What is known stays as it is. -/
theorem get?_of_known (loads : Loads files before after loaded) {known : Option Image}
    (found : before.images.get? name = some known) : after.images.get? name = some known := by
  rw [Dictionary.get?] at found ⊢
  rw [loads.entries, List.lookup_append, found]
  rfl

/-- What was loaded is known. -/
theorem get?_of_loaded (loads : Loads files before after loaded) {entry : String × Option Image}
    (among : entry ∈ loaded) : after.images.get? entry.1 = some entry.2 := by
  have unknown := loads.fresh entry.1 (List.mem_map_of_mem among)
  have single := loads.once
  rw [Dictionary.get?] at unknown ⊢
  rw [loads.entries, List.lookup_append, unknown, Option.none_or]
  clear unknown loads
  induction loaded with
  | nil => cases among
  | cons first rest ih =>
      rw [List.map_cons, List.nodup_cons] at single
      rcases List.mem_cons.1 among with rfl | later
      · exact List.lookup_cons_self
      · have apart : (entry.1 == first.1) = false := by
          simp only [beq_eq_false_iff_ne]
          intro same
          exact single.1 (same ▸ List.mem_map_of_mem later)
        rw [List.lookup_cons, apart]
        exact ih later single.2

theorem single (fresh : cache.images.get? name = none) :
    Loads files cache (cache.loading files name)
      [(name, cache.load (files cache.images.size) name)] where
  themeDir := rfl
  entries := Dictionary.entries_set_of_get?_none fresh _
  once := List.nodup_singleton name
  fresh other among := by
    rw [List.map_singleton, List.mem_singleton] at among
    rw [among]
    exact fresh
  fromDisk place entry among := by
    cases place with
    | zero =>
        cases among
        rfl
    | succ place => cases among

theorem append (first : Loads files before middle loaded) (second : Loads files middle after more) :
    Loads files before after (loaded ++ more) where
  themeDir := second.themeDir.trans first.themeDir
  entries := by rw [second.entries, first.entries, List.append_assoc]
  once := by
    rw [List.map_append, List.nodup_append]
    refine ⟨first.once, second.once, ?_⟩
    rintro name early _ late rfl
    -- What was loaded first is known in the middle, so it is not new to what comes after.
    obtain ⟨entry, among, rfl⟩ := List.mem_map.1 early
    have known := first.get?_of_loaded among
    rw [second.fresh entry.1 late] at known
    cases known
  fresh name among := by
    rw [List.map_append, List.mem_append] at among
    rcases among with early | late
    · exact first.fresh name early
    · have unknown := second.fresh name late
      cases found : before.images.get? name with
      | none => rfl
      | some known =>
          rw [first.get?_of_known found] at unknown
          cases unknown
  fromDisk place entry among := by
    rcases Nat.lt_or_ge place loaded.length with early | late
    · rw [List.getElem?_append_left early] at among
      exact first.fromDisk place entry among
    · rw [List.getElem?_append_right late] at among
      have later := second.fromDisk _ entry among
      rw [first.load_eq, first.size] at later
      rw [later]
      congr 2
      omega

end Loads

/-- A run of questions: what was loaded on the way, and the warnings about what could not be. -/
structure Asked (files : Files) (before : ImageCache) (run : Noted ImageCache)
    (loaded : List (String × Option Image)) : Prop where
  loads : Loads files before run.value loaded
  warnings : run.warnings = loaded.filterMap before.failure

theorem asked_get (files : Files) (cache : ImageCache) (name : String) :
    ∃ loaded, Asked files cache ⟨(cache.get files name).value.2, (cache.get files name).warnings⟩
      loaded := by
  cases found : cache.images.get? name with
  | some known =>
      rw [get_of_known found]
      exact ⟨[], .refl files cache, rfl⟩
  | none =>
      rw [get_of_fresh found]
      refine ⟨_, .single found, ?_⟩
      rw [List.filterMap_cons]
      cases cache.failure (name, cache.load (files cache.images.size) name) with
      | none => rfl
      | some warning => rfl

/-- Whatever is asked for, a name is loaded at most once and noted at most once. -/
theorem asked_askAll (files : Files) (names : List String) (cache : ImageCache) :
    ∃ loaded, Asked files cache (askAll files names cache) loaded := by
  induction names generalizing cache with
  | nil => exact ⟨[], .refl files cache, rfl⟩
  | cons name rest ih =>
      obtain ⟨first, single⟩ := asked_get files cache name
      obtain ⟨others, run⟩ := ih (cache.get files name).value.2
      refine ⟨first ++ others, single.loads.append run.loads, ?_⟩
      rw [askAll, Noted.bind_warnings, List.filterMap_append, ← single.warnings,
        ← single.loads.failure_eq, ← run.warnings]

/-- Only what is loaded is looked up on the disk: files that hold the same there give the same
run. -/
theorem askAll_congr {other : Files} {names : List String} {cache : ImageCache}
    {loaded : List (String × Option Image)}
    (asked : Asked files cache (askAll files names cache) loaded)
    (same : ∀ place entry, loaded[place]? = some entry →
      cache.load (other (cache.images.size + place)) entry.1 = entry.2) :
    askAll other names cache = askAll files names cache := by
  induction names generalizing cache loaded with
  | nil => rfl
  | cons name rest ih =>
      cases found : cache.images.get? name with
      | some known =>
          rw [askAll, get_of_known found] at asked
          rw [askAll, askAll, get_of_known found, get_of_known found]
          exact ih asked same
      | none =>
          rw [askAll, get_of_fresh found] at asked
          obtain ⟨others, run⟩ := asked_askAll files rest (cache.loading files name)
          obtain rfl := asked.loads.unique ((Loads.single found).append run.loads)
          have now : cache.load (other cache.images.size) name =
              cache.load (files cache.images.size) name :=
            same 0 (name, cache.load (files cache.images.size) name) rfl
          have alike : cache.loading other name = cache.loading files name := by
            rw [loading, loading, now]
          -- Behind the first name every place counts one name more.
          have later : askAll other rest (cache.loading files name) =
              askAll files rest (cache.loading files name) := by
            refine ih run ?_
            intro place entry among
            rw [(Loads.single found).load_eq, (Loads.single found).size, List.length_singleton,
              Nat.add_assoc, Nat.add_comm 1]
            exact same (place + 1) entry among
          rw [askAll, askAll, get_of_fresh found, get_of_fresh found, now, alike]
          exact Noted.bind_congr later

end ImageCache

end BootTheme
