import BootTheme.Preview
import BootTheme.Proofs.Component.Quiet
import BootTheme.Proofs.Paint.Answers

/-!
# The images of a display list are at hand

A command draws an image only after the cache has answered with it, and the cache keeps its
answers. So a display list is drawn without a look at the disk, and from the first question
to the finished picture every name is loaded at most once.
-/

namespace BootTheme

open ImageCache

/-! ## Images of commands are known -/

namespace Painter

variable {α : Type} [Scalar α] {images : String → Option Image}

omit [Scalar α] in
theorem image_of_mem_partCommands {outline : Bool} {placed : PlacedPart α} {name : String}
    {rect : Rect α} (among : .image name rect ∈ partCommands outline placed) :
    name = placed.name := by
  unfold partCommands at among
  split at among
  · rcases List.mem_cons.1 among with stroke | image
    · cases stroke
    · cases List.mem_singleton.1 image
      rfl
  · cases List.mem_singleton.1 among
    rfl

theorem image_of_mem_contentsFrom {outline : Bool} {box : Rect α} {paint : Option (Paint α)}
    {name : String} {rect : Rect α}
    (among : .image name rect ∈ contentsFrom images outline box paint) :
    (images name).isSome := by
  cases paint with
  | none => cases among
  | some paint =>
      cases paint with
      | fill color => cases List.mem_singleton.1 among
      | text text color size align => cases List.mem_singleton.1 among
      | pixmap file =>
          rw [contentsFrom] at among
          split at among
          · cases among
          · next there =>
              cases List.mem_singleton.1 among
              rw [Bool.or_eq_true, not_or, Option.isNone_iff_eq_none] at there
              exact Option.isSome_iff_ne_none.2 there.2
      | styleBox pattern =>
          rw [contentsFrom] at among
          split at among
          · cases among
          · obtain ⟨placed, one, drawn⟩ := List.mem_flatMap.1 among
            obtain ⟨part, _, found⟩ := List.mem_filterMap.1 one
            obtain ⟨image, has, rfl⟩ := Option.map_eq_some_iff.1 found
            rw [image_of_mem_partCommands drawn]
            exact Option.isSome_of_eq_some has

/-- Every image of the commands of boxes is there. -/
theorem image_of_mem_boxFrom {outline : Bool} {shown : Option (Paint α) × Rect α} {name : String}
    {rect : Rect α} (among : .image name rect ∈ boxFrom images outline shown) :
    (images name).isSome := by
  rw [boxFrom] at among
  split at among
  · rcases List.mem_cons.1 among with stroke | inner
    · cases stroke
    · exact image_of_mem_contentsFrom inner
  · exact image_of_mem_contentsFrom among

end Painter

/-! ## Display lists from answers -/

theorem isUnreadable_of_mem_failures {cache : ImageCache}
    {loaded : List (String × Option Image)} {warning : Warning}
    (among : warning ∈ loaded.filterMap cache.failure) : warning.isUnreadable = true := by
  obtain ⟨⟨name, image⟩, _, noted⟩ := List.mem_filterMap.1 among
  cases image with
  | some image => cases noted
  | none =>
      cases noted
      rfl

/-- The names that the boxes of a tree ask for on the screen of the settings. -/
def BoxTree.asked (tree : BoxTree Float) (settings : Settings) : List String :=
  Painter.askedBy (tree.shown (tree.walk settings.context).visited)

/-- What comes of a tree once its images are known. -/
def BoxTree.listFrom (tree : BoxTree Float) (settings : Settings) (after : ImageCache) :
    Except RenderError (DisplayList Float × ImageCache) :=
  match (tree.walk settings.context).error with
  | some error => .error (.eval error)
  | none =>
      .ok (⟨settings.width, settings.height,
        (tree.shown (tree.walk settings.context).visited).flatMap
          (Painter.boxFrom after.answer settings.outline)⟩, after)

/-- The images of a list that was drawn from a cache are known to it. -/
theorem BoxTree.image_of_listFrom {tree : BoxTree Float} {settings : Settings}
    {cache after : ImageCache} {list : DisplayList Float}
    (drawn : tree.listFrom settings cache = .ok (list, after)) :
    after = cache ∧
      ∀ name ∈ list.imageNames, ∃ image, cache.images.get? name = some (some image) := by
  rw [listFrom] at drawn
  split at drawn
  · cases drawn
  · cases drawn
    refine ⟨rfl, ?_⟩
    intro name among
    obtain ⟨command, inside, named⟩ := List.mem_filterMap.1 among
    obtain ⟨shown, _, drawn⟩ := List.mem_flatMap.1 inside
    cases command with
    | image other rect =>
        cases named
        have known := Painter.image_of_mem_boxFrom drawn
        rw [answer] at known
        obtain ⟨image, has⟩ := Option.isSome_iff_exists.1 known
        exact ⟨image, Option.join_eq_some_iff.1 has⟩
    | _ => cases named

/-- A display list is asked for and then drawn from the answers. -/
theorem displayList_eq (theme : Theme) (settings : Settings) (files : Files)
    (cache : ImageCache) :
    displayList theme settings files cache =
      buildTree theme settings >>= fun built =>
        match built with
        | .error fault => .plain (.error (.malformed fault))
        | .ok tree => askAll files (tree.asked settings) cache >>= fun after =>
            .plain (tree.listFrom settings after) := by
  refine Noted.bind_congr ?_
  cases (buildTree theme settings).value with
  | error fault => rfl
  | ok tree =>
      dsimp only
      rw [BoxTree.paint, Painter.boxes_eq, bind_assoc, bind_assoc]
      refine Noted.bind_congr ?_
      rw [Noted.plain_bind, BoxTree.listFrom]
      cases (tree.walk settings.context).error with
      | none => rfl
      | some error => rfl

/-! ## Drawing a list whose images are known -/

/-- A list whose images are known is drawn the same whatever is on the disk, and nothing is
noted. -/
theorem Canvas.drawAll_of_known (font : Option (Font Float32)) {cache : ImageCache}
    {commands : List (DrawCommand Float)} (canvas : Image)
    (known : ∀ name ∈ commands.filterMap DrawCommand.imageName?,
      ∃ image, cache.images.get? name = some (some image)) :
    ∃ picture, ∀ files, drawAll files font commands canvas cache = .plain (picture, cache) := by
  induction commands generalizing canvas with
  | nil => exact ⟨canvas, fun _ => rfl⟩
  | cons command rest ih =>
      have drawn : ∃ next, ∀ files,
          draw files font canvas cache command = .plain (next, cache) := by
        cases command with
        | fill rect color => exact ⟨_, fun _ => rfl⟩
        | stroke rect color => exact ⟨_, fun _ => rfl⟩
        | text text rect size color align =>
            cases font with
            | none => exact ⟨_, fun _ => rfl⟩
            | some font => exact ⟨_, fun _ => rfl⟩
        | image name rect =>
            obtain ⟨image, has⟩ := known name List.mem_cons_self
            refine ⟨drawImage canvas image rect, fun files => ?_⟩
            rw [draw, get_of_known has]
            rfl
      obtain ⟨next, step⟩ := drawn
      have others : ∀ name ∈ rest.filterMap DrawCommand.imageName?,
          ∃ image, cache.images.get? name = some (some image) := by
        intro name among
        obtain ⟨later, inside, named⟩ := List.mem_filterMap.1 among
        exact known name (List.mem_filterMap.2 ⟨later, List.mem_cons_of_mem _ inside, named⟩)
      obtain ⟨picture, run⟩ := ih next others
      refine ⟨picture, fun files => ?_⟩
      rw [drawAll, step, Noted.plain_bind]
      exact run files

/-- When a display list is there, the cache holds an image for each of its names, so it is drawn
without the disk and without a warning. On the way every name was loaded at most once, when it
was first asked for, and noted at most once if that failed; the list, the warnings and the cache
depend on nothing else of the disk. Whatever is asked for later, a name that is known keeps its
first answer. -/
theorem images_at_hand_and_loaded_once (theme : Theme) (settings : Settings) (files : Files)
    (cache : ImageCache) {list : DisplayList Float} {after : ImageCache}
    (painted : (displayList theme settings files cache).value = .ok (list, after)) :
    (∀ name ∈ list.imageNames, ∃ image, after.images.get? name = some (some image)) ∧
    (∀ font, ∃ picture, ∀ later, list.rasterize later font after = .plain (picture, after)) ∧
    (∃ loaded, Loads files cache after loaded ∧
      (displayList theme settings files cache).warnings.filter Warning.isUnreadable =
        loaded.filterMap cache.failure ∧
      ∀ other : Files, (∀ place entry, loaded[place]? = some entry →
          cache.load (other (cache.images.size + place)) entry.1 = entry.2) →
        displayList theme settings other cache = displayList theme settings files cache) ∧
    ∀ (later : Files) (others : List String) (name : String) (answer : Option Image),
      after.images.get? name = some answer →
        (askAll later others after).value.get later name =
          .plain (answer, (askAll later others after).value) := by
  have normal := displayList_eq theme settings
  cases built : (buildTree theme settings).value with
  | error fault =>
      rw [normal, Noted.bind_value, built] at painted
      cases painted
  | ok tree =>
      obtain ⟨loaded, asked⟩ := asked_askAll files (tree.asked settings) cache
      have drawn : tree.listFrom settings (askAll files (tree.asked settings) cache).value =
          .ok (list, after) := by
        rw [normal, Noted.bind_value, built] at painted
        exact painted
      obtain ⟨same, known⟩ := BoxTree.image_of_listFrom drawn
      rw [same]
      refine ⟨known, ?_, ⟨loaded, asked.loads, ?_, ?_⟩, ?_⟩
      · intro font
        exact Canvas.drawAll_of_known font _ known
      · have quiet := quiet_buildTree theme settings
        rw [normal, Noted.bind_warnings, List.filter_append, quiet, built, List.nil_append,
          Noted.bind_warnings, asked.warnings]
        change ((loaded.filterMap cache.failure) ++ []).filter Warning.isUnreadable = _
        rw [List.append_nil, List.filter_eq_self]
        exact fun warning => isUnreadable_of_mem_failures
      · intro other alike
        rw [normal, normal]
        refine Noted.bind_congr ?_
        rw [built]
        dsimp only
        rw [askAll_congr asked alike]
      · intro later others name answer found
        exact get_of_known (get?_askAll later others found)

/-- An image component of ten pixels. -/
def imageComponent (file : String) : Component :=
  .mk "image" [⟨"file", .string file, ⟨0, 0⟩⟩, ⟨"width", .length (.absolute 10), ⟨0, 0⟩⟩,
    ⟨"height", .length (.absolute 10), ⟨0, 0⟩⟩] [] ⟨0, 0⟩

/-- A theme that asks for one image twice, and for another one in between. -/
def askingTwice : Theme :=
  ⟨[], [imageComponent "a.png", imageComponent "b.png", imageComponent "a.png"]⟩

/-- A file that comes too late. -/
def lateFile : Files := fun time =>
  if time ≤ 1 then .empty else Disk.empty.add "./a.png" (.image (.plain 1 1 .black))

/-- A cache that holds an image from the start. -/
def startingCache : ImageCache :=
  ({ themeDir := "." } : ImageCache).insert "b.png" (.plain 2 2 .black)

/-- The first answer stands, though the file is there when its name is asked for again. -/
theorem late_file_stays_missing :
    ∃ list after, (displayList askingTwice {} lateFile startingCache).value = .ok (list, after) ∧
      list.imageNames = ["b.png"] ∧
      (∃ image, after.images.get? "b.png" = some (some image)) ∧
      (displayList askingTwice {} lateFile startingCache).warnings =
        [.unreadableImage "./a.png"] ∧
      (startingCache.load (lateFile 2) "a.png").isSome = true ∧
      ∀ font, ∃ picture, ∀ later, list.rasterize later font after = .plain (picture, after) := by
  have names : (displayList askingTwice {} lateFile startingCache).value.toOption.map
      (fun found => found.1.imageNames) = some ["b.png"] := by decide +kernel
  cases painted : (displayList askingTwice {} lateFile startingCache).value with
  | error error =>
      rw [painted] at names
      cases names
  | ok found =>
      obtain ⟨list, after⟩ := found
      rw [painted] at names
      have drawn : list.imageNames = ["b.png"] := Option.some.inj names
      obtain ⟨known, still, _⟩ := images_at_hand_and_loaded_once _ _ _ _ painted
      exact ⟨list, after, rfl, drawn, known _ (by rw [drawn]; exact List.mem_cons_self),
        by decide +kernel, by decide +kernel, still⟩

end BootTheme
