import BootTheme.Paint.Painter
import BootTheme.Proofs.Picture.Asking

/-!
# Painting is asking, then drawing

What a box asks its cache for does not depend on the answers, and its commands depend on
nothing of the cache but the answers. So painting boxes is asking for all their names in
order and drawing from what the cache knows in the end.
-/

namespace BootTheme

theorem Noted.plain_bind {α β : Type} (value : α) (next : α → Noted β) :
    Noted.plain value >>= next = next value := rfl

namespace ImageCache

variable {cache : ImageCache} {name : String} {known : Option Image}

theorem askAll_append (files : Files) (first second : List String) (cache : ImageCache) :
    askAll files (first ++ second) cache = askAll files first cache >>= askAll files second := by
  induction first generalizing cache with
  | nil => exact (pure_bind cache (askAll files second)).symm
  | cons name rest ih =>
      rw [List.cons_append, askAll, askAll, bind_assoc]
      exact Noted.bind_congr (ih _)

/-- An answer stays the same whatever is asked for later. -/
theorem get?_askAll (files : Files) (names : List String)
    (found : cache.images.get? name = some known) :
    (askAll files names cache).value.images.get? name = some known := by
  obtain ⟨loaded, asked⟩ := asked_askAll files names cache
  exact asked.loads.get?_of_known found

/-- Whatever is asked for is known then. -/
theorem isSome_askAll (files : Files) {names : List String} (asked : name ∈ names) :
    ((askAll files names cache).value.images.get? name).isSome := by
  induction names generalizing cache with
  | nil => cases asked
  | cons first rest ih =>
      rcases List.mem_cons.1 asked with rfl | later
      · exact Option.isSome_of_eq_some (get?_askAll files rest (get?_get files cache name))
      · exact ih later

/-- What was answered stays the answer. -/
theorem answer_askAll (files : Files) (names : List String)
    (known : (cache.images.get? name).isSome) :
    (askAll files names cache).value.answer name = cache.answer name := by
  obtain ⟨found, has⟩ := Option.isSome_iff_exists.1 known
  rw [answer, answer, get?_askAll files names has, has]

/-- The answer to a question is the one known in the end. -/
theorem answer_askAll_get (files : Files) (names : List String) (cache : ImageCache)
    (name : String) :
    (askAll files names (cache.get files name).value.2).value.answer name =
      (cache.get files name).value.1 := by
  rw [answer, get?_askAll files names (get?_get files cache name)]
  rfl

end ImageCache

open ImageCache

variable {α : Type} [Scalar α]

namespace StylePart

/-- A part with its image, if there is one. -/
def placed (images : String → Option Image) (pattern : String) (rect : Rect α)
    (part : StylePart) : Option (PlacedPart α) :=
  (images (imageName pattern part)).map fun image =>
    ⟨part, imageName pattern part,
      part.placement rect (Scalar.ofNat image.width) (Scalar.ofNat image.height)⟩

theorem placeAmong_eq (files : Files) (pattern : String) (rect : Rect α) (parts : List StylePart)
    (cache : ImageCache) :
    placeAmong files pattern rect parts cache =
      askAll files (parts.map (imageName pattern)) cache >>= fun after =>
        .plain (parts.filterMap (placed after.answer pattern rect), after) := by
  induction parts generalizing cache with
  | nil => rfl
  | cons part rest ih =>
      have known := answer_askAll_get files (rest.map (imageName pattern)) cache
        (imageName pattern part)
      simp only [placeAmong, dimensions, List.map_cons, askAll, bind_assoc, pure_bind, ih]
      refine Noted.bind_congr (Noted.bind_congr ?_)
      rw [List.filterMap_cons, placed, known]
      cases (cache.get files (imageName pattern part)).value.1 with
      | none => rfl
      | some image => rfl

end StylePart

namespace Painter

/-- The names that a box asks for. -/
def asked (rect : Rect α) : Option (Paint α) → List String
  | some (.pixmap file) => if rect.isEmpty then [] else [file]
  | some (.styleBox pattern) =>
      if pattern.isEmpty then [] else StylePart.all.map (StylePart.imageName pattern)
  | _ => []

/-- The commands of the contents of a box, drawn from images that are known. -/
def contentsFrom (images : String → Option Image) (outline : Bool) (rect : Rect α) :
    Option (Paint α) → List (DrawCommand α)
  | none => []
  | some (.fill color) => [.fill rect color]
  | some (.pixmap file) =>
      if rect.isEmpty || (images file).isNone then [] else [.image file rect]
  | some (.styleBox pattern) =>
      if pattern.isEmpty then []
      else (StylePart.all.filterMap (StylePart.placed images pattern rect)).flatMap
        (partCommands outline)
  | some (.text text color size align) => [.text text rect size color align]

/-- The commands of a box, drawn from images that are known. -/
def boxFrom (images : String → Option Image) (outline : Bool)
    (shown : Option (Paint α) × Rect α) : List (DrawCommand α) :=
  let commands := contentsFrom images outline shown.2 shown.1
  if outline then .stroke shown.2 boxOutline :: commands else commands

/-- The names that boxes ask for, in order. -/
def askedBy (shown : List (Option (Paint α) × Rect α)) : List String :=
  shown.flatMap fun (paint, rect) => asked rect paint

/-- Only the answers that a box asks for matter. -/
theorem contentsFrom_congr {images others : String → Option Image} (outline : Bool)
    {rect : Rect α} {paint : Option (Paint α)}
    (same : ∀ name ∈ asked rect paint, images name = others name) :
    contentsFrom images outline rect paint = contentsFrom others outline rect paint := by
  cases paint with
  | none => rfl
  | some paint =>
      cases paint with
      | fill color => rfl
      | text text color size align => rfl
      | pixmap file =>
          rw [contentsFrom, contentsFrom]
          cases empty : rect.isEmpty with
          | true => rfl
          | false =>
              rw [asked, if_neg (Bool.eq_false_iff.1 empty)] at same
              rw [same file List.mem_cons_self]
      | styleBox pattern =>
          rw [contentsFrom, contentsFrom]
          by_cases empty : pattern.isEmpty = true
          · rw [if_pos empty, if_pos empty]
          · rw [asked, if_neg empty] at same
            rw [if_neg empty, if_neg empty]
            refine congrArg (List.flatMap _) (List.filterMap_congr fun part among => ?_)
            rw [StylePart.placed, StylePart.placed, same _ (List.mem_map_of_mem among)]

theorem boxFrom_congr {images others : String → Option Image} (outline : Bool)
    {rect : Rect α} {paint : Option (Paint α)}
    (same : ∀ name ∈ asked rect paint, images name = others name) :
    boxFrom images outline (paint, rect) = boxFrom others outline (paint, rect) := by
  rw [boxFrom, boxFrom, contentsFrom_congr outline same]

theorem contents_eq (files : Files) (outline : Bool) (rect : Rect α) (cache : ImageCache)
    (paint : Option (Paint α)) :
    contents files outline rect cache paint =
      askAll files (asked rect paint) cache >>= fun after =>
        .plain (contentsFrom after.answer outline rect paint, after) := by
  cases paint with
  | none => rfl
  | some paint =>
      cases paint with
      | fill color => rfl
      | text text color size align => rfl
      | pixmap file =>
          by_cases empty : rect.isEmpty = true
          · rw [contents, asked, if_pos empty, if_pos empty]
            change _ = Noted.plain (contentsFrom cache.answer outline rect _, cache)
            rw [contentsFrom, empty, Bool.true_or, if_pos rfl]
          · have known := answer_askAll_get files [] cache file
            rw [contents, asked, if_neg empty, if_neg empty, askAll, bind_assoc]
            refine Noted.bind_congr ?_
            change _ = Noted.plain (contentsFrom _ outline rect _, _)
            rw [contentsFrom, known, Bool.eq_false_iff.2 empty, Bool.false_or]
            obtain ⟨image, middle⟩ := (cache.get files file).value
            cases image with
            | none => rfl
            | some image => rfl
      | styleBox pattern =>
          rw [contents, asked, StylePart.place]
          by_cases empty : pattern.isEmpty = true
          · rw [if_pos empty, if_pos empty]
            change _ = Noted.plain (contentsFrom cache.answer outline rect _, cache)
            rw [contentsFrom, if_pos empty]
            rfl
          · rw [if_neg empty, if_neg empty, StylePart.placeAmong_eq, bind_assoc]
            refine Noted.bind_congr ?_
            rw [contentsFrom, if_neg empty]
            rfl

theorem box_eq (files : Files) (outline : Bool) (paint : Option (Paint α)) (rect : Rect α)
    (cache : ImageCache) :
    box files outline paint rect cache =
      askAll files (asked rect paint) cache >>= fun after =>
        .plain (boxFrom after.answer outline (paint, rect), after) := by
  rw [box, contents_eq, bind_assoc]
  exact Noted.bind_congr rfl

/-- Painting boxes is asking for all their names and drawing from the answers. -/
theorem boxes_eq (files : Files) (outline : Bool) (shown : List (Option (Paint α) × Rect α))
    (cache : ImageCache) :
    boxes files outline shown cache =
      askAll files (askedBy shown) cache >>= fun after =>
        .plain (shown.flatMap (boxFrom after.answer outline), after) := by
  induction shown generalizing cache with
  | nil => rfl
  | cons first rest ih =>
      obtain ⟨paint, rect⟩ := first
      rw [boxes, box_eq, bind_assoc, askedBy, List.flatMap_cons, askAll_append, bind_assoc]
      refine Noted.bind_congr ?_
      -- Later answers leave the commands of the first box as they are.
      have stays : boxFrom (askAll files (asked rect paint) cache).value.answer outline
          (paint, rect) = boxFrom _ outline (paint, rect) :=
        boxFrom_congr outline fun name among =>
          (answer_askAll files (askedBy rest) (isSome_askAll files among)).symm
      rw [Noted.plain_bind]
      dsimp only
      rw [ih, bind_assoc]
      refine Noted.bind_congr ?_
      rw [Noted.plain_bind, List.flatMap_cons, stays]
      rfl

end Painter

end BootTheme
