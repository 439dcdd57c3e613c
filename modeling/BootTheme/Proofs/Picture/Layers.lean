import BootTheme.Raster.Canvas

/-!
# How opaque layers are

A color makes a pixel that it is laid over opaque. A pixel of an image is laid over another one
by the rule for two translucent layers, in single precision, which loses the last unit of
the sum for some opacities of the upper one. What a layer decides about the opacity below it is
its mark, and the last mark counts.
-/

namespace BootTheme

/-! ## Marks -/

/-- What a drawing decides about the opacity of a pixel. -/
inductive Mark where
  /-- The pixel becomes opaque. -/
  | solid
  /-- The pixel loses the last unit of its opacity. -/
  | dim
deriving DecidableEq, Repr

namespace Mark

/-- The opacity of a pixel that was decided about. -/
def alpha : Mark → UInt8
  | solid => 255
  | dim => 254

/-- The opacity of a pixel after some marks: the last one counts. -/
def last (marks : List Mark) (alpha : UInt8) : UInt8 :=
  (marks.getLast?.map Mark.alpha).getD alpha

theorem last_append (first second : List Mark) (alpha : UInt8) :
    last (first ++ second) alpha = last second (last first alpha) := by
  unfold last
  rw [List.getLast?_append]
  cases second.getLast? with
  | none => rfl
  | some mark => rfl

/-- Opacities that marks leave. -/
def Near (alpha : UInt8) : Prop := alpha = 255 ∨ alpha = 254

theorem near_last {alpha : UInt8} (near : Near alpha) (marks : List Mark) :
    Near (last marks alpha) := by
  unfold last
  cases marks.getLast? with
  | none => exact near
  | some mark =>
      cases mark with
      | solid => exact .inl rfl
      | dim => exact .inr rfl

/-- Without a pixel that dims, an opaque pixel stays opaque. -/
theorem last_of_not_mem {marks : List Mark} (never : Mark.dim ∉ marks) : last marks 255 = 255 := by
  unfold last
  cases found : marks.getLast? with
  | none => rfl
  | some mark =>
      cases mark with
      | solid => rfl
      | dim => exact absurd (List.mem_of_getLast? found) never

end Mark

/-! ## Layers -/

/-- The marks of a translucent color. -/
def Color.marks (color : Color) (coverage : UInt8) : List Mark :=
  if color.alpha.toNat * coverage.toNat / 255 = 0 then [] else [.solid]

theorem Canvas.alpha_tint (color : Color) (coverage : UInt8) (under : Pixel) :
    (tint color coverage under).alpha = Mark.last (color.marks coverage) under.alpha := by
  unfold tint Color.marks
  dsimp only
  split
  · rfl
  · rfl

namespace Pixel

/-- The marks of a pixel of an image. An opaque one hides what is under it; of the others those
of half opacity or more whose opacity is a multiple of four take a unit from the sum. -/
def marks (top : Pixel) : List Mark :=
  if top.alpha = 255 then [.solid]
  else if 128 ≤ top.alpha.toNat ∧ top.alpha.toNat % 4 = 0 then [.dim]
  else []

/-- The opacity of a pixel over another one depends on their opacities only. -/
theorem alpha_atop (top bottom : Pixel) :
    (top.atop bottom).alpha =
      (atop ⟨0, 0, 0, top.alpha⟩ ⟨0, 0, 0, bottom.alpha⟩).alpha := by
  unfold atop
  split
  · rfl
  · split
    · rfl
    · dsimp only
      split
      · rfl
      · rfl

theorem alpha_atop_plain (alpha : Fin 256) : ∀ under ∈ ([255, 254] : List UInt8),
    (atop ⟨0, 0, 0, UInt8.ofNat alpha⟩ ⟨0, 0, 0, under⟩).alpha =
      Mark.last (marks ⟨0, 0, 0, UInt8.ofNat alpha⟩) under := by
  revert alpha
  decide +kernel

theorem alpha_atop_near (top : Pixel) {bottom : Pixel} (near : Mark.Near bottom.alpha) :
    (top.atop bottom).alpha = Mark.last top.marks bottom.alpha := by
  have whole : UInt8.ofNat (⟨top.alpha.toNat, top.alpha.toNat_lt⟩ : Fin 256).val = top.alpha :=
    UInt8.ofNat_toNat
  have plain := alpha_atop_plain ⟨top.alpha.toNat, top.alpha.toNat_lt⟩ bottom.alpha
    (by simpa [Mark.Near] using near)
  rw [whole] at plain
  rw [alpha_atop, plain]
  rfl

end Pixel

end BootTheme
