import BootTheme.Proofs.Component.PaintOrder
import BootTheme.Proofs.Layout.AxesApart

/-!
# The axes of a theme do not mix

No box of a theme takes a side along one axis from anything along the other one: overrides
to the left and of widths are taken from the width of the menu, those from the top are made of
constants. So the height of the screen has no part in where a box stands from left to right,
and its width none in where it stands from top to bottom.
-/

namespace BootTheme

namespace Menu

variable {width : Expr Float}

theorem along_itemTop (sizes : ItemSizes) (index : Nat) :
    (itemTop sizes index).Along .vertical := by
  induction index with
  | zero => simp [itemTop]
  | succ index ih => simp [itemTop, ih]

theorem along_itemWidth (sizes : ItemSizes) (along : width.Along .horizontal) :
    (itemWidth sizes width).Along .horizontal := by
  simp [itemWidth, along]

theorem aligned_itemBox (menu : Menu) (sizes : ItemSizes) (along : width.Along .horizontal)
    (index : Nat) (selected : Bool) :
    (menu.itemBox sizes width (itemTop sizes index) index selected).Aligned where
  left := by simp [itemBox]
  top := by simpa [itemBox] using along_itemTop sizes index
  width := by simpa [itemBox] using along
  height := by simp [itemBox]

theorem aligned_iconBox (sizes : ItemSizes) (icon : String) : (iconBox sizes icon).Aligned where
  left := by simp [iconBox]
  top := by simp [iconBox, centered]
  width := by simp [iconBox]
  height := by simp [iconBox]

theorem aligned_textBox (menu : Menu) (sizes : ItemSizes) (along : width.Along .horizontal)
    (index : Nat) (selected : Bool) (text : String) (color : Color) :
    (menu.textBox sizes width index selected text color).Aligned where
  left := by simp [textBox]
  top := by simp [textBox, centered]
  width := by simp [textBox, along]
  height := by simp [textBox]

theorem aligned_frameBox (along : width.Along .horizontal) (pixels : Float)
    (frame : Paint Float) : (frameBox width pixels frame).Aligned where
  left := by simp [frameBox, along]
  top := by simp [frameBox]
  width := by simp [frameBox]
  height := by simp [frameBox]

theorem aligned_entryBoxes (menu : Menu) (sizes : ItemSizes) (settings : Settings) (level : Nat)
    (along : width.Along .horizontal) (entry : MenuEntry) (index : Nat) :
    ∀ inner ∈ menu.entryBoxes sizes settings level width entry index, inner.box.Aligned := by
  intro inner among
  simp only [entryBoxes, List.cons_append, List.mem_cons, List.mem_append, List.mem_map,
    List.not_mem_nil, or_false] at among
  rcases among with rfl | ⟨icon, -, rfl⟩ | rfl
  · exact aligned_itemBox menu sizes along index _
  · exact aligned_iconBox sizes icon
  · exact aligned_textBox menu sizes along index _ _ _

theorem aligned_scrollbarBoxes (properties : Properties) (level : Nat)
    (along : width.Along .horizontal) :
    ∀ inner ∈ scrollbarBoxes properties level width, inner.box.Aligned := by
  intro inner among
  unfold scrollbarBoxes at among
  dsimp only at among
  split at among
  · split at among
    · next frame pixels _ _ =>
        rcases List.mem_cons.1 among with rfl | thumb
        · exact aligned_frameBox along pixels frame
        · cases List.mem_singleton.1 thumb
          exact .of_declared rfl rfl rfl rfl
    · cases among
  · cases among

theorem aligned_boxes (settings : Settings) (level : Nat) {around : Expr Float}
    (along : around.Along .horizontal) (properties : Properties) :
    ∀ inner ∈ boxes settings level around properties, inner.box.Aligned := by
  have own : (ownBox properties).Aligned := .of_declared rfl rfl rfl rfl
  have width := own.extentAgainst along
  intro inner among
  unfold boxes at among
  dsimp only at among
  split at among
  · cases among
  · next sizes _ =>
      simp only [List.cons_append, List.mem_cons, List.mem_append, List.mem_flatMap] at among
      rcases among with rfl | ⟨⟨entry, index⟩, -, inEntry⟩ | inBar
      · exact own
      · exact aligned_entryBoxes _ sizes settings _ (along_itemWidth sizes width) entry index
          inner inEntry
      · exact aligned_scrollbarBoxes properties _ width inner inBar

end Menu

theorem aligned_imageBox (properties : Properties) : properties.imageBox.value.Aligned := by
  unfold Properties.imageBox
  rw [Noted.bind_value, Noted.bind_value, Noted.bind_value]
  split <;> exact .of_declared rfl rfl rfl rfl

mutual

theorem aligned_component (settings : Settings) : ∀ (component : Component) (level : Nat)
    {around : Expr Float}, around.Along .horizontal →
      ∀ inner ∈ component.boxes settings level around, inner.box.Aligned
  | .mk kind properties children span, level, around, along, inner, among => by
      unfold Component.boxes at among
      dsimp only at among
      split at among
      · split at among
        · exact Menu.aligned_boxes settings level along _ inner among
        · cases List.mem_singleton.1 among
          exact .of_declared rfl rfl rfl rfl
        · cases List.mem_singleton.1 among
          exact aligned_imageBox _
        · have canvas : (Properties.canvasBox ⟨"canvas", properties⟩).value.Aligned :=
            .of_declared rfl rfl rfl rfl
          rcases List.mem_cons.1 among with rfl | inside
          · exact canvas
          · exact aligned_components settings children _ (canvas.extentAgainst along) inner inside
        · cases among
      · cases among

theorem aligned_components (settings : Settings) : ∀ (components : List Component) (level : Nat)
    {around : Expr Float}, around.Along .horizontal →
      ∀ inner ∈ Component.boxesOf settings level around components, inner.box.Aligned
  | [], level, around, along, inner, among => by
      rw [Component.boxesOf] at among
      cases among
  | component :: rest, level, around, along, inner, among => by
      rw [Component.boxesOf] at among
      rcases List.mem_append.1 among with first | others
      · exact aligned_component settings component level along inner first
      · exact aligned_components settings rest level along inner others

end

theorem Theme.aligned_boxes (theme : Theme) (settings : Settings) :
    ∀ inner ∈ theme.boxes settings, inner.box.Aligned := by
  intro inner among
  simp only [Theme.boxes, List.cons_append, List.mem_cons, List.mem_append] at among
  rcases among with rfl | background | inside
  · exact .of_declared rfl rfl rfl rfl
  · unfold backgroundBoxes at background
    split at background
    · cases List.mem_singleton.1 background
      exact .of_declared rfl rfl rfl rfl
    · cases background
  · have screen : (.unknown screenWidth : Expr Float).Along .horizontal := Expr.along_screen
    exact aligned_components settings theme.components 1 screen inner inside

/-- The boxes of a listing keep their overrides in the tree. -/
theorem BoxTree.Lists.aligned {tree : BoxTree Float} {listing : List BoxAt}
    (lists : tree.Lists listing) (own : ∀ inner ∈ listing, inner.box.Aligned) : tree.Aligned := by
  intro id box found
  have old : id < listing.length := lists.size ▸ lt_size_of_box? found
  have entry := List.getElem?_eq_getElem old
  obtain ⟨-, parent, children, known⟩ := lists.listed id _ entry
  have aligned := own _ (List.getElem_mem old)
  rw [found] at known
  cases known
  exact ⟨aligned.left, aligned.top, aligned.width, aligned.height⟩

/-- Every box of a theme has a rectangle on every screen. On screens of one width it is the same
from left to right, and on screens of one height it is the same from top to bottom. -/
theorem axes_never_mix (theme : Theme) (settings : Settings) {tree : BoxTree Float}
    (built : (buildTree theme settings).value = .ok tree) (id : Nat) :
    (∀ width height, ∃ rect, tree.resolve (.forScreen width height) id = .ok rect) ∧
    (∀ width first second one other, tree.resolve (.forScreen width first) id = .ok one →
      tree.resolve (.forScreen width second) id = .ok other →
        one.x = other.x ∧ one.width = other.width) ∧
    ∀ height first second one other, tree.resolve (.forScreen first height) id = .ok one →
      tree.resolve (.forScreen second height) id = .ok other →
        one.y = other.y ∧ one.height = other.height := by
  have sound := (settles_buildTree theme settings).holds built
  have aligned := (lists_buildTree theme settings built).1.aligned (theme.aligned_boxes settings)
  refine ⟨fun width height => sound.bound.resolves hundred_nonzero width height id, ?_, ?_⟩
  · intro width first second one other here there
    exact aligned.horizontal (get?_screenWidth width first second) here there
  · intro height first second one other here there
    exact aligned.vertical (get?_screenHeight height first second) here there

/-- The menu of a canvas stays where it is from left to right when the screen gets lower, and from
top to bottom when it gets wider. -/
theorem menuInCanvas_axes_never_mix :
    ∃ tree, (buildTree menuInCanvas twoEntries).value = .ok tree ∧
      ∃ one lower wider, tree.resolve (.forScreen 640 480) 3 = .ok one ∧
        tree.resolve (.forScreen 640 200) 3 = .ok lower ∧
        tree.resolve (.forScreen 800 480) 3 = .ok wider ∧
        (one.x = lower.x ∧ one.width = lower.width) ∧
        one.y = wider.y ∧ one.height = wider.height := by
  obtain ⟨tree, built⟩ := menuInCanvas_built
  obtain ⟨resolves, horizontal, vertical⟩ := axes_never_mix menuInCanvas twoEntries built 3
  obtain ⟨one, here⟩ := resolves 640 480
  obtain ⟨lower, below⟩ := resolves 640 200
  obtain ⟨wider, beside⟩ := resolves 800 480
  exact ⟨tree, built, one, lower, wider, here, below, beside,
    horizontal 640 480 200 one lower here below, vertical 480 640 800 one wider here beside⟩

end BootTheme
