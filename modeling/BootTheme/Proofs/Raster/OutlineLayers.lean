import BootTheme.Proofs.Number.RoundingOrder
import BootTheme.Proofs.Raster.Fills

/-!
# How often an outline blends a pixel

An outline is filled as four strips, and each strip that covers a pixel blends it once more. The
strips share the corners, and whole sides where the outlined box is one pixel wide or high. So a
color that is not opaque shows there in several layers.
-/

namespace BootTheme

open Float.Model.UnpackedFloat (Sign)

/-! ## Whole numbers near bounds -/

section Edges

variable {value : Float} {place : Nat}

theorem nearest_infinite : Scalar.nearest (infinite .negative) = .below ∧
    Scalar.nearest (infinite .positive) = .above := by
  decide +kernel

theorem Reaches.behind (reaches : Reaches .positive (place + 1 : Int) value) :
    (Scalar.nearest value).Behind place ∧ ¬ (Scalar.nearest value).AtOrBefore place := by
  obtain ⟨number, isNumber, low⟩ | rfl := reaches
  · have near := (nearestInt_bounds number).1
    have less : (place : ℚ) < nearestInt number := by
      change (((place + 1 : Int) : ℚ)) ≤ number at low
      push_cast at low
      linarith
    rw [isNumber.nearest]
    have := Int.cast_lt.1 (by exact_mod_cast less : ((place : Int) : ℚ) < nearestInt number)
    exact ⟨this, not_le.2 this⟩
  · rw [nearest_infinite.2]
    exact ⟨trivial, id⟩

theorem Reaches.atOrBefore (reaches : Reaches .negative (place : Int) value) :
    (Scalar.nearest value).AtOrBefore place ∧ ¬ (Scalar.nearest value).Behind place := by
  obtain ⟨number, isNumber, high⟩ | rfl := reaches
  · have near := (nearestInt_bounds number).2
    have less : (nearestInt number : ℚ) < place + 1 := by
      have high : number ≤ ((place : Int) : ℚ) := neg_le_neg_iff.1 high
      push_cast at high
      linarith
    rw [isNumber.nearest]
    have := Int.cast_lt.1 (by exact_mod_cast less : (nearestInt number : ℚ) < (place + 1 : Int))
    exact ⟨Int.lt_add_one_iff.1 this, not_lt.2 (Int.lt_add_one_iff.1 this)⟩
  · rw [nearest_infinite.1]
    exact ⟨trivial, id⟩

theorem round_infinite (sign : Sign) : Scalar.round (infinite sign) = infinite sign := by
  cases sign <;> rfl

/-- Rounding leaves a double on the same side of the edge of a pixel. -/
theorem reaches_round (defined : Defined value) :
    ((Scalar.nearest value).Behind place →
        Reaches .positive (place + 1 : Int) (Scalar.round value)) ∧
      (¬ (Scalar.nearest value).Behind place →
        Reaches .negative (place : Int) (Scalar.round value)) := by
  obtain ⟨number, isNumber⟩ | ⟨sign, rfl⟩ := defined
  · rw [isNumber.nearest]
    constructor
    · intro behind
      exact isNumber.round.reaches (Int.cast_le.2 (Int.add_one_le_iff.2 behind))
    · intro before
      exact isNumber.round.reaches (neg_le_neg (Int.cast_le.2 (not_lt.1 before)))
  · rw [round_infinite]
    cases sign with
    | negative =>
        rw [nearest_infinite.1]
        exact ⟨False.elim, fun _ => .inr rfl⟩
    | positive =>
        rw [nearest_infinite.2]
        exact ⟨fun _ => .inr rfl, fun before => absurd trivial before⟩

theorem nearest_ne_undefined (defined : Defined value) : Scalar.nearest value ≠ .undefined := by
  obtain ⟨number, isNumber⟩ | ⟨sign, rfl⟩ := defined
  · rw [isNumber.nearest]
    exact Whole.noConfusion
  · cases sign with
    | negative => rw [nearest_infinite.1]; exact Whole.noConfusion
    | positive => rw [nearest_infinite.2]; exact Whole.noConfusion

end Edges

/-! ## The box along an axis -/

/-- A box along an axis: the pixel where it begins, and the edge in front of which it ends. -/
structure Extent where
  start : Int
  edge : Whole

namespace Extent

variable (extent : Extent)

/-- The last pixel. It is the one in front of the edge, or else the first, and there is none if
the edge is infinitely far away. -/
def last? : Option Int :=
  match extent.edge with
  | .undefined => some extent.start
  | .below => some extent.start
  | .above => none
  | .int edge => some (max (edge - 1) extent.start)

/-- A pixel of the box. -/
def Holds (place : Nat) : Prop := extent.start ≤ place ∧ ∀ last ∈ extent.last?, (place : Int) ≤ last

instance (place : Nat) : Decidable (extent.Holds place) := inferInstanceAs (Decidable (_ ∧ _))

/-- How many ends of the box a pixel is: two if it is the only one. -/
def ends (place : Nat) : Nat :=
  (if extent.start = place then 1 else 0) + if extent.last? = some (place : Int) then 1 else 0

variable {extent} {place : Nat}

theorem holds_iff (defined : extent.edge ≠ .undefined) :
    extent.Holds place ↔
      extent.start ≤ place ∧ (extent.start = place ∨ extent.edge.Behind place) := by
  obtain ⟨start, edge⟩ := extent
  cases edge with
  | undefined => exact absurd rfl defined
  | below => simp [Holds, last?, Whole.Behind]; omega
  | above => simp [Holds, last?, Whole.Behind]
  | int edge => simp [Holds, last?, Whole.Behind]; omega

theorem last?_eq_some_iff (defined : extent.edge ≠ .undefined) :
    extent.last? = some (place : Int) ↔
      extent.start ≤ place ∧ ¬ extent.edge.Behind (place + 1) ∧
        (extent.start = place ∨ extent.edge.Behind place) := by
  obtain ⟨start, edge⟩ := extent
  cases edge with
  | undefined => exact absurd rfl defined
  | below => simp [last?, Whole.Behind]; omega
  | above => simp [last?, Whole.Behind]
  | int edge => simp [last?, Whole.Behind]; omega

end Extent

/-! ## The strips along an axis -/

/-- A pixel that a strip of some length covers along an axis. -/
def Spans (edge length : Float) (place : Nat) : Prop :=
  (Scalar.nearest edge).AtOrBefore place ∧ (Scalar.nearest (edge + length)).Behind place

theorem isNumber_one : IsNumber (Scalar.ofNat 1) ((1 : Int) : ℚ) := by
  have one := @isNumber_ofNat 1 (by decide)
  exact_mod_cast one

section

variable {edge : Float} {place : Nat}

theorem spans_one (fits : place < 2 ^ 32) (low : Reaches .positive (place : Int) edge)
    (high : Reaches .negative (place : Int) edge) : Spans edge (Scalar.ofNat 1) place :=
  ⟨high.atOrBefore.1, (low.add_whole (isNumber_one.reaches le_rfl) (by omega)).behind.1⟩

theorem not_spans_one (fits : place < 2 ^ 32)
    (apart : Reaches .positive (place + 1 : Int) edge ∨ Reaches .negative (place - 1 : Int) edge) :
    ¬ Spans edge (Scalar.ofNat 1) place := by
  rintro ⟨atOrBefore, behind⟩
  rcases apart with above | below
  · exact above.behind.2 atOrBefore
  · have sum := below.add_whole (isNumber_one.reaches le_rfl) (by omega)
    rw [sub_add_cancel] at sum
    exact sum.atOrBefore.2 behind

end

instance (edge length : Float) (place : Nat) : Decidable (Spans edge length place) :=
  inferInstanceAs (Decidable (_ ∧ _))

/-- Origin and size of a rectangle along an axis. -/
structure Segment where
  origin : Float
  size : Float

namespace Segment

variable (segment : Segment)

/-- Where the sides begin. -/
def start : Float := Scalar.round segment.origin

/-- Where the last pixel would begin. -/
def stop : Float := Scalar.round (segment.origin + segment.size) - Scalar.ofNat 1

/-- From the first to the last pixel, both counted. -/
def span : Float := segment.stop - segment.start + Scalar.ofNat 1

/-- How long the sides are. -/
def length : Float := Scalar.larger segment.span (Scalar.ofNat 1)

/-- Where the far side begins. -/
def far : Float := Scalar.larger segment.stop segment.start

/-- The numbers of an axis. -/
structure Amounts (first size : ℚ) : Prop where
  origin : IsNumber segment.origin first
  size : IsNumber segment.size size

variable {segment} {first size : ℚ} {sign : Sign} {whole : Int} {place : Nat}

/-- The box that is outlined, along an axis. -/
def extent (segment : Segment) (first : ℚ) : Extent :=
  ⟨nearestInt first, Scalar.nearest (segment.origin + segment.size)⟩

section

variable (amounts : segment.Amounts first size)
include amounts

theorem Amounts.start : IsNumber segment.start (nearestInt first) := amounts.origin.round

theorem Amounts.defined : Defined (segment.origin + segment.size) :=
  (amounts.origin.add_roundsTo amounts.size).defined

theorem Amounts.edge_ne : (segment.extent first).edge ≠ .undefined :=
  nearest_ne_undefined amounts.defined

/-- Where the last pixel would begin, from the edge of the box. -/
theorem Amounts.stop (fits : place ≤ 2 ^ 32) :
    ((segment.extent first).edge.Behind place → Reaches .positive (place : Int) segment.stop) ∧
      (¬ (segment.extent first).edge.Behind place →
        Reaches .negative (place - 1 : Int) segment.stop) := by
  obtain ⟨far, near⟩ := @reaches_round _ place amounts.defined
  constructor
  · intro behind
    have reaches := (far behind).sub_whole isNumber_one (by omega)
    rwa [add_sub_cancel_right] at reaches
  · intro before
    exact (near before).sub_whole isNumber_one (by omega)

theorem Amounts.stop_defined : Defined segment.stop := by
  obtain ⟨far, near⟩ := amounts.stop (Nat.zero_le _)
  by_cases behind : (segment.extent first).edge.Behind 0
  · exact (far behind).defined
  · exact (near behind).defined

/-! ### Sides across the axis -/

/-- The near side covers the first place. -/
theorem Amounts.spans_start_iff (fits : place < 2 ^ 32) :
    Spans segment.start (Scalar.ofNat 1) place ↔ (segment.extent first).start = place := by
  have start := amounts.start
  change _ ↔ nearestInt first = place
  constructor
  · intro spans
    by_contra other
    refine not_spans_one fits ?_ spans
    rcases lt_or_gt_of_ne other with before | behind
    · exact .inr (start.reaches (neg_le_neg (Int.cast_le.2 (by omega))))
    · exact .inl (start.reaches (Int.cast_le.2 behind))
  · intro same
    rw [same] at start
    exact spans_one fits (start.reaches le_rfl) (start.reaches le_rfl)

/-- The far side covers the last place. -/
theorem Amounts.spans_far_iff (fits : place < 2 ^ 32) :
    Spans segment.far (Scalar.ofNat 1) place ↔
      (segment.extent first).last? = some (place : Int) := by
  have start := amounts.start
  obtain ⟨farHere, nearHere⟩ := amounts.stop fits.le
  obtain ⟨farNext, nearNext⟩ := @Amounts.stop _ _ _ (place + 1) amounts fits
  rw [Extent.last?_eq_some_iff amounts.edge_ne]
  change _ ↔ nearestInt first ≤ place ∧ _ ∧ (nearestInt first = place ∨ _)
  constructor
  · intro spans
    have low : nearestInt first ≤ place := by
      by_contra behind
      refine not_spans_one fits (.inl ?_) spans
      exact larger_reaches_positive amounts.stop_defined start
        (.inr (Int.cast_le.2 (not_le.1 behind)))
    refine ⟨low, fun next => ?_, ?_⟩
    · refine not_spans_one fits (.inl ?_) spans
      exact larger_reaches_positive amounts.stop_defined start (.inl (farNext next))
    · by_contra neither
      obtain ⟨other, before⟩ := not_or.1 neither
      refine not_spans_one fits (.inr ?_) spans
      exact larger_reaches_negative (nearHere before) start (Int.cast_le.2 (by omega))
  · rintro ⟨low, last, reached⟩
    have high := nearNext last
    rw [Nat.cast_add_one, add_sub_cancel_right] at high
    refine spans_one fits ?_ (larger_reaches_negative high start (Int.cast_le.2 low))
    exact larger_reaches_positive amounts.stop_defined start
      (reached.symm.imp farHere fun same => Int.cast_le.2 same.ge)

/-! ### Sides along the axis -/

theorem Amounts.span (reaches : Reaches sign (whole : ℚ) segment.stop)
    (fits : (whole - nearestInt first).natAbs < 2 ^ 53 - 1) :
    Reaches sign ((whole - nearestInt first + 1 : Int) : ℚ) segment.span :=
  (reaches.sub_whole amounts.start (by omega)).add_whole (isNumber_one.reaches le_rfl) (by omega)

/-- A strip along the axis is at least one pixel long, and as long as to the edge of the box if
this is a double. -/
theorem Amounts.holds_spans (near : -2 ^ 52 ≤ nearestInt first) (fits : place < 2 ^ 32)
    (holds : (segment.extent first).Holds place) : Spans segment.start segment.length place := by
  have start := amounts.start
  obtain ⟨low, reached⟩ := (Extent.holds_iff amounts.edge_ne).1 holds
  change nearestInt first ≤ place at low
  have length : Reaches .positive ((place + 1 - nearestInt first : Int) : ℚ) segment.length := by
    by_cases behind : (segment.extent first).edge.Behind place
    · have span := amounts.span ((amounts.stop fits.le).1 behind) (by omega)
      rw [sub_add_eq_add_sub] at span
      exact larger_reaches_positive span.defined isNumber_one (.inl span)
    · have same : nearestInt first = place := reached.resolve_right behind
      have span := amounts.span ((amounts.stop fits.le).2 behind) (by omega)
      exact larger_reaches_positive span.defined isNumber_one
        (.inr (Int.cast_le.2 (by omega)))
  have sum := (start.reaches le_rfl).add_whole length (by omega)
  rw [add_sub_cancel] at sum
  exact ⟨(start.reaches (neg_le_neg (Int.cast_le.2 low))).atOrBefore.1, sum.behind.1⟩

/-- A strip along the axis ends at the edge of the box or in front of it. -/
theorem Amounts.spans_holds_of_near (near : -2 ^ 52 ≤ nearestInt first) (fits : place < 2 ^ 32)
    (spans : Spans segment.start segment.length place) : (segment.extent first).Holds place := by
  have start := amounts.start
  have low := spans.1
  rw [start.nearest, nearestInt_intCast] at low
  change nearestInt first ≤ place at low
  rw [Extent.holds_iff amounts.edge_ne]
  refine ⟨low, ?_⟩
  by_contra neither
  obtain ⟨other, before⟩ := not_or.1 neither
  change ¬ nearestInt first = place at other
  have span := amounts.span ((amounts.stop fits.le).2 before) (by omega)
  have length := larger_reaches_negative span isNumber_one (Int.cast_le.2 (by omega))
  have sum := (start.reaches le_rfl).add_whole length (by omega)
  have whole : nearestInt first + (place - 1 - nearestInt first + 1) = place := by omega
  rw [whole] at sum
  exact sum.atOrBefore.2 spans.2

/-- A box that begins far in front of the canvas begins at a whole double. -/
theorem Amounts.first_of_far (far : nearestInt first < -2 ^ 52) :
    ∃ before : Nat, IsDouble (before : ℚ) ∧ 2 ^ 52 ≤ (before : ℚ) ∧ first = -(before : ℚ) ∧
      nearestInt first = -before := by
  have low := (nearestInt_bounds first).1
  have least : nearestInt first ≤ -2 ^ 52 - 1 := by omega
  have whole : (nearestInt first : ℚ) ≤ -2 ^ 52 - 1 := by exact_mod_cast least
  have great : (2 : ℚ) ^ 52 ≤ -first := by linarith
  have isDouble : IsDouble (-first) := isDouble_neg ⟨_, amounts.origin⟩
  obtain ⟨before, count⟩ := exists_count_of_great isDouble great
  refine ⟨before, count ▸ isDouble, count ▸ great, ?_, ?_⟩
  · rw [← count, neg_neg]
  · have origin : first = ((-before : Int) : ℚ) := by
      push_cast
      linarith
    rw [origin, nearestInt_intCast]

/-- Where a box ends that begins far in front of the canvas, if it ends in front of a place of the
canvas: its distance from the beginning of the box is rounded to no more than a double. -/
theorem Amounts.edge_of_far {before : Nat} (isBefore : IsDouble (before : ℚ))
    (great : 2 ^ 52 ≤ (before : ℚ)) (origin : first = -(before : ℚ)) (fits : place < 2 ^ 32)
    (ended : ¬ (segment.extent first).edge.Behind place) :
    ∃ rest ≤ place, IsDouble ((before + rest : Nat) : ℚ) ∧
      Reaches .negative (rest : Int) (segment.origin + segment.size) := by
  have sum := amounts.origin.add_roundsTo amounts.size
  rw [origin] at sum
  by_cases short : size ≤ before
  · refine ⟨0, Nat.zero_le _, isBefore, ?_⟩
    refine sum.reaches (isDouble_intCast (by decide)) (neg_le_neg ?_)
    push_cast
    linarith
  obtain ⟨reach, rfl⟩ :=
    exists_count_of_great ⟨_, amounts.size⟩ (great.trans (not_le.1 short).le)
  obtain ⟨rest, rfl⟩ := Nat.exists_eq_add_of_le (Nat.cast_lt.1 (not_le.1 short)).le
  have exact : -(before : ℚ) + (before + rest : Nat) = (rest : Int) := by
    push_cast
    ring
  rw [exact] at sum
  have within : rest ≤ place := by
    by_contra beyond
    have far : Reaches .positive (place + 1 : Int) (segment.origin + segment.size) :=
      sum.reaches (isDouble_intCast (by omega)) (Int.cast_le.2 (by omega))
    exact ended far.behind.1
  exact ⟨rest, within, ⟨_, amounts.size⟩, sum.reaches (isDouble_intCast (by omega)) le_rfl⟩

/-- A strip along the axis ends at the edge of the box or in front of it, also where the box
begins so far away that its length is rounded. -/
theorem Amounts.spans_holds (fits : place < 2 ^ 32)
    (spans : Spans segment.start segment.length place) : (segment.extent first).Holds place := by
  by_cases near : -2 ^ 52 ≤ nearestInt first
  · exact amounts.spans_holds_of_near near fits spans
  obtain ⟨before, isBefore, great, origin, nearest⟩ := amounts.first_of_far (not_le.1 near)
  have start := amounts.start
  rw [Extent.holds_iff amounts.edge_ne]
  refine ⟨by change nearestInt first ≤ place; omega, ?_⟩
  by_contra neither
  obtain ⟨rest, within, isReach, edge⟩ :=
    amounts.edge_of_far isBefore great origin fits (not_or.1 neither).2
  have stop := (amounts.stop (by omega)).2 edge.atOrBefore.2
  have longer : (before : ℚ) ≤ (before + rest : Nat) := Nat.cast_le.2 (Nat.le_add_right _ _)
  have span : Reaches .negative ((before + rest : Nat) : ℚ) segment.span := by
    obtain ⟨number, isNumber, high⟩ | infinity := stop
    · have distance := isNumber.add_roundsTo start.neg
      rw [← sub_eq_add_neg_number start] at distance
      refine reaches_add_one isReach (great.trans longer) distance ?_
        (by exact_mod_cast isNumber_one)
      have high := neg_le_neg_iff.1 high
      rw [nearest]
      push_cast at high ⊢
      linarith
    · right
      rw [Segment.span, infinity, sub_eq_add_neg_number start, infinite_add start.neg,
        infinite_add isNumber_one]
  have one : ((1 : Int) : ℚ) ≤ (before + rest : Nat) := by
    push_cast at longer ⊢
    linarith
  have length := larger_reaches_negative span isNumber_one one
  have sum : Reaches .negative (place : Int) (segment.start + segment.length) := by
    refine (start.reaches le_rfl).add length (isDouble_intCast (by omega)) (neg_le_neg ?_)
    have inside : (rest : ℚ) ≤ place := Nat.cast_le.2 within
    rw [nearest]
    push_cast
    linarith
  exact sum.atOrBefore.2 spans.2

end

end Segment

/-! ## Layers -/

namespace Rect

variable (rect : Rect Float)

def horizontal : Segment := ⟨rect.x, rect.width⟩

def vertical : Segment := ⟨rect.y, rect.height⟩

/-- The columns of the box that an outline goes around. -/
def columns (exact : Rect ℚ) : Extent := rect.horizontal.extent exact.x

/-- The rows of the box that an outline goes around. -/
def rows (exact : Rect ℚ) : Extent := rect.vertical.extent exact.y

theorem sides_eq :
    rect.sides =
      [⟨rect.horizontal.start, rect.vertical.start, rect.horizontal.length, Scalar.ofNat 1⟩,
        ⟨rect.horizontal.start, rect.vertical.far, rect.horizontal.length, Scalar.ofNat 1⟩,
        ⟨rect.horizontal.start, rect.vertical.start, Scalar.ofNat 1, rect.vertical.length⟩,
        ⟨rect.horizontal.far, rect.vertical.start, Scalar.ofNat 1, rect.vertical.length⟩] :=
  rfl

end Rect

/-- How many sides of a box a pixel lies on. -/
def sidesAt (columns rows : Extent) (column row : Nat) : Nat :=
  if columns.Holds column ∧ rows.Holds row then columns.ends column + rows.ends row else 0

section

variable {rect : Rect Float} {exact : Rect ℚ} {column row : Nat}

theorem Rect.covers_iff_spans (x y width height : Float) :
    (⟨x, y, width, height⟩ : Rect Float).Covers column row ↔
      Spans x width column ∧ Spans y height row := Iff.rfl

theorem Extent.holds_of_end {extent : Extent} {place : Nat} (defined : extent.edge ≠ .undefined)
    (isEnd : extent.start = place ∨ extent.last? = some (place : Int)) : extent.Holds place := by
  rw [holds_iff defined]
  rcases isEnd with first | last
  · exact ⟨first.le, .inl first⟩
  · obtain ⟨low, -, reached⟩ := (last?_eq_some_iff defined).1 last
    exact ⟨low, reached⟩

theorem layer_le_layer {p q : Prop} [Decidable p] [Decidable q] (imp : p → q) :
    (if p then 1 else 0) ≤ if q then 1 else 0 := by
  by_cases here : p
  · rw [if_pos here, if_pos (imp here)]
  · rw [if_neg here]
    exact Nat.zero_le _

theorem Rect.countP_sides :
    (rect.sides.countP fun side => side.Covers column row) =
      (if Spans rect.horizontal.start rect.horizontal.length column ∧
          Spans rect.vertical.start (Scalar.ofNat 1) row then 1 else 0) +
      (if Spans rect.horizontal.start rect.horizontal.length column ∧
          Spans rect.vertical.far (Scalar.ofNat 1) row then 1 else 0) +
      (if Spans rect.horizontal.start (Scalar.ofNat 1) column ∧
          Spans rect.vertical.start rect.vertical.length row then 1 else 0) +
      if Spans rect.horizontal.far (Scalar.ofNat 1) column ∧
          Spans rect.vertical.start rect.vertical.length row then 1 else 0 := by
  rw [Rect.sides_eq]
  simp only [List.countP_cons, List.countP_nil, decide_eq_true_eq, Rect.covers_iff_spans]
  omega

variable (amounts : rect.Amounts exact)
include amounts

theorem Rect.Amounts.horizontal : rect.horizontal.Amounts exact.x exact.width :=
  ⟨amounts.x, amounts.width⟩

theorem Rect.Amounts.vertical : rect.vertical.Amounts exact.y exact.height :=
  ⟨amounts.y, amounts.height⟩

/-- The strips of an outline that cover a pixel are at most the sides of the box that it lies on,
and just these where the box does not begin too far in front of the canvas. -/
theorem Rect.Amounts.countP_sides (inWidth : column < 2 ^ 32) (inHeight : row < 2 ^ 32) :
    (rect.sides.countP fun side => side.Covers column row) ≤
        sidesAt (rect.columns exact) (rect.rows exact) column row ∧
      (-2 ^ 52 ≤ nearestInt exact.x → -2 ^ 52 ≤ nearestInt exact.y →
        (rect.sides.countP fun side => side.Covers column row) =
          sidesAt (rect.columns exact) (rect.rows exact) column row) := by
  have across := amounts.horizontal
  have down := amounts.vertical
  rw [Rect.countP_sides, sidesAt, Extent.ends, Extent.ends, Rect.columns, Rect.rows]
  simp only [across.spans_start_iff inWidth, across.spans_far_iff inWidth,
    down.spans_start_iff inHeight, down.spans_far_iff inHeight]
  have columnEnd := @Extent.holds_of_end _ column across.edge_ne
  have rowEnd := @Extent.holds_of_end _ row down.edge_ne
  by_cases holds : (rect.horizontal.extent exact.x).Holds column ∧
      (rect.vertical.extent exact.y).Holds row
  · rw [if_pos holds]
    constructor
    · rw [add_assoc, add_comm]
      exact Nat.add_le_add
        (Nat.add_le_add (layer_le_layer And.left) (layer_le_layer And.left))
        (Nat.add_le_add (layer_le_layer And.right) (layer_le_layer And.right))
    · intro columnNear rowNear
      simp only [across.holds_spans columnNear inWidth holds.1,
        down.holds_spans rowNear inHeight holds.2, true_and, and_true]
      omega
  · have columnHolds := across.spans_holds inWidth
    have rowHolds := down.spans_holds inHeight
    rw [if_neg holds, if_neg fun covers => holds ⟨columnHolds covers.1, rowEnd (.inl covers.2)⟩,
      if_neg fun covers => holds ⟨columnHolds covers.1, rowEnd (.inr covers.2)⟩,
      if_neg fun covers => holds ⟨columnEnd (.inl covers.1), rowHolds covers.2⟩,
      if_neg fun covers => holds ⟨columnEnd (.inr covers.1), rowHolds covers.2⟩]
    exact ⟨le_rfl, fun _ _ => rfl⟩

end

namespace Canvas

/-- Rectangles filled one after the other blend a pixel once for each of them that covers it. -/
theorem pixel_fills {α : Type} [Scalar α] {canvas : Image} (rects : List (Rect α)) (color : Color)
    {column row : Nat} (there : canvas.Holds column row) :
    (rects.foldl (fun canvas rect => fill canvas rect color) canvas).pixel column row =
      (tint color 255)^[rects.countP fun rect => rect.Covers column row]
        (canvas.pixel column row) := by
  induction rects generalizing canvas with
  | nil => rfl
  | cons rect rects ih =>
      have still : (fill canvas rect color).Holds column row := by
        rwa [Image.Holds, width_fill, height_fill]
      rw [List.foldl_cons, ih still, pixel_fill rect color there, List.countP_cons]
      by_cases covers : rect.Covers column row
      · rw [if_pos covers, if_pos (decide_eq_true covers), Function.iterate_succ_apply]
      · rw [if_neg covers, if_neg (by simpa using covers), Nat.add_zero]

theorem iterate_tint_solid {color : Color} (solid : color.alpha = 255) {layers : Nat}
    (some : layers ≠ 0) (under : Pixel) : (tint color 255)^[layers] under = color.pixel := by
  obtain ⟨fewer, rfl⟩ := Nat.exists_eq_succ_of_ne_zero some
  rw [Function.iterate_succ_apply', tint_solid solid]

/-- An outline changes only pixels that lie on sides of its box, and blends each of them once for
every side it lies on: corners twice, and the pixels of a box that is one pixel wide or high up to
four times. Only an opaque color shows no difference. The strips may end too early where the box
begins further in front of the canvas than whole doubles are dense. -/
theorem outline_blends_in_layers (canvas : Image) (inWidth : canvas.width ≤ 2 ^ 32)
    (inHeight : canvas.height ≤ 2 ^ 32) (rect : Rect Float) (finite : rect.IsFinite)
    (color : Color) :
    ∃ exact, rect.Amounts exact ∧ ∀ column row, canvas.Holds column row →
      ∃ layers ≤ sidesAt (rect.columns exact) (rect.rows exact) column row,
        (stroke canvas rect color).pixel column row =
          (tint color 255)^[layers] (canvas.pixel column row) ∧
        (-2 ^ 52 ≤ nearestInt exact.x → -2 ^ 52 ≤ nearestInt exact.y →
          layers = sidesAt (rect.columns exact) (rect.rows exact) column row) ∧
        (color.alpha = 255 → layers ≠ 0 →
          (stroke canvas rect color).pixel column row = color.pixel) := by
  obtain ⟨exact, amounts⟩ := finite.exists_amounts
  refine ⟨exact, amounts, fun column row there => ?_⟩
  obtain ⟨most, same⟩ :=
    amounts.countP_sides (there.1.trans_le inWidth) (there.2.trans_le inHeight)
  have painted := pixel_fills rect.sides color there
  refine ⟨_, most, painted, same, fun solid some => ?_⟩
  exact painted.trans (iterate_tint_solid solid some _)

/-- A frame of three by three pixels. -/
def frame : Rect Float := ⟨0, 0, 3, 3⟩

/-- A red that is half transparent. -/
def halfRed : Color := ⟨255, 0, 0, 128⟩

theorem frame_corner_is_darker :
    ((blank 4 4).width ≤ 2 ^ 32 ∧ (blank 4 4).height ≤ 2 ^ 32 ∧ frame.IsFinite) ∧
      (stroke (blank 4 4) frame halfRed).pixel 1 0 = tint halfRed 255 .black ∧
      (stroke (blank 4 4) frame halfRed).pixel 0 0 =
        tint halfRed 255 (tint halfRed 255 .black) ∧
      (stroke (blank 4 4) frame halfRed).pixel 1 1 = .black := by
  have finite : frame.IsFinite := by
    constructor <;> decide +kernel
  have small : 4 ≤ 2 ^ 32 := by norm_num
  obtain ⟨exact, amounts, blends⟩ :=
    outline_blends_in_layers (blank 4 4) small small frame finite halfRed
  have origin : Scalar.nearest frame.x = .int 0 := by decide +kernel
  have left : nearestInt exact.x = 0 := Whole.int.inj (amounts.x.nearest.symm.trans origin)
  have top : nearestInt exact.y = 0 := Whole.int.inj (amounts.y.nearest.symm.trans origin)
  have edge : Scalar.nearest (frame.x + frame.width) = .int 3 := by decide +kernel
  have columns : frame.columns exact = ⟨0, .int 3⟩ := congrArg₂ Extent.mk left edge
  have rows : frame.rows exact = ⟨0, .int 3⟩ := congrArg₂ Extent.mk top edge
  have shown (count : Nat) {column row : Nat} (there : (blank 4 4).Holds column row)
      (sides : sidesAt ⟨0, .int 3⟩ ⟨0, .int 3⟩ column row = count) :
      (stroke (blank 4 4) frame halfRed).pixel column row =
        (tint halfRed 255)^[count] ((blank 4 4).pixel column row) := by
    obtain ⟨layers, -, painted, exactly, -⟩ := blends column row there
    rw [columns, rows] at exactly
    rw [painted, exactly (left ▸ by decide) (top ▸ by decide), sides]
  refine ⟨⟨small, small, finite⟩, ?_, ?_, ?_⟩
  · exact shown 1 ⟨by decide, by decide⟩ (by decide)
  · exact shown 2 ⟨by decide, by decide⟩ (by decide)
  · exact shown 0 ⟨by decide, by decide⟩ (by decide)

/-- A corner is not blended once. -/
theorem frame_corner_is_blended_twice :
    (stroke (blank 4 4) frame halfRed).pixel 0 0 ≠
      tint halfRed 255 ((blank 4 4).pixel 0 0) := by
  have twice : (frame.sides.countP fun side => side.Covers 0 0) = 2 := by decide +kernel
  rw [stroke, pixel_fills frame.sides halfRed ⟨by decide, by decide⟩, twice]
  decide

end Canvas

end BootTheme
