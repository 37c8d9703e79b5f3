import Mathlib.Data.Nat.Basic
import SceneScript.Surface

/-! # The cells of a surface

A surface keeps the colours and the depths of its cells in two arrays, row by row.  `Canvas.place`
is where a cell of the canvas stands in them, and two cells stand at one place only if they are the
same (`Canvas.place_inj`).  Plots and clearings are the `Stroke`s of a surface; they keep an entry
in either array for each cell of the canvas (`Surface.Fits`), so every cell has a colour and a
depth, and none has that is off the canvas.

`Surface.draw_cases` says all that a plot can do: nothing, or write the one cell that it names.
`Surface.strokes_fit` is what holds after any strokes on a blank surface, with the bytes of the
picture and the numbers as a machine with words of 64 bits computes them. -/

namespace SceneScript

/-! ### Canvases -/

namespace Canvas

variable {c : Canvas} {x y x' y' : Int}

/-- The cell is on the canvas. -/
def Holds (c : Canvas) (x y : Int) : Prop :=
  0 ≤ x ∧ x < c.width.toNat ∧ 0 ≤ y ∧ y < c.height.toNat

instance : Decidable (c.Holds x y) :=
  inferInstanceAs (Decidable (0 ≤ x ∧ x < c.width.toNat ∧ 0 ≤ y ∧ y < c.height.toNat))

/-- Where a cell stands, row by row. -/
def place (c : Canvas) (x y : Int) : Nat := y.toNat * c.width.toNat + x.toNat

/-- The place of a cell, in words of 64 bits. -/
def placeWord (c : Canvas) (x y : Int64) : UInt64 :=
  y.toUInt64 * c.width.toUInt64 + x.toUInt64

/-- The number of cells, in words of 64 bits. -/
def cellsWord (c : Canvas) : UInt64 := c.width.toUInt64 * c.height.toUInt64

theorem place_lt_cells (h : c.Holds x y) : c.place x y < c.cells := by
  obtain ⟨_, hx, _, hy⟩ := h
  have hrow : y.toNat + 1 ≤ c.height.toNat := by omega
  calc c.place x y < (y.toNat + 1) * c.width.toNat := by rw [place, Nat.succ_mul]; omega
    _ ≤ c.height.toNat * c.width.toNat := Nat.mul_le_mul_right _ hrow
    _ = c.cells := Nat.mul_comm _ _

/-- Cells of the canvas that stand at one place are the same. -/
theorem place_inj (h : c.Holds x y) (h' : c.Holds x' y') :
    c.place x y = c.place x' y' ↔ x = x' ∧ y = y' := by
  constructor
  · intro hplace
    obtain ⟨hx0, hx, hy0, _⟩ := h
    obtain ⟨hx0', hx', hy0', _⟩ := h'
    have hcolumn : x.toNat = x'.toNat := by
      have hmod := congrArg (· % c.width.toNat) hplace
      simpa [place, Nat.mod_eq_of_lt (show x.toNat < c.width.toNat by omega),
        Nat.mod_eq_of_lt (show x'.toNat < c.width.toNat by omega)] using hmod
    have hrow : y.toNat = y'.toNat := by
      rw [place, place, hcolumn] at hplace
      exact Nat.eq_of_mul_eq_mul_right (by omega) (Nat.add_right_cancel hplace)
    omega
  · rintro ⟨rfl, rfl⟩
    rfl

theorem cells_lt : c.cells < UInt64.size := by
  have hwidth := c.width.toNat_lt
  have hheight := c.height.toNat_lt
  calc c.cells ≤ UInt32.size * c.height.toNat := Nat.mul_le_mul_right _ (Nat.le_of_lt hwidth)
    _ < UInt32.size * UInt32.size := Nat.mul_lt_mul_of_pos_left hheight (by decide)
    _ = UInt64.size := rfl

theorem toNat_cellsWord : c.cellsWord.toNat = c.cells := by
  rw [cellsWord, UInt64.toNat_mul, UInt32.toNat_toUInt64, UInt32.toNat_toUInt64]
  exact Nat.mod_eq_of_lt cells_lt

/-- Words of 64 bits are wide enough for the places of cells. -/
theorem toNat_placeWord {x y : Int64} (h : c.Holds x.toInt y.toInt) :
    (c.placeWord x y).toNat = c.place x.toInt y.toInt := by
  have hplace := Nat.lt_trans (place_lt_cells h) cells_lt
  have hword : ∀ z : Int64, 0 ≤ z.toInt → z.toUInt64.toNat = z.toInt.toNat := fun z hz =>
    Int64.toNat_toUInt64_of_le (Int64.le_iff_toInt_le.mpr hz)
  rw [placeWord, UInt64.toNat_add, UInt64.toNat_mul, UInt32.toNat_toUInt64, hword x h.1,
    hword y h.2.2.1, Nat.mod_add_mod]
  exact Nat.mod_eq_of_lt hplace

/-- Writing one cell of an array leaves the others as they are. -/
theorem getElem?_setIfInBounds_place {α : Type} {cells : Array α} (hsize : cells.size = c.cells)
    (h : c.Holds x y) (h' : c.Holds x' y') (v : α) :
    (cells.setIfInBounds (c.place x y) v)[c.place x' y']? =
      if x' = x ∧ y' = y then some v else cells[c.place x' y']? := by
  have hlt : c.place x y < cells.size := hsize ▸ place_lt_cells h
  rw [Array.getElem?_setIfInBounds, if_pos hlt]
  simp only [place_inj h h', eq_comm]

end Canvas

/-! ### Strokes -/

/-- A cell to be drawn, with its depth and colour. -/
structure Plot where
  x : Int
  y : Int
  depth : Float
  color : Rgb
deriving Repr

/-- Something done to a surface. -/
inductive Stroke where
  | plot (p : Plot)
  | clear
deriving Repr

namespace Surface

variable {s : Surface} {p : Plot} {x y : Int}

/-- Draw a plot. -/
def draw (s : Surface) (p : Plot) : Bool × Surface := s.plot p.x p.y p.depth p.color

/-- The surface after a stroke. -/
def stroked (s : Surface) : Stroke → Surface
  | .plot p => (s.draw p).2
  | .clear => s.clear

/-- The surface after strokes. -/
def after (s : Surface) (strokes : List Stroke) : Surface := strokes.foldl stroked s

/-- There is a colour and a depth for each cell of the canvas. -/
structure Fits (s : Surface) : Prop where
  colors : s.colors.size = s.canvas.cells
  depths : s.depths.size = s.canvas.cells

/-- The surface with the cell of a plot written. -/
def written (s : Surface) (p : Plot) : Surface := { s with
  colors := s.colors.setIfInBounds (s.canvas.place p.x p.y) p.color
  depths := s.depths.setIfInBounds (s.canvas.place p.x p.y) p.depth }

theorem index?_of_holds (h : s.canvas.Holds x y) : s.index? x y = some (s.canvas.place x y) :=
  if_pos h

theorem index?_of_not_holds (h : ¬s.canvas.Holds x y) : s.index? x y = none := if_neg h

theorem color?_of_holds (h : s.canvas.Holds x y) :
    s.color? x y = s.colors[s.canvas.place x y]? := by
  rw [color?, index?_of_holds h, Option.bind_some]

theorem depth?_of_holds (h : s.canvas.Holds x y) :
    s.depth? x y = s.depths[s.canvas.place x y]? := by
  rw [depth?, index?_of_holds h, Option.bind_some]

theorem blank_of_holds {canvas : Canvas} (background : Rgb) (h : canvas.Holds x y) :
    (blank canvas background).color? x y = some background ∧
      (blank canvas background).depth? x y = some farthest := by
  have hlt := Canvas.place_lt_cells h
  rw [color?_of_holds (s := blank canvas background) h,
    depth?_of_holds (s := blank canvas background) h]
  exact ⟨Array.getElem?_replicate.trans (if_pos hlt), Array.getElem?_replicate.trans (if_pos hlt)⟩

/-- A cell off the canvas shows nothing. -/
theorem none_of_not_holds (h : ¬s.canvas.Holds x y) :
    s.color? x y = none ∧ s.depth? x y = none := by
  rw [color?, depth?, index?_of_not_holds h]
  exact ⟨rfl, rfl⟩

/-- A cell has a colour if and only if it is on the canvas. -/
theorem Fits.isSome_color?_iff (hs : s.Fits) : (s.color? x y).isSome ↔ s.canvas.Holds x y := by
  by_cases h : s.canvas.Holds x y
  · rw [color?_of_holds h, isSome_getElem?, hs.colors]
    exact iff_of_true (Canvas.place_lt_cells h) h
  · rw [(none_of_not_holds h).1]
    exact iff_of_false Bool.false_ne_true h

/-- A cell has a depth if and only if it is on the canvas. -/
theorem Fits.isSome_depth?_iff (hs : s.Fits) : (s.depth? x y).isSome ↔ s.canvas.Holds x y := by
  by_cases h : s.canvas.Holds x y
  · rw [depth?_of_holds h, isSome_getElem?, hs.depths]
    exact iff_of_true (Canvas.place_lt_cells h) h
  · rw [(none_of_not_holds h).2]
    exact iff_of_false Bool.false_ne_true h

/-! ### Plots -/

/-- A plot off the canvas or behind what its cell shows does nothing, and any other writes its
cell. -/
theorem draw_cases (hs : s.Fits) (p : Plot) :
    (¬s.canvas.Holds p.x p.y ∧ s.draw p = (false, s)) ∨
      ∃ held, s.depth? p.x p.y = some held ∧ s.canvas.Holds p.x p.y ∧
        ((p.depth < held ∧ s.draw p = (false, s)) ∨
          (¬p.depth < held ∧ s.draw p = (true, s.written p))) := by
  by_cases h : s.canvas.Holds p.x p.y
  · obtain ⟨held, hheld⟩ := Option.isSome_iff_exists.mp (hs.isSome_depth?_iff.mpr h)
    refine .inr ⟨held, hheld, h, ?_⟩
    rw [depth?_of_holds h] at hheld
    have hgetD : s.depths.getD (s.canvas.place p.x p.y) farthest = held := by
      rw [Array.getD_eq_getD_getElem?, hheld, Option.getD_some]
    unfold draw plot
    rw [index?_of_holds h]
    dsimp only
    rw [hgetD]
    by_cases hbehind : p.depth < held
    · exact .inl ⟨hbehind, if_pos hbehind⟩
    · exact .inr ⟨hbehind, if_neg hbehind⟩
  · refine .inl ⟨h, ?_⟩
    unfold draw plot
    rw [index?_of_not_holds h]

theorem color?_written (hs : s.Fits) (hp : s.canvas.Holds p.x p.y) (h : s.canvas.Holds x y) :
    (s.written p).color? x y = if x = p.x ∧ y = p.y then some p.color else s.color? x y := by
  rw [color?_of_holds (s := s.written p) h, color?_of_holds h]
  exact Canvas.getElem?_setIfInBounds_place hs.colors hp h p.color

theorem depth?_written (hs : s.Fits) (hp : s.canvas.Holds p.x p.y) (h : s.canvas.Holds x y) :
    (s.written p).depth? x y = if x = p.x ∧ y = p.y then some p.depth else s.depth? x y := by
  rw [depth?_of_holds (s := s.written p) h, depth?_of_holds h]
  exact Canvas.getElem?_setIfInBounds_place hs.depths hp h p.depth

/-- A plot leaves every other cell as it is. -/
theorem draw_of_ne (hs : s.Fits) (h : ¬(x = p.x ∧ y = p.y)) :
    (s.draw p).2.color? x y = s.color? x y ∧ (s.draw p).2.depth? x y = s.depth? x y := by
  obtain ⟨_, hdraw⟩ | ⟨_, _, hp, ⟨_, hdraw⟩ | ⟨_, hdraw⟩⟩ := draw_cases hs p
  · rw [hdraw]
    exact ⟨rfl, rfl⟩
  · rw [hdraw]
    exact ⟨rfl, rfl⟩
  · rw [hdraw]
    by_cases hheld : s.canvas.Holds x y
    · rw [color?_written hs hp hheld, depth?_written hs hp hheld, if_neg h, if_neg h]
      exact ⟨rfl, rfl⟩
    · obtain ⟨hcolor, hdepth⟩ := none_of_not_holds hheld
      rw [hcolor, hdepth]
      exact none_of_not_holds (s := s.written p) hheld

/-! ### What strokes keep -/

theorem fits_blank (canvas : Canvas) (background : Rgb) : (blank canvas background).Fits :=
  ⟨Array.size_replicate, Array.size_replicate⟩

theorem Fits.written (hs : s.Fits) (p : Plot) : (s.written p).Fits :=
  ⟨Array.size_setIfInBounds.trans hs.colors, Array.size_setIfInBounds.trans hs.depths⟩

/-- Clearing a surface makes it a blank one. -/
theorem Fits.clear_eq (hs : s.Fits) : s.clear = blank s.canvas s.background := by
  unfold Surface.clear blank
  congr 1
  · rw [← hs.colors]
    exact Array.map_const
  · rw [← hs.depths]
    exact Array.map_const

/-- The surface has the canvas and the background, and an entry for each cell. -/
structure Over (canvas : Canvas) (background : Rgb) (s : Surface) : Prop extends Fits s where
  canvas : s.canvas = canvas
  background : s.background = background

theorem over_blank (canvas : Canvas) (background : Rgb) :
    Over canvas background (blank canvas background) :=
  ⟨fits_blank canvas background, rfl, rfl⟩

variable {canvas : Canvas} {background : Rgb}

theorem Over.draw (hs : Over canvas background s) (p : Plot) :
    Over canvas background (s.draw p).2 := by
  obtain ⟨_, hdraw⟩ | ⟨_, _, _, ⟨_, hdraw⟩ | ⟨_, hdraw⟩⟩ := draw_cases hs.toFits p
  · rw [hdraw]
    exact hs
  · rw [hdraw]
    exact hs
  · rw [hdraw]
    exact ⟨hs.toFits.written p, hs.canvas, hs.background⟩

theorem Over.stroked (hs : Over canvas background s) (stroke : Stroke) :
    Over canvas background (s.stroked stroke) := by
  cases stroke with
  | plot p => exact hs.draw p
  | clear =>
      rw [Surface.stroked, hs.toFits.clear_eq, hs.canvas, hs.background]
      exact over_blank canvas background

/-- Strokes keep a surface in shape. -/
theorem Over.after (hs : Over canvas background s) (strokes : List Stroke) :
    Over canvas background (s.after strokes) := by
  induction strokes generalizing s with
  | nil => exact hs
  | cons stroke strokes ih => exact ih (hs.stroked stroke)

/-! ### Bytes -/

theorem getElem?_flatMap_channels {colors : List Rgb} {i : Nat} {c : Rgb}
    (h : colors[i]? = some c) :
    let bytes := colors.flatMap fun c => [c.r, c.g, c.b]
    bytes[3 * i]? = some c.r ∧ bytes[3 * i + 1]? = some c.g ∧ bytes[3 * i + 2]? = some c.b := by
  induction colors generalizing i with
  | nil => cases h
  | cons first colors ih =>
      cases i with
      | zero =>
          obtain rfl := Option.some.inj h
          exact ⟨rfl, rfl, rfl⟩
      | succ i => exact ih h

/-- The bytes of a surface are the channels of its cells, three for each. -/
theorem length_bytes (s : Surface) : s.bytes.length = 3 * s.colors.size := by
  have hbytes : s.bytes.length = (s.colors.toList.map fun _ => 3).sum := List.length_flatMap
  rw [hbytes, List.map_const', List.sum_replicate_nat, Array.length_toList]
  exact Nat.mul_comm _ _

theorem bytes_of_color? {c : Rgb} (h : s.color? x y = some c) :
    let start := 3 * s.canvas.place x y
    s.bytes[start]? = some c.r ∧ s.bytes[start + 1]? = some c.g ∧
      s.bytes[start + 2]? = some c.b := by
  by_cases hheld : s.canvas.Holds x y
  · rw [color?_of_holds hheld, ← Array.getElem?_toList] at h
    exact getElem?_flatMap_channels h
  · rw [(none_of_not_holds hheld).1] at h
    cases h

/-- **What a surface is.**  After any plots and clearings of a blank surface there is a colour and a
depth for each cell of the canvas, and none for any other.  The places of the cells are within both
arrays, and words of 64 bits suffice to compute them.  A plot leaves all cells but its own as they
are; the bytes are the channels of the cells, row by row; and clearing the surface makes it blank
again. -/
theorem strokes_fit (canvas : Canvas) (background : Rgb) (strokes : List Stroke) :
    let s := (blank canvas background).after strokes
    let width := canvas.width.toNat
    let height := canvas.height.toNat
    (s.colors.size = width * height ∧ s.depths.size = width * height ∧
      canvas.cellsWord.toNat = width * height) ∧
    (∀ x y : Int,
      ((s.color? x y).isSome ↔ 0 ≤ x ∧ x < width ∧ 0 ≤ y ∧ y < height) ∧
      ((s.depth? x y).isSome ↔ 0 ≤ x ∧ x < width ∧ 0 ≤ y ∧ y < height)) ∧
    (∀ (x y : Int64) (i : Nat), s.index? x.toInt y.toInt = some i →
      i < s.colors.size ∧ i < s.depths.size ∧ (canvas.placeWord x y).toNat = i) ∧
    (∀ (p : Plot) (x y : Int), ¬(x = p.x ∧ y = p.y) →
      (s.draw p).2.color? x y = s.color? x y ∧ (s.draw p).2.depth? x y = s.depth? x y) ∧
    (s.bytes.length = 3 * width * height ∧
      ∀ (x y : Int) (c : Rgb), s.color? x y = some c →
        let start := 3 * (y.toNat * width + x.toNat)
        s.bytes[start]? = some c.r ∧ s.bytes[start + 1]? = some c.g ∧
          s.bytes[start + 2]? = some c.b) ∧
    s.clear = blank canvas background := by
  intro s width height
  have hs : Over canvas background s := (over_blank canvas background).after strokes
  have hcanvas : s.canvas = canvas := hs.canvas
  have hcolors : s.colors.size = canvas.cells := by rw [hs.colors, hcanvas]
  have hdepths : s.depths.size = canvas.cells := by rw [hs.depths, hcanvas]
  refine ⟨⟨hcolors, hdepths, Canvas.toNat_cellsWord⟩, ?_, ?_, ?_, ⟨?_, ?_⟩, ?_⟩
  · intro x y
    rw [hs.toFits.isSome_color?_iff, hs.toFits.isSome_depth?_iff, hcanvas]
    exact ⟨Iff.rfl, Iff.rfl⟩
  · intro x y i hi
    by_cases hheld : s.canvas.Holds x.toInt y.toInt
    · rw [index?_of_holds hheld] at hi
      obtain rfl := Option.some.inj hi
      rw [hcanvas] at hheld
      rw [hcolors, hdepths, hcanvas, Canvas.toNat_placeWord hheld]
      exact ⟨Canvas.place_lt_cells hheld, Canvas.place_lt_cells hheld, rfl⟩
    · rw [index?_of_not_holds hheld] at hi
      cases hi
  · intro p x y h
    exact draw_of_ne hs.toFits h
  · rw [length_bytes, hcolors, Nat.mul_assoc]
    rfl
  · intro x y c h
    have hbytes := bytes_of_color? h
    rw [hcanvas] at hbytes
    exact hbytes
  · rw [hs.toFits.clear_eq, hcanvas, hs.background]

theorem redrawn_fits :
    let s := (blank ⟨3, 2⟩ .black).after
      [.plot ⟨2, 1, 0, ⟨9, 9, 9⟩⟩, .clear, .plot ⟨0, 1, 0, ⟨1, 2, 3⟩⟩, .plot ⟨0, 2, 0, .black⟩]
    s.index? 2 1 = some 5 ∧ 5 < s.colors.size ∧ s.color? 0 1 = some ⟨1, 2, 3⟩ ∧
      s.bytes[9]? = some 1 ∧ s.bytes[10]? = some 2 ∧ s.bytes[11]? = some 3 ∧
      (s.draw ⟨0, 1, 1, .black⟩).2.color? 2 1 = s.color? 2 1 := by
  intro s
  obtain ⟨_, _, hindex, hplot, ⟨_, hbytes⟩, _⟩ := strokes_fit ⟨3, 2⟩ .black
    [.plot ⟨2, 1, 0, ⟨9, 9, 9⟩⟩, .clear, .plot ⟨0, 1, 0, ⟨1, 2, 3⟩⟩, .plot ⟨0, 2, 0, .black⟩]
  have hplace : s.index? 2 1 = some 5 := by decide +kernel
  have hcolor : s.color? 0 1 = some ⟨1, 2, 3⟩ := by decide +kernel
  obtain ⟨hr, hg, hb⟩ := hbytes 0 1 ⟨1, 2, 3⟩ hcolor
  exact ⟨hplace, (hindex 2 1 5 hplace).1, hcolor, hr, hg, hb,
    (hplot ⟨0, 1, 1, .black⟩ 2 1 (by decide)).1⟩

end Surface
end SceneScript
