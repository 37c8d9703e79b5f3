import SceneScript.Fault

/-! # Surfaces

A `Surface` is what one frame is drawn on: a colour and a depth for every cell of a canvas, row by
row from the top left.  Depth grows toward the viewer, and a cell that nothing was drawn on has
the depth of minus infinity.  `plot` writes a cell unless something nearer is there already. -/

namespace SceneScript

/-- A colour with eight bits in each channel. -/
structure Rgb where
  r : UInt8
  g : UInt8
  b : UInt8
deriving DecidableEq, Repr, Inhabited

/-- Black. -/
def Rgb.black : Rgb := ⟨0, 0, 0⟩

/-- The size of a picture in cells. -/
structure Canvas where
  width : UInt32
  height : UInt32
deriving DecidableEq, Repr, Inhabited

namespace Canvas

/-- The canvas of a size, neither side of which may be zero. -/
def ofSize (width height : UInt32) : Except Fault Canvas :=
  if width = 0 ∨ height = 0 then .error .emptyCanvas else .ok ⟨width, height⟩

/-- The number of cells. -/
def cells (c : Canvas) : Nat := c.width.toNat * c.height.toNat

end Canvas

/-- The depth of a cell that nothing was drawn on. -/
def farthest : Float := -1 / 0

/-- A picture in the making. -/
structure Surface where
  canvas : Canvas
  background : Rgb
  colors : Array Rgb
  depths : Array Float
deriving BEq, Repr, Inhabited

namespace Surface

/-- The surface of a canvas that nothing was drawn on. -/
def blank (canvas : Canvas) (background : Rgb) : Surface where
  canvas := canvas
  background := background
  colors := Array.replicate canvas.cells background
  depths := Array.replicate canvas.cells farthest

/-- The place of a cell in the rows, if it is on the canvas. -/
def index? (s : Surface) (x y : Int) : Option Nat :=
  if 0 ≤ x ∧ x < s.canvas.width.toNat ∧ 0 ≤ y ∧ y < s.canvas.height.toNat then
    some (y.toNat * s.canvas.width.toNat + x.toNat)
  else none

/-- The colour of a cell. -/
def color? (s : Surface) (x y : Int) : Option Rgb := (s.index? x y).bind (s.colors[·]?)

/-- The depth of a cell. -/
def depth? (s : Surface) (x y : Int) : Option Float := (s.index? x y).bind (s.depths[·]?)

/-- Draw a cell at a depth, and say whether it was drawn: not off the canvas, and not behind what
the cell already shows. -/
def plot (s : Surface) (x y : Int) (depth : Float) (color : Rgb) : Bool × Surface :=
  match s.index? x y with
  | none => (false, s)
  | some i =>
    if depth < s.depths.getD i farthest then (false, s)
    else
      (true, { s with
        colors := s.colors.setIfInBounds i color
        depths := s.depths.setIfInBounds i depth })

/-- Forget everything drawn. -/
def clear (s : Surface) : Surface := { s with
  colors := s.colors.map fun _ => s.background
  depths := s.depths.map fun _ => farthest }

/-- The channels of all cells, row by row. -/
def bytes (s : Surface) : List UInt8 := s.colors.toList.flatMap fun c => [c.r, c.g, c.b]

end Surface

end SceneScript
