import SceneScript.Geometry.Mat4
import SceneScript.Text.Blank

/-! # Motions

A `Motion` is an elementary change of the coordinate system: a move, a scaling along the axes, or
a rotation about an axis by an angle in degrees.  A knob stretches a motion by a factor, and
`Motion.matrix` gives the matrix of a motion over any scalars that have a cosine and a sine. -/

namespace SceneScript

/-- A principal axis. -/
inductive Axis where
  | x
  | y
  | z
deriving DecidableEq, Repr, Inhabited

namespace Axis

/-- The name of an axis. -/
def name : Axis → String
  | x => "x"
  | y => "y"
  | z => "z"

/-- The axis that a word names, in either case and with blanks around it. -/
def parse? (s : String) : Option Axis :=
  match Text.trim s with
  | "x" | "X" => some x
  | "y" | "Y" => some y
  | "z" | "Z" => some z
  | _ => none

end Axis

/-- The cosine and the sine of an angle in degrees. -/
class Trigonometry (α : Type) where
  cos : α → α
  sin : α → α

/-- One degree in radians, rounded. -/
def radiansPerDegree : Float := 3.141592653589793 / 180

instance : Trigonometry Float where
  cos degrees := Float.cos (degrees * radiansPerDegree)
  sin degrees := Float.sin (degrees * radiansPerDegree)

/-- An elementary change of the coordinate system. -/
inductive Motion (α : Type) where
  | move (offset : Vec3 α)
  | scale (factors : Vec3 α)
  | rotate (axis : Axis) (degrees : α)
deriving Repr

namespace Mat4

variable {α : Type}

/-- The matrix of a move. -/
def ofMove [Zero α] [One α] (offset : Vec3 α) : Mat4 α :=
  ⟨⟨1, 0, 0, 0⟩, ⟨0, 1, 0, 0⟩, ⟨0, 0, 1, 0⟩, ⟨offset.x, offset.y, offset.z, 1⟩⟩

/-- The matrix of a scaling. -/
def ofScale [Zero α] [One α] (factors : Vec3 α) : Mat4 α :=
  ⟨⟨factors.x, 0, 0, 0⟩, ⟨0, factors.y, 0, 0⟩, ⟨0, 0, factors.z, 0⟩, ⟨0, 0, 0, 1⟩⟩

/-- The matrix of a rotation by the angle with cosine `c` and sine `s`. -/
def ofRotation [Zero α] [One α] [Neg α] (axis : Axis) (c s : α) : Mat4 α :=
  match axis with
  | .x => ⟨⟨1, 0, 0, 0⟩, ⟨0, c, s, 0⟩, ⟨0, -s, c, 0⟩, ⟨0, 0, 0, 1⟩⟩
  | .y => ⟨⟨c, 0, -s, 0⟩, ⟨0, 1, 0, 0⟩, ⟨s, 0, c, 0⟩, ⟨0, 0, 0, 1⟩⟩
  | .z => ⟨⟨c, s, 0, 0⟩, ⟨-s, c, 0, 0⟩, ⟨0, 0, 1, 0⟩, ⟨0, 0, 0, 1⟩⟩

end Mat4

namespace Motion

variable {α : Type}

/-- The motion with every number multiplied by a factor; the axis of a rotation stays. -/
def scaled [Mul α] (m : Motion α) (k : α) : Motion α :=
  match m with
  | move offset => move (offset.scaled k)
  | scale factors => scale (factors.scaled k)
  | rotate axis degrees => rotate axis (degrees * k)

/-- The matrix of a motion. -/
def matrix [Zero α] [One α] [Neg α] [Trigonometry α] : Motion α → Mat4 α
  | move offset => .ofMove offset
  | scale factors => .ofScale factors
  | rotate axis degrees => .ofRotation axis (Trigonometry.cos degrees) (Trigonometry.sin degrees)

end Motion

end SceneScript
