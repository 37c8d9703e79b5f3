/-! # Points and directions in space

`Vec3 α` is a triple over any type of scalars; the library computes with `Vec3 Float`, and the
laws of its arithmetic can be read over exact scalars. -/

namespace SceneScript

/-- A point or a direction. -/
structure Vec3 (α : Type) where
  x : α
  y : α
  z : α
deriving BEq, DecidableEq, Repr, Inhabited

namespace Vec3

variable {α β : Type}

/-- Apply a function to every component. -/
def map (f : α → β) (v : Vec3 α) : Vec3 β := ⟨f v.x, f v.y, f v.z⟩

/-- Multiply every component by a factor. -/
def scaled [Mul α] (v : Vec3 α) (k : α) : Vec3 α := v.map (· * k)

/-- Add component by component. -/
def add [Add α] (v w : Vec3 α) : Vec3 α := ⟨v.x + w.x, v.y + w.y, v.z + w.z⟩

instance [Add α] : Add (Vec3 α) := ⟨add⟩

/-- The components in order. -/
def toList (v : Vec3 α) : List α := [v.x, v.y, v.z]

end Vec3

end SceneScript
