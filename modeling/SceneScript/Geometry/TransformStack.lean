import SceneScript.Fault
import SceneScript.Geometry.Motion

/-! # The stack of coordinate systems

A `TransformStack` holds the active coordinate system and those to go back to.  It is never empty
by construction: `top` is always there, and `pop` faults when there is nothing below it. -/

namespace SceneScript

/-- The active matrix and the ones below it, nearest first. -/
structure TransformStack (α : Type) where
  top : Mat4 α
  below : List (Mat4 α)
deriving Repr

namespace TransformStack

variable {α : Type}

/-- The stack of the identity alone. -/
def initial [Zero α] [One α] : TransformStack α := ⟨.identity, []⟩

/-- The number of matrices. -/
def depth (s : TransformStack α) : Nat := s.below.length + 1

/-- Put a copy of the active matrix on top. -/
def push (s : TransformStack α) : TransformStack α := ⟨s.top, s.top :: s.below⟩

/-- Take the active matrix off; the last one cannot be taken. -/
def pop (s : TransformStack α) : Except Fault (Mat4 α × TransformStack α) :=
  match s.below with
  | [] => .error .lastTransform
  | m :: below => .ok (s.top, ⟨m, below⟩)

/-- Replace the active matrix. -/
def withTop (s : TransformStack α) (m : Mat4 α) : TransformStack α := { s with top := m }

/-- Change the active matrix. -/
def modifyTop (s : TransformStack α) (f : Mat4 α → Mat4 α) : TransformStack α :=
  s.withTop (f s.top)

/-- Compose a matrix onto the active one: it acts on points before the active one does. -/
def apply [Add α] [Mul α] (s : TransformStack α) (inner : Mat4 α) : TransformStack α :=
  s.withTop (s.top * inner)

end TransformStack

end SceneScript
