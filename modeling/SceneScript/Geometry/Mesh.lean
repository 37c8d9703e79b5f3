import SceneScript.Geometry.Mat4

/-! # Triangles and segments

Both are flat lists of points, taken three or two at a time; points left over at the end belong to
no triangle or segment but are carried along by transformations. -/

namespace SceneScript

/-- Triangles, three points each. -/
structure Triangles where
  points : List (Vec3 Float)
deriving BEq, Repr, Inhabited

/-- Line segments, two points each. -/
structure Segments where
  points : List (Vec3 Float)
deriving BEq, Repr, Inhabited

namespace Triangles

/-- Add a triangle. -/
def push (t : Triangles) (a b c : Vec3 Float) : Triangles := ⟨t.points ++ [a, b, c]⟩

/-- Points three at a time. -/
def group : List (Vec3 Float) → List (Vec3 Float × Vec3 Float × Vec3 Float)
  | a :: b :: c :: points => (a, b, c) :: group points
  | _ => []

/-- The triangles one by one. -/
def toList (t : Triangles) : List (Vec3 Float × Vec3 Float × Vec3 Float) := group t.points

/-- Every point mapped by a matrix. -/
def transform (t : Triangles) (m : Mat4 Float) : Triangles := ⟨t.points.map m.mapPoint⟩

end Triangles

namespace Segments

/-- Add a segment. -/
def push (s : Segments) (a b : Vec3 Float) : Segments := ⟨s.points ++ [a, b]⟩

/-- Points two at a time. -/
def group : List (Vec3 Float) → List (Vec3 Float × Vec3 Float)
  | a :: b :: points => (a, b) :: group points
  | _ => []

/-- The segments one by one. -/
def toList (s : Segments) : List (Vec3 Float × Vec3 Float) := group s.points

/-- Every point mapped by a matrix. -/
def transform (s : Segments) (m : Mat4 Float) : Segments := ⟨s.points.map m.mapPoint⟩

end Segments

end SceneScript
