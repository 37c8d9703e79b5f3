import SceneScript.Action
import SceneScript.Geometry.Mesh
import SceneScript.Shading

/-! # Rasterizers

A `Rasterizer σ` is the collaborator that divides shapes into triangles and segments and draws
them on a surface.  It is a record of actions on a state `σ` of its own, and any of them may
fault.  Shapes are divided in their own coordinates; the caller maps the points before it has them
drawn.  A rasterizer that can `fork` makes further ones that work on their own. -/

namespace SceneScript

/-- Something that divides and draws shapes. -/
structure Rasterizer (σ : Type) where
  box : (corner size : Vec3 Float) → Action σ Triangles
  sphere : (center : Vec3 Float) → (radius : Float) → (step : UInt32) → Action σ Triangles
  torus : (center : Vec3 Float) → (minorRadius majorRadius : Float) → (step : UInt32) →
    Action σ Triangles
  line : (p0 p1 : Vec3 Float) → Action σ Segments := fun p0 p1 => pure (Segments.mk [p0, p1])
  drawTriangles : Triangles → Surface → Shading → Action σ Surface
  drawSegments : Segments → Surface → Rgb → Action σ Surface
  /-- The state of a new rasterizer, if there can be one. -/
  fork : σ → Option σ × σ := fun s => (none, s)

end SceneScript
