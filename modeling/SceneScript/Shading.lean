import SceneScript.Geometry.Vec3
import SceneScript.Surface

/-! # Lighting and reflection

The library only selects these parameters and hands them to a rasterizer. -/

namespace SceneScript

/-- How a shape reflects light, channel by channel; a named one is a set of constants. -/
structure Reflectance where
  ambient : Vec3 Float
  diffuse : Vec3 Float
  specular : Vec3 Float
deriving BEq, Repr, Inhabited

/-- The reflectance of shapes when nothing else is said. -/
def Reflectance.standard : Reflectance where
  ambient := ⟨0.1, 0.1, 0.1⟩
  diffuse := ⟨0.5, 0.5, 0.5⟩
  specular := ⟨0.5, 0.5, 0.5⟩

/-- A light at a point. -/
structure PointLight where
  position : Vec3 Float
  color : Rgb
deriving BEq, Repr, Inhabited

/-- The light of a scene. -/
structure Lighting where
  view : Vec3 Float
  ambient : Rgb
  light : PointLight
deriving BEq, Repr, Inhabited

/-- The light when nothing else is said. -/
def Lighting.standard : Lighting where
  view := ⟨0, 0, 1⟩
  ambient := ⟨50, 50, 50⟩
  light := ⟨⟨0.5, 0.75, 1⟩, ⟨0, 255, 255⟩⟩

/-- What shading one shape takes. -/
structure Shading where
  lighting : Lighting
  reflectance : Reflectance
deriving BEq, Repr, Inhabited

end SceneScript
