import SceneScript.Format.Symbols
import SceneScript.Json.Reader
import SceneScript.Render.Chunk
import SceneScript.Settings

/-! # Settings and threading in JSON

Every field of the settings and of the threading may be left out.  Settings read from a text are
also validated. -/

namespace SceneScript.Format

open Json

/-- Write a light at a point. -/
def ofPointLight (l : PointLight) : Json :=
  .object [("position", ofVec3 l.position), ("color", ofRgb l.color)]

/-- Read a light at a point. -/
def pointLight? : Json → Option PointLight :=
  (PointLight.mk <$> Record.field "position" vec3? <*> Record.field "color" rgb?).read

/-- Write the light of a scene. -/
def ofLighting (l : Lighting) : Json :=
  .object [("view", ofVec3 l.view), ("ambient", ofRgb l.ambient), ("light", ofPointLight l.light)]

/-- Read the light of a scene. -/
def lighting? : Json → Option Lighting :=
  (Lighting.mk <$> Record.field "view" vec3? <*> Record.field "ambient" rgb?
    <*> Record.field "light" pointLight?).read

/-- Write settings. -/
def ofSettings (s : Settings) : Json :=
  .object [("canvas", ofCanvas s.canvas), ("background", ofRgb s.background),
    ("line_color", ofRgb s.lineColor), ("lighting", ofLighting s.lighting),
    ("reflectance", ofReflectance s.reflectance), ("step", ofNat s.step.toNat)]

/-- Read settings, without validating them. -/
def settings? : Json → Option Settings :=
  (Settings.mk <$> Record.fieldWithDefault "canvas" canvas? Settings.standard.canvas
    <*> Record.fieldWithDefault "background" rgb? Settings.standard.background
    <*> Record.fieldWithDefault "line_color" rgb? Settings.standard.lineColor
    <*> Record.fieldWithDefault "lighting" lighting? Settings.standard.lighting
    <*> Record.fieldWithDefault "reflectance" reflectance? Settings.standard.reflectance
    <*> Record.fieldWithDefault "step" uint32? Settings.standard.step).read

/-- The valid settings that a text describes. -/
def parseSettings (text : String) : Except Fault Settings :=
  match (Json.parse? text).bind settings? with
  | none => .error (.unreadable .settings)
  | some s => do
    s.validate
    return s

/-- Write threading. -/
def ofThreading (t : Threading) : Json :=
  .object [("parallel", .bool t.parallel), ("chunk_size", ofNat t.chunkSize.toNat),
    ("threads", ofOption (fun n => ofNat n.toNat) t.threads)]

/-- Read threading. -/
def threading? : Json → Option Threading :=
  (Threading.mk <$> Record.fieldWithDefault "parallel" bool? Threading.standard.parallel
    <*> Record.fieldWithDefault "chunk_size" uint64? Threading.standard.chunkSize
    <*> Record.fieldWithDefault "threads" (optional? uint64?) Threading.standard.threads).read

end SceneScript.Format
