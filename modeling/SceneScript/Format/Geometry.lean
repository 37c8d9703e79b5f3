import SceneScript.Geometry.Motion
import SceneScript.Json.Record
import SceneScript.Surface

/-! # Points, axes and colours in JSON

A point is an array of three numbers, an axis is its name, and a colour and a canvas are
records. -/

namespace SceneScript.Format

open Json

/-- Write a point. -/
def ofVec3 (v : Vec3 Float) : Json := .array [ofFloat v.x, ofFloat v.y, ofFloat v.z]

/-- Read a point. -/
def vec3? : Json → Option (Vec3 Float)
  | .array [x, y, z] => do return ⟨← float? x, ← float? y, ← float? z⟩
  | _ => none

/-- Write an axis. -/
def ofAxis (a : Axis) : Json := .string a.name

/-- Read an axis. -/
def axis? (v : Json) : Option Axis :=
  match bareChoice? v with
  | some "x" => some .x
  | some "y" => some .y
  | some "z" => some .z
  | _ => none

/-- Write a colour. -/
def ofRgb (c : Rgb) : Json :=
  .object [("r", ofNat c.r.toNat), ("g", ofNat c.g.toNat), ("b", ofNat c.b.toNat)]

/-- Read a colour. -/
def rgb? : Json → Option Rgb :=
  (Rgb.mk <$> Record.field "r" uint8? <*> Record.field "g" uint8? <*> Record.field "b" uint8?).read

/-- Write a canvas. -/
def ofCanvas (c : Canvas) : Json :=
  .object [("width", ofNat c.width.toNat), ("height", ofNat c.height.toNat)]

/-- Read a canvas; its sides are not checked here. -/
def canvas? : Json → Option Canvas :=
  (Canvas.mk <$> Record.field "width" uint32? <*> Record.field "height" uint32?).read

end SceneScript.Format
