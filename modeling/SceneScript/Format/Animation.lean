import SceneScript.Animation
import SceneScript.Json.Record

/-! # Animations in JSON

Animations are written and never read. -/

namespace SceneScript.Format

open Json

/-- Write a timeline. -/
def ofTimeline (t : Timeline) : Json :=
  .object [("basename", .string t.basename), ("is_animated", .bool t.animated),
    ("num_frames", ofNat t.frameCount.toNat)]

/-- Write the knob values of a frame. -/
def ofRow (row : NameMap Float) : Json := .object (row.toList.map fun e => (e.1, ofFloat e.2))

/-- Write a knob table. -/
def ofKnobTable (t : KnobTable) : Json := .object [("frames", ofList ofRow t.rows)]

/-- Write an animation. -/
def ofAnimation (a : Animation) : Json :=
  .object [("state", ofTimeline a.timeline), ("table", ofKnobTable a.table)]

end SceneScript.Format
