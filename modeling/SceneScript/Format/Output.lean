import SceneScript.Json.Reader
import SceneScript.Json.Record
import SceneScript.Output.Plan

/-! # Output plans in JSON

Every field of an output plan may be left out, and a path is a string.  A plan read from a text is
also validated. -/

namespace SceneScript.Format

open Json

/-- Write a path. -/
def ofPath (p : Path) : Json := .string p.text

/-- Read a path. -/
def path? (v : Json) : Option Path := (string? v).map Path.mk

/-- Write an output plan. -/
def ofOutputPlan (p : OutputPlan) : Json :=
  .object [("anim_dir", ofPath p.animDir), ("frame_ext", .string p.frameExt),
    ("animation_ext", .string p.animationExt), ("out_dir", ofPath p.outDir),
    ("fps", ofNat p.fps.toNat), ("overwrite", .bool p.overwrite),
    ("preview_path", ofPath p.previewPath)]

/-- Read an output plan, without validating it. -/
def outputPlan? : Json → Option OutputPlan :=
  (OutputPlan.mk <$> Record.fieldWithDefault "anim_dir" path? OutputPlan.standard.animDir
    <*> Record.fieldWithDefault "frame_ext" string? OutputPlan.standard.frameExt
    <*> Record.fieldWithDefault "animation_ext" string? OutputPlan.standard.animationExt
    <*> Record.fieldWithDefault "out_dir" path? OutputPlan.standard.outDir
    <*> Record.fieldWithDefault "fps" uint32? OutputPlan.standard.fps
    <*> Record.fieldWithDefault "overwrite" bool? OutputPlan.standard.overwrite
    <*> Record.fieldWithDefault "preview_path" path? OutputPlan.standard.previewPath).read

/-- The valid output plan that a text describes. -/
def parseOutputPlan (text : String) : Except Fault OutputPlan :=
  match (Json.parse? text).bind outputPlan? with
  | none => .error (.unreadable .output)
  | some p => do
    p.validate
    return p

end SceneScript.Format
