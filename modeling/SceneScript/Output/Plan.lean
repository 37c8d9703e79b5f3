import SceneScript.Output.Assembly
import SceneScript.Sink

/-! # Output to files

An `OutputPlan` says where pictures are written and how animations are joined.  `OutputPlan.sink`
is the sink that does so: shown pictures go to one preview file, stored ones to the file of their
name, and the frames of an animation have numbered names in a directory of their own, so that
`OutputPlan.pattern` describes them all. -/

namespace SceneScript

/-- Where pictures are written. -/
structure OutputPlan where
  animDir : Path
  frameExt : String
  animationExt : String
  outDir : Path
  fps : UInt32
  overwrite : Bool
  previewPath : Path
deriving Repr, Inhabited

namespace OutputPlan

/-- The plan when nothing else is said. -/
def standard : OutputPlan where
  animDir := ⟨"anim"⟩
  frameExt := "png"
  animationExt := "gif"
  outDir := ⟨"."⟩
  fps := 30
  overwrite := true
  previewPath := ⟨"display.png"⟩

/-- Refuse extensions that are blank, and no frames per second. -/
def validate (p : OutputPlan) : Except Fault Unit :=
  if (Text.trim p.frameExt).isEmpty || (Text.trim p.animationExt).isEmpty then
    .error .emptyExtension
  else if p.fps = 0 then .error .zeroOutputRate
  else .ok ()

/-- The path of a frame of an animation. -/
def framePath (p : OutputPlan) (basename : String) (frame : Nat) : Path :=
  p.animDir.join ⟨numberedName basename frame p.frameExt⟩

/-- The path of a joined animation. -/
def targetPath (p : OutputPlan) (basename : String) : Path :=
  p.outDir.join ⟨basename ++ "." ++ p.animationExt⟩

/-- The pattern of the paths of all frames of an animation. -/
def pattern (p : OutputPlan) (basename : String) : Path :=
  p.animDir.join ⟨basename ++ "%03d." ++ p.frameExt⟩

/-- How the frames of an animation are joined. -/
def assembly (p : OutputPlan) (basename : String) : Assembly where
  pattern := p.pattern basename
  rate := p.fps
  target := p.targetPath basename
  overwrite := p.overwrite

/-- The sink that writes to files as planned. -/
def sink (p : OutputPlan) (assembler : Assembler) : Sink Workspace where
  display surface := Workspace.onDisk (Disk.saveImage surface p.previewPath)
  store surface name := Workspace.onDisk (Disk.saveImage surface ⟨name⟩)
  join basename := (p.assembly basename).run assembler
  nameFrame _ basename frame := (p.framePath basename frame).text

/-- The sink of a plan that is valid. -/
def sink? (p : OutputPlan) (assembler : Assembler) : Except Fault (Sink Workspace) := do
  p.validate
  return p.sink assembler

end OutputPlan

end SceneScript
