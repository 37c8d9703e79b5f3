import SceneScript.Command.Arguments
import SceneScript.Directive

/-! # Commands

A `Command` is a step of a scene as written: an operation, any list of arguments, perhaps a knob.
`Command.directive` checks it against what its operation accepts.  Arguments are taken from left
to right by an `Arguments.Reader`, so the first argument that does not fit is the one reported. -/

namespace SceneScript

open Arguments

/-- A step of a scene as written. -/
structure Command where
  op : Op
  args : List Arg
  knob : Option String
deriving Repr, Inhabited

namespace Command

/-- The arguments of `frames`: the count of frames. -/
def frames : Reader Directive := do
  let count ← number
  match frameCount? count with
  | some n => return .frames n
  | none => refuse (.frameCount count)

/-- The arguments of `vary`: two frames in order, and the values there. -/
def vary (knob : Option String) : Reader Directive := do
  match knob with
  | none => refuse .knobMissing
  | some knob =>
    let firstFrame ← frameIndex
    let lastFrame ← frameIndex
    let firstValue ← number
    let lastValue ← number
    if lastFrame ≤ firstFrame then refuse (.varyOrder firstFrame lastFrame)
    else return .vary { firstFrame, lastFrame, firstValue, lastValue, knob }

/-- The arguments of a shape: perhaps constants, its measures, perhaps a coordinate system. -/
def solid (shape : Reader Shape) : Reader Directive := do
  let constants ← name?
  let shape ← shape
  let coords ← name?
  return .shape shape constants coords

/-- The measures of a box. -/
def box : Reader Shape := do
  let corner ← point
  let size ← point
  return .box corner size

/-- The measures of a sphere. -/
def sphere : Reader Shape := do
  let center ← point
  let radius ← number
  return .sphere center radius

/-- The measures of a torus. -/
def torus : Reader Shape := do
  let center ← point
  let minorRadius ← number
  let majorRadius ← number
  return .torus center minorRadius majorRadius

/-- The arguments of `line`: perhaps constants, and two points, each perhaps with a coordinate
system. -/
def line : Reader Directive := do
  let constants ← name?
  let p0 ← point
  let coords0 ← name?
  let p1 ← point
  let coords1 ← name?
  return .line constants p0 coords0 p1 coords1

/-- The arguments of `rotate`: an axis and an angle. -/
def rotate : Reader (Motion Float) := do
  let word ← name
  match Axis.parse? word with
  | none => refuse (.unknownAxis word)
  | some axis =>
    let degrees ← number
    return .rotate axis degrees

/-- The arguments of an operation. -/
def body (c : Command) : Reader Directive :=
  match c.op with
  | .frames => frames
  | .basename => return .basename (← name)
  | .vary => vary c.knob
  | .box => solid box
  | .sphere => solid sphere
  | .torus => solid torus
  | .line => line
  | .move => return .motion (.move (← point)) c.knob
  | .scale => return .motion (.scale (← point)) c.knob
  | .rotate => return .motion (← rotate) c.knob
  | .push => return .push
  | .pop => return .pop
  | .display => return .display
  | .save => return .save (← name)

/-- What is wrong with a command, or its directive. -/
def check (c : Command) : Except ArgumentFault Directive :=
  if c.knob.isSome && !c.op.takesKnob then .error .knobNotAccepted
  else c.body.readAll c.args

/-- The directive of the command at a position in its scene. -/
def directive (c : Command) (index : Nat) : Except Fault Directive :=
  (c.check).mapError (.malformed index c.op)

/-- The directives of all commands, up to the first that is malformed. -/
def directives (commands : List Command) : Except Fault (List Directive) :=
  commands.zipIdx.mapM fun e => e.1.directive e.2

end Command

end SceneScript
