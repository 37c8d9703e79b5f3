import SceneScript.Directive
import SceneScript.Fault
import SceneScript.NameMap

/-! # Animations

`Animation.ofDirectives` reads the animation directives of a scene.  `Timeline.ofDirectives` finds
how many frames there are and under which base name, and checks every `vary` against the frames
declared so far.  `KnobTable.ofDirectives` then gives each frame a row with the values of the knobs
varied on it: a knob's ramp is `Ramp.value`, later directives overwrite earlier ones, and every
`vary` is checked again, now against the final number of frames. -/

namespace SceneScript

/-- The frames of an animation. -/
structure Timeline where
  basename : String
  animated : Bool
  frameCount : UInt32
deriving DecidableEq, Repr, Inhabited

namespace Timeline

/-- A scene that declares no frames is one still frame. -/
def still : Timeline := ⟨"default", false, 1⟩

/-- The number of the last frame; `-1` if there are no frames. -/
def lastFrame (frameCount : UInt32) : Int := (frameCount.toNat : Int) - 1

/-- The number is that of a frame. -/
def covers (frameCount : UInt32) (frame : Int64) : Bool :=
  0 ≤ frame.toInt && frame.toInt ≤ lastFrame frameCount

/-- Refuse a `vary` that starts or ends outside the frames. -/
def checkVary (index : Nat) (v : Vary) (frameCount : UInt32) : Except Fault Unit :=
  if covers frameCount v.firstFrame && covers frameCount v.lastFrame then .ok ()
  else
    .error (.varyOutsideFrames index v.knob v.firstFrame v.lastFrame (lastFrame frameCount))

/-- Take one directive into account.  A timeline is animated once its frames are declared. -/
def observe (t : Timeline) (index : Nat) : Directive → Except Fault Timeline
  | .frames count => .ok { t with animated := true, frameCount := count }
  | .basename name => .ok { t with basename := name }
  | .vary v =>
    if t.animated then (checkVary index v t.frameCount).map fun _ => t
    else .error (.varyBeforeFrames index v.knob)
  | _ => .ok t

/-- The timeline of a scene. -/
def ofDirectives (directives : List Directive) : Except Fault Timeline :=
  directives.zipIdx.foldlM (fun t e => t.observe e.2 e.1) still

/-- The numbers of the frames, in order. -/
def frames (t : Timeline) : List Nat := List.range t.frameCount.toNat

end Timeline

/-- An integer as the nearest float. -/
instance intCastFloat : IntCast Float := ⟨Float.ofInt⟩

/-- The value of a ramp on a frame: the last value on the last frame, and otherwise the first
value and as many equal steps as frames have passed. -/
def Ramp.value {α : Type} [Add α] [Sub α] [Mul α] [Div α] [IntCast α] (r : Ramp α)
    (frame : Int64) : α :=
  if frame = r.lastFrame then r.lastValue
  else
    let span : α := ((r.lastFrame - r.firstFrame).toInt : α)
    let increment := (r.lastValue - r.firstValue) / span
    r.firstValue + ((frame - r.firstFrame).toInt : α) * increment

/-- For every frame the values of the knobs varied on it. -/
structure KnobTable where
  rows : List (NameMap Float)
deriving BEq, Repr, Inhabited

namespace KnobTable

/-- The table in which no knob is varied. -/
def blank (frameCount : UInt32) : KnobTable := ⟨List.replicate frameCount.toNat .empty⟩

/-- The number of rows. -/
def size (t : KnobTable) : Nat := t.rows.length

/-- There are no rows. -/
def isEmpty (t : KnobTable) : Bool := t.rows.isEmpty

/-- The row of a frame. -/
def row? (t : KnobTable) (frame : Nat) : Option (NameMap Float) := t.rows[frame]?

/-- The value of a knob on a frame. -/
def value? (t : KnobTable) (frame : Nat) (knob : String) : Option Float :=
  (t.row? frame).bind (·.get? knob)

/-- Write the values of a knob into the rows of its frames. -/
def record (t : KnobTable) (v : Vary) : KnobTable :=
  ⟨t.rows.mapIdx fun i row =>
    let frame := Int64.ofNat i
    if v.firstFrame ≤ frame ∧ frame ≤ v.lastFrame then row.insert v.knob (v.value frame) else row⟩

/-- Take one directive into account. -/
def observe (frameCount : UInt32) (t : KnobTable) (index : Nat) :
    Directive → Except Fault KnobTable
  | .vary v => (Timeline.checkVary index v frameCount).map fun _ => t.record v
  | _ => .ok t

/-- The knob values of a scene with the given number of frames. -/
def ofDirectives (directives : List Directive) (frameCount : UInt32) : Except Fault KnobTable :=
  directives.zipIdx.foldlM (fun t e => t.observe frameCount e.2 e.1) (blank frameCount)

end KnobTable

/-- The frames of a scene and the knob values on them. -/
structure Animation where
  timeline : Timeline
  table : KnobTable
deriving BEq, Repr, Inhabited

namespace Animation

/-- The animation of a scene. -/
def ofDirectives (directives : List Directive) : Except Fault Animation := do
  let timeline ← Timeline.ofDirectives directives
  let table ← KnobTable.ofDirectives directives timeline.frameCount
  return ⟨timeline, table⟩

end Animation

end SceneScript
