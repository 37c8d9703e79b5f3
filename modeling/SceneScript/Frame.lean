import SceneScript.Directive
import SceneScript.Geometry.TransformStack
import SceneScript.Rasterizer
import SceneScript.Settings
import SceneScript.Symbols

/-! # Running one frame

`Frame.run` executes the directives of a scene against one frame's symbols.  It starts from a
blank surface and the identity; motions change the active coordinate system, `push` and `pop` save
and restore it, shapes and lines are divided, mapped and drawn, and `display` and `save` put the
surface as it stands into a request.  Animation directives do nothing here. -/

namespace SceneScript

/-- A request for output, with the surface as it stood. -/
inductive Request where
  | display (surface : Surface)
  | save (name : String) (surface : Surface)
deriving Repr, Inhabited

/-- What a frame came to: its final surface, and its requests in order. -/
structure Frame where
  number : Nat
  surface : Surface
  requests : List Request
deriving Repr, Inhabited

namespace Frame

/-- A frame in the making. -/
structure Progress where
  stack : TransformStack Float
  surface : Surface
  requests : List Request

/-- The start of every frame. -/
def Progress.start (settings : Settings) : Progress where
  stack := .initial
  surface := settings.blankSurface
  requests := []

variable {σ : Type}

/-- The factor by which a knob stretches a motion; one without a knob. -/
def stretch (symbols : SymbolTable) (knob : Option String) (site : Site) :
    Except Fault Float :=
  match knob with
  | none => .ok 1
  | some name =>
    match symbols.knob? name with
    | some v => .ok v
    | none => .error (.undefinedKnob site name)

/-- The reflectance that a shape names, or the given one if it names none. -/
def reflectance (symbols : SymbolTable) (standard : Reflectance) (constants : Option String)
    (site : Site) : Except Fault Reflectance :=
  match constants with
  | none => .ok standard
  | some name =>
    match symbols.constants? name with
    | some r => .ok r
    | none => .error (.undefinedConstants site name)

/-- Divide a shape. -/
def divide (rasterizer : Rasterizer σ) (step : UInt32) : Shape → Action σ Triangles
  | .box corner size => rasterizer.box corner size
  | .sphere center radius => rasterizer.sphere center radius step
  | .torus center minorRadius majorRadius => rasterizer.torus center minorRadius majorRadius step

/-- Draw a shape in a coordinate system. -/
def drawShape (rasterizer : Rasterizer σ) (settings : Settings) (m : Mat4 Float) (shape : Shape)
    (r : Reflectance) (surface : Surface) : Action σ Surface := do
  let triangles ← divide rasterizer settings.step shape
  rasterizer.drawTriangles (triangles.transform m) surface ⟨settings.lighting, r⟩

/-- Draw a line in a coordinate system. -/
def drawLine (rasterizer : Rasterizer σ) (settings : Settings) (m : Mat4 Float)
    (p0 p1 : Vec3 Float) (surface : Surface) : Action σ Surface := do
  let segments ← rasterizer.line p0 p1
  rasterizer.drawSegments (segments.transform m) surface settings.lineColor

/-- Execute one directive. -/
def step (rasterizer : Rasterizer σ) (settings : Settings) (symbols : SymbolTable)
    (frame index : Nat) (d : Directive) (p : Progress) : Action σ Progress :=
  let site : Site := ⟨frame, index, d.op⟩
  match d with
  | .frames _ | .basename _ | .vary _ => pure p
  | .shape shape constants _ => do
    let r ← Action.ofExcept (reflectance symbols settings.reflectance constants site)
    let surface ← drawShape rasterizer settings p.stack.top shape r p.surface
    return { p with surface }
  | .line constants p0 _ p1 _ => do
    let _ ← Action.ofExcept (reflectance symbols settings.reflectance constants site)
    let surface ← drawLine rasterizer settings p.stack.top p0 p1 p.surface
    return { p with surface }
  | .motion m knob => do
    let k ← Action.ofExcept (stretch symbols knob site)
    return { p with stack := p.stack.apply (m.scaled k).matrix }
  | .push => pure { p with stack := p.stack.push }
  | .pop =>
    match p.stack.pop with
    | .ok (_, stack) => pure { p with stack }
    | .error _ => Action.fail (.popWithoutPush site)
  | .display => pure { p with requests := p.requests ++ [.display p.surface] }
  | .save name => pure { p with requests := p.requests ++ [.save name p.surface] }

/-- Execute directives, of which the first has the given position. -/
def steps (rasterizer : Rasterizer σ) (settings : Settings) (symbols : SymbolTable)
    (frame : Nat) : Nat → List Directive → Progress → Action σ Progress
  | _, [], p => pure p
  | index, d :: directives, p => do
    let p ← step rasterizer settings symbols frame index d p
    steps rasterizer settings symbols frame (index + 1) directives p

/-- Execute a scene for one frame. -/
def run (rasterizer : Rasterizer σ) (settings : Settings) (directives : List Directive)
    (number : Nat) (symbols : SymbolTable) : Action σ Frame := do
  let p ← steps rasterizer settings symbols number 0 directives (.start settings)
  return ⟨number, p.surface, p.requests⟩

end Frame

end SceneScript
