import SceneScript.Geometry.Motion
import SceneScript.Op

/-! # Directives

A `Directive` is a command whose arguments have been checked: every form carries exactly the data
its operation needs.  The three motions share a form, and so do the three shapes. -/

namespace SceneScript

/-- A ramp: between two frames a quantity goes from one value to another. -/
structure Ramp (α : Type) where
  firstFrame : Int64
  lastFrame : Int64
  firstValue : α
  lastValue : α
deriving Repr, Inhabited

/-- A knob that follows a ramp. -/
structure Vary extends Ramp Float where
  knob : String
deriving Repr, Inhabited

/-- A solid shape. -/
inductive Shape where
  /-- A box along the axes, from a corner and its extent. -/
  | box (corner size : Vec3 Float)
  | sphere (center : Vec3 Float) (radius : Float)
  | torus (center : Vec3 Float) (minorRadius majorRadius : Float)
deriving Repr, Inhabited

/-- The operation that draws a shape. -/
def Shape.op : Shape → Op
  | box .. => .box
  | sphere .. => .sphere
  | torus .. => .torus

/-- The operation that makes a motion. -/
def Motion.op {α : Type} : Motion α → Op
  | move .. => .move
  | scale .. => .scale
  | rotate .. => .rotate

/-- One step of a scene. -/
inductive Directive where
  | frames (count : UInt32)
  | basename (name : String)
  | vary (v : Vary)
  | shape (shape : Shape) (constants coords : Option String)
  | line (constants : Option String) (p0 : Vec3 Float) (coords0 : Option String) (p1 : Vec3 Float)
      (coords1 : Option String)
  | motion (m : Motion Float) (knob : Option String)
  | push
  | pop
  | display
  | save (name : String)
deriving Repr, Inhabited

/-- The operation of a directive. -/
def Directive.op : Directive → Op
  | frames .. => .frames
  | basename .. => .basename
  | vary .. => .vary
  | shape s .. => s.op
  | line .. => .line
  | motion m .. => m.op
  | push => .push
  | pop => .pop
  | display => .display
  | save .. => .save

end SceneScript
