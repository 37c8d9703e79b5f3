/-! # Operations

The fourteen operations a command of a scene script can name. -/

namespace SceneScript

/-- The operation that a command names. -/
inductive Op where
  | frames
  | basename
  | vary
  | box
  | sphere
  | torus
  | line
  | move
  | scale
  | rotate
  | push
  | pop
  | display
  | save
deriving DecidableEq, Repr, Inhabited

namespace Op

/-- The name under which scripts and messages know the operation. -/
def name : Op → String
  | frames => "frames"
  | basename => "basename"
  | vary => "vary"
  | box => "box"
  | sphere => "sphere"
  | torus => "torus"
  | line => "line"
  | move => "move"
  | scale => "scale"
  | rotate => "rotate"
  | push => "push"
  | pop => "pop"
  | display => "display"
  | save => "save"

/-- All operations. -/
def all : List Op :=
  [frames, basename, vary, box, sphere, torus, line, move, scale, rotate, push, pop, display, save]

/-- The operation of a name. -/
def ofName? (s : String) : Option Op := all.find? fun op => op.name == s

/-- A knob may accompany the operation. -/
def takesKnob : Op → Bool
  | vary | move | scale | rotate => true
  | _ => false

@[simp] theorem ofName?_name (op : Op) : ofName? op.name = some op := by
  cases op <;> decide

end Op

end SceneScript
