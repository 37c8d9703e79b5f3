import SceneScript.Action
import SceneScript.NameMap
import SceneScript.Shading

/-! # Symbols

A scene knows names of two sorts: knobs, which have a number that may change from frame to frame,
and sets of constants, which never change.  `SymbolTable.mergeRow` writes the knob values of a
frame into the table, name by name in ascending order; a set of constants in its way is a fault,
and what was written before it stays. -/

namespace SceneScript

/-- What a name stands for. -/
inductive Symbol where
  | knob (value : Float)
  | constants (reflectance : Reflectance)
deriving BEq, Repr, Inhabited

/-- The symbols of a scene. -/
abbrev SymbolTable := NameMap Symbol

namespace SymbolTable

/-- The value of a knob. -/
def knob? (t : SymbolTable) (name : String) : Option Float :=
  match t.get? name with
  | some (.knob v) => some v
  | _ => none

/-- The reflectance of a set of constants. -/
def constants? (t : SymbolTable) (name : String) : Option Reflectance :=
  match t.get? name with
  | some (.constants r) => some r
  | _ => none

/-- Give a knob a value, creating it if the name is free. -/
def assign (name : String) (v : Float) : Action SymbolTable Unit := do
  match ← Action.inspect (NameMap.get? · name) with
  | some (.constants _) => Action.fail (.notKnob name)
  | _ => Action.update fun t => t.insert name (.knob v)

/-- Give the knobs of a row their values. -/
def mergeRow (row : NameMap Float) : Action SymbolTable Unit :=
  row.toList.forM fun e => assign e.1 e.2

end SymbolTable

end SceneScript
