import SceneScript.Command
import SceneScript.Symbols

/-! # Scenes

A `Script` is a scene as it is stored: commands as written and the symbols to begin with.  A
`Scene` has its commands checked. -/

namespace SceneScript

/-- A scene as stored. -/
structure Script where
  commands : List Command
  symbols : SymbolTable
deriving Repr, Inhabited

/-- A scene whose commands have been checked. -/
structure Scene where
  directives : List Directive
  symbols : SymbolTable
deriving Repr, Inhabited

/-- Check the commands of a script. -/
def Script.scene (s : Script) : Except Fault Scene := do
  let directives ← Command.directives s.commands
  return ⟨directives, s.symbols⟩

end SceneScript
