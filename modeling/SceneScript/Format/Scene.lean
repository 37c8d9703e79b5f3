import SceneScript.Format.Command
import SceneScript.Format.Symbols
import SceneScript.Json.Reader
import SceneScript.Output.Disk
import SceneScript.Scene

/-! # Scenes in JSON

A script is a record of its commands and its symbols; the symbols may be left out.  A scene can be
read from a text or from a file on a disk. -/

namespace SceneScript.Format

open Json

/-- Write a script. -/
def ofScript (s : Script) : Json :=
  .object [("commands", ofList ofCommand s.commands), ("symbols", ofSymbolTable s.symbols)]

/-- Read a script. -/
def script? : Json → Option Script :=
  (Script.mk <$> Record.field "commands" (list? command?)
    <*> Record.fieldWithDefault "symbols" symbolTable? .empty).read

/-- The scene that a text describes. -/
def parseScene (text : String) : Except Fault Scene :=
  match (Json.parse? text).bind script? with
  | none => .error (.unreadable .scene)
  | some s => s.scene

/-- The scene that a file describes. -/
def loadScene (d : Disk) (p : Path) : Except Fault Scene :=
  match d.read? p with
  | none => .error (.sceneNotRead p.text)
  | some text => parseScene text

end SceneScript.Format
