import SceneScript.Command
import SceneScript.Json.Record

/-! # Commands in JSON

A command is a record of its operation, its arguments and its knob; the last two may be left out.
An argument is a number or a string. -/

namespace SceneScript.Format

open Json

/-- Write an argument. -/
def ofArg : Arg → Json
  | .number x => ofFloat x
  | .name s => .string s

/-- Read an argument. -/
def arg? : Json → Option Arg
  | .string s => some (.name s)
  | v => (float? v).map .number

/-- Write an operation. -/
def ofOp (op : Op) : Json := .string op.name

/-- Read an operation. -/
def op? (v : Json) : Option Op := (bareChoice? v).bind Op.ofName?

/-- Write a command. -/
def ofCommand (c : Command) : Json :=
  .object [("op", ofOp c.op), ("args", ofList ofArg c.args), ("knob", ofOption .string c.knob)]

/-- Read a command. -/
def command? : Json → Option Command :=
  (Command.mk <$> Record.field "op" op? <*> Record.fieldWithDefault "args" (list? arg?) []
    <*> Record.fieldWithDefault "knob" (optional? string?) none).read

end SceneScript.Format
