import SceneScript.Format.Geometry
import SceneScript.Symbols

/-! # Symbols in JSON

A symbol names its sort in a field `kind` that stands beside its other fields, in any place; in
array form it is the first item.  All parts of a symbol must be readable, also those that are
skipped, because the sort has to be found before anything else can be read.  A symbol table is an
object with the symbols under their names. -/

namespace SceneScript.Format

open Json

/-- The fields of a reflectance. -/
def reflectanceRecord : Record Reflectance :=
  Reflectance.mk <$> Record.field "ambient" vec3? <*> Record.field "diffuse" vec3?
    <*> Record.field "specular" vec3?

/-- The fields of a reflectance, written. -/
def reflectanceFields (r : Reflectance) : List (String × Json) :=
  [("ambient", ofVec3 r.ambient), ("diffuse", ofVec3 r.diffuse), ("specular", ofVec3 r.specular)]

/-- Write a reflectance. -/
def ofReflectance (r : Reflectance) : Json := .object (reflectanceFields r)

/-- Read a reflectance. -/
def reflectance? : Json → Option Reflectance := reflectanceRecord.read

/-- Write a symbol. -/
def ofSymbol : Symbol → Json
  | .knob v => .object [("kind", .string "knob"), ("value", ofFloat v)]
  | .constants r => .object (("kind", .string "constants") :: reflectanceFields r)

/-- The fields of a symbol of the given sort, besides the sort. -/
def symbolRecord? : Json → Option (Record Symbol)
  | .string "knob" => some (Symbol.knob <$> Record.field "value" float?)
  | .string "constants" => some (Symbol.constants <$> reflectanceRecord)
  | _ => none

/-- Read a symbol. -/
def symbol? (v : Json) : Option Symbol :=
  if v.readable then
    match v with
    | .object fields =>
      match fields.partition fun f => f.1 == "kind" with
      | ([(_, kind)], others) => (symbolRecord? kind).bind (·.object? others)
      | _ => none
    | .array (kind :: items) => (symbolRecord? kind).bind (·.array? items)
    | _ => none
  else none

/-- Write a symbol table. -/
def ofSymbolTable (t : SymbolTable) : Json :=
  .object (t.toList.map fun e => (e.1, ofSymbol e.2))

/-- Read a symbol table; of several symbols with one name the last counts. -/
def symbolTable? : Json → Option SymbolTable
  | .object fields =>
    (fields.mapM fun f => (symbol? f.2).map fun s => (f.1, s)).map NameMap.ofList
  | _ => none

end SceneScript.Format
