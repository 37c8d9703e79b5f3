import SceneScript.Decimal.Notation
import SceneScript.Decimal.Whole
import SceneScript.Json.Value

/-! # Writing a JSON text

`Json.render` writes a value without blanks, fields in their order.  Strings escape the quotation
mark, the backslash and the control characters; floats are written by `Json.floats`. -/

namespace SceneScript.Json

/-- Floats have their shortest digits, ties going to the even one; from `1e-5` up to below `1e16`
they are positional with a point, beyond that they have a signed exponent, and what is no number
is `null`. -/
def floats : Decimal.Notation where
  tie := .toEven
  keepPoint := true
  window := some (-5, 15)
  nan := "null"
  infinity := "null"
  negativeInfinity := "null"

/-- The digit of a value below sixteen. -/
def hexDigit (n : Nat) : Char := if n < 10 then Char.ofNat (48 + n) else Char.ofNat (87 + n)

/-- The written form of one character of a string. -/
def escape (c : Char) : List Char :=
  match c with
  | '"' => ['\\', '"']
  | '\\' => ['\\', '\\']
  | '\x08' => ['\\', 'b']
  | '\t' => ['\\', 't']
  | '\n' => ['\\', 'n']
  | '\x0c' => ['\\', 'f']
  | '\r' => ['\\', 'r']
  | c =>
    if c.toNat < 0x20 then ['\\', 'u', '0', '0', hexDigit (c.toNat / 16), hexDigit (c.toNat % 16)]
    else [c]

/-- A string in quotation marks. -/
def quote (s : String) : String := "\"" ++ String.ofList (s.toList.flatMap escape) ++ "\""

/-- Written parts, with commas between them. -/
def commaSeparated (parts : List String) : String := ",".intercalate parts

mutual

/-- Write a value. -/
def render : Json → String
  | .null => "null"
  | .bool b => if b then "true" else "false"
  | .integer n => Decimal.integer n
  | .decimal x => floats.write x
  | .string s => quote s
  | .array items => "[" ++ commaSeparated (renderItems items) ++ "]"
  | .object fields => "\x7b" ++ commaSeparated (renderFields fields) ++ "\x7d"
  | .unreadable => "null"

/-- Write the items of an array. -/
def renderItems : List Json → List String
  | [] => []
  | v :: items => v.render :: renderItems items

/-- Write the fields of an object. -/
def renderFields : List (String × Json) → List String
  | [] => []
  | (name, v) :: fields => (quote name ++ ":" ++ v.render) :: renderFields fields

end

end SceneScript.Json
