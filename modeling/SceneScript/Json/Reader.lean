import SceneScript.Json.Token

/-! # Reading a JSON text

`Json.parse?` reads a text that consists of exactly one value.  It is a fold of `Reader.step` over
the tokens, with an explicit stack of the containers that are still open, so nesting costs no
recursion.  A container nested `nestingLimit` deep is unreadable, as is an object with an
unreadable name. -/

namespace SceneScript.Json

/-- A container at this depth, the outermost being at depth one, is too deep to be read. -/
def nestingLimit : Nat := 128

/-- An open container, its contents in reverse.  An object also holds the name whose value is
being read; a name that cannot be read is `none`. -/
inductive Open where
  | array (items : List Json)
  | object (fields : List (Option String × Json)) (name : Option String)

/-- What may come next. -/
inductive Expected where
  | value
  | firstItem
  | firstName
  | name
  | colon
  | next
  | nothing
deriving DecidableEq

/-- A reader between two tokens. -/
structure Reader where
  stack : List Open
  expected : Expected
  result : Option Json

/-- The fields of an object, if all its names can be read. -/
def names? (fields : List (Option String × Json)) : Option (List (String × Json)) :=
  fields.mapM fun (name, v) => name.map fun n => (n, v)

namespace Reader

/-- Hand a finished value to the innermost open container. -/
def complete (v : Json) : List Open → Reader
  | [] => ⟨[], .nothing, some v⟩
  | .array items :: stack => ⟨.array (v :: items) :: stack, .next, none⟩
  | .object fields name :: stack => ⟨.object ((name, v) :: fields) none :: stack, .next, none⟩

/-- A container inside these open ones stands at a depth where it cannot be read. -/
def tooDeep (outer : List Open) : Bool := nestingLimit ≤ (outer.take nestingLimit).length + 1

/-- The value of an array inside open containers. -/
def arrayIn (outer : List Open) (items : List Json) : Json :=
  if tooDeep outer then .unreadable else .array items

/-- The value of an object inside open containers. -/
def objectIn (outer : List Open) (fields : List (Option String × Json)) : Json :=
  match names? fields with
  | some fields => if tooDeep outer then .unreadable else .object fields
  | none => .unreadable

/-- Begin a value. -/
def value? (stack : List Open) : Token → Option Reader
  | .openArray => some ⟨.array [] :: stack, .firstItem, none⟩
  | .openObject => some ⟨.object [] none :: stack, .firstName, none⟩
  | .scalar v => some (complete v stack)
  | .text (some s) => some (complete (.string s) stack)
  | .text none => some (complete .unreadable stack)
  | _ => none

/-- Take a name. -/
def name? : List Open → Token → Option Reader
  | .object fields _ :: stack, .text name => some ⟨.object fields name :: stack, .colon, none⟩
  | _, _ => none

/-- Close the innermost container with its own bracket. -/
def close? : List Open → Token → Option Reader
  | .array items :: outer, .closeArray => some (complete (arrayIn outer items.reverse) outer)
  | .object fields _ :: outer, .closeObject =>
    some (complete (objectIn outer fields.reverse) outer)
  | _, _ => none

/-- What follows a comma in the innermost container. -/
def afterComma : List Open → Expected
  | .object _ _ :: _ => .name
  | _ => .value

/-- Take one token. -/
def step (r : Reader) (t : Token) : Option Reader :=
  match r.expected, t with
  | .value, t => value? r.stack t
  | .firstItem, .closeArray => close? r.stack .closeArray
  | .firstItem, t => value? r.stack t
  | .firstName, .closeObject => close? r.stack .closeObject
  | .firstName, t => name? r.stack t
  | .name, t => name? r.stack t
  | .colon, .colon => some ⟨r.stack, .value, none⟩
  | .next, .comma => some ⟨r.stack, afterComma r.stack, none⟩
  | .next, t => close? r.stack t
  | _, _ => none

end Reader

/-- The value that a text denotes, if the text is exactly one value. -/
def parse? (text : String) : Option Json := do
  let tokens ← Token.scan text
  let r ← tokens.foldlM Reader.step ⟨[], .value, none⟩
  r.result

end SceneScript.Json
