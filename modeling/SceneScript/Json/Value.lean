/-! # JSON values

`Json` keeps what a text says: objects are lists of fields in the order written, repeated names
included, and integers are told apart from other numbers.  A part of a text that is well formed
but denotes nothing (a number beyond the range of floats, a string with half of a surrogate pair,
a container nested too deeply) is the value `unreadable`: harmless where a reader skips it, and
refused where a reader needs it. -/

namespace SceneScript

/-- A JSON value. -/
inductive Json where
  | null
  | bool (b : Bool)
  | integer (n : Int)
  | decimal (x : Float)
  | string (s : String)
  | array (items : List Json)
  | object (fields : List (String × Json))
  | unreadable
deriving Repr, Inhabited

namespace Json

mutual

/-- No part of the value is unreadable. -/
def readable : Json → Bool
  | .array items => itemsReadable items
  | .object fields => fieldsReadable fields
  | .unreadable => false
  | _ => true

/-- Every item is readable. -/
def itemsReadable : List Json → Bool
  | [] => true
  | v :: items => v.readable && itemsReadable items

/-- The value of every field is readable. -/
def fieldsReadable : List (String × Json) → Bool
  | [] => true
  | (_, v) :: fields => v.readable && fieldsReadable fields

end

end Json

end SceneScript
