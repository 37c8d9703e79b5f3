import SceneScript.Json.Value

/-! # Reading typed values

A reader is a function from `Json` to `Option`.  `Record` reads values with named fields in two
forms: an object, whose unknown fields are skipped and whose known ones may stand once, or an
array of the fields in their order.  A field says what stands for it when it is missing; only the
last fields of an array can be.  `choice?` reads the alternatives of a sum: a bare name, or an
object whose only field is the name with the content of the alternative. -/

namespace SceneScript.Json

/-! ### Scalars and lists -/

/-- A float; integers convert to the nearest one. -/
def float? : Json → Option Float
  | .integer n => some (Float.ofInt n)
  | .decimal x => some x
  | _ => none

/-- A natural number below a bound. -/
def natural? (bound : Nat) : Json → Option Nat
  | .integer n => if 0 ≤ n ∧ n < bound then some n.toNat else none
  | _ => none

/-- An integer of eight bits without sign. -/
def uint8? (v : Json) : Option UInt8 := (natural? UInt8.size v).map UInt8.ofNat

/-- An integer of thirty-two bits without sign. -/
def uint32? (v : Json) : Option UInt32 := (natural? UInt32.size v).map UInt32.ofNat

/-- An integer of sixty-four bits without sign. -/
def uint64? (v : Json) : Option UInt64 := (natural? UInt64.size v).map UInt64.ofNat

/-- An integer of sixty-four bits with a sign. -/
def int64? : Json → Option Int64
  | .integer n =>
    if Int64.minValue.toInt ≤ n ∧ n ≤ Int64.maxValue.toInt then some (Int64.ofInt n) else none
  | _ => none

/-- A truth value. -/
def bool? : Json → Option Bool
  | .bool b => some b
  | _ => none

/-- A string. -/
def string? : Json → Option String
  | .string s => some s
  | _ => none

/-- A list, item by item. -/
def list? {α : Type} (item : Json → Option α) : Json → Option (List α)
  | .array items => items.mapM item
  | _ => none

/-- A value that may be absent, which is written `null`. -/
def optional? {α : Type} (present : Json → Option α) : Json → Option (Option α)
  | .null => some none
  | v => (present v).map some

/-- A float; one that is not finite is written `null`. -/
def ofFloat (x : Float) : Json := if x.isFinite then .decimal x else .null

/-- A natural number. -/
def ofNat (n : Nat) : Json := .integer n

/-- A list. -/
def ofList {α : Type} (item : α → Json) (xs : List α) : Json := .array (xs.map item)

/-- A value that may be absent. -/
def ofOption {α : Type} (present : α → Json) : Option α → Json
  | none => .null
  | some v => present v

/-! ### Records -/

/-- A way to read values with named fields. -/
structure Record (α : Type) where
  names : List String
  ofFields : List (String × Json) → Option α
  ofItems : List Json → Option (α × List Json)

namespace Record

variable {α β : Type}

/-- A value without fields. -/
def done (v : α) : Record α := ⟨[], fun _ => some v, fun items => some (v, items)⟩

/-- The fields of one record followed by those of another. -/
def andThen (f : Record (α → β)) (r : Unit → Record α) : Record β where
  names := f.names ++ (r ()).names
  ofFields fields := (f.ofFields fields).bind fun g => ((r ()).ofFields fields).map g
  ofItems items :=
    (f.ofItems items).bind fun (g, rest) =>
      ((r ()).ofItems rest).map fun (v, rest) => (g v, rest)

instance : Applicative Record where
  pure := done
  seq := andThen

/-- One field.  The last two arguments stand for it when an object or an array lacks it. -/
def fieldOr (name : String) (read : Json → Option α) (absent missing : Option α) : Record α where
  names := [name]
  ofFields fields :=
    match fields.lookup name with
    | some v => read v
    | none => absent
  ofItems
    | [] => missing.map fun v => (v, [])
    | v :: items => (read v).map fun w => (w, items)

/-- A field that must be there. -/
def field (name : String) (read : Json → Option α) : Record α := fieldOr name read none none

/-- A field with a value to fall back on. -/
def fieldWithDefault (name : String) (read : Json → Option α) (value : α) : Record α :=
  fieldOr name read (some value) (some value)

/-- A field that an object may lack and an array may not. -/
def optionalField (name : String) (read : Json → Option α) : Record (Option α) :=
  fieldOr name (optional? read) (some none) none

/-- No known field stands twice. -/
def unrepeated (r : Record α) (fields : List (String × Json)) : Bool :=
  r.names.all fun name => fields.countP (fun f => f.1 == name) ≤ 1

/-- Read a record from its fields. -/
def object? (r : Record α) (fields : List (String × Json)) : Option α :=
  if r.unrepeated fields then r.ofFields fields else none

/-- Read a record from its items, all of which it must take. -/
def array? (r : Record α) (items : List Json) : Option α :=
  match r.ofItems items with
  | some (v, []) => some v
  | _ => none

/-- Read a record in either form. -/
def read (r : Record α) : Json → Option α
  | .object fields => r.object? fields
  | .array items => r.array? items
  | _ => none

end Record

/-! ### Alternatives -/

/-- The name of an alternative, and its content if there is any. -/
def choice? : Json → Option (String × Option Json)
  | .string name => some (name, none)
  | .object [(name, content)] => some (name, some content)
  | _ => none

/-- The name of an alternative without content; an explicit content must be `null`. -/
def bareChoice? (v : Json) : Option String :=
  match choice? v with
  | some (name, none) => some name
  | some (name, some .null) => some name
  | _ => none

end SceneScript.Json
