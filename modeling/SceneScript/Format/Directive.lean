import SceneScript.Directive
import SceneScript.Format.Geometry

/-! # Directives in JSON

A directive is an alternative: its name alone, or an object that holds its fields under its name.
So is the shape inside a shape directive. -/

namespace SceneScript.Format

open Json

/-- An object whose only field is an alternative with its fields. -/
def alternative (name : String) (fields : List (String × Json)) : Json :=
  .object [(name, .object fields)]

/-- A name that may be absent. -/
def ofName? (name : Option String) : Json := ofOption .string name

/-- A field for a name that may be absent. -/
def nameField? (field : String) : Record (Option String) := Record.optionalField field string?

/-! ### Shapes -/

/-- Write a shape. -/
def ofShape : Shape → Json
  | .box corner size => alternative "Box" [("corner", ofVec3 corner), ("size", ofVec3 size)]
  | .sphere center radius =>
    alternative "Sphere" [("center", ofVec3 center), ("radius", ofFloat radius)]
  | .torus center minorRadius majorRadius =>
    alternative "Torus" [("center", ofVec3 center), ("minor_radius", ofFloat minorRadius),
      ("major_radius", ofFloat majorRadius)]

/-- The fields of a shape. -/
def shapeRecord? : String → Option (Record Shape)
  | "Box" => some (Shape.box <$> Record.field "corner" vec3? <*> Record.field "size" vec3?)
  | "Sphere" => some (Shape.sphere <$> Record.field "center" vec3? <*> Record.field "radius" float?)
  | "Torus" =>
    some (Shape.torus <$> Record.field "center" vec3? <*> Record.field "minor_radius" float?
      <*> Record.field "major_radius" float?)
  | _ => none

/-- Read a shape. -/
def shape? (v : Json) : Option Shape :=
  match choice? v with
  | some (name, some content) => (shapeRecord? name).bind (·.read content)
  | _ => none

/-! ### Directives -/

/-- The fields of a `vary`, written. -/
def varyFields (v : Vary) : List (String × Json) :=
  [("knob", .string v.knob), ("start_frame", .integer v.firstFrame.toInt),
    ("end_frame", .integer v.lastFrame.toInt), ("start_value", ofFloat v.firstValue),
    ("end_value", ofFloat v.lastValue)]

/-- A `vary` from its fields. -/
def varyOf (knob : String) (firstFrame lastFrame : Int64) (firstValue lastValue : Float) : Vary :=
  { firstFrame, lastFrame, firstValue, lastValue, knob }

/-- The fields of a `vary`. -/
def varyRecord : Record Vary :=
  varyOf <$> Record.field "knob" string? <*> Record.field "start_frame" int64?
    <*> Record.field "end_frame" int64? <*> Record.field "start_value" float?
    <*> Record.field "end_value" float?

/-- Write a directive. -/
def ofDirective : Directive → Json
  | .frames count => alternative "Frames" [("count", ofNat count.toNat)]
  | .basename name => alternative "Basename" [("name", .string name)]
  | .vary v => alternative "Vary" (varyFields v)
  | .shape shape constants coords =>
    alternative "Shape" [("shape", ofShape shape), ("constants", ofName? constants),
      ("coords", ofName? coords)]
  | .line constants p0 coords0 p1 coords1 =>
    alternative "Line" [("constants", ofName? constants), ("p0", ofVec3 p0),
      ("coords0", ofName? coords0), ("p1", ofVec3 p1), ("coords1", ofName? coords1)]
  | .motion (.move offset) knob =>
    alternative "Move" [("offset", ofVec3 offset), ("knob", ofName? knob)]
  | .motion (.scale factors) knob =>
    alternative "Scale" [("factors", ofVec3 factors), ("knob", ofName? knob)]
  | .motion (.rotate axis degrees) knob =>
    alternative "Rotate" [("axis", ofAxis axis), ("degrees", ofFloat degrees),
      ("knob", ofName? knob)]
  | .push => .string "Push"
  | .pop => .string "Pop"
  | .display => .string "Display"
  | .save name => alternative "Save" [("name", .string name)]

/-- The directives without fields. -/
def bareDirective? : String → Option Directive
  | "Push" => some .push
  | "Pop" => some .pop
  | "Display" => some .display
  | _ => none

/-- The fields of a directive. -/
def directiveRecord? : String → Option (Record Directive)
  | "Frames" => some (Directive.frames <$> Record.field "count" uint32?)
  | "Basename" => some (Directive.basename <$> Record.field "name" string?)
  | "Vary" => some (Directive.vary <$> varyRecord)
  | "Shape" =>
    some (Directive.shape <$> Record.field "shape" shape? <*> nameField? "constants"
      <*> nameField? "coords")
  | "Line" =>
    some (Directive.line <$> nameField? "constants" <*> Record.field "p0" vec3?
      <*> nameField? "coords0" <*> Record.field "p1" vec3? <*> nameField? "coords1")
  | "Move" =>
    some ((fun offset => Directive.motion (.move offset)) <$> Record.field "offset" vec3?
      <*> nameField? "knob")
  | "Scale" =>
    some ((fun factors => Directive.motion (.scale factors)) <$> Record.field "factors" vec3?
      <*> nameField? "knob")
  | "Rotate" =>
    some ((fun axis degrees => Directive.motion (.rotate axis degrees))
      <$> Record.field "axis" axis? <*> Record.field "degrees" float? <*> nameField? "knob")
  | "Save" => some (Directive.save <$> Record.field "name" string?)
  | _ => none

/-- Read a directive. -/
def directive? (v : Json) : Option Directive :=
  match choice? v with
  | none => none
  | some (name, content) =>
    match bareDirective? name with
    | some d => if content matches none | some .null then some d else none
    | none => content.bind fun v => (directiveRecord? name).bind (·.read v)

end SceneScript.Format
