import SceneScript.Decimal.Notation
import SceneScript.Decimal.Whole
import SceneScript.Op

/-! # Faults

`Fault` lists what can go wrong in this library, each cause with the facts its report needs.
`Fault.kind` sorts the causes into seven kinds, and `Fault.message` is the one place that words
them.  Rasterizers and sinks report their own faults as `reported`. -/

namespace SceneScript

/-- The kinds of fault. -/
inductive Fault.Kind where
  /-- Malformed arguments or an invalid configuration. -/
  | validation
  /-- A directive stands before one it depends on. -/
  | ordering
  /-- A frame outside the declared frames. -/
  | range
  /-- A name without the definition it needs. -/
  | lookup
  /-- A pop without a push. -/
  | stackUnderflow
  /-- A text that is not what it should describe. -/
  | serialization
  /-- A fault of the surroundings. -/
  | other
deriving DecidableEq, Repr

/-- What is wrong with the arguments of one command. -/
inductive ArgumentFault where
  | knobNotAccepted
  | knobMissing
  | notNumber (position : Nat) (found : String)
  | notName (position : Nat) (found : Float)
  | numberMissing (position : Nat)
  | nameMissing (position : Nat)
  | frameCount (found : Float)
  | frameIndex (found : Float)
  | varyOrder (first last : Int64)
  | unknownAxis (name : String)
  | surplus (expected found : Nat)
deriving Repr

/-- A place in a run: the frame, and the directive with its position. -/
structure Site where
  frame : Nat
  index : Nat
  op : Op
deriving DecidableEq, Repr

/-- What a text was meant to describe. -/
inductive Document where
  | scene
  | settings
  | output
deriving DecidableEq, Repr

/-- Everything that can go wrong. -/
inductive Fault where
  | malformed (index : Nat) (op : Op) (cause : ArgumentFault)
  | varyBeforeFrames (index : Nat) (knob : String)
  | varyOutsideFrames (index : Nat) (knob : String) (first last : Int64) (lastFrame : Int)
  | undefinedConstants (site : Site) (name : String)
  | undefinedKnob (site : Site) (name : String)
  | popWithoutPush (site : Site)
  | lastTransform
  | notKnob (name : String)
  | emptyCanvas
  | zeroStep
  | tableLength (rows frames : Nat)
  | rowMissing (frame : Nat)
  | noForking
  | zeroThreads
  | forkingStopped
  | emptyExtension
  | zeroOutputRate
  | zeroAnimationRate
  | emptyPattern
  | outputExists (path : String)
  | assemblerMissing
  | assemblerNotStarted
  | assemblerFailed (status : Nat) (report : String)
  | directoryNotCreated (path : String)
  | imageNotWritten (path : String)
  | sceneNotRead (path : String)
  | unreadable (document : Document)
  | reported (kind : Fault.Kind) (text : String)
deriving Repr

/-- Floats in messages are positional with the shortest digits, whole numbers without a point. -/
def Fault.floats : Decimal.Notation where
  tie := .away
  keepPoint := false
  window := none
  nan := "NaN"
  infinity := "inf"
  negativeInfinity := "-inf"

/-- The wording of an argument fault. -/
def ArgumentFault.text : ArgumentFault → String
  | knobNotAccepted => "knob is only accepted on vary/move/scale/rotate"
  | knobMissing => "vary requires a knob name"
  | notNumber position found =>
    "argument " ++ Nat.repr position ++ " must be a number, got '" ++ found ++ "'"
  | notName position found =>
    "argument " ++ Nat.repr position ++ " must be a name, got " ++ Fault.floats.write found
  | numberMissing position => "missing numeric argument " ++ Nat.repr position
  | nameMissing position => "missing name argument " ++ Nat.repr position
  | frameCount found => "frame count must be an integer >= 1, got " ++ Fault.floats.write found
  | frameIndex found => "frame index must be an integer, got " ++ Fault.floats.write found
  | varyOrder first last =>
    "vary start frame " ++ Decimal.integer first.toInt ++ " must be before end frame "
      ++ Decimal.integer last.toInt
  | unknownAxis name => "unknown rotation axis '" ++ name ++ "'"
  | surplus expected found =>
    "expected " ++ Nat.repr expected ++ " arguments, got " ++ Nat.repr found

/-- A command, as messages refer to it. -/
def commandText (index : Nat) (op : Op) : String :=
  "command #" ++ Nat.repr index ++ " (" ++ op.name ++ ")"

/-- A place in a run, as messages refer to it. -/
def Site.text (s : Site) : String :=
  "frame " ++ Nat.repr s.frame ++ ", " ++ commandText s.index s.op

namespace Fault

/-- The words that introduce a message of a kind. -/
def Kind.heading : Kind → String
  | .validation => "validation error: "
  | .ordering => "ordering error: "
  | .range => "range error: "
  | .lookup => "lookup error: "
  | .stackUnderflow => "stack underflow: "
  | .serialization => "serialization error: "
  | .other => ""

/-- The kind of a fault. -/
def kind : Fault → Kind
  | malformed .. => .validation
  | varyBeforeFrames .. => .ordering
  | varyOutsideFrames .. => .range
  | undefinedConstants .. => .lookup
  | undefinedKnob .. => .lookup
  | popWithoutPush .. => .stackUnderflow
  | lastTransform => .stackUnderflow
  | notKnob .. => .validation
  | emptyCanvas => .validation
  | zeroStep => .validation
  | tableLength .. => .validation
  | rowMissing .. => .range
  | noForking => .validation
  | zeroThreads => .validation
  | forkingStopped => .validation
  | emptyExtension => .validation
  | zeroOutputRate => .validation
  | zeroAnimationRate => .validation
  | emptyPattern => .validation
  | outputExists .. => .validation
  | assemblerMissing => .validation
  | assemblerNotStarted => .other
  | assemblerFailed .. => .other
  | directoryNotCreated .. => .other
  | imageNotWritten .. => .other
  | sceneNotRead .. => .other
  | unreadable .. => .serialization
  | reported kind _ => kind

/-- The wording of a fault, without its kind. -/
def text : Fault → String
  | malformed index op cause => commandText index op ++ ": " ++ cause.text
  | varyBeforeFrames index knob =>
    "command #" ++ Nat.repr index ++ ": vary '" ++ knob ++ "' appears before any frames directive"
  | varyOutsideFrames index knob first last lastFrame =>
    "command #" ++ Nat.repr index ++ ": vary '" ++ knob ++ "' frames "
      ++ Decimal.integer first.toInt ++ ".." ++ Decimal.integer last.toInt
      ++ " fall outside 0.." ++ Decimal.integer lastFrame
  | undefinedConstants site name => site.text ++ ": constants '" ++ name ++ "' is not defined"
  | undefinedKnob site name => site.text ++ ": knob '" ++ name ++ "' is not defined"
  | popWithoutPush site => site.text ++ ": pop without push"
  | lastTransform => "pop would leave the transform stack empty"
  | notKnob name => "symbol '" ++ name ++ "' is a constants set, not a knob"
  | emptyCanvas => "canvas width/height must be non-zero"
  | zeroStep => "tessellation step must be non-zero"
  | tableLength rows frames =>
    "knob table has " ++ Nat.repr rows ++ " frames, animation declares " ++ Nat.repr frames
  | rowMissing frame => "frame " ++ Nat.repr frame ++ " has no knob table entry"
  | noForking => "parallel render requires a backend that supports worker forking"
  | zeroThreads => "render threading 'threads' must be >= 1 when set"
  | forkingStopped => "backend stopped forking render workers"
  | emptyExtension => "output extensions must be non-empty"
  | zeroOutputRate => "output fps must be non-zero"
  | zeroAnimationRate => "animation fps must be non-zero"
  | emptyPattern => "frame input pattern must be non-empty"
  | outputExists path => "output file '" ++ path ++ "' already exists"
  | assemblerMissing => "ffmpeg is required to assemble animations, but was not found on PATH"
  | assemblerNotStarted =>
    "failed to spawn ffmpeg (is it installed and on PATH?): nul byte found in provided data"
  | assemblerFailed status report =>
    "ffmpeg exited with status exit status: " ++ Nat.repr status ++ ": " ++ report
  | directoryNotCreated path => "failed to create output directory '" ++ path ++ "'"
  | imageNotWritten path => "write image '" ++ path ++ "'"
  | sceneNotRead path => "read scene '" ++ path ++ "'"
  | unreadable .scene => "parse scene JSON"
  | unreadable .settings => "parse render settings"
  | unreadable .output => "parse output config"
  | reported _ text => text

/-- The whole message of a fault. -/
def message (f : Fault) : String := f.kind.heading ++ f.text

end Fault

end SceneScript
