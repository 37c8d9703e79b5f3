import SceneScript.Action
import SceneScript.Decimal.Whole
import SceneScript.Surface

/-! # Sinks

A `Sink τ` is the collaborator that finished pictures go to: it shows them, stores them under
names, and joins the stored frames of an animation.  It is a record of actions on a state `τ` of
its own; it also says under which name a frame of an animation is stored. -/

namespace SceneScript

/-- The name of a frame's file: the base name, the number with at least three digits, a point and
the extension. -/
def numberedName (basename : String) (frame : Nat) (extension : String) : String :=
  basename ++ Decimal.padded 3 frame ++ "." ++ extension

/-- Something that shows and stores pictures. -/
structure Sink (τ : Type) where
  display : Surface → Action τ Unit
  store : Surface → String → Action τ Unit
  /-- Join the stored frames of a base name. -/
  join : String → Action τ Unit
  /-- The name under which a frame of a base name is stored. -/
  nameFrame : τ → String → Nat → String := fun _ basename frame =>
    numberedName basename frame "png"

end SceneScript
