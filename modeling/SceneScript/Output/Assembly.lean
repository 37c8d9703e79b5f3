import SceneScript.Output.Disk
import SceneScript.Text.Blank

/-! # Joining the frames of an animation

An `Assembly` describes how numbered pictures become one file.  An external program, the
`Assembler`, does it; `Assembly.run` checks the description, prepares the directory, and calls the
program with `Assembly.arguments`.  A program cannot be started with a null character in its
arguments. -/

namespace SceneScript

/-- How numbered pictures become one file. -/
structure Assembly where
  /-- The path of a picture, with a conversion such as `%03d` in the place of its number. -/
  pattern : Path
  /-- Pictures per second. -/
  rate : UInt32
  target : Path
  overwrite : Bool
deriving Repr, Inhabited

/-- How a run of an external program ended. -/
inductive Exit where
  | success
  | failure (status : Nat) (report : String)
deriving DecidableEq, Repr

/-- An external program: whether it can be found, and what a run with arguments does to a disk. -/
structure Assembler where
  available : Bool
  run : List String → Disk → Exit × Disk

/-- A disk, and the arguments of all runs of external programs so far. -/
structure Workspace where
  disk : Disk
  calls : List (List String)
deriving Repr, Inhabited

namespace Workspace

/-- Work on the disk. -/
def onDisk {α : Type} (a : Action Disk α) : Action Workspace α :=
  a.within (·.disk) fun disk w => { w with disk }

/-- Run an external program. -/
def call (assembler : Assembler) (arguments : List String) : Action Workspace Exit := fun w =>
  let (exit, disk) := assembler.run arguments w.disk
  (.ok exit, ⟨disk, w.calls ++ [arguments]⟩)

end Workspace

namespace Assembly

/-- Refuse a rate of zero, and a pattern that is empty. -/
def validate (a : Assembly) : Except Fault Unit :=
  if a.rate = 0 then .error .zeroAnimationRate
  else if a.pattern.text.isEmpty then .error .emptyPattern
  else .ok ()

/-- The arguments that the program is run with. -/
def arguments (a : Assembly) : List String :=
  [if a.overwrite then "-y" else "-n", "-loglevel", "error", "-framerate",
    Nat.repr a.rate.toNat, "-i", a.pattern.text, a.target.text]

/-- Join the pictures. -/
def run (assembler : Assembler) (a : Assembly) : Action Workspace Unit := do
  Action.ofExcept a.validate
  Workspace.onDisk (Disk.createParent a.target)
  let taken ← Action.inspect fun w => !a.overwrite && w.disk.contains a.target
  if taken then Action.fail (.outputExists a.target.text)
  else if !assembler.available then Action.fail .assemblerMissing
  else if a.pattern.hasNull || a.target.hasNull then Action.fail .assemblerNotStarted
  else
    match ← Workspace.call assembler a.arguments with
    | .success => return ()
    | .failure status report => Action.fail (.assemblerFailed status (Text.trim report))

end Assembly

end SceneScript
