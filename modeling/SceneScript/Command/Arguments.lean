import SceneScript.Decimal.Binary64
import SceneScript.Fault
import SceneScript.Geometry.Vec3

/-! # Arguments

The arguments of a command are numbers and names in any order.  An `Arguments.Reader` takes them
from left to right: it is given a position and the arguments from there on, and hands on what is
left.  Positions count from zero and are what messages quote. -/

namespace SceneScript

/-- An argument. -/
inductive Arg where
  | number (x : Float)
  | name (s : String)
deriving Repr, Inhabited

namespace Arguments

/-- The arguments that are still to be read, and the position of the first. -/
structure Rest where
  position : Nat
  args : List Arg
deriving Repr

/-- The arguments after the first. -/
def Rest.next (r : Rest) (args : List Arg) : Rest := ⟨r.position + 1, args⟩

/-- A way to read arguments. -/
def Reader (α : Type) : Type := Rest → Except ArgumentFault (α × Rest)

namespace Reader

variable {α β : Type}

/-- Read with a reader. -/
def run (p : Reader α) (r : Rest) : Except ArgumentFault (α × Rest) := p r

instance : Monad Reader where
  pure v := fun r => .ok (v, r)
  bind p f := fun r =>
    match p r with
    | .ok (v, rest) => f v rest
    | .error e => .error e

@[simp] theorem run_pure (v : α) (r : Rest) : (pure v : Reader α).run r = .ok (v, r) := rfl

@[simp] theorem run_bind (p : Reader α) (f : α → Reader β) (r : Rest) :
    (p >>= f).run r = match p.run r with
      | .ok (v, rest) => (f v).run rest
      | .error e => .error e := rfl

/-- Read all arguments; none may be left. -/
def readAll (p : Reader α) (args : List Arg) : Except ArgumentFault α :=
  match p.run ⟨0, args⟩ with
  | .error e => .error e
  | .ok (v, rest) =>
    if rest.args.isEmpty then .ok v else .error (.surplus rest.position args.length)

end Reader

/-- Give up. -/
def refuse {α : Type} (e : ArgumentFault) : Reader α := fun _ => .error e

/-- A number. -/
def number : Reader Float := fun r =>
  match r.args with
  | .number x :: args => .ok (x, r.next args)
  | .name s :: _ => .error (.notNumber r.position s)
  | [] => .error (.numberMissing r.position)

/-- A name. -/
def name : Reader String := fun r =>
  match r.args with
  | .name s :: args => .ok (s, r.next args)
  | .number x :: _ => .error (.notName r.position x)
  | [] => .error (.nameMissing r.position)

/-- A name, if there is one. -/
def name? : Reader (Option String) := fun r =>
  match r.args with
  | .name s :: args => .ok (some s, r.next args)
  | _ => .ok (none, r)

/-- Three numbers. -/
def point : Reader (Vec3 Float) := do
  let x ← number
  let y ← number
  let z ← number
  return ⟨x, y, z⟩

/-- The count of frames that a number stands for: an integer from one up that fits in thirty-two
bits. -/
def frameCount? (x : Float) : Option UInt32 :=
  (integer? x).bind fun n =>
    if 1 ≤ n ∧ n < UInt32.size then some (UInt32.ofNat n.toNat) else none

/-- The integer of sixty-four bits that is nearest to an integer. -/
def clamp (n : Int) : Int64 :=
  if n < Int64.minValue.toInt then Int64.minValue
  else if Int64.maxValue.toInt < n then Int64.maxValue
  else Int64.ofInt n

/-- The number of a frame: an integer, which may be negative or too large for now. -/
def frameIndex : Reader Int64 := do
  let x ← number
  match integer? x with
  | some n => return clamp n
  | none => refuse (.frameIndex x)

end Arguments

end SceneScript
