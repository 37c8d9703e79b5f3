import SceneScript.Render.Chunk

/-! # Schedules

A `Schedule` says how the frames of each chunk are shared out among workers.  Nothing a render
answers depends on it as long as the workers do the same for the same frame; the schedule is a
parameter so that this can be stated.  What does depend on it is how many workers are forked, and
so at which frame a rasterizer that forks only so often stops a render.  `Schedule.ofThreads` is
the schedule of a given number of threads, and `Schedule.together` the simplest one. -/

namespace SceneScript

/-- For each chunk the positions that every worker takes, in the order in which it takes them, and
the workers in the order in which they are forked.  Each position is taken once. -/
structure Schedule where
  workers : Chunk → List (List Nat)
  complete : ∀ c : Chunk, (workers c).flatten.Perm (List.range c.length)

/-- One worker takes all frames of a chunk. -/
def Schedule.together : Schedule where
  workers c := [List.range c.length]
  complete c := by simp

/-- Every frame has a worker of its own. -/
def Schedule.apart : Schedule where
  workers c := (List.range c.length).map fun i => [i]
  complete c := by simp [← List.flatMap_def]

/-- Cut positions in halves, the halves in halves and so on: as often as the number of parts can
be halved before it is zero, and as long as there are two positions. -/
def halved (parts : Nat) (positions : List Nat) : List (List Nat) :=
  if parts = 0 ∨ positions.length < 2 then [positions]
  else
    halved (parts / 2) (positions.take (positions.length / 2)) ++
      halved (parts / 2) (positions.drop (positions.length / 2))
termination_by parts
decreasing_by all_goals omega

/-- Nothing is lost by cutting, and the order is kept. -/
@[simp] theorem flatten_halved (parts : Nat) (positions : List Nat) :
    (halved parts positions).flatten = positions := by
  induction parts, positions using halved.induct with
  | case1 parts positions h =>
    rw [halved, if_pos h]
    simp
  | case2 parts positions h left right =>
    rw [halved, if_neg h, List.flatten_append, left, right, List.take_append_drop]

/-- The schedule of a number of threads: a chunk is cut into more parts than there are threads, so
that one that is done early finds work, and every part has a worker of its own.  Without a number
one worker takes all. -/
def Schedule.ofThreads : Option UInt64 → Schedule
  | none => .together
  | some threads => {
      workers := fun c => halved threads.toNat (List.range c.length)
      complete := fun c => by simp }

end SceneScript
