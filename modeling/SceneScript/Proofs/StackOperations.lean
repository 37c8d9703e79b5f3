import Mathlib.Algebra.Ring.Int.Defs
import Mathlib.Data.List.Basic
import SceneScript.Geometry.TransformStack

/-! # Operations on the stack of coordinate systems

`StackOp` lists what the holder of a `TransformStack` can do with it, and `StackOp.run` says what
each operation answers and what stack it leaves; a `pop` that faults leaves the stack as it was.
`Slots.runAll?` does the same on a bare list of matrices, which could be empty: an operation that
needs a last slot where there is none has no answer.  `Slots.runAll?_toList` shows that from a
stack this never happens, and that the slots are those of the stack.

What stands below a `push` is safe until the `pop` that belongs to it: as long as no `pop` has
brought the depth back, all of the earlier stack is found below the active matrix
(`TransformStack.Over`, kept by `Over.run`), so that the `pop` that does bring it back uncovers the
earlier stack as a whole (`runs_isolated`). -/

namespace SceneScript

variable {α : Type}

theorem TransformStack.depth_eq_one_iff {s : TransformStack α} : s.depth = 1 ↔ s.below = [] := by
  unfold depth
  rw [Nat.add_eq_right, List.length_eq_zero_iff]

/-- What the holder of a stack can do with it. -/
inductive StackOp (α : Type) where
  | push
  | pop
  | apply (inner : Mat4 α)
  | replace (m : Mat4 α)
  /-- Write into the active matrix in place. -/
  | write (f : Mat4 α → Mat4 α)

namespace StackOp

/-- What an operation answers: only a `pop` has something to say. -/
abbrev Answer (α : Type) := Option (Except Fault (Mat4 α))

/-- The operation is a `push`. -/
def isPush : StackOp α → Bool
  | push => true
  | _ => false

/-- The answer of a `pop` that did not fault. -/
def Answer.isPopped : Answer α → Bool
  | some (.ok _) => true
  | _ => false

variable [Add α] [Mul α]

/-- The answer of an operation and the stack that it leaves. -/
def run (s : TransformStack α) : StackOp α → Answer α × TransformStack α
  | push => (none, s.push)
  | pop =>
    match s.pop with
    | .ok (m, t) => (some (.ok m), t)
    | .error e => (some (.error e), s)
  | apply inner => (none, s.apply inner)
  | replace m => (none, s.withTop m)
  | write f => (none, s.modifyTop f)

/-- The answers of operations one after the other, and the stack that they leave. -/
def runAll : List (StackOp α) → TransformStack α → List (Answer α) × TransformStack α
  | [], s => ([], s)
  | op :: ops, s =>
    let (answer, s) := op.run s
    let (answers, s) := runAll ops s
    (answer :: answers, s)

/-- The answers of operations. -/
def answers (ops : List (StackOp α)) (s : TransformStack α) : List (Answer α) := (runAll ops s).1

/-- The stack that operations leave. -/
def after (ops : List (StackOp α)) (s : TransformStack α) : TransformStack α := (runAll ops s).2

theorem after_cons (op : StackOp α) (ops : List (StackOp α)) (s : TransformStack α) :
    after (op :: ops) s = after ops (op.run s).2 := rfl

theorem answers_cons (op : StackOp α) (ops : List (StackOp α)) (s : TransformStack α) :
    answers (op :: ops) s = (op.run s).1 :: answers ops (op.run s).2 := rfl

theorem after_append (ops more : List (StackOp α)) (s : TransformStack α) :
    after (ops ++ more) s = after more (after ops s) := by
  induction ops generalizing s with
  | nil => rfl
  | cons op ops ih =>
      rw [List.cons_append, after_cons, after_cons, ih]

theorem after_concat (ops : List (StackOp α)) (op : StackOp α) (s : TransformStack α) :
    after (ops ++ [op]) s = (op.run (after ops s)).2 := by
  rw [after_append]
  rfl

/-! ### The outcome of a pop -/

theorem run_pop_of_below_eq_nil {s : TransformStack α} (h : s.below = []) :
    pop.run s = (some (.error .lastTransform), s) := by
  unfold run TransformStack.pop
  rw [h]

theorem run_pop_of_below_eq_cons {s : TransformStack α} {m : Mat4 α} {below : List (Mat4 α)}
    (h : s.below = m :: below) : pop.run s = (some (.ok s.top), ⟨m, below⟩) := by
  unfold run TransformStack.pop
  rw [h]

/-- A `pop` faults if and only if there is one matrix. -/
theorem run_pop_faults_iff {s : TransformStack α} :
    (∃ e, (pop.run s).1 = some (.error e)) ↔ s.depth = 1 := by
  rw [TransformStack.depth_eq_one_iff]
  cases h : s.below with
  | nil => simp [run_pop_of_below_eq_nil h]
  | cons m below => simp [run_pop_of_below_eq_cons h]

/-! ### The depth -/

/-- A `push` adds one to the depth, a `pop` that does not fault takes one away, and nothing else
changes it. -/
theorem depth_run (op : StackOp α) (s : TransformStack α) :
    (op.run s).2.depth + (if (op.run s).1.isPopped then 1 else 0) =
      s.depth + (if op.isPush then 1 else 0) := by
  cases op with
  | pop =>
      cases h : s.below with
      | nil =>
          rw [run_pop_of_below_eq_nil h]
          rfl
      | cons m below =>
          rw [run_pop_of_below_eq_cons h, TransformStack.depth, TransformStack.depth, h]
          rfl
  | _ => rfl

theorem depth_after (ops : List (StackOp α)) (s : TransformStack α) :
    (after ops s).depth + (answers ops s).countP Answer.isPopped =
      s.depth + ops.countP isPush := by
  induction ops generalizing s with
  | nil => rfl
  | cons op ops ih =>
      have hop := depth_run op s
      have hops := ih (op.run s).2
      rw [after_cons, answers_cons, List.countP_cons, List.countP_cons]
      omega

end StackOp

/-! ### A bare list of matrices -/

/-- The matrices of a stack, the active one last. -/
def TransformStack.toList (s : TransformStack α) : List (Mat4 α) := s.below.reverse ++ [s.top]

namespace Slots

open StackOp

/-- Overwrite the last slot, if there is one. -/
def setLast? (slots : List (Mat4 α)) (m : Mat4 α) : Option (List (Mat4 α)) :=
  if slots.isEmpty then none else some (slots.dropLast ++ [m])

theorem getLast?_toList (s : TransformStack α) : s.toList.getLast? = some s.top :=
  List.getLast?_concat

theorem length_toList (s : TransformStack α) : s.toList.length = s.depth := by
  unfold TransformStack.toList TransformStack.depth
  rw [List.length_append, List.length_reverse, List.length_singleton]

theorem setLast?_toList (s : TransformStack α) (m : Mat4 α) :
    setLast? s.toList m = some (s.withTop m).toList := by
  unfold setLast? TransformStack.toList TransformStack.withTop
  rw [if_neg (by simp), List.dropLast_concat]

variable [Add α] [Mul α]

/-- An operation on slots, if the last slot is there when it is needed. -/
def run? (slots : List (Mat4 α)) : StackOp α → Option (Answer α × List (Mat4 α))
  | .push => do
    let m ← slots.getLast?
    return (none, slots ++ [m])
  | .pop =>
    if slots.length ≤ 1 then return (some (.error .lastTransform), slots)
    else do
      let m ← slots.getLast?
      return (some (.ok m), slots.dropLast)
  | .apply inner => do
    let m ← slots.getLast?
    let slots ← setLast? slots (m * inner)
    return (none, slots)
  | .replace m => do
    let slots ← setLast? slots m
    return (none, slots)
  | .write f => do
    let m ← slots.getLast?
    let slots ← setLast? slots (f m)
    return (none, slots)

/-- Operations on slots one after the other. -/
def runAll? : List (StackOp α) → List (Mat4 α) → Option (List (Answer α) × List (Mat4 α))
  | [], slots => some ([], slots)
  | op :: ops, slots => do
    let (answer, slots) ← run? slots op
    let (answers, slots) ← runAll? ops slots
    return (answer :: answers, slots)

/-- The slots of a stack have what every operation needs. -/
theorem run?_toList (s : TransformStack α) (op : StackOp α) :
    run? s.toList op = some ((op.run s).1, (op.run s).2.toList) := by
  cases op with
  | push =>
      unfold run?
      rw [getLast?_toList]
      simp [run, TransformStack.push, TransformStack.toList]
  | pop =>
      unfold run?
      rw [getLast?_toList]
      cases h : s.below with
      | nil =>
          rw [run_pop_of_below_eq_nil h, if_pos (by simp [TransformStack.toList, h])]
          rfl
      | cons m below =>
          rw [run_pop_of_below_eq_cons h, if_neg (by simp [TransformStack.toList, h])]
          simp [TransformStack.toList, h]
  | apply inner =>
      unfold run?
      simp only [getLast?_toList, setLast?_toList, Option.bind_eq_bind, Option.bind_some]
      rfl
  | replace m =>
      unfold run?
      simp only [setLast?_toList, Option.bind_eq_bind, Option.bind_some]
      rfl
  | write f =>
      unfold run?
      simp only [getLast?_toList, setLast?_toList, Option.bind_eq_bind, Option.bind_some]
      rfl

theorem runAll?_toList (ops : List (StackOp α)) (s : TransformStack α) :
    runAll? ops s.toList = some (answers ops s, (after ops s).toList) := by
  induction ops generalizing s with
  | nil => rfl
  | cons op ops ih =>
      unfold runAll?
      simp only [run?_toList, ih, Option.bind_eq_bind, Option.bind_some]
      rfl

end Slots

namespace TransformStack

open StackOp

variable {s t : TransformStack α}

/-! ### Isolation -/

/-- All of a stack is found below the active matrix of another. -/
def Over (s t : TransformStack α) : Prop := ∃ upper, t.below = upper ++ s.top :: s.below

theorem over_push (s : TransformStack α) : Over s s.push := ⟨[], rfl⟩

variable [Add α] [Mul α]

/-- Only a `pop` that brings the depth back uncovers the stack. -/
theorem Over.run (h : Over s t) (op : StackOp α)
    (hop : op = .pop → (op.run t).2.depth ≠ s.depth) : Over s (op.run t).2 := by
  obtain ⟨upper, hbelow⟩ := h
  cases op with
  | push => exact ⟨t.top :: upper, congrArg (t.top :: ·) hbelow⟩
  | pop =>
      cases upper with
      | nil =>
          -- This `pop` would take off the last matrix above the stack.
          refine absurd ?_ (hop rfl)
          rw [run_pop_of_below_eq_cons hbelow]
      | cons m upper =>
          rw [run_pop_of_below_eq_cons hbelow]
          exact ⟨upper, rfl⟩
  | apply inner => exact ⟨upper, hbelow⟩
  | replace m => exact ⟨upper, hbelow⟩
  | write f => exact ⟨upper, hbelow⟩

/-- As long as no `pop` brings the depth back, the stack stays covered. -/
theorem Over.after (h : Over s t) {ops : List (StackOp α)}
    (hops : ∀ front rest, ops = front ++ .pop :: rest →
      (after (front ++ [.pop]) t).depth ≠ s.depth) : Over s (after ops t) := by
  induction ops generalizing t with
  | nil => exact h
  | cons op ops ih =>
      rw [after_cons]
      apply ih
      · apply h.run
        rintro rfl
        exact hops [] ops rfl
      · intro front rest hfront
        exact hops (op :: front) rest (by rw [hfront, List.cons_append])

/-- The `pop` that brings the depth back uncovers the stack as a whole. -/
theorem Over.run_pop (h : Over s t) (hdepth : (StackOp.pop.run t).2.depth = s.depth) :
    StackOp.pop.run t = (some (.ok t.top), s) := by
  obtain ⟨upper, hbelow⟩ := h
  cases upper with
  | nil => exact run_pop_of_below_eq_cons hbelow
  | cons m upper =>
      rw [List.cons_append] at hbelow
      rw [run_pop_of_below_eq_cons hbelow] at hdepth
      simp only [depth, List.length_append, List.length_cons] at hdepth
      omega

/-- Between a `push` on a stack and a later `pop` stand some operations, and this is the first `pop`
that brings the depth back to what it was before the `push`. -/
structure Matches (s : TransformStack α) (inside : List (StackOp α)) : Prop where
  back : (after (.push :: inside ++ [.pop]) s).depth = s.depth
  first : ∀ front rest, inside = front ++ .pop :: rest →
    (after (.push :: front ++ [.pop]) s).depth ≠ s.depth

/-- A matching `pop` answers with the active matrix and leaves the stack before the `push`. -/
theorem Matches.run_pop {inside : List (StackOp α)} (h : Matches s inside) :
    StackOp.pop.run (StackOp.after (.push :: inside) s) =
      (some (.ok (StackOp.after (.push :: inside) s).top), s) := by
  have hover : Over s (StackOp.after (.push :: inside) s) := (over_push s).after h.first
  have hdepth := h.back
  rw [after_concat] at hdepth
  exact hover.run_pop hdepth

/-- **Coordinate systems are isolated from each other.**  Whatever operations have led from a new
stack to `s`, there was always an active matrix: on bare slots no operation has found them empty.
The depth is one more than the number of `push`es, less the `pop`s that did not fault.  A `pop`
faults if and only if the depth is one, and leaves the stack as it was.  After a `push`, any other
operations, and the `pop` that matches the `push`, the whole stack is what it was, and this `pop`
has answered with the matrix that was active. -/
theorem runs_isolated [Zero α] [One α] {ops : List (StackOp α)} (h : after ops .initial = s) :
    Slots.runAll? ops [.identity] = some (answers ops .initial, s.toList) ∧
      s.toList.getLast? = some s.top ∧ s.toList.length = s.depth ∧
      s.depth + (answers ops .initial).countP Answer.isPopped = 1 + ops.countP isPush ∧
      1 ≤ s.depth ∧
      ((∃ e, (StackOp.pop.run s).1 = some (.error e)) ↔ s.depth = 1) ∧
      (s.depth = 1 → StackOp.pop.run s = (some (.error .lastTransform), s)) ∧
      ∀ inside, Matches s inside →
        after (.push :: inside ++ [.pop]) s = s ∧
          (StackOp.pop.run (after (.push :: inside) s)).1 =
            some (.ok (after (.push :: inside) s).top) := by
  subst h
  refine ⟨Slots.runAll?_toList ops .initial, Slots.getLast?_toList _, Slots.length_toList _,
    depth_after ops .initial, Nat.le_add_left 1 _, run_pop_faults_iff, ?_, ?_⟩
  · intro h
    exact run_pop_of_below_eq_nil (depth_eq_one_iff.mp h)
  · intro inside h
    rw [after_concat, h.run_pop]
    exact ⟨rfl, rfl⟩

/-- A move, and a `pop` too many. -/
def overpopped : List (StackOp Int) := [.apply (.ofMove ⟨1, 2, 3⟩), .pop]

/-- The active matrix is doubled and moved further, and a nested copy of it overwritten. -/
def reworked : List (StackOp Int) :=
  [.apply (.ofScale ⟨2, 2, 2⟩), .push, .replace .identity, .pop,
    .write fun m => { m with wAxis := ⟨9, 9, 9, 1⟩ }]

theorem reworked_isolated :
    ∃ s, after overpopped .initial = s ∧ Matches s reworked ∧
      s.depth + (answers overpopped .initial).countP Answer.isPopped = 1 ∧
      StackOp.pop.run s = (some (.error .lastTransform), s) ∧
      after (.push :: reworked ++ [.pop]) s = s ∧
      (StackOp.pop.run (after (.push :: reworked) s)).1 =
        some (.ok ⟨⟨2, 0, 0, 0⟩, ⟨0, 2, 0, 0⟩, ⟨0, 0, 2, 0⟩, ⟨9, 9, 9, 1⟩⟩) := by
  have hmatches : Matches (after overpopped .initial) reworked := by
    refine ⟨by decide, fun front rest h => ?_⟩
    -- Only the fourth of the operations is a `pop`.
    rcases front with _ | ⟨_, _ | ⟨_, _ | ⟨_, _ | ⟨_, _ | ⟨_, front⟩⟩⟩⟩⟩ <;>
      simp [reworked] at h
    obtain ⟨rfl, rfl, rfl, -⟩ := h
    decide
  have hafter : after overpopped .initial = after overpopped .initial := rfl
  obtain ⟨-, -, -, hdepth, -, -, hfault, hinside⟩ := runs_isolated hafter
  obtain ⟨hstack, hanswer⟩ := hinside reworked hmatches
  exact ⟨_, hafter, hmatches, hdepth, hfault (by decide), hstack, hanswer⟩

end TransformStack

end SceneScript
