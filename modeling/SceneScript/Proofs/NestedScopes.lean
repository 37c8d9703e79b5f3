import SceneScript.Proofs.FrameRuns
import SceneScript.Proofs.Recording

/-! # Nested scopes

A scene is a flat list of directives in which `push` and `pop` save and restore the coordinate
system.  Read with brackets it is a forest of `Node`s: a node is a directive other than these two,
or a group of nodes.  `Node.run` evaluates a forest by recursion and without a stack: the coordinate
system is a matrix passed by value, a motion replaces it by its product with the matrix of the
motion, and what a group makes of its copy is gone when the group ends.  What a name stands for is
read from the symbols (`Node.factor`, `Node.shine`).  An evaluation that faults leaves word of the
position, in the flattened forest, of the directive at fault.

The run of a flattened forest is the evaluation of the forest (`stepsLocated_flatten`): below the
top of the stack stand the matrices of the groups around, and no directive of a group touches them.
Conversely the directives of every successful run are a flattened forest up to `pop`s missing at the
end (`exists_flatten_of_steps`). -/

namespace SceneScript

variable {σ : Type}

namespace Action

variable {α β : Type}

/-- Leave word of a position if the action faults. -/
def located (position : Nat) (a : Action σ α) : Action (σ × Option Nat) α := fun s =>
  match a.run s.1 with
  | (.ok v, t) => (.ok v, (t, s.2))
  | (.error e, t) => (.error e, (t, some position))

theorem run_located (position : Nat) (a : Action σ α) (s : σ × Option Nat) :
    (a.located position).run s = match a.run s.1 with
      | (.ok v, t) => (.ok v, (t, s.2))
      | (.error e, t) => (.error e, (t, some position)) := rfl

theorem located_pure (position : Nat) (v : α) :
    (pure v : Action σ α).located position = pure v := rfl

theorem located_bind (position : Nat) (a : Action σ α) (f : α → Action σ β) :
    (a >>= f).located position = a.located position >>= fun v => (f v).located position := by
  ext1 s
  rw [run_located, run_bind, run_bind, run_located]
  rcases a.run s.1 with ⟨_ | v, t⟩ <;> rfl

end Action

/-- Every directive but `push` and `pop`. -/
def Directive.isPlain : Directive → Bool
  | .push | .pop => false
  | _ => true

/-- A directive other than `push` and `pop`, or a group of nodes. -/
inductive Node where
  | single (d : Directive) (plain : d.isPlain)
  | group (nodes : List Node)

/-- What a frame has come to, apart from coordinate systems. -/
structure Drawing where
  surface : Surface
  requests : List Request

/-- The progress of a run with a drawing, an active matrix and the matrices below it. -/
def Drawing.progress (p : Drawing) (m : Mat4 Float) (below : List (Mat4 Float)) :
    Frame.Progress where
  stack := ⟨m, below⟩
  surface := p.surface
  requests := p.requests

namespace Node

mutual
/-- The directives of a node; a group is put between `push` and `pop`. -/
def directives : Node → List Directive
  | single d _ => [d]
  | group nodes => .push :: (flatten nodes ++ [.pop])
/-- The directives of a forest. -/
def flatten : List Node → List Directive
  | [] => []
  | node :: nodes => node.directives ++ flatten nodes
end

/-! ### Evaluation by recursion -/

section Evaluation

variable (rasterizer : Rasterizer σ) (settings : Settings) (symbols : SymbolTable) (number : Nat)

/-- What a motion is multiplied by: the number of the knob that a name stands for, or one. -/
def factor (site : Site) : Option String → Except Fault Float
  | none => .ok 1
  | some name =>
    match symbols.get? name with
    | some (.knob v) => .ok v
    | _ => .error (.undefinedKnob site name)

/-- What is drawn with: the constants that a name stands for, or the standard ones. -/
def shine (site : Site) : Option String → Except Fault Reflectance
  | none => .ok settings.reflectance
  | some name =>
    match symbols.get? name with
    | some (.constants r) => .ok r
    | _ => .error (.undefinedConstants site name)

/-- The matrix of a motion whose numbers are multiplied by a factor. -/
def localMatrix (k : Float) : Motion Float → Mat4 Float
  | .move offset => .ofMove ⟨offset.x * k, offset.y * k, offset.z * k⟩
  | .scale factors => .ofScale ⟨factors.x * k, factors.y * k, factors.z * k⟩
  | .rotate axis degrees =>
    .ofRotation axis (Trigonometry.cos (degrees * k)) (Trigonometry.sin (degrees * k))

/-- Evaluate a directive at a position in a coordinate system: the coordinate system that what
follows it is in, and the drawing. -/
def evaluatePlain (position : Nat) (m : Mat4 Float) (p : Drawing) (d : Directive) :
    Action σ (Mat4 Float × Drawing) :=
  let site : Site := ⟨number, position, d.op⟩
  match d with
  | .shape shape constants _ => do
    let r ← Action.ofExcept (shine settings symbols site constants)
    let triangles ← Frame.divide rasterizer settings.step shape
    let surface ← rasterizer.drawTriangles ⟨triangles.points.map m.mapPoint⟩ p.surface
      ⟨settings.lighting, r⟩
    return (m, { p with surface })
  | .line constants p0 _ p1 _ => do
    let _ ← Action.ofExcept (shine settings symbols site constants)
    let segments ← rasterizer.line p0 p1
    let surface ← rasterizer.drawSegments ⟨segments.points.map m.mapPoint⟩ p.surface
      settings.lineColor
    return (m, { p with surface })
  | .motion motion knob => do
    let k ← Action.ofExcept (factor symbols site knob)
    return (m * localMatrix k motion, p)
  | .display => return (m, { p with requests := p.requests ++ [.display p.surface] })
  | .save name => return (m, { p with requests := p.requests ++ [.save name p.surface] })
  | _ => return (m, p)

mutual
/-- Evaluate a node whose first directive has a position. -/
def evaluate (position : Nat) (m : Mat4 Float) (p : Drawing) :
    Node → Action (σ × Option Nat) (Mat4 Float × Drawing)
  | single d _ =>
    (evaluatePlain rasterizer settings symbols number position m p d).located position
  | group nodes => do
    let (_, p) ← evaluateAll (position + 1) m p nodes
    return (m, p)
/-- Evaluate a forest whose first directive has a position. -/
def evaluateAll (position : Nat) (m : Mat4 Float) (p : Drawing) :
    List Node → Action (σ × Option Nat) (Mat4 Float × Drawing)
  | [] => pure (m, p)
  | node :: nodes => do
    let (m, p) ← evaluate position m p node
    evaluateAll (position + node.directives.length) m p nodes
end

/-- Evaluate a forest for one frame. -/
def run (nodes : List Node) : Action (σ × Option Nat) Frame := do
  let (_, p) ← evaluateAll rasterizer settings symbols number 0 .identity
    ⟨settings.blankSurface, []⟩ nodes
  return ⟨number, p.surface, p.requests⟩

end Evaluation

end Node

namespace Frame

open SceneScript.Action Node

variable (rasterizer : Rasterizer σ) (settings : Settings) (symbols : SymbolTable) (number : Nat)

/-- Execute directives, leaving word of the position of the one at fault. -/
def stepsLocated : Nat → List Directive → Progress → Action (σ × Option Nat) Progress
  | _, [], p => pure p
  | index, d :: directives, p => do
    let p ← (step rasterizer settings symbols number index d p).located index
    stepsLocated (index + 1) directives p

/-! ### The stack during a group -/

theorem stretch_eq_factor (knob : Option String) (site : Site) :
    stretch symbols knob site = factor symbols site knob := by
  cases knob with
  | none => rfl
  | some name =>
      rw [stretch, factor, SymbolTable.knob?]
      rcases symbols.get? name with _ | _ | _ <;> rfl

theorem reflectance_eq_shine (constants : Option String) (site : Site) :
    reflectance symbols settings.reflectance constants site =
      shine settings symbols site constants := by
  cases constants with
  | none => rfl
  | some name =>
      rw [reflectance, shine, SymbolTable.constants?]
      rcases symbols.get? name with _ | _ | _ <;> rfl

/-- A plain directive sees the top of the stack and leaves what is below it. -/
theorem step_of_isPlain {d : Directive} (h : d.isPlain) (index : Nat) (m : Mat4 Float)
    (below : List (Mat4 Float)) (p : Drawing) :
    step rasterizer settings symbols number index d (p.progress m below) =
      evaluatePlain rasterizer settings symbols number index m p d >>= fun r =>
        pure (r.2.progress r.1 below) := by
  cases d with
  | push => cases h
  | pop => cases h
  | shape shape constants coords =>
      simp only [step, evaluatePlain, drawShape, reflectance_eq_shine, bind_assoc, pure_bind]
      rfl
  | line constants p0 coords0 p1 coords1 =>
      simp only [step, evaluatePlain, drawLine, reflectance_eq_shine, bind_assoc, pure_bind]
      rfl
  | motion motion knob =>
      simp only [step, evaluatePlain, stretch_eq_factor, bind_assoc, pure_bind]
      cases motion <;> rfl
  | _ => rfl

theorem step_push (index : Nat) (m : Mat4 Float) (below : List (Mat4 Float)) (p : Drawing) :
    step rasterizer settings symbols number index .push (p.progress m below) =
      pure (p.progress m (m :: below)) := rfl

theorem step_pop (index : Nat) (m n : Mat4 Float) (below : List (Mat4 Float)) (p : Drawing) :
    step rasterizer settings symbols number index .pop (p.progress m (n :: below)) =
      pure (p.progress n below) := rfl

mutual
/-- The directives of a node, whatever follows them, do what its evaluation does. -/
theorem stepsLocated_directives : ∀ (node : Node) (index : Nat) (m : Mat4 Float)
    (below : List (Mat4 Float)) (p : Drawing) (rest : List Directive),
    stepsLocated rasterizer settings symbols number index (node.directives ++ rest)
        (p.progress m below) =
      evaluate rasterizer settings symbols number index m p node >>= fun r =>
        stepsLocated rasterizer settings symbols number (index + node.directives.length) rest
          (r.2.progress r.1 below)
  | single d plain, index, m, below, p, rest => by
      rw [directives, List.singleton_append, stepsLocated, evaluate,
        step_of_isPlain rasterizer settings symbols number plain, located_bind, bind_assoc]
      rfl
  | group nodes, index, m, below, p, rest => by
      have inner := stepsLocated_flatten nodes (index + 1) m (m :: below) p (.pop :: rest)
      simp only [directives, List.cons_append, List.append_assoc, List.nil_append]
      rw [stepsLocated, step_push, located_pure, pure_bind, inner, evaluate, bind_assoc]
      refine congrArg _ (funext fun r => ?_)
      rw [stepsLocated, step_pop, located_pure, pure_bind, pure_bind]
      simp only [List.length_cons, List.length_append, List.length_nil]
      congr 1
      omega
/-- The directives of a forest, whatever follows them, do what its evaluation does. -/
theorem stepsLocated_flatten : ∀ (nodes : List Node) (index : Nat) (m : Mat4 Float)
    (below : List (Mat4 Float)) (p : Drawing) (rest : List Directive),
    stepsLocated rasterizer settings symbols number index (flatten nodes ++ rest)
        (p.progress m below) =
      evaluateAll rasterizer settings symbols number index m p nodes >>= fun r =>
        stepsLocated rasterizer settings symbols number (index + (flatten nodes).length) rest
          (r.2.progress r.1 below)
  | [], index, m, below, p, rest => by
      rw [flatten, evaluateAll, pure_bind]
      rfl
  | node :: nodes, index, m, below, p, rest => by
      rw [flatten, List.append_assoc, stepsLocated_directives node, evaluateAll, bind_assoc]
      refine congrArg _ (funext fun r => ?_)
      rw [stepsLocated_flatten nodes, List.length_append, Nat.add_assoc]
end

/-! ### Positions of faults -/

theorem stepsLocated_of_ok {index : Nat} {directives : List Directive} {p q : Progress} {s t : σ}
    (h : (steps rasterizer settings symbols number index directives p).run s = (.ok q, t))
    (place : Option Nat) :
    (stepsLocated rasterizer settings symbols number index directives p).run (s, place) =
      (.ok q, (t, place)) := by
  induction directives generalizing index p s with
  | nil =>
      rw [steps, pure_eq_ok_iff] at h
      obtain ⟨rfl, rfl⟩ := h
      rfl
  | cons d directives ih =>
      rw [steps, bind_eq_ok_iff] at h
      obtain ⟨r, u, hd, h⟩ := h
      rw [stepsLocated, run_bind, run_located, hd]
      exact ih h

/-- A located run that faults leaves the position of the first directive that cannot be run. -/
theorem stepsLocated_of_error {index : Nat} {directives : List Directive} {p : Progress} {e : Fault}
    {s t : σ}
    (h : (steps rasterizer settings symbols number index directives p).run s = (.error e, t))
    (place : Option Nat) :
    ∃ k < directives.length,
      (stepsLocated rasterizer settings symbols number index directives p).run (s, place) =
        (.error e, (t, some (index + k))) ∧
      (∃ q u, (steps rasterizer settings symbols number index (directives.take k) p).run s =
        (.ok q, u)) ∧
      (steps rasterizer settings symbols number index (directives.take (k + 1)) p).run s =
        (.error e, t) := by
  induction directives generalizing index p s with
  | nil => cases h
  | cons d directives ih =>
      rw [steps, run_bind] at h
      rcases hd : (step rasterizer settings symbols number index d p).run s with ⟨_ | r, u⟩
      · rw [hd] at h
        obtain ⟨rfl, rfl⟩ : _ = e ∧ _ = t := by simpa using h
        refine ⟨0, Nat.zero_lt_succ _, ?_, ⟨p, s, rfl⟩, ?_⟩
        · rw [stepsLocated, run_bind, run_located, hd]
          rfl
        · rw [List.take_succ_cons, List.take_zero, steps_singleton, hd]
      · rw [hd] at h
        obtain ⟨k, hk, hplace, ⟨q, v, hfront⟩, hfault⟩ := ih h
        refine ⟨k + 1, Nat.succ_lt_succ hk, ?_, ⟨q, v, ?_⟩, ?_⟩
        · rw [stepsLocated, run_bind, run_located, hd]
          exact hplace.trans (by rw [Nat.add_right_comm, Nat.add_assoc])
        · rw [List.take_succ_cons, steps, run_bind, hd]
          exact hfront
        · rw [List.take_succ_cons, steps, run_bind, hd]
          exact hfault

/-- Running the directives up to a position succeeds, and with the one there it faults. -/
def FaultsAt (directives : List Directive) (s : σ) (position : Nat) (e : Fault) : Prop :=
  (∃ f t, (run rasterizer settings (directives.take position) number symbols).run s = (.ok f, t)) ∧
    ((run rasterizer settings (directives.take (position + 1)) number symbols).run s).1 = .error e

/-- The run of directives is the evaluation of a forest: it answers the same, leaves the rasterizer
in the same state, and faults at the directive at which the evaluation does. -/
def RunsAs (directives : List Directive) (nodes : List Node) (s : σ) : Prop :=
  match (run rasterizer settings directives number symbols).run s with
  | (.ok f, t) =>
    (Node.run rasterizer settings symbols number nodes).run (s, none) = (.ok f, (t, none))
  | (.error e, t) => ∃ position < directives.length,
    (Node.run rasterizer settings symbols number nodes).run (s, none) =
        (.error e, (t, some position)) ∧
      FaultsAt rasterizer settings symbols number directives s position e

/-- A flattened forest runs as the forest. -/
theorem runsAs_flatten (nodes : List Node) (s : σ) :
    RunsAs rasterizer settings symbols number (flatten nodes) nodes s := by
  have located : Node.run rasterizer settings symbols number nodes =
      stepsLocated rasterizer settings symbols number 0 (flatten nodes) (.start settings) >>=
        fun p => pure ⟨number, p.surface, p.requests⟩ := by
    have h := stepsLocated_flatten rasterizer settings symbols number nodes 0 .identity []
      ⟨settings.blankSurface, []⟩ []
    rw [List.append_nil] at h
    change _ = stepsLocated _ _ _ _ _ _ (Drawing.progress ⟨settings.blankSurface, []⟩ _ _) >>= _
    rw [h, bind_assoc]
    rfl
  rw [RunsAs, run, run_bind, located, run_bind]
  rcases h : (steps rasterizer settings symbols number 0 (flatten nodes) (.start settings)).run s
    with ⟨e | q, t⟩
  · obtain ⟨k, hk, hplace, ⟨q, u, hfront⟩, hfault⟩ :=
      stepsLocated_of_error rasterizer settings symbols number h none
    rw [hplace, Nat.zero_add]
    refine ⟨k, hk, rfl, ⟨_, u, run_eq_ok_iff.mpr ⟨q, hfront, rfl⟩⟩, ?_⟩
    rw [run, run_bind, hfault]
  · rw [stepsLocated_of_ok rasterizer settings symbols number h none]
    rfl

/-! ### Missing pops -/

/-- A forest, and after it others with a `pop` before each. -/
def popSeparated (first : List Node) (others : List (List Node)) : List Directive :=
  flatten first ++ others.flatMap fun nodes => .pop :: flatten nodes

theorem popSeparated_replicate (n : Nat) :
    popSeparated [] (List.replicate n []) = List.replicate n .pop := by
  induction n with
  | zero => rfl
  | succ n ih =>
      rw [List.replicate_succ, List.replicate_succ, ← ih]
      rfl

/-- The directives of a successful run are a forest for every matrix on the stack it starts from,
each but the innermost behind the `pop` that returns to its matrix, once the `pop`s are put in that
the matrices on the stack at the end still wait for. -/
theorem exists_flatten_of_steps {index : Nat} {directives : List Directive} {p q : Progress}
    {s t : σ}
    (h : (steps rasterizer settings symbols number index directives p).run s = (.ok q, t)) :
    ∃ first others, others.length = p.stack.below.length ∧
      directives ++ List.replicate q.stack.below.length .pop = popSeparated first others := by
  induction directives generalizing index p s with
  | nil =>
      rw [steps, pure_eq_ok_iff] at h
      obtain ⟨rfl, rfl⟩ := h
      exact ⟨[], List.replicate p.stack.below.length [], List.length_replicate,
        (popSeparated_replicate _).symm⟩
  | cons d directives ih =>
      rw [steps, bind_eq_ok_iff] at h
      obtain ⟨r, u, hd, h⟩ := h
      obtain ⟨first, others, hlength, hforest⟩ := ih h
      rw [List.cons_append, hforest]
      obtain ⟨⟨m, below⟩, surface, requests⟩ := p
      cases plain : d.isPlain with
      | true =>
          have hstep := step_of_isPlain rasterizer settings symbols number plain index m below
            ⟨surface, requests⟩
          change step _ _ _ _ _ _ ⟨⟨m, below⟩, surface, requests⟩ = _ at hstep
          rw [hstep, bind_eq_ok_iff] at hd
          obtain ⟨_, _, _, hr⟩ := hd
          obtain ⟨rfl, _⟩ := pure_eq_ok_iff.mp hr
          exact ⟨.single d plain :: first, others, hlength, rfl⟩
      | false =>
          cases d with
          | push =>
              obtain ⟨rfl, _⟩ := pure_eq_ok_iff.mp hd
              obtain ⟨nodes, others, rfl⟩ := List.exists_cons_of_length_eq_add_one hlength
              refine ⟨.group first :: nodes, others, Nat.succ.inj hlength, ?_⟩
              simp [popSeparated, flatten, Node.directives]
          | pop =>
              cases below with
              | nil => simp [step, TransformStack.pop] at hd
              | cons n below =>
                  obtain ⟨rfl, _⟩ := pure_eq_ok_iff.mp hd
                  exact ⟨[], first :: others, congrArg Nat.succ hlength, rfl⟩
          | _ => cases plain

/-- As many `pop`s as there are matrices below the top change nothing but the stack. -/
theorem steps_pops (index : Nat) (m : Mat4 Float) (below : List (Mat4 Float)) (p : Drawing) :
    ∃ n, steps rasterizer settings symbols number index (List.replicate below.length .pop)
      (p.progress m below) = pure (p.progress n []) := by
  induction below generalizing index m with
  | nil => exact ⟨m, rfl⟩
  | cons n below ih =>
      obtain ⟨k, hk⟩ := ih (index + 1) n
      refine ⟨k, ?_⟩
      rw [List.length_cons, List.replicate_succ, steps, step_pop, pure_bind, hk]

/-- A successful run comes to the same with the missing `pop`s at its end. -/
theorem run_append_pops {directives : List Directive} {q : Progress} {s t : σ}
    (h : (steps rasterizer settings symbols number 0 directives (.start settings)).run s =
      (.ok q, t)) :
    (run rasterizer settings (directives ++ List.replicate q.stack.below.length .pop) number
      symbols).run s = (.ok ⟨number, q.surface, q.requests⟩, t) := by
  obtain ⟨⟨m, below⟩, surface, requests⟩ := q
  obtain ⟨n, hn⟩ := steps_pops rasterizer settings symbols number (0 + directives.length) m below
    ⟨surface, requests⟩
  refine run_eq_ok_iff.mpr
    ⟨Drawing.progress ⟨surface, requests⟩ n [], ?_, rfl⟩
  rw [steps_append, bind_eq_ok_iff]
  refine ⟨_, t, h, ?_⟩
  change (steps _ _ _ _ _ _ (Drawing.progress ⟨surface, requests⟩ m below)).run t = _
  rw [hn]
  rfl

/-- The directives of a successful run are a flattened forest up to `pop`s missing at the end, and
run as that forest. -/
theorem exists_runsAs_of_run {directives : List Directive} {f : Frame} {s t : σ}
    (h : (run rasterizer settings directives number symbols).run s = (.ok f, t)) :
    ∃ nodes missing, flatten nodes = directives ++ List.replicate missing .pop ∧
      RunsAs rasterizer settings symbols number directives nodes s := by
  obtain ⟨q, hq, rfl⟩ := run_eq_ok_iff.mp h
  obtain ⟨nodes, others, hlength, hforest⟩ :=
    exists_flatten_of_steps rasterizer settings symbols number hq
  obtain rfl := List.length_eq_zero_iff.mp hlength
  have hflatten : flatten nodes = directives ++ List.replicate q.stack.below.length .pop := by
    rw [hforest, popSeparated, List.flatMap_nil, List.append_nil]
  refine ⟨nodes, q.stack.below.length, hflatten, ?_⟩
  have hnested := runsAs_flatten rasterizer settings symbols number nodes s
  rw [RunsAs, hflatten, run_append_pops rasterizer settings symbols number hq] at hnested
  rw [RunsAs, h]
  exact hnested

/-- **The stack machine implements nested scopes.**  Every flattened forest runs as the forest is
evaluated: with a recorded rasterizer, so that the calls and their arguments are the same as well,
and a fault comes at the same directive.  Every list of directives that runs successfully runs as
a forest, of which it lacks at most `pop`s at the end.  Recording changes nothing about a run. -/
theorem run_flatten_eq_nested_run (s : σ) :
    (∀ nodes : List Node,
      RunsAs rasterizer.recorded settings symbols number (flatten nodes) nodes (s, [])) ∧
    (∀ directives f t,
      (run rasterizer.recorded settings directives number symbols).run (s, []) = (.ok f, t) →
        ∃ nodes missing, flatten nodes = directives ++ List.replicate missing .pop ∧
          RunsAs rasterizer.recorded settings symbols number directives nodes (s, [])) ∧
    ∀ directives, ∃ calls,
      (run rasterizer.recorded settings directives number symbols).run (s, []) =
        (((run rasterizer settings directives number symbols).run s).1,
          (((run rasterizer settings directives number symbols).run s).2, calls)) := by
  refine ⟨fun nodes => ?_, fun directives f t h => ?_, fun directives => ?_⟩
  · exact runsAs_flatten rasterizer.recorded settings symbols number nodes (s, [])
  · exact exists_runsAs_of_run rasterizer.recorded settings symbols number h
  · obtain ⟨calls, h⟩ := run_recordedBy rasterizer settings symbols directives number s []
    exact ⟨calls, h⟩

/-- The rasterizer that divides a box into its corner. -/
def cornering : Rasterizer Unit :=
  { Rasterizer.idle with box := fun corner _ => pure ⟨[corner]⟩ }

/-- A box moved as far as a knob says, behind a group of its own. -/
def nestled : List Node :=
  [.group [.single (.motion (.move ⟨1, 2, 3⟩) (some "far")) rfl,
    .group [.single (.motion (.scale ⟨5, 5, 5⟩) none) rfl, .single .display rfl],
    .single (.shape (.box ⟨1, 1, 1⟩ ⟨2, 2, 2⟩) (some "gold") none) rfl]]

/-- The same with the outer group not closed. -/
def unclosed : List Directive :=
  [.push, .motion (.move ⟨1, 2, 3⟩) (some "far"), .push, .motion (.scale ⟨5, 5, 5⟩) none, .display,
    .pop, .shape (.box ⟨1, 1, 1⟩ ⟨2, 2, 2⟩) (some "gold") none]

theorem unclosed_runsAs_forest :
    let gold : Reflectance := { Reflectance.standard with ambient := ⟨1, 1, 0⟩ }
    let symbols := (NameMap.empty.insert "far" (.knob 2)).insert "gold" (.constants gold)
    let outcome : Frame :=
      ⟨0, Settings.standard.blankSurface, [.display Settings.standard.blankSurface]⟩
    let calls (corner : Vec3 Float) : List Rasterizer.Call := [.box ⟨1, 1, 1⟩ ⟨2, 2, 2⟩,
      .drawTriangles ⟨[corner]⟩ Settings.standard.blankSurface ⟨.standard, gold⟩]
    (run cornering.recorded .standard unclosed 0 symbols).run ((), []) =
        (.ok outcome, ((), calls ⟨3, 5, 7⟩)) ∧
      (∃ nodes missing, flatten nodes = unclosed ++ List.replicate missing .pop ∧
        RunsAs cornering.recorded .standard symbols 0 unclosed nodes ((), [])) ∧
      flatten nestled = unclosed ++ [.pop] ∧
      (Node.run cornering.recorded .standard symbols 0 nestled).run (((), []), none) =
        (.ok outcome, (((), calls ⟨3, 5, 7⟩), none)) := by
  intro gold symbols outcome calls
  have hmoved : (Mat4.identity * (Motion.scaled (.move ⟨1, 2, 3⟩) (2 : Float)).matrix).mapPoint
      ⟨1, 1, 1⟩ = ⟨3, 5, 7⟩ := by decide +kernel
  obtain ⟨hnested, hsuccessful, _⟩ := run_flatten_eq_nested_run cornering .standard symbols 0 ()
  have hrun : (run cornering.recorded .standard unclosed 0 symbols).run ((), []) =
      (.ok outcome, ((), calls ⟨3, 5, 7⟩)) := by
    rw [← hmoved]
    rfl
  have hclosed : (run cornering.recorded .standard (flatten nestled) 0 symbols).run ((), []) =
      (.ok outcome, ((), calls ⟨3, 5, 7⟩)) := by
    rw [← hmoved]
    rfl
  have hforest := hnested nestled
  rw [RunsAs, hclosed] at hforest
  exact ⟨hrun, hsuccessful unclosed _ _ hrun, rfl, hforest⟩

end Frame

end SceneScript
