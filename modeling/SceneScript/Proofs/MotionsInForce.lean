import Mathlib.Data.List.Infix
import Mathlib.Tactic.Ring
import SceneScript.Frame
import SceneScript.Proofs.Recording

/-! # The motions in force

The active coordinate system is kept as a matrix.  `CoordinateStep.execute` is what motions, `push`
and `pop` make of a stack of matrices over any scalars, and over floats it is what a run of a scene
makes of its stack (`Frame.stack_of_steps`).

Without matrices, a motion acts on points by a formula of its own (`Motion.act`), and a motion is in
force until a `pop` closes the scope that it was made in: among the steps behind it there is never
an excess of `pop`s (`CoordinateStep.inForce`).  Over exact scalars the active matrix maps a point
as the motions in force do, the last one first (`CoordinateStep.top_acts_as_motions_in_force`).
This needs no more of a rotation than two numbers for its angle.  It does need that the matrices of
motions have the last row `0 0 0 1`, because the image of a point does not divide by the fourth
component (`Mat4.mapPoint_mul`).

The proof reads the steps from the front.  Steps that close more scopes than they open continue, on
their own motions in force, the matrix found that many places below the top; `overdraft` counts
these places. -/

namespace SceneScript

variable {α : Type}

/-- A directive about coordinate systems; a motion comes with the factor that its knob stretches it
by. -/
inductive CoordinateStep (α : Type) where
  | motion (m : Motion α) (factor : α)
  | push
  | pop

namespace CoordinateStep

/-- The step opens a scope. -/
def opens : CoordinateStep α → Bool
  | push => true
  | _ => false

/-- The step closes a scope. -/
def closes : CoordinateStep α → Bool
  | pop => true
  | _ => false

section Execution

variable [Zero α] [One α] [Add α] [Mul α] [Neg α] [Trigonometry α]

/-- What a step makes of a stack. -/
def run (s : TransformStack α) : CoordinateStep α → Except Fault (TransformStack α)
  | motion m factor => .ok (s.apply (m.scaled factor).matrix)
  | push => .ok s.push
  | pop => s.pop.map Prod.snd

/-- What steps one after the other make of a stack. -/
def execute (steps : List (CoordinateStep α)) (s : TransformStack α) :
    Except Fault (TransformStack α) :=
  steps.foldlM run s

theorem execute_motion (m : Motion α) (factor : α) (steps : List (CoordinateStep α))
    (s : TransformStack α) :
    execute (motion m factor :: steps) s = execute steps (s.apply (m.scaled factor).matrix) := rfl

theorem execute_push (steps : List (CoordinateStep α)) (s : TransformStack α) :
    execute (push :: steps) s = execute steps s.push := rfl

theorem execute_pop_of_below_eq_nil (steps : List (CoordinateStep α)) {s : TransformStack α}
    (h : s.below = []) : execute (pop :: steps) s = .error .lastTransform := by
  unfold execute
  rw [List.foldlM_cons, run, TransformStack.pop, h]
  rfl

theorem execute_pop_of_below_eq_cons (steps : List (CoordinateStep α)) {s : TransformStack α}
    {m : Mat4 α} {below : List (Mat4 α)} (h : s.below = m :: below) :
    execute (pop :: steps) s = execute steps ⟨m, below⟩ := by
  unfold execute
  rw [List.foldlM_cons, run, TransformStack.pop, h]
  rfl

end Execution

/-! ### Scopes -/

/-- No beginning of the steps closes more scopes than it opens. -/
def Level (steps : List (CoordinateStep α)) : Prop :=
  ∀ front, front <+: steps → front.countP closes ≤ front.countP opens

instance (steps : List (CoordinateStep α)) : Decidable (Level steps) :=
  decidable_of_iff (∀ front ∈ steps.inits, front.countP closes ≤ front.countP opens)
    (by simp only [List.mem_inits, Level])

/-- The motions that no later `pop` undoes, stretched by their factors, in order. -/
def inForce [Mul α] : List (CoordinateStep α) → List (Motion α)
  | [] => []
  | motion m factor :: rest =>
    if Level rest then m.scaled factor :: inForce rest else inForce rest
  | _ :: rest => inForce rest

/-- The number of scopes that the steps close without having opened them. -/
def overdraft : List (CoordinateStep α) → Nat
  | [] => 0
  | motion _ _ :: rest => overdraft rest
  | push :: rest => overdraft rest - 1
  | pop :: rest => overdraft rest + 1

/-- The beginnings of steps are the empty one and those of the rest behind the first step. -/
theorem forall_prefix_cons_iff {step : CoordinateStep α} {rest : List (CoordinateStep α)}
    {P : List (CoordinateStep α) → Prop} :
    (∀ front, front <+: step :: rest → P front) ↔
      P [] ∧ ∀ front, front <+: rest → P (step :: front) := by
  constructor
  · intro h
    refine ⟨h [] List.nil_prefix, fun front hfront => ?_⟩
    exact h _ ((List.prefix_cons_inj step).mpr hfront)
  · rintro ⟨hnil, hcons⟩ front hfront
    rcases List.prefix_cons_iff.mp hfront with rfl | ⟨tail, rfl, htail⟩
    · exact hnil
    · exact hcons tail htail

theorem overdraft_le_iff {steps : List (CoordinateStep α)} {n : Nat} :
    overdraft steps ≤ n ↔
      ∀ front, front <+: steps → front.countP closes ≤ n + front.countP opens := by
  -- A `push` lets the rest close one scope more, a `pop` one scope less.
  induction steps generalizing n with
  | nil => simp [overdraft]
  | cons step rest ih =>
      rw [forall_prefix_cons_iff]
      simp only [List.countP_cons, List.countP_nil]
      cases step with
      | motion m factor => simpa [overdraft, closes, opens] using ih
      | push =>
          have hrest := ih (n := n + 1)
          simp only [overdraft, closes, opens, Bool.false_eq_true, if_false, if_true,
            Nat.sub_le_iff_le_add, hrest, Nat.add_zero, Nat.zero_le, true_and, Nat.add_assoc,
            Nat.add_comm 1]
      | pop =>
          have hrest := ih (n := n - 1)
          simp only [overdraft, closes, opens, Bool.false_eq_true, if_false, if_true]
          constructor
          · intro h
            refine ⟨by omega, fun front hfront => ?_⟩
            have hclosed := hrest.mp (by omega) front hfront
            omega
          · rintro ⟨-, h⟩
            have hpos := h [] List.nil_prefix
            rw [List.countP_nil, List.countP_nil] at hpos
            have hclosed : overdraft rest ≤ n - 1 := hrest.mpr fun front hfront => by
              have hfirst := h front hfront
              omega
            omega

theorem level_iff {steps : List (CoordinateStep α)} : Level steps ↔ overdraft steps = 0 := by
  rw [← Nat.le_zero, overdraft_le_iff, Level]
  simp only [Nat.zero_add]

/-- Steps can be executed if and only if they close no more scopes than are open. -/
theorem execute_succeeds_iff [Zero α] [One α] [Add α] [Mul α] [Neg α] [Trigonometry α]
    {steps : List (CoordinateStep α)} {s : TransformStack α} :
    (∃ t, execute steps s = .ok t) ↔ overdraft steps ≤ s.below.length := by
  induction steps generalizing s with
  | nil => exact ⟨fun _ => Nat.zero_le _, fun _ => ⟨s, rfl⟩⟩
  | cons step rest ih =>
      cases step with
      | motion m factor =>
          rw [execute_motion, ih]
          rfl
      | push =>
          rw [execute_push, ih, overdraft, Nat.sub_le_iff_le_add]
          rfl
      | pop =>
          cases h : s.below with
          | nil =>
              rw [execute_pop_of_below_eq_nil rest h, overdraft]
              simp
          | cons m below =>
              rw [execute_pop_of_below_eq_cons rest h, ih, overdraft]
              exact (Nat.add_le_add_iff_right (n := 1)).symm

end CoordinateStep

/-! ### Points -/

/-- The image of a point under a motion. -/
def Motion.act [Add α] [Sub α] [Mul α] [Neg α] [Trigonometry α] : Motion α → Vec3 α → Vec3 α
  | move offset, p => ⟨p.x + offset.x, p.y + offset.y, p.z + offset.z⟩
  | scale factors, p => ⟨factors.x * p.x, factors.y * p.y, factors.z * p.z⟩
  | rotate axis degrees, p =>
    let c := Trigonometry.cos degrees
    let s := Trigonometry.sin degrees
    match axis with
    | .x => ⟨p.x, c * p.y - s * p.z, s * p.y + c * p.z⟩
    | .y => ⟨c * p.x + s * p.z, p.y, c * p.z - s * p.x⟩
    | .z => ⟨c * p.x - s * p.y, s * p.x + c * p.y, p.z⟩

section Exact

variable {R : Type} [CommRing R]

namespace Mat4

/-- The last row of the matrix is `0 0 0 1`. -/
structure IsAffine (m : Mat4 R) : Prop where
  xAxis : m.xAxis.w = 0
  yAxis : m.yAxis.w = 0
  zAxis : m.zAxis.w = 0
  wAxis : m.wAxis.w = 1

theorem mapPoint_identity (p : Vec3 R) : (identity : Mat4 R).mapPoint p = p := by
  simp [mapPoint, identity]

/-- The product with an affine matrix maps a point by one after the other. -/
theorem mapPoint_mul (m : Mat4 R) {n : Mat4 R} (hn : n.IsAffine) (p : Vec3 R) :
    (m * n).mapPoint p = m.mapPoint (n.mapPoint p) := by
  obtain ⟨hx, hy, hz, hw⟩ := hn
  change (m.mul n).mapPoint p = _
  simp only [mapPoint, mul, mulColumn, hx, hy, hz, hw, Vec3.mk.injEq]
  refine ⟨?_, ?_, ?_⟩ <;> ring

end Mat4

variable [Trigonometry R]

namespace Motion

theorem isAffine_matrix (m : Motion R) : m.matrix.IsAffine := by
  cases m with
  | rotate axis degrees => cases axis <;> exact ⟨rfl, rfl, rfl, rfl⟩
  | _ => exact ⟨rfl, rfl, rfl, rfl⟩

/-- The matrix of a motion maps a point as the motion does. -/
theorem mapPoint_matrix (m : Motion R) (p : Vec3 R) : m.matrix.mapPoint p = m.act p := by
  cases m with
  | move offset =>
      simp only [matrix, Mat4.ofMove, Mat4.mapPoint, act, Vec3.mk.injEq]
      refine ⟨?_, ?_, ?_⟩ <;> ring
  | scale factors =>
      simp only [matrix, Mat4.ofScale, Mat4.mapPoint, act, Vec3.mk.injEq]
      refine ⟨?_, ?_, ?_⟩ <;> ring
  | rotate axis degrees =>
      cases axis <;>
        simp only [matrix, Mat4.ofRotation, Mat4.mapPoint, act, Vec3.mk.injEq] <;>
        refine ⟨?_, ?_, ?_⟩ <;> ring

end Motion

namespace CoordinateStep

/-- Steps leave on top a matrix that maps points as their motions in force do, and then as the
matrix that they have come down to. -/
theorem mapPoint_top_of_execute {steps : List (CoordinateStep R)} {s t : TransformStack R}
    (h : execute steps s = .ok t) :
    ∃ m, (s.top :: s.below)[overdraft steps]? = some m ∧
      ∀ p, t.top.mapPoint p = m.mapPoint ((inForce steps).foldr Motion.act p) := by
  induction steps generalizing s with
  | nil =>
      obtain rfl := Except.ok.inj h
      exact ⟨s.top, rfl, fun _ => rfl⟩
  | cons step rest ih =>
      cases step with
      | motion motion factor =>
          obtain ⟨m, hm, hmap⟩ := ih h
          rw [overdraft, inForce]
          -- The motion changes the top, and so counts if the rest comes down to the top.
          cases hdraft : overdraft rest with
          | zero =>
              rw [hdraft] at hm
              obtain rfl := Option.some.inj hm
              refine ⟨s.top, rfl, fun p => ?_⟩
              rw [if_pos (level_iff.mpr hdraft), List.foldr_cons, ← Motion.mapPoint_matrix,
                ← Mat4.mapPoint_mul _ (Motion.isAffine_matrix _)]
              exact hmap p
          | succ n =>
              rw [hdraft] at hm
              have hlevel : ¬Level rest := by
                rw [level_iff]
                omega
              exact ⟨m, hm, by rwa [if_neg hlevel]⟩
      | push =>
          obtain ⟨m, hm, hmap⟩ := ih h
          refine ⟨m, ?_, hmap⟩
          rw [overdraft]
          cases hdraft : overdraft rest with
          | zero => rwa [hdraft] at hm
          | succ n => rwa [hdraft] at hm
      | pop =>
          cases hbelow : s.below with
          | nil =>
              rw [execute_pop_of_below_eq_nil rest hbelow] at h
              cases h
          | cons n below =>
              rw [execute_pop_of_below_eq_cons rest hbelow] at h
              obtain ⟨m, hm, hmap⟩ := ih h
              exact ⟨m, hm, hmap⟩

end CoordinateStep

end Exact

/-! ### The stack of a run -/

/-- The step of a directive about coordinate systems, if the knob that it names has a value. -/
def Directive.coordinateStep? (symbols : SymbolTable) : Directive → Option (CoordinateStep Float)
  | .motion m none => some (.motion m 1)
  | .motion m (some name) => (symbols.knob? name).map (.motion m)
  | .push => some .push
  | .pop => some .pop
  | _ => none

namespace Frame

open SceneScript.Action CoordinateStep

variable {σ : Type} {rasterizer : Rasterizer σ} {settings : Settings} {symbols : SymbolTable}
  {number index : Nat}

theorem stack_of_step {d : Directive} {p q : Progress} {s t : σ}
    (h : (step rasterizer settings symbols number index d p).run s = (.ok q, t)) :
    execute (d.coordinateStep? symbols).toList p.stack = .ok q.stack := by
  cases d with
  | shape shape constants coords =>
      simp only [step, bind_eq_ok_iff, pure_eq_ok_iff] at h
      obtain ⟨_, _, _, _, _, _, rfl, _⟩ := h
      rfl
  | line constants p0 coords0 p1 coords1 =>
      simp only [step, bind_eq_ok_iff, pure_eq_ok_iff] at h
      obtain ⟨_, _, _, _, _, _, rfl, _⟩ := h
      rfl
  | motion m knob =>
      simp only [step, bind_eq_ok_iff, ofExcept_eq_ok_iff, pure_eq_ok_iff] at h
      obtain ⟨k, _, ⟨hk, _⟩, rfl, _⟩ := h
      cases knob with
      | none =>
          obtain rfl := Except.ok.inj hk
          rfl
      | some name =>
          unfold stretch at hk
          cases hknob : SymbolTable.knob? symbols name with
          | none => simp [hknob] at hk
          | some v =>
              simp only [hknob, Except.ok.injEq] at hk
              subst hk
              simp only [Directive.coordinateStep?, hknob]
              rfl
  | pop =>
      obtain ⟨⟨top, below⟩, surface, requests⟩ := p
      cases below with
      | nil => simp [step, TransformStack.pop] at h
      | cons m below =>
          obtain ⟨rfl, _⟩ := pure_eq_ok_iff.mp h
          rfl
  | _ =>
      obtain ⟨rfl, _⟩ := pure_eq_ok_iff.mp h
      rfl

/-- A run makes of its stack what the steps of its directives make of it. -/
theorem stack_of_steps {directives : List Directive} {p q : Progress} {s t : σ}
    (h : (steps rasterizer settings symbols number index directives p).run s = (.ok q, t)) :
    execute (directives.filterMap (·.coordinateStep? symbols)) p.stack = .ok q.stack := by
  induction directives generalizing index p s with
  | nil =>
      obtain ⟨rfl, _⟩ := pure_eq_ok_iff.mp h
      rfl
  | cons d directives ih =>
      obtain ⟨r, u, hd, hrest⟩ := bind_eq_ok_iff.mp h
      have hfirst := stack_of_step hd
      have hsplit : (d :: directives).filterMap (·.coordinateStep? symbols) =
          (d.coordinateStep? symbols).toList ++
            directives.filterMap (·.coordinateStep? symbols) := by
        rw [List.filterMap_cons]
        cases d.coordinateStep? symbols <;> rfl
      rw [hsplit, execute, List.foldlM_append, ← execute, hfirst]
      exact ih hrest

end Frame

namespace CoordinateStep

/-- **The active coordinate system maps a point as the motions in force do**, one at a time and the
last one first.  Steps of which no beginning has more `pop`s than `push`es are those that can be
executed from a new stack, and a motion is in force if no later `pop` undoes it.  This holds over
exact scalars, whatever the cosine and the sine of an angle are.  Over floats the steps are executed
in every run of a scene. -/
theorem top_acts_as_motions_in_force :
    (∀ {R : Type} [CommRing R] [Trigonometry R] (steps : List (CoordinateStep R)),
      ((∃ s, execute steps .initial = .ok s) ↔ Level steps) ∧
      ∀ s, execute steps .initial = .ok s → ∀ p,
        s.top.mapPoint p = (inForce steps).foldr (fun m q => m.matrix.mapPoint q) p ∧
        s.top.mapPoint p = (inForce steps).foldr Motion.act p) ∧
    ∀ {σ : Type} (rasterizer : Rasterizer σ) (settings : Settings) (symbols : SymbolTable)
      (number : Nat) (directives : List Directive) (q : Frame.Progress) (s t : σ),
      (Frame.steps rasterizer settings symbols number 0 directives (.start settings)).run s =
          (.ok q, t) →
        execute (directives.filterMap (·.coordinateStep? symbols)) .initial = .ok q.stack := by
  constructor
  · intro R _ _ steps
    refine ⟨execute_succeeds_iff.trans (Nat.le_zero.trans level_iff.symm), fun s h p => ?_⟩
    obtain ⟨m, hm, hmap⟩ := mapPoint_top_of_execute h
    have hdraft : overdraft steps = 0 := Nat.le_zero.mp (execute_succeeds_iff.mp ⟨s, h⟩)
    rw [hdraft] at hm
    obtain rfl := Option.some.inj hm
    have hact : s.top.mapPoint p = (inForce steps).foldr Motion.act p :=
      (hmap p).trans (Mat4.mapPoint_identity _)
    simp only [Motion.mapPoint_matrix]
    exact ⟨hact, hact⟩
  · intro σ rasterizer settings symbols number directives q s t h
    exact Frame.stack_of_steps h

/-- Cosines and sines of right angles in whole numbers; at other angles both are zero. -/
instance : Trigonometry Int where
  cos degrees := if degrees % 360 = 0 then 1 else if degrees % 360 = 180 then -1 else 0
  sin degrees := if degrees % 360 = 90 then 1 else if degrees % 360 = 270 then -1 else 0

/-- A move, a scaling and a quarter turn, in and between scopes, with moves that are undone. -/
def placed : List (CoordinateStep Int) :=
  [.motion (.move ⟨10, 0, 0⟩) 1, .push, .motion (.move ⟨0, 0, 5⟩) 1, .pop, .push,
    .motion (.scale ⟨2, 2, 2⟩) 3, .push, .motion (.move ⟨7, 7, 7⟩) 1, .pop,
    .motion (.rotate .z 45) 2, .push, .motion (.move ⟨1, 0, 0⟩) 1]

/-- A scene with a knob, and the value of the knob. -/
def turned : List Directive × SymbolTable :=
  ([.motion (.move ⟨10, 0, 0⟩) none, .push, .motion (.rotate .z 45) (some "turn"), .display],
    .ofList [("turn", .knob 2)])

theorem placed_acts :
    (∃ s, execute placed .initial = .ok s ∧ Level placed ∧
      inForce placed = [.move ⟨10, 0, 0⟩, .scale ⟨6, 6, 6⟩, .rotate .z 90, .move ⟨1, 0, 0⟩] ∧
      s.top.mapPoint ⟨0, 0, 0⟩ = ⟨10, 6, 0⟩) ∧
    ∃ q, (Frame.steps Rasterizer.idle .standard turned.2 0 0 turned.1 (.start .standard)).run () =
        (.ok q, ()) ∧
      execute (turned.1.filterMap (·.coordinateStep? turned.2)) .initial = .ok q.stack := by
  obtain ⟨hexact, hfloat⟩ := top_acts_as_motions_in_force
  obtain ⟨hexecuted, hmap⟩ := hexact placed
  have hlevel : Level placed := by decide
  obtain ⟨s, hs⟩ := hexecuted.mpr hlevel
  refine ⟨⟨s, hs, hlevel, rfl, ?_⟩, ?_⟩
  · rw [(hmap s hs ⟨0, 0, 0⟩).2]
    decide
  · exact ⟨_, rfl, hfloat Rasterizer.idle .standard turned.2 0 turned.1 _ () () rfl⟩

end CoordinateStep

end SceneScript
