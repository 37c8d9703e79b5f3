import SceneScript.Proofs.FrameRuns
import SceneScript.Proofs.WorkerOutcomes

/-! # What stops a frame

With a rasterizer whose calls never fail a frame can still fail: a shape or a line may name
constants that are not defined, a motion a knob that is not defined, and a `pop` may have no `push`.
`Directive.obstacle?` is the fault of a directive, given the symbols and the number of `push`es that
are open, and `Frame.firstObstacle?` looks through a scene for the first one without running
anything.  A frame fails with this fault or, if there is none, succeeds.

That there is none is a condition on the names in a scene and on the `push`es and `pop`s of its
beginnings (`Frame.firstObstacle?_eq_none_iff`).  With this condition, `Frame.Executable`, nothing
is left of the search: by `Frame.run_succeeds_iff` a frame succeeds if and only if its scene is
executable. -/

namespace SceneScript

variable {σ α β : Type}

/-! ### Directives -/

namespace Directive

/-- The constants that a shape or a line names. -/
def constants? : Directive → Option String
  | shape _ constants _ => constants
  | line constants .. => constants
  | _ => none

/-- The knob that a motion names. -/
def knob? : Directive → Option String
  | motion _ knob => knob
  | _ => none

/-- The directive saves the coordinate system. -/
def opens : Directive → Bool
  | push => true
  | _ => false

/-- The directive goes back to the coordinate system saved last. -/
def closes : Directive → Bool
  | pop => true
  | _ => false

/-- The names of a directive stand for what it needs. -/
@[mk_iff defined_iff]
structure Defined (symbols : SymbolTable) (d : Directive) : Prop where
  constants : ∀ name, d.constants? = some name →
    (SymbolTable.constants? symbols name).isSome
  knob : ∀ name, d.knob? = some name → (SymbolTable.knob? symbols name).isSome

/-- A fault, unless something was found. -/
def unlessFound (found : Option α) (e : Fault) : Option Fault :=
  if found.isSome then none else some e

theorem unlessFound_eq_none_iff {found : Option α} {e : Fault} :
    unlessFound found e = none ↔ found.isSome := by
  cases found <;> simp [unlessFound]

theorem unlessFound_eq_some_iff {found : Option α} {e f : Fault} :
    unlessFound found e = some f ↔ found = none ∧ e = f := by
  cases found <;> simp [unlessFound]

/-- The fault of a directive when so many `push`es are open, if it cannot be executed. -/
def obstacle? (symbols : SymbolTable) (depth : Nat) (site : Site) (d : Directive) : Option Fault :=
  match d with
  | shape _ (some name) _ | line (some name) _ _ _ _ =>
    unlessFound (SymbolTable.constants? symbols name) (.undefinedConstants site name)
  | motion _ (some name) =>
    unlessFound (SymbolTable.knob? symbols name) (.undefinedKnob site name)
  | pop => if depth = 0 then some (.popWithoutPush site) else none
  | _ => none

/-- The number of `push`es that are open after a directive. -/
def depthAfter (depth : Nat) : Directive → Nat
  | push => depth + 1
  | pop => depth - 1
  | _ => depth

/-- Nothing stops a directive whose names are defined and that does not close what is not open. -/
theorem obstacle?_eq_none_iff {symbols : SymbolTable} {depth : Nat} {site : Site}
    {d : Directive} :
    d.obstacle? symbols depth site = none ↔ d.Defined symbols ∧ (d.closes → 0 < depth) := by
  rw [defined_iff]
  cases d with
  | shape shape constants coords =>
      cases constants <;> simp [obstacle?, closes, constants?, knob?, unlessFound_eq_none_iff]
  | line constants p0 coords0 p1 coords1 =>
      cases constants <;> simp [obstacle?, closes, constants?, knob?, unlessFound_eq_none_iff]
  | motion m knob =>
      cases knob <;> simp [obstacle?, closes, constants?, knob?, unlessFound_eq_none_iff]
  | pop => simp [obstacle?, closes, constants?, knob?, Nat.pos_iff_ne_zero]
  | _ => simp [obstacle?, closes, constants?, knob?]

end Directive

/-! ### Rasterizers and sinks that never fail -/

namespace Action

/-- In the states of a set an action succeeds, and it does not leave the set. -/
def Succeeds (P : σ → Prop) (a : Action σ α) : Prop :=
  ∀ s, P s → ∃ v t, a.run s = (.ok v, t) ∧ P t

variable {P : σ → Prop}

theorem succeeds_pure (v : α) : (pure v : Action σ α).Succeeds P := fun s hs => ⟨v, s, rfl, hs⟩

theorem succeeds_inspect (f : σ → α) : (inspect f).Succeeds P := fun s hs => ⟨f s, s, rfl, hs⟩

theorem Succeeds.bind {a : Action σ α} {f : α → Action σ β} (ha : a.Succeeds P)
    (hf : ∀ v, (f v).Succeeds P) : (a >>= f).Succeeds P := by
  intro s hs
  obtain ⟨v, t, hv, ht⟩ := ha s hs
  obtain ⟨w, u, hw, hu⟩ := hf v t ht
  exact ⟨w, u, bind_eq_ok_iff.mpr ⟨v, t, hv, hw⟩, hu⟩

theorem succeeds_forM {f : α → Action σ PUnit} (h : ∀ x, (f x).Succeeds P) :
    ∀ xs : List α, (xs.forM f).Succeeds P
  | [] => succeeds_pure _
  | x :: xs => (h x).bind fun _ => succeeds_forM h xs

theorem succeeds_foldlM {f : β → α → Action σ β} (h : ∀ b x, (f b x).Succeeds P) :
    ∀ (xs : List α) (b : β), (xs.foldlM f b).Succeeds P
  | [], b => succeeds_pure b
  | x :: xs, b => (h b x).bind fun c => succeeds_foldlM h xs c

end Action

/-- No call of the rasterizer or of its workers fails. -/
def Rasterizer.Reliable (r : Rasterizer σ) (s : σ) : Prop :=
  ∀ call, (r.answer call).Succeeds (r.Reaches s)

namespace Frame

open SceneScript.Action

variable {rasterizer : Rasterizer σ} {settings : Settings} {symbols : SymbolTable}
  {number index : Nat} {s t : σ}

theorem succeeds_divide (hr : rasterizer.Reliable s) (step : UInt32) (shape : Shape) :
    (divide rasterizer step shape).Succeeds (rasterizer.Reaches s) := by
  cases shape with
  | box corner size => exact hr (.box corner size)
  | sphere center radius => exact hr (.sphere center radius step)
  | torus center minorRadius majorRadius => exact hr (.torus center minorRadius majorRadius step)

theorem succeeds_drawShape (hr : rasterizer.Reliable s) (settings : Settings) (m : Mat4 Float)
    (shape : Shape) (r : Reflectance) (surface : Surface) :
    (drawShape rasterizer settings m shape r surface).Succeeds (rasterizer.Reaches s) :=
  (succeeds_divide hr settings.step shape).bind fun triangles =>
    hr (.drawTriangles (triangles.transform m) surface ⟨settings.lighting, r⟩)

theorem succeeds_drawLine (hr : rasterizer.Reliable s) (settings : Settings) (m : Mat4 Float)
    (p0 p1 : Vec3 Float) (surface : Surface) :
    (drawLine rasterizer settings m p0 p1 surface).Succeeds (rasterizer.Reaches s) :=
  Succeeds.bind (hr (.line p0 p1)) fun segments =>
    hr (.drawSegments (segments.transform m) surface settings.lineColor)

/-! ### One directive -/

theorem reflectance_of_isSome (standard : Reflectance) {constants : Option String} (site : Site)
    (h : ∀ name, constants = some name → (SymbolTable.constants? symbols name).isSome) :
    ∃ r, reflectance symbols standard constants site = .ok r := by
  cases constants with
  | none => exact ⟨standard, rfl⟩
  | some name =>
      obtain ⟨r, hr⟩ := Option.isSome_iff_exists.mp (h name rfl)
      refine ⟨r, ?_⟩
      simp only [reflectance, hr]

theorem stretch_of_isSome {knob : Option String} (site : Site)
    (h : ∀ name, knob = some name → (SymbolTable.knob? symbols name).isSome) :
    ∃ k, stretch symbols knob site = .ok k := by
  cases knob with
  | none => exact ⟨1, rfl⟩
  | some name =>
      obtain ⟨k, hk⟩ := Option.isSome_iff_exists.mp (h name rfl)
      refine ⟨k, ?_⟩
      simp only [stretch, hk]

/-- A directive with an obstacle fails with it, and makes no call. -/
theorem step_of_obstacle? {d : Directive} {p : Progress} {e : Fault}
    (h : d.obstacle? symbols p.stack.below.length ⟨number, index, d.op⟩ = some e) :
    (step rasterizer settings symbols number index d p).run t = (.error e, t) := by
  cases d with
  | shape shape constants coords =>
      cases constants with
      | none => cases h
      | some name =>
          obtain ⟨hname, rfl⟩ := Directive.unlessFound_eq_some_iff.mp h
          simp [step, reflectance, hname]
  | line constants p0 coords0 p1 coords1 =>
      cases constants with
      | none => cases h
      | some name =>
          obtain ⟨hname, rfl⟩ := Directive.unlessFound_eq_some_iff.mp h
          simp [step, reflectance, hname]
  | motion m knob =>
      cases knob with
      | none => cases h
      | some name =>
          obtain ⟨hname, rfl⟩ := Directive.unlessFound_eq_some_iff.mp h
          simp only [step, stretch, hname]
          rfl
  | pop =>
      obtain ⟨⟨top, below⟩, surface, requests⟩ := p
      cases below with
      | nil =>
          obtain rfl := Option.some.inj h
          rfl
      | cons m below => cases h
  | _ => cases h

/-- A directive without an obstacle succeeds if the calls it makes do. -/
theorem step_of_obstacle?_eq_none (hr : rasterizer.Reliable s) (settings : Settings)
    (number index : Nat) (ht : rasterizer.Reaches s t) {d : Directive} {p : Progress} {site : Site}
    (h : d.obstacle? symbols p.stack.below.length site = none) :
    ∃ q u, (step rasterizer settings symbols number index d p).run t = (.ok q, u) ∧
      rasterizer.Reaches s u ∧ q.stack.below.length = d.depthAfter p.stack.below.length := by
  obtain ⟨⟨hconstants, hknob⟩, hopen⟩ := Directive.obstacle?_eq_none_iff.mp h
  cases d with
  | shape shape constants coords =>
      obtain ⟨r, hreflectance⟩ := reflectance_of_isSome settings.reflectance
        ⟨number, index, shape.op⟩ hconstants
      obtain ⟨surface, u, hdraw, hu⟩ :=
        succeeds_drawShape hr settings p.stack.top shape r p.surface t ht
      refine ⟨{ p with surface }, u, ?_, hu, rfl⟩
      exact bind_eq_ok_iff.mpr ⟨r, t, ofExcept_eq_ok_iff.mpr ⟨hreflectance, rfl⟩,
        bind_eq_ok_iff.mpr ⟨surface, u, hdraw, rfl⟩⟩
  | line constants p0 coords0 p1 coords1 =>
      obtain ⟨r, hreflectance⟩ := reflectance_of_isSome settings.reflectance
        ⟨number, index, .line⟩ hconstants
      obtain ⟨surface, u, hdraw, hu⟩ :=
        succeeds_drawLine hr settings p.stack.top p0 p1 p.surface t ht
      refine ⟨{ p with surface }, u, ?_, hu, rfl⟩
      exact bind_eq_ok_iff.mpr ⟨r, t, ofExcept_eq_ok_iff.mpr ⟨hreflectance, rfl⟩,
        bind_eq_ok_iff.mpr ⟨surface, u, hdraw, rfl⟩⟩
  | motion m knob =>
      obtain ⟨k, hstretch⟩ := stretch_of_isSome ⟨number, index, m.op⟩ hknob
      refine ⟨{ p with stack := p.stack.apply (m.scaled k).matrix }, t, ?_, ht, rfl⟩
      exact bind_eq_ok_iff.mpr ⟨k, t, ofExcept_eq_ok_iff.mpr ⟨hstretch, rfl⟩, rfl⟩
  | pop =>
      obtain ⟨⟨top, below⟩, surface, requests⟩ := p
      cases below with
      | nil => exact absurd (hopen rfl) (Nat.lt_irrefl 0)
      | cons m below => exact ⟨⟨⟨m, below⟩, surface, requests⟩, t, rfl, ht, rfl⟩
  | _ => exact ⟨_, t, rfl, ht, rfl⟩

/-! ### Scenes -/

/-- The fault of the first of some directives that has an obstacle, of which the first has the given
position and finds so many `push`es open. -/
def firstObstacle? (symbols : SymbolTable) (number : Nat) :
    Nat → Nat → List Directive → Option Fault
  | _, _, [] => none
  | index, depth, d :: directives =>
    (d.obstacle? symbols depth ⟨number, index, d.op⟩).or
      (firstObstacle? symbols number (index + 1) (d.depthAfter depth) directives)

/-- Directives without an obstacle succeed if the calls they make do. -/
theorem steps_of_firstObstacle?_eq_none (hr : rasterizer.Reliable s) (settings : Settings)
    (ht : rasterizer.Reaches s t) {directives : List Directive} {p : Progress}
    (h : firstObstacle? symbols number index p.stack.below.length directives = none) :
    ∃ q u, (steps rasterizer settings symbols number index directives p).run t = (.ok q, u) ∧
      rasterizer.Reaches s u := by
  induction directives generalizing index p t with
  | nil => exact ⟨p, t, rfl, ht⟩
  | cons d directives ih =>
      rw [firstObstacle?, Option.or_eq_none_iff] at h
      obtain ⟨q, u, hq, hu, hdepth⟩ := step_of_obstacle?_eq_none hr settings number index ht h.1
      rw [← hdepth] at h
      obtain ⟨q', u', hq', hu'⟩ := ih hu h.2
      exact ⟨q', u', bind_eq_ok_iff.mpr ⟨q, u, hq, hq'⟩, hu'⟩

/-- Directives fail with the first obstacle among them if the calls before it succeed. -/
theorem steps_of_firstObstacle?_eq_some (hr : rasterizer.Reliable s) (settings : Settings)
    (ht : rasterizer.Reaches s t) {directives : List Directive} {p : Progress} {e : Fault}
    (h : firstObstacle? symbols number index p.stack.below.length directives = some e) :
    ((steps rasterizer settings symbols number index directives p).run t).1 = .error e := by
  induction directives generalizing index p t with
  | nil => cases h
  | cons d directives ih =>
      rw [firstObstacle?, Option.or_eq_some_iff] at h
      rcases h with h | ⟨hnone, h⟩
      · rw [steps, run_bind, step_of_obstacle? h]
      · obtain ⟨q, u, hq, hu, hdepth⟩ := step_of_obstacle?_eq_none hr settings number index ht hnone
        rw [← hdepth] at h
        rw [steps, run_bind, hq]
        exact ih hu h

/-! ### Scenes without an obstacle -/

/-- No beginning of a scene has more `pop`s than `push`es, together with those open before it. -/
def Balanced (depth : Nat) (directives : List Directive) : Prop :=
  ∀ front, front <+: directives →
    front.countP Directive.closes ≤ depth + front.countP Directive.opens

theorem balanced_cons_iff {depth : Nat} {d : Directive} {directives : List Directive} :
    Balanced depth (d :: directives) ↔
      (d.closes → 0 < depth) ∧ Balanced (d.depthAfter depth) directives := by
  have hcount : ∀ front : List Directive, (d.closes → 0 < depth) →
      ((d :: front).countP Directive.closes ≤ depth + (d :: front).countP Directive.opens ↔
        front.countP Directive.closes ≤ d.depthAfter depth + front.countP Directive.opens) := by
    intro front hopen
    rw [List.countP_cons, List.countP_cons]
    cases d with
    | push =>
        simp only [Directive.closes, Directive.opens, Directive.depthAfter, Bool.false_eq_true,
          if_false, if_true]
        omega
    | pop =>
        have hpos : 0 < depth := hopen rfl
        simp only [Directive.closes, Directive.opens, Directive.depthAfter, Bool.false_eq_true,
          if_false, if_true]
        omega
    | _ => rfl
  constructor
  · intro h
    have hopen : d.closes → 0 < depth := by
      intro hcloses
      have hfirst := h [d] (List.prefix_cons_iff.mpr (.inr ⟨[], rfl, List.nil_prefix⟩))
      cases d with
      | pop => simpa [Directive.closes, Directive.opens, Nat.one_le_iff_ne_zero,
          Nat.pos_iff_ne_zero] using hfirst
      | _ => cases hcloses
    refine ⟨hopen, ?_⟩
    intro front hfront
    exact (hcount front hopen).mp (h (d :: front) ((List.prefix_cons_inj d).mpr hfront))
  · rintro ⟨hopen, h⟩ front hfront
    rcases List.prefix_cons_iff.mp hfront with rfl | ⟨front, rfl, hrest⟩
    · exact Nat.zero_le _
    · exact (hcount front hopen).mpr (h front hrest)

/-- Nothing stops a frame if and only if all names in its scene are defined and none of its
beginnings has more `pop`s than `push`es. -/
theorem firstObstacle?_eq_none_iff {directives : List Directive} {depth : Nat} :
    firstObstacle? symbols number index depth directives = none ↔
      (∀ d ∈ directives, d.Defined symbols) ∧ Balanced depth directives := by
  induction directives generalizing index depth with
  | nil => simp [firstObstacle?, Balanced]
  | cons d directives ih =>
      rw [firstObstacle?, Option.or_eq_none_iff, Directive.obstacle?_eq_none_iff, ih,
        balanced_cons_iff, List.forall_mem_cons]
      exact and_and_and_comm

/-- The names in a scene are defined, and its `pop`s have `push`es. -/
structure Executable (symbols : SymbolTable) (directives : List Directive) : Prop where
  defined : ∀ d ∈ directives, d.Defined symbols
  balanced : Balanced 0 directives

/-- With a rasterizer that never fails a frame succeeds if and only if its scene is executable. -/
theorem run_succeeds_iff (hr : rasterizer.Reliable s) (ht : rasterizer.Reaches s t)
    {directives : List Directive} :
    (∃ f u, (run rasterizer settings directives number symbols).run t = (.ok f, u)) ↔
      Executable symbols directives := by
  have hnone : Executable symbols directives ↔
      firstObstacle? symbols number 0 0 directives = none :=
    ⟨fun h => firstObstacle?_eq_none_iff.mpr ⟨h.defined, h.balanced⟩,
      fun h => ⟨(firstObstacle?_eq_none_iff.mp h).1, (firstObstacle?_eq_none_iff.mp h).2⟩⟩
  rw [hnone]
  constructor
  · rintro ⟨f, u, h⟩
    obtain ⟨p, hp, _⟩ := run_eq_ok_iff.mp h
    by_contra hne
    obtain ⟨e, he⟩ := Option.ne_none_iff_exists'.mp hne
    have hfails := steps_of_firstObstacle?_eq_some hr settings (p := .start settings) ht he
    rw [hp] at hfails
    cases hfails
  · intro h
    obtain ⟨p, u, hp, _⟩ := steps_of_firstObstacle?_eq_none hr settings
      (p := .start settings) ht h
    exact ⟨_, u, run_eq_ok_iff.mpr ⟨p, hp, rfl⟩⟩

end Frame
end SceneScript
