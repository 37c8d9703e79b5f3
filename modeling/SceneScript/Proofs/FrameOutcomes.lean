import SceneScript.Proofs.RenderConditions

/-! # The outcome of a frame

With a rasterizer whose calls never fail, what comes of a frame can be read off its scene and its
symbols.  `Frame.Offends` says that a position of a scene has a fault and which: a shape or a line
names constants that are not defined, a motion names a knob that is not defined, or a `pop` has as
many `pop`s as `push`es in front of it.  `Frame.outcome_of_offences` is the result: a frame succeeds
if and only if no position offends, and otherwise it fails with the fault of the first that does.

How many coordinate systems a run has saved is told from the numbers of `push`es and `pop`s
(`Frame.depth_of_steps`), so an offence, a matter of counting, is the obstacle that the run meets
(`Frame.obstacle?_eq_some_iff`).  In front of the first one the scene is executable
(`Frame.executable_take`): when the frame fails the rasterizer has received the calls of the
directives there, those of `Frame.Draws`, and the position that offends has made none. -/

namespace SceneScript

variable {σ α : Type}

/-- The directive draws something. -/
def Directive.isDrawn : Directive → Bool
  | .shape .. | .line .. => true
  | _ => false

/-! ### Recorded rasterizers that never fail -/

theorem Action.run_noting {κ : Type} (call : κ) (a : Action σ α) (t : σ × List κ) :
    (a.noting call).run t = ((a.run t.1).1, ((a.run t.1).2, t.2 ++ [call])) := rfl

namespace Rasterizer

variable {rasterizer : Rasterizer σ} {s : σ}

theorem answer_recorded (call : Call) :
    rasterizer.recorded.answer call = (rasterizer.answer call).noting call := by
  cases call <;> rfl

/-- The states of a recorded rasterizer are those of the rasterizer, with records beside them. -/
theorem Reaches.of_recorded {calls : List Call} {t : σ × List Call}
    (h : rasterizer.recorded.Reaches (s, calls) t) : rasterizer.Reaches s t.1 := by
  induction h with
  | start => exact .start
  | call call _ ih =>
      rw [answer_recorded]
      exact .call call ih
  | forked _ ih => exact .forked ih
  | worker _ hw ih =>
      obtain ⟨worker, hworker, rfl⟩ := Option.map_eq_some_iff.mp hw
      exact .worker ih hworker

/-- Keeping a record makes no call fail. -/
theorem Reliable.recorded (h : rasterizer.Reliable s) (calls : List Call) :
    rasterizer.recorded.Reliable (s, calls) := by
  intro call t ht
  obtain ⟨v, u, hv, _⟩ := h call t.1 ht.of_recorded
  have hrun : (rasterizer.recorded.answer call).run t = (.ok v, (u, t.2 ++ [call])) := by
    rw [answer_recorded, Action.run_noting, hv]
  refine ⟨v, _, hrun, ?_⟩
  have hreached := Reaches.call call ht
  rw [hrun] at hreached
  exact hreached

end Rasterizer

namespace Frame

open SceneScript.Action

variable {rasterizer : Rasterizer σ} {settings : Settings} {symbols : SymbolTable}
  {number index : Nat}

/-! ### How deep a run is -/

/-- A `push` saves one more coordinate system, a `pop` one fewer, and nothing else does. -/
theorem depth_of_step {d : Directive} {p q : Progress} {s t : σ}
    (h : (step rasterizer settings symbols number index d p).run s = (.ok q, t)) :
    q.stack.depth + [d].countP Directive.closes = p.stack.depth + [d].countP Directive.opens := by
  cases d with
  | shape shape constants coords =>
      simp only [step, bind_eq_ok_iff, pure_eq_ok_iff] at h
      obtain ⟨_, _, _, _, _, _, rfl, _⟩ := h
      rfl
  | line constants p0 coords0 p1 coords1 =>
      simp only [step, bind_eq_ok_iff, pure_eq_ok_iff] at h
      obtain ⟨_, _, _, _, _, _, rfl, _⟩ := h
      rfl
  | motion m knob =>
      simp only [step, bind_eq_ok_iff, pure_eq_ok_iff] at h
      obtain ⟨_, _, _, rfl, _⟩ := h
      rfl
  | pop =>
      obtain ⟨⟨top, below⟩, surface, requests⟩ := p
      cases below with
      | nil => simp [step, TransformStack.pop] at h
      | cons m below =>
          obtain ⟨rfl, _⟩ := pure_eq_ok_iff.mp h
          rfl
  | _ =>
      obtain ⟨rfl, _⟩ := pure_eq_ok_iff.mp h
      rfl

/-- A run ends as deep as it began, but for its `push`es and `pop`s. -/
theorem depth_of_steps {directives : List Directive} {p q : Progress} {s t : σ}
    (h : (steps rasterizer settings symbols number index directives p).run s = (.ok q, t)) :
    q.stack.depth + directives.countP Directive.closes =
      p.stack.depth + directives.countP Directive.opens := by
  induction directives generalizing index p s with
  | nil =>
      obtain ⟨rfl, _⟩ := pure_eq_ok_iff.mp h
      rfl
  | cons d directives ih =>
      obtain ⟨r, u, hd, hrest⟩ := bind_eq_ok_iff.mp h
      have hfirst := depth_of_step hd
      have hothers := ih hrest
      rw [← List.singleton_append, List.countP_append, List.countP_append]
      omega

/-! ### The calls of directives -/

/-- The call that divides a shape. -/
def dividing (step : UInt32) : Shape → Rasterizer.Call
  | .box corner size => .box corner size
  | .sphere center radius => .sphere center radius step
  | .torus center minorRadius majorRadius => .torus center minorRadius majorRadius step

/-- The calls that a directive makes: shapes and lines are divided and then drawn, and no other
directive makes a call. -/
inductive Draws (settings : Settings) : Directive → List Rasterizer.Call → Prop
  | shape (shape : Shape) (constants coords : Option String) (triangles : Triangles)
      (surface : Surface) (r : Reflectance) :
      Draws settings (.shape shape constants coords)
        [dividing settings.step shape, .drawTriangles triangles surface ⟨settings.lighting, r⟩]
  | line (constants : Option String) (p0 : Vec3 Float) (coords0 : Option String) (p1 : Vec3 Float)
      (coords1 : Option String) (segments : Segments) (surface : Surface) :
      Draws settings (.line constants p0 coords0 p1 coords1)
        [.line p0 p1, .drawSegments segments surface settings.lineColor]
  | nothing {d : Directive} (h : d.isDrawn = false) : Draws settings d []

/-- A call that succeeds is noted. -/
theorem snd_of_noting {a : Action σ α} {call : Rasterizer.Call} {t u : σ × List Rasterizer.Call}
    {v : α} (h : (a.noting call).run t = (.ok v, u)) : u.2 = t.2 ++ [call] := by
  rw [run_noting] at h
  rw [← (Prod.mk.inj h).2]

theorem draws_of_step {d : Directive} {p q : Progress} {t u : σ × List Rasterizer.Call}
    (h : (step rasterizer.recorded settings symbols number index d p).run t = (.ok q, u)) :
    ∃ made, Draws settings d made ∧ u.2 = t.2 ++ made := by
  have hnothing : u.2 = t.2 → d.isDrawn = false →
      ∃ made, Draws settings d made ∧ u.2 = t.2 ++ made := by
    intro hu hd
    exact ⟨[], .nothing hd, by rw [hu, List.append_nil]⟩
  cases d with
  | shape shape constants coords =>
      simp only [step, drawShape, bind_eq_ok_iff, ofExcept_eq_ok_iff, pure_eq_ok_iff] at h
      obtain ⟨r, _, ⟨_, rfl⟩, surface, _, ⟨triangles, w, hdivide, hdraw⟩, rfl, rfl⟩ := h
      have hdivided : w.2 = t.2 ++ [dividing settings.step shape] := by
        cases shape <;> exact snd_of_noting hdivide
      refine ⟨_, .shape shape constants coords (triangles.transform p.stack.top) p.surface r, ?_⟩
      rw [snd_of_noting hdraw, hdivided, List.append_assoc]
      rfl
  | line constants p0 coords0 p1 coords1 =>
      simp only [step, drawLine, bind_eq_ok_iff, ofExcept_eq_ok_iff, pure_eq_ok_iff] at h
      obtain ⟨r, _, ⟨_, rfl⟩, surface, _, ⟨segments, w, hdivide, hdraw⟩, rfl, rfl⟩ := h
      refine ⟨_, .line constants p0 coords0 p1 coords1 (segments.transform p.stack.top) p.surface,
        ?_⟩
      rw [snd_of_noting hdraw, snd_of_noting hdivide, List.append_assoc]
      rfl
  | motion m knob =>
      simp only [step, bind_eq_ok_iff, ofExcept_eq_ok_iff, pure_eq_ok_iff] at h
      obtain ⟨_, _, ⟨_, rfl⟩, _, rfl⟩ := h
      exact hnothing rfl rfl
  | pop =>
      simp only [step] at h
      split at h
      · obtain ⟨_, rfl⟩ := pure_eq_ok_iff.mp h
        exact hnothing rfl rfl
      · simp at h
  | _ =>
      obtain ⟨_, rfl⟩ := pure_eq_ok_iff.mp h
      exact hnothing rfl rfl

/-- The calls of a run are those of its directives in order. -/
theorem draws_of_steps {directives : List Directive} {p q : Progress}
    {t u : σ × List Rasterizer.Call}
    (h : (steps rasterizer.recorded settings symbols number index directives p).run t =
      (.ok q, u)) :
    ∃ made, List.Forall₂ (Draws settings) directives made ∧ u.2 = t.2 ++ made.flatten := by
  induction directives generalizing index p t with
  | nil =>
      obtain ⟨_, rfl⟩ := pure_eq_ok_iff.mp h
      exact ⟨[], .nil, (List.append_nil _).symm⟩
  | cons d directives ih =>
      obtain ⟨r, w, hd, hrest⟩ := bind_eq_ok_iff.mp h
      obtain ⟨first, hfirst, hw⟩ := draws_of_step hd
      obtain ⟨others, hothers, hu⟩ := ih hrest
      exact ⟨first :: others, .cons hfirst hothers, by
        rw [hu, hw, List.append_assoc, List.flatten_cons]⟩

/-! ### Offences -/

/-- A position of a scene has a fault. -/
inductive Offends (symbols : SymbolTable) (number : Nat) (directives : List Directive)
    (position : Nat) : Fault → Prop
  /-- A shape or a line names constants that are not defined. -/
  | constants {d : Directive} {name : String} (here : directives[position]? = some d)
      (named : d.constants? = some name) (undefined : SymbolTable.constants? symbols name = none) :
      Offends symbols number directives position
        (.undefinedConstants ⟨number, position, d.op⟩ name)
  /-- A motion names a knob that is not defined. -/
  | knob {d : Directive} {name : String} (here : directives[position]? = some d)
      (named : d.knob? = some name) (undefined : SymbolTable.knob? symbols name = none) :
      Offends symbols number directives position (.undefinedKnob ⟨number, position, d.op⟩ name)
  /-- A `pop` has as many `pop`s as `push`es in front of it. -/
  | pop (here : directives[position]? = some .pop)
      (spent : (directives.take position).countP Directive.closes =
        (directives.take position).countP Directive.opens) :
      Offends symbols number directives position (.popWithoutPush ⟨number, position, .pop⟩)

variable {directives : List Directive} {position : Nat} {e : Fault}

/-- The fault of a position is reported at its place, as a missing name or as a stack underflow. -/
theorem Offends.reported (h : Offends symbols number directives position e) :
    ∃ d words, directives[position]? = some d ∧
      e.kind = (if d.closes then .stackUnderflow else .lookup) ∧
      e.text = Site.text ⟨number, position, d.op⟩ ++ words := by
  cases h with
  | @constants d name here named undefined =>
      refine ⟨d, ": constants '" ++ name ++ "' is not defined", here, ?_, ?_⟩
      · cases d with
        | pop => cases named
        | _ => rfl
      · rw [← String.append_assoc, ← String.append_assoc]
        rfl
  | @knob d name here named undefined =>
      refine ⟨d, ": knob '" ++ name ++ "' is not defined", here, ?_, ?_⟩
      · cases d with
        | pop => cases named
        | _ => rfl
      · rw [← String.append_assoc, ← String.append_assoc]
        rfl
  | pop here spent => exact ⟨.pop, ": pop without push", here, rfl, rfl⟩

/-- A position offends if and only if its directive meets an obstacle where the `push`es in front of
it leave so many open. -/
theorem obstacle?_eq_some_iff {d : Directive} (here : directives[position]? = some d) (depth : Nat)
    (hdepth : depth + (directives.take position).countP Directive.closes =
      (directives.take position).countP Directive.opens) :
    d.obstacle? symbols depth ⟨number, position, d.op⟩ = some e ↔
      Offends symbols number directives position e := by
  constructor
  · intro h
    cases d with
    | shape _ constants _ | line constants _ _ _ _ =>
        cases constants with
        | none => cases h
        | some name =>
            obtain ⟨hname, rfl⟩ := Directive.unlessFound_eq_some_iff.mp h
            exact .constants here rfl hname
    | motion m knob =>
        cases knob with
        | none => cases h
        | some name =>
            obtain ⟨hname, rfl⟩ := Directive.unlessFound_eq_some_iff.mp h
            exact .knob here rfl hname
    | pop =>
        simp only [Directive.obstacle?, Option.ite_none_right_eq_some] at h
        obtain ⟨rfl, h⟩ := h
        obtain rfl := Option.some.inj h
        exact .pop here (by omega)
    | _ => cases h
  · intro h
    cases h with
    | constants here' named undefined =>
        rw [here] at here'
        obtain rfl := Option.some.inj here'
        cases d with
        | shape _ constants _ | line constants _ _ _ _ =>
            obtain rfl : constants = _ := named
            exact Directive.unlessFound_eq_some_iff.mpr ⟨undefined, rfl⟩
        | _ => cases named
    | knob here' named undefined =>
        rw [here] at here'
        obtain rfl := Option.some.inj here'
        cases d with
        | motion _ knob =>
            obtain rfl : knob = _ := named
            exact Directive.unlessFound_eq_some_iff.mpr ⟨undefined, rfl⟩
        | _ => cases named
    | pop here' spent =>
        rw [here] at here'
        obtain rfl := Option.some.inj here'
        have hzero : depth = 0 := by omega
        simp only [Directive.obstacle?, hzero, if_true]
        rfl

/-- Where no position offends, no beginning has more `pop`s than `push`es. -/
theorem closes_le_opens_of_take
    (h : ∀ earlier < position, ∀ e, ¬Offends symbols number directives earlier e) :
    ∀ n ≤ position, (directives.take n).countP Directive.closes ≤
      (directives.take n).countP Directive.opens := by
  intro n hn
  induction n with
  | zero => exact Nat.le_refl 0
  | succ n ih =>
      have hbefore := ih (by omega)
      rw [List.take_add_one, List.countP_append, List.countP_append]
      cases here : directives[n]? with
      | none => simpa using hbefore
      | some d =>
          cases d with
          | pop =>
              -- The `pop` would offend if it had no `push` left.
              have hleft : (directives.take n).countP Directive.closes ≠
                  (directives.take n).countP Directive.opens :=
                fun hspent => h n (by omega) _ (.pop here hspent)
              simp only [Option.toList_some, List.countP_singleton, Directive.closes,
                Directive.opens, if_true, Bool.false_eq_true, if_false]
              omega
          | _ =>
              simp only [Option.toList_some, List.countP_singleton, Directive.closes,
                Directive.opens, if_true, Bool.false_eq_true, if_false]
              omega

/-- In front of the first position that offends a scene is executable. -/
theorem executable_take
    (h : ∀ earlier < position, ∀ e, ¬Offends symbols number directives earlier e) :
    Executable symbols (directives.take position) where
  defined d hd := by
    obtain ⟨i, hi, rfl⟩ := List.mem_take_iff_getElem.mp hd
    have here : directives[i]? = some directives[i] := List.getElem?_eq_getElem (by omega)
    constructor
    · intro name named
      by_contra hnone
      exact h i (by omega) _ (.constants here named (Option.not_isSome_iff_eq_none.mp hnone))
    · intro name named
      by_contra hnone
      exact h i (by omega) _ (.knob here named (Option.not_isSome_iff_eq_none.mp hnone))
  balanced front hfront := by
    have hlength : front.length ≤ position :=
      Nat.le_trans hfront.length_le (List.length_take_le _ _)
    have htake : front = directives.take front.length := by
      rw [← List.prefix_iff_eq_take]
      exact hfront.trans (List.take_prefix _ _)
    rw [Nat.zero_add, htake]
    exact closes_le_opens_of_take h front.length hlength

/-- A frame fails with the fault of the first position that offends.  It stops in the state to which
the directives in front of it lead when they are run alone. -/
theorem run_of_first_offence {s : σ} (hr : rasterizer.Reliable s) (settings : Settings)
    (h : Offends symbols number directives position e)
    (hfirst : ∀ earlier < position, ∀ e, ¬Offends symbols number directives earlier e) :
    ∃ p t, (steps rasterizer settings symbols number 0 (directives.take position)
        (.start settings)).run s = (.ok p, t) ∧
      (run rasterizer settings directives number symbols).run s = (.error e, t) := by
  obtain ⟨d, _, here, _, _⟩ := h.reported
  have hlt : position < directives.length := List.getElem?_eq_some_iff.mp here |>.1
  obtain ⟨f, t, hfront⟩ : ∃ f t,
      (run rasterizer settings (directives.take position) number symbols).run s = (.ok f, t) :=
    (run_succeeds_iff hr .start).mpr (executable_take hfirst)
  obtain ⟨p, hp, _⟩ := run_eq_ok_iff.mp hfront
  refine ⟨p, t, hp, ?_⟩
  have hdepth : p.stack.below.length + (directives.take position).countP Directive.closes =
      (directives.take position).countP Directive.opens := by
    have hall : p.stack.below.length + 1 + (directives.take position).countP Directive.closes =
        1 + (directives.take position).countP Directive.opens := depth_of_steps hp
    omega
  have hobstacle := (obstacle?_eq_some_iff here _ hdepth).mpr h
  have hlength : (directives.take position).length = position :=
    List.length_take_of_le (Nat.le_of_lt hlt)
  have hsplit : directives = directives.take position ++ d :: directives.drop (position + 1) := by
    rw [← (List.getElem?_eq_some_iff.mp here).2, List.getElem_cons_drop, List.take_append_drop]
  have hstop : (steps rasterizer settings symbols number 0 directives (.start settings)).run s =
      (.error e, t) := by
    rw [hsplit, steps_append, run_bind, hp, Nat.zero_add, hlength]
    simp only [steps, run_bind, step_of_obstacle? hobstacle]
  rw [run, run_bind, hstop]

/-- **The outcome of a frame.**  With a rasterizer that never fails, a frame succeeds if and only if
no position of its scene offends, and then it ends with one coordinate system more than `push`es
without a `pop`.  Otherwise it fails with the fault of the first position that offends, reported at
that place, after the calls of the directives in front of it and no others. -/
theorem outcome_of_offences {s : σ} (hr : rasterizer.Reliable s) (settings : Settings)
    (symbols : SymbolTable) (number : Nat) (directives : List Directive)
    (calls : List Rasterizer.Call) :
    let frame (scene : List Directive) :=
      (run rasterizer.recorded settings scene number symbols).run (s, calls)
    ((∃ f t, frame directives = (.ok f, t)) ↔
      ∀ position e, ¬Offends symbols number directives position e) ∧
    (∀ f t, frame directives = (.ok f, t) → ∃ p made,
      (steps rasterizer.recorded settings symbols number 0 directives (.start settings)).run
        (s, calls) = (.ok p, t) ∧
      p.stack.depth + directives.countP Directive.closes =
        1 + directives.countP Directive.opens ∧
      List.Forall₂ (Draws settings) directives made ∧ t.2 = calls ++ made.flatten) ∧
    ∀ position e, Offends symbols number directives position e →
      (∀ earlier < position, ∀ e', ¬Offends symbols number directives earlier e') →
      ∃ f t made d words, frame directives = (.error e, t) ∧
        frame (directives.take position) = (.ok f, t) ∧
        List.Forall₂ (Draws settings) (directives.take position) made ∧
        t.2 = calls ++ made.flatten ∧ directives[position]? = some d ∧
        e.kind = (if d.closes then .stackUnderflow else .lookup) ∧
        e.text = Site.text ⟨number, position, d.op⟩ ++ words := by
  intro frame
  have hrecorded := hr.recorded calls
  refine ⟨?_, ?_, ?_⟩
  · constructor
    · rintro ⟨f, t, hf⟩
      by_contra hsome
      simp only [not_forall, not_not] at hsome
      classical
      obtain ⟨e, he⟩ := Nat.find_spec hsome
      obtain ⟨_, _, _, hfails⟩ := run_of_first_offence hrecorded settings he
        fun earlier hlt e' he' => Nat.find_min hsome hlt ⟨e', he'⟩
      rw [show frame directives = _ from hfails] at hf
      cases hf
    · intro hnone
      have hall : Executable symbols (directives.take directives.length) :=
        executable_take fun earlier _ => hnone earlier
      rw [List.take_length] at hall
      exact (run_succeeds_iff hrecorded .start).mpr hall
  · intro f t hf
    obtain ⟨p, hp, _⟩ := run_eq_ok_iff.mp hf
    obtain ⟨made, hmade, hcalls⟩ := draws_of_steps hp
    exact ⟨p, made, hp, depth_of_steps hp, hmade, hcalls⟩
  · intro position e he hfirst
    obtain ⟨p, t, hp, hfails⟩ := run_of_first_offence hrecorded settings he hfirst
    obtain ⟨made, hmade, hcalls⟩ := draws_of_steps hp
    obtain ⟨d, words, here, hkind, htext⟩ := he.reported
    exact ⟨_, t, made, d, words, hfails, run_eq_ok_iff.mpr ⟨p, hp, rfl⟩, hmade, hcalls, here,
      hkind, htext⟩

/-- A ball, a `pop` too many, and a turn by a knob that is not defined. -/
def overdrawn : List Directive :=
  [.push, .shape (.sphere ⟨0, 0, 0⟩ 1) none none, .pop, .pop, .motion (.rotate .y 45) (some "spin")]

theorem overdrawn_outcome :
    let frame (scene : List Directive) :=
      (run Rasterizer.idle.recorded .standard scene 7 .empty).run ((), [])
    (∃ t, frame overdrawn = (.error (.popWithoutPush ⟨7, 3, .pop⟩), t) ∧ t.2.length = 2) ∧
      ∃ f t, frame (overdrawn.take 3) = (.ok f, t) := by
  intro frame
  have hfirst : ∀ earlier < 3, ∀ e, ¬Offends .empty 7 overdrawn earlier e := by
    intro earlier hlt e he
    obtain rfl | rfl | rfl : earlier = 0 ∨ earlier = 1 ∨ earlier = 2 := by omega
    · cases (obstacle?_eq_some_iff (rfl : overdrawn[0]? = some .push) 0 rfl).mpr he
    · cases (obstacle?_eq_some_iff (rfl : overdrawn[1]? = some (.shape ..)) 1 rfl).mpr he
    · cases (obstacle?_eq_some_iff (rfl : overdrawn[2]? = some .pop) 1 rfl).mpr he
  obtain ⟨f, t, made, _, _, hfails, hfront, hmade, hcalls, _⟩ :=
    (outcome_of_offences Render.reliable_idle .standard .empty 7 overdrawn []).2.2 3 _
      (.pop rfl rfl) hfirst
  refine ⟨⟨t, hfails, ?_⟩, f, t, hfront⟩
  -- Of the three directives in front only the ball is drawn, with two calls.
  rw [hcalls]
  cases hmade with
  | cons hpush hrest =>
      cases hpush
      cases hrest with
      | cons hball hrest =>
          cases hball with
          | nothing hball => cases hball
          | shape =>
              cases hrest with
              | cons hpop hrest =>
                  cases hpop
                  cases hrest
                  rfl

end Frame
end SceneScript
