import SceneScript.Proofs.RenderConditions

/-! # What is checked before the first frame

A render of an animation looks for five things that are wrong with it, and reports the first that
it finds (`Check.order`).  It does so before it writes a knob row or draws anything: the only
collaborator it turns to is the rasterizer, which it asks for a worker if frames are to be rendered
side by side.  So a check that fails leaves the studio as it was, but for what forking did to the
rasterizer (`run_frames_of_check`), whatever else is wrong with the scene. -/

namespace SceneScript
namespace Render

open SceneScript.Action

variable {σ τ : Type}

/-! ### Checks -/

/-- What is checked before the first frame. -/
inductive Check where
  | canvas
  | step
  | table
  | forking
  | threads
deriving DecidableEq, Repr

namespace Check

/-- The order of the checks. -/
def order : List Check := [canvas, step, table, forking, threads]

/-- The check finds something wrong.  The last two are for frames rendered side by side. -/
def fails (rasterizer : Rasterizer σ) (settings : Settings) (threading : Threading)
    (animation : Animation) (s : σ) : Check → Bool
  | canvas => settings.canvas.width = 0 ∨ settings.canvas.height = 0
  | step => settings.step = 0
  | table => animation.table.size ≠ animation.timeline.frameCount.toNat
  | forking => threading.parallel && (rasterizer.fork s).1.isNone
  | threads => threading.parallel && threading.threads = some 0

/-- What a check that fails reports. -/
def fault (animation : Animation) : Check → Fault
  | canvas => .emptyCanvas
  | step => .zeroStep
  | table => .tableLength animation.table.size animation.timeline.frameCount.toNat
  | forking => .noForking
  | threads => .zeroThreads

end Check

/-! ### The checks one by one -/

section

variable {rasterizer : Rasterizer σ} {settings : Settings} {animation : Animation}

theorem validate_of_canvas (h : settings.canvas.width = 0 ∨ settings.canvas.height = 0) :
    settings.validate = .error .emptyCanvas := by
  rw [Settings.validate, Canvas.ofSize, if_pos h]
  rfl

theorem validate_of_step (hcanvas : ¬(settings.canvas.width = 0 ∨ settings.canvas.height = 0))
    (h : settings.step = 0) : settings.validate = .error .zeroStep := by
  rw [Settings.validate, Canvas.ofSize, if_neg hcanvas, if_pos h]
  rfl

theorem checkLength_of_table (h : animation.table.size ≠ animation.timeline.frameCount.toNat) :
    checkLength animation = .error (Check.table.fault animation) := if_neg h

variable {sink : Sink τ} {directives : List Directive} {threading : Threading}
  {schedule : Schedule} {st : Studio σ τ}

/-- A rasterizer without workers stops a render side by side. -/
theorem run_parallel_of_forking (h : (rasterizer.fork st.rasterizer).1 = none) :
    (parallel rasterizer sink settings directives animation threading schedule).run st =
      (.error .noForking, { st with rasterizer := (rasterizer.fork st.rasterizer).2 }) := by
  have hprobe : (probeFork rasterizer).run st.rasterizer =
      (.error .noForking, (rasterizer.fork st.rasterizer).2) := by
    refine bind_eq_error_iff.mpr (.inr ⟨none, (rasterizer.fork st.rasterizer).2, ?_, rfl⟩)
    rw [← h]
    rfl
  rw [parallel, run_bind, onRasterizer, run_within, hprobe]

/-- So does a number of no threads. -/
theorem run_parallel_of_threads (hfork : (rasterizer.fork st.rasterizer).1.isSome)
    (h : threading.threads = some 0) :
    (parallel rasterizer sink settings directives animation threading schedule).run st =
      (.error .zeroThreads, { st with rasterizer := (rasterizer.fork st.rasterizer).2 }) := by
  obtain ⟨w, hw⟩ := Option.isSome_iff_exists.mp hfork
  have hvalid : threading.validate = .error .zeroThreads := if_pos h
  rw [parallel, run_bind, onRasterizer, run_within, run_probeFork hw, hvalid]
  rfl

theorem run_frames_of_validate {e : Fault} (h : settings.validate = .error e) :
    (frames rasterizer sink settings directives threading schedule animation).run st =
      (.error e, st) := by
  rw [frames_eq_phases, run_bind, run_ofExcept, h]

theorem run_frames_of_checkLength {e : Fault} (hvalid : settings.validate = .ok ())
    (h : checkLength animation = .error e) :
    (frames rasterizer sink settings directives threading schedule animation).run st =
      (.error e, st) := by
  rw [frames_eq_phases]
  simp only [run_bind, run_ofExcept, hvalid, h]

/-- If the settings and the table are in order, a render stops as its frames do. -/
theorem run_frames_of_body {e : Fault} {u : Studio σ τ} (hvalid : settings.validate = .ok ())
    (htable : checkLength animation = .ok ())
    (h : (body rasterizer sink settings directives animation threading schedule).run st =
      (.error e, u)) :
    (frames rasterizer sink settings directives threading schedule animation).run st =
      (.error e, u) := by
  rw [frames_eq_phases]
  simp only [run_bind, run_ofExcept, hvalid, htable, h]

/-! ### The first check that fails -/

/-- **The first check that fails** is what a render of an animation reports, and all that it did is
to ask the rasterizer for a worker, if it came to that. -/
theorem run_frames_of_check {c : Check}
    (h : Check.order.find? (Check.fails rasterizer settings threading animation st.rasterizer) =
      some c) :
    ∃ s, (s = st.rasterizer ∨ s = (rasterizer.fork st.rasterizer).2) ∧
      (frames rasterizer sink settings directives threading schedule animation).run st =
        (.error (c.fault animation), { st with rasterizer := s }) := by
  obtain ⟨hfails, i, hi, rfl, hbefore⟩ := List.find?_eq_some_iff_getElem.mp h
  have passes : ∀ c j, Check.order[j]? = some c → j < i →
      c.fails rasterizer settings threading animation st.rasterizer = false := by
    intro c j hc hj
    obtain ⟨_, rfl⟩ := List.getElem?_eq_some_iff.mp hc
    exact Bool.not_eq_true' _ ▸ hbefore j hj
  have hcanvas : 0 < i → ¬(settings.canvas.width = 0 ∨ settings.canvas.height = 0) :=
    fun hi => of_decide_eq_false (passes .canvas 0 rfl hi)
  have hvalid : 1 < i → settings.validate = .ok () := fun hi =>
    have hcanvas := not_or.mp (hcanvas (by omega))
    Settings.validate_eq_ok_iff.mpr
      ⟨hcanvas.1, hcanvas.2, of_decide_eq_false (passes .step 1 rfl hi)⟩
  have htable : 2 < i → checkLength animation = .ok () := fun hi =>
    if_pos (not_not.mp (of_decide_eq_false (passes .table 2 rfl hi)))
  -- The cases are the places in the order: what stands in front of a check has been passed.
  obtain rfl | rfl | rfl | rfl | rfl : i = 0 ∨ i = 1 ∨ i = 2 ∨ i = 3 ∨ i = 4 := by
    change i < 5 at hi
    omega
  · exact ⟨st.rasterizer, .inl rfl,
      run_frames_of_validate (validate_of_canvas (of_decide_eq_true hfails))⟩
  · exact ⟨st.rasterizer, .inl rfl, run_frames_of_validate
      (validate_of_step (hcanvas (by decide)) (of_decide_eq_true hfails))⟩
  · exact ⟨st.rasterizer, .inl rfl, run_frames_of_checkLength (hvalid (by decide))
      (checkLength_of_table (of_decide_eq_true hfails))⟩
  · obtain ⟨hparallel, hfork⟩ := Bool.and_eq_true_iff.mp hfails
    refine ⟨_, .inr rfl, run_frames_of_body (hvalid (by decide)) (htable (by decide)) ?_⟩
    rw [body, if_pos hparallel]
    exact run_parallel_of_forking (Option.isNone_iff_eq_none.mp hfork)
  · obtain ⟨hparallel, hthreads⟩ := Bool.and_eq_true_iff.mp hfails
    have hforking := passes .forking 3 rfl (by decide)
    rw [Check.fails, hparallel, Bool.true_and] at hforking
    refine ⟨_, .inr rfl, run_frames_of_body (hvalid (by decide)) (htable (by decide)) ?_⟩
    rw [body, if_pos hparallel]
    exact run_parallel_of_threads (Option.isNone_eq_false_iff.mp hforking)
      (of_decide_eq_true hthreads)

theorem run_scene_of_error {e : Fault} (h : Animation.ofDirectives directives = .error e) :
    (scene rasterizer sink settings directives threading schedule).run st = (.error e, st) := by
  rw [scene, run_bind, run_ofExcept, h]

/-- A scene that can be resolved stops as the render of its animation does. -/
theorem run_scene_of_frames {e : Fault} {u : Studio σ τ}
    (hresolved : Animation.ofDirectives directives = .ok animation)
    (h : (frames rasterizer sink settings directives threading schedule animation).run st =
      (.error e, u)) :
    (scene rasterizer sink settings directives threading schedule).run st = (.error e, u) := by
  rw [scene, run_bind, run_ofExcept, hresolved]
  simp only [run_bind, h]

end

/-- Nothing but forking happened between two states of a studio with records of calls. -/
structure Unbegun (rasterizer : Rasterizer σ)
    (before after : Studio (σ × List Rasterizer.Call) (τ × List Sink.Call)) : Prop where
  symbols : after.symbols = before.symbols
  sink : after.sink = before.sink
  calls : after.rasterizer.2 = before.rasterizer.2
  state : after.rasterizer.1 = before.rasterizer.1 ∨
    after.rasterizer.1 = (rasterizer.fork before.rasterizer.1).2

theorem Check.fails_recorded (rasterizer : Rasterizer σ) (settings : Settings)
    (threading : Threading) (animation : Animation) (s : σ × List Rasterizer.Call) :
    Check.fails rasterizer.recorded settings threading animation s =
      Check.fails rasterizer settings threading animation s.1 := by
  funext c
  cases c with
  | forking => simp only [Check.fails, Rasterizer.recorded, Option.isNone_map]
  | _ => rfl

/-- **Nothing is done before the checks.**  If a scene cannot be resolved, rendering it reports that
and does nothing.  For any animation, whether it was resolved or not, the first check that fails is
what a render of it reports; and a scene that can be resolved reports the first check that fails for
its animation.  In each case the symbols are as before, and neither a call to the sink nor one to
divide or draw a shape has been made.  The directives are no part of the state at all. -/
theorem checks_come_first (rasterizer : Rasterizer σ) (sink : Sink τ) (settings : Settings)
    (directives : List Directive) (threading : Threading) (schedule : Schedule)
    (studio : Studio (σ × List Rasterizer.Call) (τ × List Sink.Call)) :
    let scene := scene rasterizer.recorded sink.recorded settings directives threading schedule
    let frames := frames rasterizer.recorded sink.recorded settings directives threading schedule
    let First := fun animation c => Check.order.find?
      (Check.fails rasterizer settings threading animation studio.rasterizer.1) = some c
    (∀ e, Animation.ofDirectives directives = .error e → scene.run studio = (.error e, studio)) ∧
      ∀ animation c, First animation c → ∃ u, Unbegun rasterizer studio u ∧
        (frames animation).run studio = (.error (c.fault animation), u) ∧
        (Animation.ofDirectives directives = .ok animation →
          scene.run studio = (.error (c.fault animation), u)) := by
  intro scene frames First
  refine ⟨fun e => run_scene_of_error, fun animation c hfirst => ?_⟩
  have hrecorded : Check.order.find? (Check.fails rasterizer.recorded settings threading animation
      studio.rasterizer) = some c := by
    rw [Check.fails_recorded]
    exact hfirst
  obtain ⟨s, hs, hframes⟩ := run_frames_of_check hrecorded
  refine ⟨_, ?_, hframes, fun hresolved => run_scene_of_frames hresolved hframes⟩
  rcases hs with rfl | rfl
  · exact ⟨rfl, rfl, rfl, .inl rfl⟩
  · exact ⟨rfl, rfl, rfl, .inr rfl⟩

/-- The rasterizer that has no workers. -/
def alone : Rasterizer Unit := { Rasterizer.idle with fork := fun s => (none, s) }

/-- A `vary` before the frames it needs, and a `pop` without a `push`. -/
def unready : List Directive := [.vary ⟨⟨0, 1, 0, 1⟩, "late"⟩, .frames 2, .pop]

theorem unready_stops :
    let studio : Studio (Unit × List Rasterizer.Call) (Unit × List Sink.Call) :=
      ⟨.empty, ((), []), ((), [])⟩
    let rendered (settings : Settings) (directives : List Directive) :=
      (scene alone.recorded Sink.silent.recorded settings directives ⟨true, 64, some 0⟩
        .together).run studio
    rendered { Settings.standard with step := 0 } unready =
        (.error (.varyBeforeFrames 0 "late"), studio) ∧
      (∃ u, Unbegun alone studio u ∧ rendered { Settings.standard with step := 0 } unready.tail =
        (.error .zeroStep, u)) ∧
      ∃ u, Unbegun alone studio u ∧ rendered .standard unready.tail = (.error .noForking, u) := by
  intro studio rendered
  have hresolved : Animation.ofDirectives unready.tail =
      .ok ⟨⟨"default", true, 2⟩, KnobTable.blank 2⟩ := rfl
  have hchecks := fun settings directives => checks_come_first alone Sink.silent settings
    directives ⟨true, 64, some 0⟩ .together studio
  refine ⟨(hchecks _ unready).1 _ rfl, ?_, ?_⟩
  · obtain ⟨u, hu, _, hscene⟩ := (hchecks { Settings.standard with step := 0 }
      unready.tail).2
      ⟨⟨"default", true, 2⟩, KnobTable.blank 2⟩ .step rfl
    exact ⟨u, hu, hscene hresolved⟩
  · obtain ⟨u, hu, _, hscene⟩ := (hchecks .standard unready.tail).2
      ⟨⟨"default", true, 2⟩, KnobTable.blank 2⟩ .forking rfl
    exact ⟨u, hu, hscene hresolved⟩

end Render
end SceneScript
