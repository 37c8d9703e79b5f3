import SceneScript.Proofs.ActionLaws
import SceneScript.Render

/-! # Records of calls

A sink and a rasterizer are known to a render only by the calls it makes.  `Sink.recorded` and
`Rasterizer.recorded` are the same sink and the same rasterizer with a record beside their state:
every call is noted with its arguments when it is made, whether it then succeeds or not.

`Action.RecordedBy note a b` says that `b` answers what `a` answers, leaves the state that `a`
leaves, and at most adds to the record, where `note` says how a record stands beside a state.
`Frame.run_recordedBy` says so of the run of a frame and `Render.frames_recordedBy` of a whole
render.  A statement about the record of a recorded collaborator is therefore one about the calls
the collaborator receives. -/

namespace SceneScript

variable {σ ρ τ α β κ : Type}

namespace Action

/-- Note a call, then make it. -/
def noting (call : κ) (a : Action σ α) : Action (σ × List κ) α := fun s =>
  ((a.run s.1).1, ((a.run s.1).2, s.2 ++ [call]))

/-- The second action does what the first does, and at most adds to a record. -/
def RecordedBy (note : σ → List κ → ρ) (a : Action σ α) (b : Action ρ α) : Prop :=
  ∀ s calls, ∃ more, b.run (note s calls) = ((a.run s).1, note (a.run s).2 (calls ++ more))

theorem recordedBy_noting (call : κ) (a : Action σ α) : a.RecordedBy Prod.mk (a.noting call) :=
  fun _ _ => ⟨[call], rfl⟩

variable {note : σ → List κ → ρ}

theorem recordedBy_ofExcept (r : Except Fault α) :
    (ofExcept r : Action σ α).RecordedBy note (ofExcept r) :=
  fun s calls => ⟨[], by simp⟩

theorem recordedBy_pure (v : α) : (pure v : Action σ α).RecordedBy note (pure v) :=
  recordedBy_ofExcept (.ok v)

theorem recordedBy_fail (e : Fault) : (fail e : Action σ α).RecordedBy note (fail e) :=
  recordedBy_ofExcept (.error e)

theorem recordedBy_inspect {f : σ → α} {g : ρ → α} (h : ∀ s calls, g (note s calls) = f s) :
    (inspect f).RecordedBy note (inspect g) :=
  fun s calls => ⟨[], by rw [run_inspect, run_inspect, h, List.append_nil]⟩

theorem RecordedBy.bind {a : Action σ α} {a' : Action ρ α} {f : α → Action σ β}
    {f' : α → Action ρ β} (h : a.RecordedBy note a') (hf : ∀ v, (f v).RecordedBy note (f' v)) :
    (a >>= f).RecordedBy note (a' >>= f') := by
  intro s calls
  obtain ⟨more, e⟩ := h s calls
  rw [run_bind, run_bind, e]
  rcases a.run s with ⟨_ | v, t⟩
  · exact ⟨more, rfl⟩
  · obtain ⟨rest, e'⟩ := hf v t (calls ++ more)
    exact ⟨more ++ rest, by rw [← List.append_assoc]; exact e'⟩

/-- What succeeds with a record succeeds without one. -/
theorem RecordedBy.of_ok {a : Action σ α} {b : Action ρ α} (h : a.RecordedBy note b) {s : σ}
    {calls : List κ} {v : α} {u : ρ} (hok : b.run (note s calls) = (.ok v, u)) :
    ∃ t more, a.run s = (.ok v, t) ∧ note t (calls ++ more) = u := by
  obtain ⟨more, e⟩ := h s calls
  rw [hok] at e
  obtain ⟨hv, hu⟩ := Prod.mk.inj e
  exact ⟨(a.run s).2, more, Prod.ext hv.symm rfl, hu.symm⟩

theorem recordedBy_foldlM {f : β → α → Action σ β} {f' : β → α → Action ρ β}
    (h : ∀ b x, (f b x).RecordedBy note (f' b x)) :
    ∀ (xs : List α) (b : β), (xs.foldlM f b).RecordedBy note (xs.foldlM f' b)
  | [], b => recordedBy_pure b
  | x :: xs, b => (h b x).bind fun c => recordedBy_foldlM h xs c

theorem recordedBy_forM {f : α → Action σ PUnit} {f' : α → Action ρ PUnit}
    (h : ∀ x, (f x).RecordedBy note (f' x)) :
    ∀ xs : List α, (xs.forM f).RecordedBy note (xs.forM f')
  | [] => recordedBy_pure _
  | x :: xs => (h x).bind fun _ => recordedBy_forM h xs

end Action

/-! ### Sinks -/

namespace Sink

/-- A call that a sink receives. -/
inductive Call where
  | display (surface : Surface)
  | store (surface : Surface) (name : String)
  | join (basename : String)
deriving Repr, Inhabited

/-- Make a call. -/
def perform (sink : Sink τ) : Call → Action τ Unit
  | .display surface => sink.display surface
  | .store surface name => sink.store surface name
  | .join basename => sink.join basename

/-- The state of a sink after calls. -/
def after (sink : Sink τ) (t : τ) (calls : List Call) : τ :=
  calls.foldl (fun t call => ((sink.perform call).run t).2) t

/-- The sink with a record of its calls. -/
def recorded (sink : Sink τ) : Sink (τ × List Call) where
  display surface := (sink.display surface).noting (.display surface)
  store surface name := (sink.store surface name).noting (.store surface name)
  join basename := (sink.join basename).noting (.join basename)
  nameFrame t := sink.nameFrame t.1

/-- The sink that shows nothing, stores nothing and joins nothing. -/
def silent : Sink Unit where
  display _ := pure ()
  store _ _ := pure ()
  join _ := pure ()

end Sink

/-! ### Rasterizers -/

namespace Rasterizer

/-- A call that a rasterizer receives. -/
inductive Call where
  | box (corner size : Vec3 Float)
  | sphere (center : Vec3 Float) (radius : Float) (step : UInt32)
  | torus (center : Vec3 Float) (minorRadius majorRadius : Float) (step : UInt32)
  | line (p0 p1 : Vec3 Float)
  | drawTriangles (triangles : Triangles) (surface : Surface) (shading : Shading)
  | drawSegments (segments : Segments) (surface : Surface) (color : Rgb)
deriving Repr, Inhabited

/-- The rasterizer with a record of its calls; a new one begins with an empty record. -/
def recorded (r : Rasterizer σ) : Rasterizer (σ × List Call) where
  box corner size := (r.box corner size).noting (.box corner size)
  sphere center radius step := (r.sphere center radius step).noting (.sphere center radius step)
  torus center minorRadius majorRadius step :=
    (r.torus center minorRadius majorRadius step).noting
      (.torus center minorRadius majorRadius step)
  line p0 p1 := (r.line p0 p1).noting (.line p0 p1)
  drawTriangles triangles surface shading :=
    (r.drawTriangles triangles surface shading).noting (.drawTriangles triangles surface shading)
  drawSegments segments surface color :=
    (r.drawSegments segments surface color).noting (.drawSegments segments surface color)
  fork s := ((r.fork s.1).1.map fun worker => (worker, []), ((r.fork s.1).2, s.2))

/-- The rasterizer that divides shapes into nothing and draws nothing. -/
def idle : Rasterizer Unit where
  box _ _ := pure ⟨[]⟩
  sphere _ _ _ := pure ⟨[]⟩
  torus _ _ _ _ := pure ⟨[]⟩
  drawTriangles _ surface _ := pure surface
  drawSegments _ surface _ := pure surface
  fork s := (some s, s)

end Rasterizer

namespace Frame

open SceneScript.Action

variable (rasterizer : Rasterizer σ) (settings : Settings) (symbols : SymbolTable)

theorem divide_recordedBy (step : UInt32) (shape : Shape) :
    (divide rasterizer step shape).RecordedBy Prod.mk (divide rasterizer.recorded step shape) := by
  cases shape <;> exact recordedBy_noting _ _

theorem drawShape_recordedBy (m : Mat4 Float) (shape : Shape) (r : Reflectance)
    (surface : Surface) :
    (drawShape rasterizer settings m shape r surface).RecordedBy Prod.mk
      (drawShape rasterizer.recorded settings m shape r surface) :=
  (divide_recordedBy rasterizer settings.step shape).bind fun _ => recordedBy_noting _ _

theorem drawLine_recordedBy (m : Mat4 Float) (p0 p1 : Vec3 Float) (surface : Surface) :
    (drawLine rasterizer settings m p0 p1 surface).RecordedBy Prod.mk
      (drawLine rasterizer.recorded settings m p0 p1 surface) :=
  (recordedBy_noting _ _).bind fun _ => recordedBy_noting _ _

theorem step_recordedBy (number index : Nat) (d : Directive) (p : Progress) :
    (step rasterizer settings symbols number index d p).RecordedBy Prod.mk
      (step rasterizer.recorded settings symbols number index d p) := by
  cases d with
  | shape shape constants coords =>
      exact (recordedBy_ofExcept _).bind fun r =>
        (drawShape_recordedBy rasterizer settings p.stack.top shape r p.surface).bind fun _ =>
          recordedBy_pure _
  | line constants p0 coords0 p1 coords1 =>
      exact (recordedBy_ofExcept _).bind fun _ =>
        (drawLine_recordedBy rasterizer settings p.stack.top p0 p1 p.surface).bind fun _ =>
          recordedBy_pure _
  | motion m knob => exact (recordedBy_ofExcept _).bind fun _ => recordedBy_pure _
  | pop =>
      unfold step
      dsimp only
      split
      · exact recordedBy_pure _
      · exact recordedBy_fail _
  | _ => exact recordedBy_pure _

theorem steps_recordedBy (number : Nat) :
    ∀ (index : Nat) (directives : List Directive) (p : Progress),
      (steps rasterizer settings symbols number index directives p).RecordedBy Prod.mk
        (steps rasterizer.recorded settings symbols number index directives p)
  | _, [], _ => recordedBy_pure _
  | index, d :: directives, p =>
      (step_recordedBy rasterizer settings symbols number index d p).bind fun q =>
        steps_recordedBy number (index + 1) directives q

/-- Running a frame with a recorded rasterizer is running it with the rasterizer itself. -/
theorem run_recordedBy (directives : List Directive) (number : Nat) :
    (run rasterizer settings directives number symbols).RecordedBy Prod.mk
      (run rasterizer.recorded settings directives number symbols) :=
  (steps_recordedBy rasterizer settings symbols number 0 directives _).bind fun _ =>
    recordedBy_pure _

end Frame

/-! ### Renders -/

/-- A studio with a record of the calls to its sink. -/
def Studio.noting (st : Studio σ τ) (calls : List Sink.Call) : Studio σ (τ × List Sink.Call) :=
  ⟨st.symbols, st.rasterizer, (st.sink, calls)⟩

namespace Render

open SceneScript.Action

variable (rasterizer : Rasterizer σ) (sink : Sink τ) (settings : Settings)
  (directives : List Directive) (animation : Animation) (threading : Threading)
  (schedule : Schedule)

theorem onSymbols_recordedBy (a : Action SymbolTable α) :
    (onSymbols a : Action (Studio σ τ) α).RecordedBy Studio.noting (onSymbols a) :=
  fun st calls => ⟨[], by rw [List.append_nil]; rfl⟩

theorem onRasterizer_recordedBy (a : Action σ α) :
    (onRasterizer a : Action (Studio σ τ) α).RecordedBy Studio.noting (onRasterizer a) :=
  fun st calls => ⟨[], by rw [List.append_nil]; rfl⟩

theorem onSink_recordedBy {a : Action τ α} {b : Action (τ × List Sink.Call) α}
    (h : a.RecordedBy Prod.mk b) :
    (onSink a : Action (Studio σ τ) α).RecordedBy Studio.noting (onSink b) := by
  intro st calls
  obtain ⟨more, e⟩ := h st.sink calls
  exact ⟨more, by rw [onSink, run_within]; simp only [Studio.noting, e]; rfl⟩

theorem storeFrame_recordedBy (basename : String) (f : Frame) :
    (storeFrame sink basename f).RecordedBy Prod.mk (storeFrame sink.recorded basename f) :=
  RecordedBy.bind (recordedBy_inspect fun _ _ => rfl) fun _ => recordedBy_noting _ _

theorem deliver_recordedBy (timeline : Timeline) (stats : Stats) (f : Frame) :
    (deliver sink timeline stats f).RecordedBy Prod.mk
      (deliver sink.recorded timeline stats f) := by
  refine (recordedBy_forM (fun r => ?_) f.requests).bind fun _ => ?_
  · cases r <;> exact recordedBy_noting _ _
  · dsimp only
    split
    · exact (storeFrame_recordedBy sink timeline.basename f).bind fun _ => recordedBy_pure _
    · exact recordedBy_pure _

theorem frame_recordedBy (stats : Stats) (number : Nat) :
    (frame rasterizer sink settings directives animation stats number).RecordedBy Studio.noting
      (frame rasterizer sink.recorded settings directives animation stats number) :=
  (onSymbols_recordedBy _).bind fun _ =>
    RecordedBy.bind (recordedBy_inspect fun _ _ => rfl) fun _ =>
      (onRasterizer_recordedBy _).bind fun f =>
        onSink_recordedBy (deliver_recordedBy sink animation.timeline stats f)

theorem chunk_recordedBy (stats : Stats) (c : Chunk) :
    (chunk rasterizer sink settings directives animation schedule stats c).RecordedBy
      Studio.noting
      (chunk rasterizer sink.recorded settings directives animation schedule stats c) :=
  (onSymbols_recordedBy _).bind fun _ => (onRasterizer_recordedBy _).bind fun outcomes =>
    onSink_recordedBy <| recordedBy_foldlM (fun stats outcome =>
      (recordedBy_ofExcept outcome).bind fun f =>
        deliver_recordedBy sink animation.timeline stats f) outcomes stats

theorem parallel_recordedBy :
    (parallel rasterizer sink settings directives animation threading schedule).RecordedBy
      Studio.noting
      (parallel rasterizer sink.recorded settings directives animation threading schedule) :=
  (onRasterizer_recordedBy _).bind fun _ => (recordedBy_ofExcept _).bind fun _ =>
    recordedBy_foldlM (chunk_recordedBy rasterizer sink settings directives animation schedule) _ _

theorem sequential_recordedBy :
    (sequential rasterizer sink settings directives animation).RecordedBy Studio.noting
      (sequential rasterizer sink.recorded settings directives animation) :=
  recordedBy_foldlM (frame_recordedBy rasterizer sink settings directives animation) _ _

/-- A render into a recorded sink is the render into the sink itself. -/
theorem frames_recordedBy :
    (frames rasterizer sink settings directives threading schedule animation).RecordedBy
      Studio.noting
      (frames rasterizer sink.recorded settings directives threading schedule animation) := by
  have finished : ∀ stats : Stats, Action.RecordedBy Studio.noting
      (do
        if animation.timeline.animated then onSink (sink.join animation.timeline.basename)
        return stats : Action (Studio σ τ) Stats)
      (do
        if animation.timeline.animated then
          onSink (sink.recorded.join animation.timeline.basename)
        return stats) := by
    intro stats
    dsimp only
    split
    · exact (onSink_recordedBy (recordedBy_noting _ _)).bind fun _ => recordedBy_pure _
    · exact recordedBy_pure _
  refine (recordedBy_ofExcept _).bind fun _ => (recordedBy_ofExcept _).bind fun _ => ?_
  dsimp only
  split
  · exact (parallel_recordedBy rasterizer sink settings directives animation threading
      schedule).bind finished
  · exact (sequential_recordedBy rasterizer sink settings directives animation).bind finished

end Render

end SceneScript
