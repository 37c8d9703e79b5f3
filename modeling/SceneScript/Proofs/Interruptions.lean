import SceneScript.Proofs.RunReports
import SceneScript.Proofs.SinkTrace

/-! # Renders that are interrupted

What a sink has received when a render fails, with workers or without.  Frames are delivered in
order and only as wholes, until one of them cannot be: `Render.Delivered` says that the first frames
have been delivered and nothing else has reached the sink, and `Render.Interrupted` how the calls
end behind them.  Either there are no more calls, or the last of them was refused, and it is a call
of the next frame or the one that joins all frames.

The frames that are delivered are those that were run to their end (`Render.Completed`), so a frame
that fails delivers nothing, and neither does a frame behind it that a worker has already finished
(`Render.calls_of_failing_render`). -/

namespace SceneScript
namespace Render

open SceneScript.Action

variable {σ τ : Type}

/-! ### Deliveries -/

/-- The calls that deliver a frame. -/
def deliveryOf (sink : Sink τ) (timeline : Timeline) (t : τ) (f : Frame) : List Sink.Call :=
  delivery sink timeline t f.number f.requests f.surface

/-- The calls that deliver frames one after the other. -/
def deliveries (sink : Sink τ) (timeline : Timeline) : τ → List Frame → List Sink.Call
  | _, [] => []
  | t, f :: fs =>
    deliveryOf sink timeline t f ++
      deliveries sink timeline (sink.after t (deliveryOf sink timeline t f)) fs

theorem deliveries_concat (sink : Sink τ) (timeline : Timeline) (t : τ) (fs : List Frame)
    (f : Frame) :
    deliveries sink timeline t (fs ++ [f]) =
      deliveries sink timeline t fs ++
        deliveryOf sink timeline (sink.after t (deliveries sink timeline t fs)) f := by
  induction fs generalizing t with
  | nil => exact List.append_nil _
  | cons g fs ih =>
      rw [List.cons_append, deliveries, deliveries, ih, Sink.after_append, List.append_assoc]

/-- Delivering a frame does not join anything. -/
theorem join_not_mem_deliveryOf (sink : Sink τ) (timeline : Timeline) (t : τ) (f : Frame)
    (basename : String) : .join basename ∉ deliveryOf sink timeline t f := by
  intro h
  rcases List.mem_append.mp h with h | h
  · obtain ⟨r, _, hr⟩ := List.mem_map.mp h
    cases r <;> cases hr
  · split at h
    · cases List.mem_singleton.mp h
    · cases h

theorem join_not_mem_deliveries (sink : Sink τ) (timeline : Timeline) (t : τ) (fs : List Frame)
    (basename : String) : .join basename ∉ deliveries sink timeline t fs := by
  induction fs generalizing t with
  | nil => exact List.not_mem_nil
  | cons f fs ih =>
      intro h
      rcases List.mem_append.mp h with h | h
      · exact join_not_mem_deliveryOf sink timeline t f basename h
      · exact ih _ h

section

variable (rasterizer : Rasterizer σ) (sink : Sink τ) (settings : Settings)
  (directives : List Directive) (animation : Animation) (threading : Threading)
  (schedule : Schedule) (studio : Studio σ τ)

/-- A render has run the frame with a number to its end: the frame has a request for each `display`
and `save` in source order, with the surface as it stood there, and its final surface. -/
def Completed (number : Nat) (f : Frame) : Prop :=
  ∃ symbols w, Runs rasterizer sink settings directives animation threading schedule studio number
      symbols (.ok f) ∧
    f = ⟨number, Frame.finalSurface rasterizer settings symbols number directives w,
      Frame.requested rasterizer settings symbols number directives w⟩

/-- The state of the sink after frames have been delivered. -/
def sinkAfter (fs : List Frame) : τ :=
  sink.after studio.sink (deliveries sink animation.timeline studio.sink fs)

/-- The first frames of a render have been delivered in full, and the sink has received nothing
else. -/
structure Delivered (fs : List Frame) (u : τ × List Sink.Call) : Prop where
  completed : ∀ number f, fs[number]? = some f →
    Completed rasterizer sink settings directives animation threading schedule studio number f
  accepted : sink.Accepts studio.sink (deliveries sink animation.timeline studio.sink fs)
  received : u = (sinkAfter sink animation studio fs,
    deliveries sink animation.timeline studio.sink fs)

/-- The last calls of a render that fails after it has delivered frames. -/
inductive Interrupted (e : Fault) (fs : List Frame) : List Sink.Call → Prop
  /-- Nothing of the next frame has been delivered. -/
  | between (next : fs.length < animation.timeline.frameCount.toNat ∨ fs = []) :
      Interrupted e fs []
  /-- The next frame has been run to its end, and one of its calls was refused. -/
  | within {f : Frame} {part : List Sink.Call}
      (next : fs.length < animation.timeline.frameCount.toNat)
      (completed : Completed rasterizer sink settings directives animation threading schedule studio
        fs.length f)
      (begun : part <+: deliveryOf sink animation.timeline (sinkAfter sink animation studio fs) f)
      (refused : sink.Refuses (sinkAfter sink animation studio fs) part e) :
      Interrupted e fs part
  /-- All frames have been delivered, and joining them was refused. -/
  | joining (all : fs.length = animation.timeline.frameCount.toNat)
      (animated : animation.timeline.animated = true)
      (refused : sink.Refuses (sinkAfter sink animation studio fs)
        [.join animation.timeline.basename] e) :
      Interrupted e fs [.join animation.timeline.basename]

/-- A render that fails has delivered frames, and was then interrupted. -/
def Stopped (e : Fault) (calls : List Sink.Call) : Prop :=
  ∃ fs rest,
    (∀ number f, fs[number]? = some f →
      Completed rasterizer sink settings directives animation threading schedule studio number f) ∧
    sink.Accepts studio.sink (deliveries sink animation.timeline studio.sink fs) ∧
    calls = deliveries sink animation.timeline studio.sink fs ++ rest ∧
    Interrupted rasterizer sink settings directives animation threading schedule studio e fs rest

variable {rasterizer sink settings directives animation threading schedule studio}

theorem completed_of_runs {number : Nat} {symbols : SymbolTable} {f : Frame}
    (h : Runs rasterizer sink.recorded settings directives animation threading schedule
      (studio.noting []) number symbols (.ok f)) :
    Completed rasterizer sink settings directives animation threading schedule studio number f := by
  have hruns := runs_of_recorded h
  obtain ⟨_, _, hreport⟩ := carried_of_runs hruns
  rcases hreport with hstopped | ⟨w, hw⟩
  · cases hstopped
  · have hrun : (Frame.run rasterizer settings directives number symbols).run w = (.ok f, _) :=
      Prod.ext hw.symm rfl
    refine ⟨symbols, w, hruns, ?_⟩
    rw [← Frame.requests_of_run hrun, Frame.finalSurface_of_run hrun,
      ← Frame.number_of_run hrun]

/-! ### Delivering one more frame -/

theorem delivered_nil : Delivered rasterizer sink settings directives animation threading schedule
    studio [] (studio.noting []).sink where
  completed _ _ h := by cases h
  accepted := trivial
  received := rfl

theorem Delivered.stopped {fs : List Frame} {u : τ × List Sink.Call} {e : Fault}
    (h : Delivered rasterizer sink settings directives animation threading schedule studio fs u)
    (next : fs.length < animation.timeline.frameCount.toNat ∨ fs = []) :
    Stopped rasterizer sink settings directives animation threading schedule studio e u.2 := by
  refine ⟨fs, [], h.completed, h.accepted, ?_, .between next⟩
  rw [h.received, List.append_nil]

/-- A render that fails before the sink is called has delivered nothing. -/
theorem stopped_of_untouched {e : Fault} {u : Studio σ (τ × List Sink.Call)}
    (h : u.sink = (studio.noting []).sink) :
    Stopped rasterizer sink settings directives animation threading schedule studio e
      u.sink.2 := by
  rw [h]
  exact delivered_nil.stopped (.inr rfl)

/-- A frame that is delivered is one more. -/
theorem Delivered.concat {fs : List Frame} {f : Frame} {u v : τ × List Sink.Call}
    {stats stats' : Stats}
    (h : Delivered rasterizer sink settings directives animation threading schedule studio fs u)
    (completed : Completed rasterizer sink settings directives animation threading schedule studio
      fs.length f)
    (hrun : (deliver sink.recorded animation.timeline stats f).run u = (.ok stats', v)) :
    Delivered rasterizer sink settings directives animation threading schedule studio (fs ++ [f])
      v := by
  rw [h.received] at hrun
  obtain ⟨rfl, haccepted⟩ := (makes_deliver sink _ _ stats f).accepted _ _ _ hrun
  have hcalls := deliveries_concat sink animation.timeline studio.sink fs f
  constructor
  · intro number g hg
    rcases Nat.lt_trichotomy number fs.length with hlt | rfl | hgt
    · rw [List.getElem?_append_left hlt] at hg
      exact h.completed number g hg
    · rw [List.getElem?_concat_length] at hg
      rw [← Option.some.inj hg]
      exact completed
    · rw [List.getElem?_eq_none (by rw [List.length_append]; exact hgt)] at hg
      cases hg
  · rw [hcalls]
    exact Sink.accepts_append_iff.mpr ⟨h.accepted, haccepted⟩
  · have hafter : sinkAfter sink animation studio (fs ++ [f]) =
        sink.after (sinkAfter sink animation studio fs)
          (deliveryOf sink animation.timeline (sinkAfter sink animation studio fs) f) := by
      rw [sinkAfter, hcalls, Sink.after_append]
      rfl
    rw [hafter, hcalls]
    rfl

/-- A frame that cannot be delivered interrupts the render. -/
theorem Delivered.stopped_of_deliver {fs : List Frame} {f : Frame} {u v : τ × List Sink.Call}
    {stats : Stats} {e : Fault}
    (h : Delivered rasterizer sink settings directives animation threading schedule studio fs u)
    (next : fs.length < animation.timeline.frameCount.toNat)
    (completed : Completed rasterizer sink settings directives animation threading schedule studio
      fs.length f)
    (hrun : (deliver sink.recorded animation.timeline stats f).run u = (.error e, v)) :
    Stopped rasterizer sink settings directives animation threading schedule studio e v.2 := by
  rw [h.received] at hrun
  obtain ⟨made, hmade, rfl, hrefused⟩ := (makes_deliver sink _ _ stats f).refused _ _ _ hrun
  exact ⟨fs, made, h.completed, h.accepted, rfl, .within next completed hmade hrefused⟩

/-! ### One frame after the other -/

theorem completed_of_alone (sequential : threading.parallel = false) {number : Nat}
    (within : number < animation.timeline.frameCount.toNat) {stats : Stats}
    {st : Studio σ (τ × List Sink.Call)}
    (before : (framesBefore rasterizer sink.recorded settings directives animation number).run
      (studio.noting []) = (.ok stats, st)) {symbols : SymbolTable}
    (row : (writeRow animation.table number).run st.symbols = (.ok (), symbols)) {f : Frame}
    (outcome : ((Frame.run rasterizer settings directives number symbols).run
      st.rasterizer).1 = .ok f) :
    Completed rasterizer sink settings directives animation threading schedule studio
      number f := by
  apply completed_of_runs
  rw [← outcome]
  exact .alone sequential within before row

/-- Where frames that are taken one after the other have succeeded, they have been delivered. -/
theorem delivered_of_framesBefore (sequential : threading.parallel = false) {count : Nat}
    (hcount : count ≤ animation.timeline.frameCount.toNat) {stats : Stats}
    {st : Studio σ (τ × List Sink.Call)}
    (h : (framesBefore rasterizer sink.recorded settings directives animation count).run
      (studio.noting []) = (.ok stats, st)) :
    ∃ fs, fs.length = count ∧
      Delivered rasterizer sink settings directives animation threading schedule studio fs
        st.sink := by
  induction count generalizing stats st with
  | zero =>
      obtain ⟨_, rfl⟩ := pure_eq_ok_iff.mp h
      exact ⟨[], rfl, delivered_nil⟩
  | succ count ih =>
      rw [framesBefore, List.range_succ, foldlM_append_eq_ok_iff] at h
      obtain ⟨stats₁, st₁, hbefore, hlast⟩ := h
      rw [List.foldlM_cons] at hlast
      simp only [List.foldlM_nil, bind_pure] at hlast
      obtain ⟨f, hrow, hrun, hdeliver⟩ := frame_eq_ok_iff.mp hlast
      obtain ⟨fs, hlength, hfs⟩ := ih (Nat.le_of_succ_le hcount) hbefore
      have hcompleted : Completed rasterizer sink settings directives animation threading schedule
          studio count f :=
        completed_of_alone sequential hcount hbefore hrow (congrArg Prod.fst hrun)
      rw [← hlength] at hcompleted
      exact ⟨fs ++ [f], by rw [List.length_append, hlength]; rfl,
        hfs.concat hcompleted hdeliver⟩

/-- A frame fails before it calls the sink, or when it is delivered. -/
theorem fault_of_frame {number : Nat} {stats : Stats} {st u : Studio σ τ} {e : Fault}
    (h : (frame rasterizer sink settings directives animation stats number).run st =
      (.error e, u)) :
    u.sink = st.sink ∨
      ∃ symbols f, (writeRow animation.table number).run st.symbols = (.ok (), symbols) ∧
        ((Frame.run rasterizer settings directives number symbols).run st.rasterizer).1 = .ok f ∧
        (deliver sink animation.timeline stats f).run st.sink = (.error e, u.sink) := by
  rw [frame, bind_eq_error_iff] at h
  rcases h with hrow | ⟨_, st₁, hrow, h⟩
  · exact .inl (onSymbols_eq_iff.mp hrow).2.2
  obtain ⟨hrow, hr₁, hs₁⟩ := onSymbols_eq_iff.mp hrow
  rcases bind_eq_error_iff.mp h with hsymbols | ⟨symbols, _, hsymbols, h⟩
  · cases hsymbols
  obtain ⟨hvalue, rfl⟩ := Prod.mk.inj hsymbols
  obtain rfl := Except.ok.inj hvalue
  rcases bind_eq_error_iff.mp h with hrun | ⟨f, st₂, hrun, h⟩
  · exact .inl ((onRasterizer_eq_iff.mp hrun).2.2.trans hs₁)
  obtain ⟨hrun, _, hs₂⟩ := onRasterizer_eq_iff.mp hrun
  obtain ⟨hdeliver, _, _⟩ := onSink_eq_iff.mp h
  refine .inr ⟨st₁.symbols, f, hrow, ?_, ?_⟩
  · rw [← hr₁, hrun]
  · rw [← hs₁, ← hs₂]
    exact hdeliver

theorem stopped_of_sequential (sequential : threading.parallel = false) {e : Fault}
    {u : Studio σ (τ × List Sink.Call)}
    (h : (Render.sequential rasterizer sink.recorded settings directives animation).run
      (studio.noting []) = (.error e, u)) :
    Stopped rasterizer sink settings directives animation threading schedule studio e
      u.sink.2 := by
  obtain ⟨front, number, back, stats, st, hsplit, hbefore, hframe⟩ := exists_of_foldlM_eq_error h
  obtain ⟨rfl, hlt⟩ := Chunk.front_eq_range hsplit
  obtain ⟨fs, hfs, hdelivered⟩ :=
    delivered_of_framesBefore sequential (Nat.le_of_lt hlt) hbefore
  rcases fault_of_frame hframe with hsink | ⟨symbols, f, hrow, hrun, hdeliver⟩
  · rw [hsink]
    exact hdelivered.stopped (.inl (hfs ▸ hlt))
  · have hcompleted : Completed rasterizer sink settings directives animation threading schedule
        studio number f := completed_of_alone sequential hlt hbefore hrow hrun
    rw [← hfs] at hcompleted
    exact hdelivered.stopped_of_deliver (hfs ▸ hlt) hcompleted hdeliver

/-! ### Chunk by chunk -/

/-- Outcomes are delivered in order, up to the first that is a fault or that is refused. -/
theorem delivered_of_deliverAll {fs : List Frame} {outcomes : List (Except Fault Frame)}
    {stats : Stats} {u : τ × List Sink.Call}
    (h : Delivered rasterizer sink settings directives animation threading schedule studio fs u)
    (within : fs.length + outcomes.length ≤ animation.timeline.frameCount.toNat)
    (reports : List.Forall₂ (fun number r => ∃ symbols, Runs rasterizer sink.recorded settings
      directives animation threading schedule (studio.noting []) number symbols r)
        (List.range' fs.length outcomes.length) outcomes) :
    (∀ stats' v,
        (deliverAll sink.recorded animation.timeline stats outcomes).run u = (.ok stats', v) →
        ∃ gs, gs.length = fs.length + outcomes.length ∧
          Delivered rasterizer sink settings directives animation threading schedule studio gs v) ∧
      ∀ e v, (deliverAll sink.recorded animation.timeline stats outcomes).run u = (.error e, v) →
        Stopped rasterizer sink settings directives animation threading schedule studio e v.2 := by
  induction outcomes generalizing fs stats u with
  | nil =>
      refine ⟨fun stats' v hrun => ?_, fun e v hrun => by cases hrun⟩
      obtain ⟨_, rfl⟩ := pure_eq_ok_iff.mp hrun
      exact ⟨fs, rfl, h⟩
  | cons r outcomes ih =>
      rw [List.length_cons] at within reports
      rw [List.range'_succ, List.forall₂_cons] at reports
      obtain ⟨⟨symbols, hruns⟩, reports⟩ := reports
      have next : fs.length < animation.timeline.frameCount.toNat := by omega
      cases r with
      | error e =>
          refine ⟨fun stats' v hrun => (by cases hrun), fun e' v hrun => ?_⟩
          obtain ⟨_, rfl⟩ := Prod.mk.inj hrun
          exact h.stopped (.inl next)
      | ok f =>
          have hcompleted := completed_of_runs hruns
          have hlength : (fs ++ [f]).length = fs.length + 1 := by
            rw [List.length_append, List.length_singleton]
          -- The other outcomes are delivered behind this frame.
          have hothers : ∀ between w,
              (deliver sink.recorded animation.timeline stats f).run u = (.ok between, w) →
              (∀ stats' v, (deliverAll sink.recorded animation.timeline between outcomes).run w =
                  (.ok stats', v) →
                ∃ gs, gs.length = (fs ++ [f]).length + outcomes.length ∧ Delivered rasterizer sink
                  settings directives animation threading schedule studio gs v) ∧
              ∀ e v, (deliverAll sink.recorded animation.timeline between outcomes).run w =
                  (.error e, v) →
                Stopped rasterizer sink settings directives animation threading schedule studio e
                  v.2 :=
            fun between w hdeliver => ih (h.concat hcompleted hdeliver)
              (by rw [hlength]; omega) (by rw [hlength]; exact reports)
          constructor
          · intro stats' v hrun
            obtain ⟨between, w, hdeliver, hrest⟩ := foldlM_cons_eq_ok_iff.mp hrun
            obtain ⟨gs, hgs, hdelivered⟩ := (hothers between w hdeliver).1 stats' v hrest
            exact ⟨gs, by rw [hgs, hlength, List.length_cons]; omega, hdelivered⟩
          · intro e v hrun
            rcases bind_eq_error_iff.mp hrun with hdeliver | ⟨between, w, hdeliver, hrest⟩
            · exact h.stopped_of_deliver next hcompleted hdeliver
            · exact (hothers between w hdeliver).2 e v hrest

/-- What is reported of the frames of a chunk, counted on from those of the chunks before it. -/
theorem reports_of_chunk {front rest : List Chunk} {c : Chunk} {stats : Stats}
    {st : Studio σ (τ × List Sink.Call)} {jobs : List (Nat × SymbolTable)} {last : SymbolTable}
    {outcomes : List (Except Fault Frame)} {s : σ} (parallel : threading.parallel = true)
    (chunks : Chunk.all animation.timeline.frameCount threading.chunkSize = front ++ c :: rest)
    (before : (firstChunks rasterizer sink.recorded settings directives animation threading schedule
      front).run (studio.noting []) = (.ok stats, st))
    (rows : (snapshots animation.table c.frames).run st.symbols = (.ok jobs, last))
    (rendered : (renderChunk rasterizer settings directives schedule c jobs).run st.rasterizer =
      (.ok outcomes, s)) :
    (front.flatMap Chunk.frames).length + outcomes.length =
        ((front ++ [c]).flatMap Chunk.frames).length ∧
      (front.flatMap Chunk.frames).length + outcomes.length ≤
        animation.timeline.frameCount.toNat ∧
      List.Forall₂ (fun number r => ∃ symbols, Runs rasterizer sink.recorded settings
        directives animation threading schedule (studio.noting []) number symbols r)
          (List.range' (front.flatMap Chunk.frames).length outcomes.length) outcomes := by
  have reports := forall₂_runs_of_renderChunk parallel chunks before rows rendered
  have hlength : c.frames.length = outcomes.length := reports.length_eq
  have hfirst : (front.flatMap Chunk.frames).length = c.first.toNat := by
    rw [(Chunk.flatMap_frames_before chunks).1, List.length_range]
  refine ⟨?_, ?_, ?_⟩
  · rw [List.flatMap_append, List.flatMap_singleton, List.length_append, hlength]
  · rw [← hlength, c.length_frames]
    exact (Chunk.length_le_of_split chunks).2
  · rw [hfirst, ← hlength, c.length_frames]
    exact reports

/-- Where chunks have succeeded, their frames have been delivered. -/
theorem delivered_of_firstChunks (parallel : threading.parallel = true) {front rest : List Chunk}
    (chunks : Chunk.all animation.timeline.frameCount threading.chunkSize = front ++ rest)
    {stats : Stats} {st : Studio σ (τ × List Sink.Call)}
    (h : (firstChunks rasterizer sink.recorded settings directives animation threading schedule
      front).run (studio.noting []) = (.ok stats, st)) :
    ∃ fs, fs.length = (front.flatMap Chunk.frames).length ∧
      Delivered rasterizer sink settings directives animation threading schedule studio fs
        st.sink := by
  induction front using List.reverseRecOn generalizing rest stats st with
  | nil =>
      obtain ⟨_, st₁, hprobe, h⟩ := bind_eq_ok_iff.mp h
      obtain ⟨_, _, hvalid, hnone⟩ := bind_eq_ok_iff.mp h
      obtain ⟨_, rfl⟩ := ofExcept_eq_ok_iff.mp hvalid
      obtain ⟨_, rfl⟩ := pure_eq_ok_iff.mp hnone
      obtain ⟨_, _, hsink⟩ := onRasterizer_eq_iff.mp hprobe
      rw [hsink]
      exact ⟨[], rfl, delivered_nil⟩
  | append_singleton front c ih =>
      rw [firstChunks_concat, bind_eq_ok_iff] at h
      obtain ⟨between, st₁, hbefore, hchunk⟩ := h
      rw [List.append_assoc] at chunks
      obtain ⟨fs, hfs, hdelivered⟩ := ih chunks hbefore
      obtain ⟨jobs, outcomes, hrows, hrendered, hdeliver⟩ := chunk_eq_ok_iff.mp hchunk
      obtain ⟨hlength, hwithin, reports⟩ :=
        reports_of_chunk parallel chunks hbefore hrows hrendered
      rw [← hfs] at hlength hwithin reports
      obtain ⟨gs, hgs, hall⟩ :=
        (delivered_of_deliverAll hdelivered hwithin reports).1 stats st.sink hdeliver
      exact ⟨gs, hgs.trans hlength, hall⟩

/-- A chunk fails before it calls the sink, or when its outcomes are delivered. -/
theorem fault_of_chunk {c : Chunk} {stats : Stats} {st u : Studio σ τ} {e : Fault}
    (h : (chunk rasterizer sink settings directives animation schedule stats c).run st =
      (.error e, u)) :
    u.sink = st.sink ∨
      ∃ jobs last outcomes s, (snapshots animation.table c.frames).run st.symbols =
          (.ok jobs, last) ∧
        (renderChunk rasterizer settings directives schedule c jobs).run st.rasterizer =
          (.ok outcomes, s) ∧
        (deliverAll sink animation.timeline stats outcomes).run st.sink = (.error e, u.sink) := by
  rw [chunk, bind_eq_error_iff] at h
  rcases h with hrows | ⟨jobs, st₁, hrows, h⟩
  · exact .inl (onSymbols_eq_iff.mp hrows).2.2
  obtain ⟨hrows, hr₁, hs₁⟩ := onSymbols_eq_iff.mp hrows
  rcases bind_eq_error_iff.mp h with hrendered | ⟨outcomes, st₂, hrendered, h⟩
  · cases (onRasterizer_eq_iff.mp hrendered).1
  obtain ⟨hrendered, _, hs₂⟩ := onRasterizer_eq_iff.mp hrendered
  obtain ⟨hdeliver, _, _⟩ := onSink_eq_iff.mp h
  rw [hr₁] at hrendered
  rw [hs₂, hs₁] at hdeliver
  exact .inr ⟨jobs, _, outcomes, _, hrows, hrendered, hdeliver⟩

theorem stopped_of_parallel (parallel : threading.parallel = true) {e : Fault}
    {u : Studio σ (τ × List Sink.Call)}
    (h : (Render.parallel rasterizer sink.recorded settings directives animation threading
      schedule).run (studio.noting []) = (.error e, u)) :
    Stopped rasterizer sink settings directives animation threading schedule studio e
      u.sink.2 := by
  rw [Render.parallel, bind_eq_error_iff] at h
  rcases h with hprobe | ⟨_, st₁, hprobe, h⟩
  · exact stopped_of_untouched (onRasterizer_eq_iff.mp hprobe).2.2
  rcases bind_eq_error_iff.mp h with hvalid | ⟨_, st₂, hvalid, h⟩
  · obtain ⟨_, rfl⟩ := Prod.mk.inj hvalid
    exact stopped_of_untouched (onRasterizer_eq_iff.mp hprobe).2.2
  obtain ⟨front, c, rest, stats, st, chunks, hfront, hchunk⟩ := exists_of_foldlM_eq_error h
  have hbefore : (firstChunks rasterizer sink.recorded settings directives animation threading
      schedule front).run (studio.noting []) = (.ok stats, st) :=
    bind_eq_ok_iff.mpr ⟨_, _, hprobe, bind_eq_ok_iff.mpr ⟨_, _, hvalid, hfront⟩⟩
  obtain ⟨fs, hfs, hdelivered⟩ := delivered_of_firstChunks parallel chunks hbefore
  rcases fault_of_chunk hchunk with hsink | ⟨jobs, last, outcomes, s, hrows, hrendered, hdeliver⟩
  · rw [hsink]
    -- The frames of the chunk, of which there is one, come next.
    obtain ⟨hpos, hle⟩ := Chunk.length_le_of_split chunks
    exact hdelivered.stopped (.inl (by omega))
  · obtain ⟨_, hwithin, reports⟩ := reports_of_chunk parallel chunks hbefore hrows hrendered
    rw [← hfs] at hwithin reports
    exact (delivered_of_deliverAll hdelivered hwithin reports).2 e u.sink hdeliver

/-! ### Whole renders -/

/-- Where the frames of a render have succeeded, all of them have been delivered. -/
theorem delivered_of_body {stats : Stats} {st : Studio σ (τ × List Sink.Call)}
    (h : (body rasterizer sink.recorded settings directives animation threading schedule).run
      (studio.noting []) = (.ok stats, st)) :
    ∃ fs, fs.length = animation.timeline.frameCount.toNat ∧
      Delivered rasterizer sink settings directives animation threading schedule studio fs
        st.sink := by
  cases hmode : threading.parallel with
  | false =>
      rw [body, hmode] at h
      exact delivered_of_framesBefore hmode (Nat.le_refl _) h
  | true =>
      rw [body, hmode] at h
      have hall := Chunk.flatMap_frames_all animation.timeline.frameCount threading.chunkSize
      obtain ⟨fs, hfs, hdelivered⟩ :=
        delivered_of_firstChunks hmode (List.append_nil _).symm h
      rw [hall, List.length_range] at hfs
      exact ⟨fs, hfs, hdelivered⟩

theorem stopped_of_frames {e : Fault} {u : Studio σ (τ × List Sink.Call)}
    (h : (frames rasterizer sink.recorded settings directives threading schedule animation).run
      (studio.noting []) = (.error e, u)) :
    Stopped rasterizer sink settings directives animation threading schedule studio e
      u.sink.2 := by
  rw [frames_eq_phases, bind_eq_error_iff] at h
  rcases h with hvalid | ⟨_, _, hvalid, h⟩
  · obtain ⟨_, rfl⟩ := Prod.mk.inj hvalid
    exact stopped_of_untouched rfl
  obtain ⟨_, rfl⟩ := ofExcept_eq_ok_iff.mp hvalid
  rcases bind_eq_error_iff.mp h with hsize | ⟨_, _, hsize, h⟩
  · obtain ⟨_, rfl⟩ := Prod.mk.inj hsize
    exact stopped_of_untouched rfl
  obtain ⟨_, rfl⟩ := ofExcept_eq_ok_iff.mp hsize
  rcases bind_eq_error_iff.mp h with hbody | ⟨stats, st, hbody, h⟩
  · cases hmode : threading.parallel with
    | false =>
        rw [body, hmode] at hbody
        exact stopped_of_sequential hmode hbody
    | true =>
        rw [body, hmode] at hbody
        exact stopped_of_parallel hmode hbody
  obtain ⟨fs, hfs, hdelivered⟩ := delivered_of_body hbody
  rcases bind_eq_error_iff.mp h with hfinish | ⟨_, _, _, h⟩
  · -- Nothing but a join is left, so that is what was refused.
    obtain ⟨hfinish, _, _⟩ := onSink_eq_iff.mp hfinish
    rw [hdelivered.received] at hfinish
    obtain ⟨made, hmade, hu, hrefused⟩ := (makes_finish sink _ _).refused _ _ _ hfinish
    have hne := hrefused.ne_nil
    rw [hu]
    refine ⟨fs, made, hdelivered.completed, hdelivered.accepted, rfl, ?_⟩
    unfold finalCalls at hmade
    split at hmade
    case isTrue hanimated =>
        obtain rfl : made = [.join animation.timeline.basename] :=
          hmade.eq_of_length_le (List.length_pos_of_ne_nil hne)
        exact .joining hfs hanimated hrefused
    case isFalse => exact absurd (List.prefix_nil.mp hmade) hne
  · cases h

/-- A frame that fails interrupts the render before any of its calls, if not an earlier frame
does. -/
theorem Interrupted.of_fault {e fault : Fault} {fs : List Frame} {rest : List Sink.Call}
    (h : Interrupted rasterizer sink settings directives animation threading schedule studio e fs
      rest)
    (completed : ∀ number f, fs[number]? = some f →
      Completed rasterizer sink settings directives animation threading schedule studio number f)
    {number : Nat} {symbols : SymbolTable}
    (fails : Runs rasterizer sink settings directives animation threading schedule studio number
      symbols (.error fault)) :
    fs.length ≤ number ∧ (fs.length = number → rest = []) := by
  have hfails : ∀ f, ¬ Completed rasterizer sink settings directives animation threading schedule
      studio number f := by
    rintro f ⟨_, _, hruns, _⟩
    cases (fails.unique hruns).2
  constructor
  · by_contra hlt
    exact hfails _ (completed number _ (List.getElem?_eq_getElem (Nat.lt_of_not_le hlt)))
  · rintro rfl
    cases h with
    | between => rfl
    | within _ next => exact absurd next (hfails _)
    | joining all => exact absurd all (Nat.ne_of_lt fails.lt)

/-- **A render that fails has delivered whole frames in order, and then at most a part of the next
one.**  The calls that a sink has received are those of the first frames, all of them accepted,
and behind them either none, or calls of the next frame up to one that was refused, or a join that
was refused.  So nothing is joined before all frames have been delivered, and neither a frame that
fails nor any frame behind it, finished or not, has had a call. -/
theorem calls_of_failing_render {e : Fault} {u : Studio σ (τ × List Sink.Call)}
    (h : (frames rasterizer sink.recorded settings directives threading schedule animation).run
      (studio.noting []) = (.error e, u)) :
    ∃ fs rest,
      (∀ number f, fs[number]? = some f → Completed rasterizer sink settings directives animation
        threading schedule studio number f) ∧
      sink.Accepts studio.sink (deliveries sink animation.timeline studio.sink fs) ∧
      u.sink.2 = deliveries sink animation.timeline studio.sink fs ++ rest ∧
      Interrupted rasterizer sink settings directives animation threading schedule studio e fs
        rest ∧
      (∀ basename, .join basename ∈ u.sink.2 →
        fs.length = animation.timeline.frameCount.toNat ∧
          rest = [.join animation.timeline.basename]) ∧
      ∀ number symbols fault,
        Runs rasterizer sink settings directives animation threading schedule studio number symbols
          (.error fault) →
        fs.length ≤ number ∧ (fs.length = number → rest = []) := by
  obtain ⟨fs, rest, hcompleted, haccepted, hcalls, hrest⟩ := stopped_of_frames h
  refine ⟨fs, rest, hcompleted, haccepted, hcalls, hrest, ?_, fun _ _ _ fails =>
    hrest.of_fault hcompleted fails⟩
  intro basename hjoin
  rw [hcalls, List.mem_append] at hjoin
  have hjoin := hjoin.resolve_left (join_not_mem_deliveries _ _ _ _ basename)
  cases hrest with
  | between => cases hjoin
  | within _ _ begun =>
      exact absurd (begun.subset hjoin) (join_not_mem_deliveryOf _ _ _ _ basename)
  | joining all => exact ⟨all, rfl⟩

end

/-- A sink that accepts some calls and refuses the next. -/
def limited : Sink Nat :=
  let spend : Action Nat Unit := do
    match ← Action.inspect id with
    | 0 => Action.fail (.reported .other "spent")
    | left + 1 => Action.update fun _ => left
  { display := fun _ => spend, store := fun _ _ => spend, join := fun _ => spend }

/-- The first of two frames is shown and stored, and the second cannot be shown. -/
theorem calls_of_spent_sink :
    ∃ fs rest,
      (∀ number f, fs[number]? = some f → Completed Rasterizer.idle limited .standard [.display]
        ⟨⟨"flip", true, 2⟩, .blank 2⟩ .standard .together ⟨.empty, (), 2⟩ number f) ∧
      [.display Settings.standard.blankSurface,
        .store Settings.standard.blankSurface (numberedName "flip" 0 "png"),
        .display Settings.standard.blankSurface] =
          deliveries limited ⟨"flip", true, 2⟩ 2 fs ++ rest ∧
      Interrupted Rasterizer.idle limited .standard [.display] ⟨⟨"flip", true, 2⟩, .blank 2⟩
        .standard .together ⟨.empty, (), 2⟩ (.reported .other "spent") fs rest := by
  obtain ⟨fs, rest, hcompleted, _, hcalls, hrest, _⟩ := calls_of_failing_render
    (rfl : (frames Rasterizer.idle limited.recorded .standard [.display] .standard .together
      ⟨⟨"flip", true, 2⟩, .blank 2⟩).run ((⟨.empty, (), 2⟩ : Studio Unit Nat).noting []) =
        (.error (.reported .other "spent"), _))
  exact ⟨fs, rest, hcompleted, hcalls, hrest⟩

end Render
end SceneScript
