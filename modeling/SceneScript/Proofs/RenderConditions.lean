import Mathlib.Data.List.Infix
import SceneScript.Proofs.CarryOver
import SceneScript.Proofs.FrameObstacles
import SceneScript.Proofs.KnobMeaning
import SceneScript.Proofs.ParallelRuns

/-! # When a render succeeds

With a rasterizer and a sink that never fail a render can still fail, because its animation cannot
be resolved, because its settings are not valid, or because of a name or a `pop` in the scene.
Whether it does can be told from the scene, its symbols and its knob table (`Renderable`).

Frames succeed if and only if their knob rows can be written and each of them can be executed with
the symbols that are then carried to it (`Render.Feasible`), one after the other or chunk by chunk.
Writing rows leaves the constants alone and only ever adds knobs (`Carried.isSome_knob?_iff`), so
what is defined on the first frame is defined on all of them, and the conditions of `Renderable`
mention the first row only.  `Render.scene_succeeds_iff` is the result. -/

namespace SceneScript

variable {σ τ : Type}

/-! ### Settings and sinks -/

theorem Settings.validate_eq_ok_iff {settings : Settings} :
    settings.validate = .ok () ↔
      settings.canvas.width ≠ 0 ∧ settings.canvas.height ≠ 0 ∧ settings.step ≠ 0 := by
  unfold Settings.validate Canvas.ofSize
  by_cases hsize : settings.canvas.width = 0 ∨ settings.canvas.height = 0
  · rw [if_pos hsize]
    constructor
    · intro h
      cases h
    · rintro ⟨hwidth, hheight, _⟩
      exact absurd hsize (not_or.mpr ⟨hwidth, hheight⟩)
  · obtain ⟨hwidth, hheight⟩ := not_or.mp hsize
    rw [if_neg hsize]
    by_cases hstep : settings.step = 0
    · simp [hstep, bind, Except.bind]
    · simp [hwidth, hheight, hstep, bind, Except.bind]

namespace Sink

/-- The states that calls lead a sink to. -/
def Reaches (sink : Sink τ) (t u : τ) : Prop := ∃ calls, u = sink.after t calls

/-- No call of the sink fails, whatever it was called with before. -/
def Reliable (sink : Sink τ) (t : τ) : Prop :=
  ∀ call, (sink.perform call).Succeeds (sink.Reaches t)

end Sink

/-! ### What makes a scene renderable -/

/-- The conditions under which all frames of a scene can be rendered. -/
structure Renderable (symbols : SymbolTable) (directives : List Directive) (table : KnobTable) :
    Prop where
  /-- No name that is varied on some frame is a set of constants. -/
  varied : ∀ row name, (table.value? row name).isSome →
    SymbolTable.constants? symbols name = none
  /-- The constants of shapes and lines are defined. -/
  constants : ∀ d ∈ directives, ∀ name, d.constants? = some name →
    (SymbolTable.constants? symbols name).isSome
  /-- The knobs of motions are defined or varied on the first frame. -/
  knobs : ∀ d ∈ directives, ∀ name, d.knob? = some name →
    (SymbolTable.knob? symbols name).isSome ∨ (table.value? 0 name).isSome
  /-- No beginning of the scene has more `pop`s than `push`es. -/
  balanced : ∀ front, front <+: directives →
    front.countP Directive.closes ≤ front.countP Directive.opens

/-- A name is a knob on a frame if it was one at first or has been varied by then. -/
theorem Carried.isSome_knob?_iff {table : KnobTable} {initial t : SymbolTable} {count : Nat}
    (h : Carried table initial count t) (name : String) :
    (SymbolTable.knob? t name).isSome ↔
      (SymbolTable.knob? initial name).isSome ∨
        ∃ row < count, (table.value? row name).isSome := by
  rcases table.latest_or_none name count with ⟨row, v, hlt, hv, hlater⟩ | hnone
  · have hknob : SymbolTable.knob? t name = some v := by
      rw [SymbolTable.knob?, h.latest name row v hlt hv hlater]
    simp only [hknob, Option.isSome_some, true_iff]
    exact .inr ⟨row, hlt, by rw [hv]; rfl⟩
  · have hknob : SymbolTable.knob? t name = SymbolTable.knob? initial name := by
      rw [SymbolTable.knob?, h.untouched name hnone]
      rfl
    rw [hknob]
    constructor
    · exact .inl
    · rintro (hinitial | ⟨row, hlt, hsome⟩)
      · exact hinitial
      · rw [hnone row hlt] at hsome
        cases hsome

/-- A name with an entry in a finished table is varied somewhere in the scene. -/
theorem KnobTable.exists_vary_of_value? {directives : List Directive} {frameCount : UInt32}
    {table : KnobTable} (h : ofDirectives directives frameCount = .ok table) {row : Nat}
    {name : String} (hname : (table.value? row name).isSome) :
    ∃ v, .vary v ∈ directives ∧ v.knob = name := by
  have hrow : row < frameCount.toNat := by
    rw [← size_ofDirectives h]
    by_contra hge
    have hnone : table.row? row = none := List.getElem?_eq_none (Nat.le_of_not_lt hge)
    rw [value?, hnone] at hname
    cases hname
  rw [value?_ofDirectives h hrow, Option.isSome_map, isSome_lastVary?_iff] at hname
  obtain ⟨v, hv, hcovers⟩ := hname
  exact ⟨v, hv, (Vary.covers_iff.mp hcovers).1⟩

namespace Render

open SceneScript.Action

/-! ### Writing rows -/

section

variable {table : KnobTable} {t : SymbolTable}

/-- A row that is there can be written if none of its names is a set of constants. -/
theorem exists_writeRow {number : Nat} (hnumber : number < table.size)
    (hfree : ∀ name, (table.value? number name).isSome → SymbolTable.constants? t name = none) :
    ∃ u, (writeRow table number).run t = (.ok (), u) := by
  rcases hrun : (writeRow table number).run t with ⟨e | ⟨⟩, u⟩
  · obtain ⟨name, hname, hconstants, _⟩ := fault_of_writeRow hnumber hrun
    exact absurd (hfree name hname) hconstants
  · exact ⟨u, rfl⟩

/-- Rows that are there can be written in order if and only if none of their names is a set of
constants. -/
theorem snapshots_succeed_iff {numbers : List Nat} (hnumbers : ∀ n ∈ numbers, n < table.size) :
    (∃ jobs u, (snapshots table numbers).run t = (.ok jobs, u)) ↔
      ∀ n ∈ numbers, ∀ name, (table.value? n name).isSome →
        SymbolTable.constants? t name = none := by
  induction numbers generalizing t with
  | nil => exact ⟨fun _ n hn => absurd hn List.not_mem_nil, fun _ => ⟨[], t, rfl⟩⟩
  | cons number numbers ih =>
      obtain ⟨hnumber, hothers⟩ := List.forall_mem_cons.mp hnumbers
      rw [List.forall_mem_cons]
      constructor
      · rintro ⟨jobs, u, h⟩
        obtain ⟨first, rest, hrow, hrest, rfl⟩ := snapshots_cons_eq_ok_iff.mp h
        refine ⟨(writeRow_eq_ok_iff.mp hrow).2.1, ?_⟩
        intro n hn name hname
        rw [← constants?_of_writeRow hrow]
        exact (ih hothers).mp ⟨rest, u, hrest⟩ n hn name hname
      · rintro ⟨hfirst, hrest⟩
        obtain ⟨first, hrow⟩ := exists_writeRow hnumber hfirst
        have hfree : ∀ n ∈ numbers, ∀ name, (table.value? n name).isSome →
            SymbolTable.constants? first name = none := by
          intro n hn name hname
          rw [constants?_of_writeRow hrow]
          exact hrest n hn name hname
        obtain ⟨rest, u, hrest⟩ := (ih hothers).mpr hfree
        exact ⟨_, u, snapshots_cons_eq_ok_iff.mpr ⟨first, rest, hrow, hrest, rfl⟩⟩

end

/-- The rows of frames can be written, which changes the symbols as given, and each frame can be
executed with the symbols carried to it. -/
def Feasible (table : KnobTable) (directives : List Directive) (numbers : List Nat)
    (symbols symbols' : SymbolTable) : Prop :=
  ∃ jobs, (snapshots table numbers).run symbols = (.ok jobs, symbols') ∧
    ∀ job ∈ jobs, Frame.Executable job.2 directives

theorem feasible_nil (table : KnobTable) (directives : List Directive) (symbols : SymbolTable) :
    Feasible table directives [] symbols symbols :=
  ⟨[], rfl, fun _ hjob => absurd hjob List.not_mem_nil⟩

theorem feasible_append_iff {table : KnobTable} {directives : List Directive} {xs ys : List Nat}
    {symbols symbols' : SymbolTable} :
    Feasible table directives (xs ++ ys) symbols symbols' ↔
      ∃ middle, Feasible table directives xs symbols middle ∧
        Feasible table directives ys middle symbols' := by
  constructor
  · rintro ⟨jobs, hjobs, hexecutable⟩
    obtain ⟨front, middle, back, hfront, hback, rfl⟩ := snapshots_append_eq_ok_iff.mp hjobs
    obtain ⟨hfirst, hsecond⟩ := List.forall_mem_append.mp hexecutable
    exact ⟨middle, ⟨front, hfront, hfirst⟩, back, hback, hsecond⟩
  · rintro ⟨middle, ⟨front, hfront, hfirst⟩, back, hback, hsecond⟩
    exact ⟨front ++ back, snapshots_append_eq_ok_iff.mpr ⟨front, middle, back, hfront, hback, rfl⟩,
      List.forall_mem_append.mpr ⟨hfirst, hsecond⟩⟩

/-! ### Collaborators that never fail -/

section

variable {rasterizer : Rasterizer σ} {sink : Sink τ} {settings : Settings}
  {directives : List Directive} {animation : Animation} {s : σ} {t : τ}

theorem succeeds_deliver (hs : sink.Reliable t) (timeline : Timeline) (stats : Stats) (f : Frame) :
    (deliver sink timeline stats f).Succeeds (sink.Reaches t) := by
  have hrequests : (f.requests.forM (forward sink)).Succeeds (sink.Reaches t) := by
    apply succeeds_forM
    intro r
    cases r with
    | display surface => exact hs (.display surface)
    | save name surface => exact hs (.store surface name)
  refine hrequests.bind fun _ => ?_
  dsimp only
  split
  · refine Succeeds.bind ?_ fun _ => succeeds_pure _
    refine Succeeds.bind (succeeds_inspect _) fun name => ?_
    exact hs (.store f.surface name)
  · exact succeeds_pure _

theorem succeeds_deliverFrames (hs : sink.Reliable t) (timeline : Timeline) (stats : Stats)
    (fs : List Frame) : (deliverFrames sink timeline stats fs).Succeeds (sink.Reaches t) :=
  succeeds_foldlM (succeeds_deliver hs timeline) fs stats

/-- Jobs can be run if and only if each of them can be executed. -/
theorem runJobs_succeeds_iff (hr : rasterizer.Reliable s) (settings : Settings)
    {jobs : List (Nat × SymbolTable)} {v : σ} (hv : rasterizer.Reaches s v) :
    (∃ fs w, (runJobs rasterizer settings directives jobs).run v = (.ok fs, w)) ↔
      ∀ job ∈ jobs, Frame.Executable job.2 directives := by
  induction jobs generalizing v with
  | nil => exact ⟨fun _ job hjob => absurd hjob List.not_mem_nil, fun _ => ⟨[], v, rfl⟩⟩
  | cons job jobs ih =>
      have hstays := Frame.reaches_run settings job.2 hv directives job.1
      rw [List.forall_mem_cons, ← Frame.run_succeeds_iff hr hv]
      constructor
      · rintro ⟨fs, w, h⟩
        obtain ⟨f, v', rest, hf, hrest, rfl⟩ := mapM_cons_eq_ok_iff.mp h
        rw [hf] at hstays
        exact ⟨⟨f, v', hf⟩, (ih hstays).mp ⟨rest, w, hrest⟩⟩
      · rintro ⟨⟨f, v', hf⟩, hjobs⟩
        rw [hf] at hstays
        obtain ⟨rest, w, hrest⟩ := (ih hstays).mpr hjobs
        exact ⟨f :: rest, w, mapM_cons_eq_ok_iff.mpr ⟨f, v', rest, hf, hrest, rfl⟩⟩

/-- Frames that succeed one after the other are feasible. -/
theorem feasible_of_foldlM_frame (hr : rasterizer.Reliable s) {numbers : List Nat}
    {stats stats' : Stats} {st u : Studio σ τ} (hst : rasterizer.Reaches s st.rasterizer)
    (h : (numbers.foldlM (frame rasterizer sink settings directives animation) stats).run st =
      (.ok stats', u)) :
    Feasible animation.table directives numbers st.symbols u.symbols := by
  obtain ⟨jobs, fs, hjobs, hfs, _⟩ := foldlM_frame_eq_ok_iff.mp h
  exact ⟨jobs, hjobs, (runJobs_succeeds_iff hr settings hst).mp ⟨fs, _, hfs⟩⟩

/-- Feasible frames succeed one after the other. -/
theorem foldlM_frame_of_feasible (hr : rasterizer.Reliable s) (hs : sink.Reliable t)
    {numbers : List Nat} {stats : Stats} {st : Studio σ τ} {symbols : SymbolTable}
    (hst : rasterizer.Reaches s st.rasterizer) (hsink : sink.Reaches t st.sink)
    (h : Feasible animation.table directives numbers st.symbols symbols) :
    ∃ stats' u, (numbers.foldlM (frame rasterizer sink settings directives animation) stats).run
      st = (.ok stats', u) ∧ sink.Reaches t u.sink := by
  obtain ⟨jobs, hjobs, hexecutable⟩ := h
  obtain ⟨fs, v, hfs⟩ := (runJobs_succeeds_iff hr settings hst).mpr hexecutable
  obtain ⟨stats', w, hdeliver, hw⟩ :=
    succeeds_deliverFrames hs animation.timeline stats fs st.sink hsink
  exact ⟨stats', ⟨symbols, v, w⟩, foldlM_frame_eq_ok_iff.mpr ⟨jobs, fs, hjobs, hfs, hdeliver⟩, hw⟩

/-! ### Chunks -/

/-- Outcomes that workers report are all successes if and only if all jobs can be executed. -/
theorem all_ok_iff (hr : rasterizer.Reliable s) {jobs : List (Nat × SymbolTable)}
    {outcomes : List (Except Fault Frame)}
    (h : List.Forall₂ (ReportedOf rasterizer settings directives s) jobs outcomes) :
    (∃ fs : List Frame, outcomes = fs.map .ok) ↔
      ∀ job ∈ jobs, Frame.Executable job.2 directives := by
  induction h with
  | nil => exact ⟨fun _ job hjob => absurd hjob List.not_mem_nil, fun _ => ⟨[], rfl⟩⟩
  | @cons job r jobs outcomes hreport hreports ih =>
      obtain ⟨w, hw, rfl⟩ := hreport
      rw [List.forall_mem_cons, ← ih, ← Frame.run_succeeds_iff hr hw]
      constructor
      · rintro ⟨fs, hfs⟩
        obtain ⟨f, fs, rfl, hf, hothers⟩ := List.map_eq_cons_iff.mp hfs.symm
        exact ⟨⟨f, _, Prod.ext hf.symm rfl⟩, fs, hothers.symm⟩
      · rintro ⟨⟨f, u, hf⟩, fs, rfl⟩
        exact ⟨f :: fs, by rw [hf]; rfl⟩

/-- What workers report of the jobs of a chunk. -/
theorem renderChunk_of_jobs (hforks : rasterizer.Forking s) (schedule : Schedule) {c : Chunk}
    {jobs : List (Nat × SymbolTable)} {symbols symbols' : SymbolTable}
    (hjobs : (snapshots animation.table c.frames).run symbols = (.ok jobs, symbols')) {v : σ}
    (hv : rasterizer.Reaches s v) :
    ∃ outcomes w, (renderChunk rasterizer settings directives schedule c jobs).run v =
        (.ok outcomes, w) ∧
      List.Forall₂ (ReportedOf rasterizer settings directives s) jobs outcomes := by
  have hlength : jobs.length = c.length := (length_of_mapM_eq_ok hjobs).trans c.length_frames
  obtain ⟨outcomes, w, _, hrun, hreports⟩ :=
    renderChunk_reports settings directives jobs hforks schedule hlength hv
  exact ⟨outcomes, w, hrun, hreports⟩

/-- The frames of a chunk that succeeds are feasible. -/
theorem feasible_of_chunk (hr : rasterizer.Reliable s) (hforks : rasterizer.Forking s)
    {schedule : Schedule} {c : Chunk} {stats stats' : Stats} {st u : Studio σ τ}
    (hst : rasterizer.Reaches s st.rasterizer)
    (h : (chunk rasterizer sink settings directives animation schedule stats c).run st =
      (.ok stats', u)) :
    Feasible animation.table directives c.frames st.symbols u.symbols := by
  obtain ⟨jobs, outcomes, hjobs, hrun, hdeliver⟩ := chunk_eq_ok_iff.mp h
  obtain ⟨outcomes', _, hrun', hreports⟩ := renderChunk_of_jobs hforks schedule hjobs hst
  rw [hrun] at hrun'
  obtain rfl := Except.ok.inj (Prod.mk.inj hrun').1
  obtain ⟨fs, hfs, _⟩ := deliverAll_eq_ok_iff.mp hdeliver
  exact ⟨jobs, hjobs, (all_ok_iff hr hreports).mp ⟨fs, hfs⟩⟩

/-- A chunk with feasible frames succeeds. -/
theorem chunk_of_feasible (hr : rasterizer.Reliable s) (hs : sink.Reliable t)
    (hforks : rasterizer.Forking s) (schedule : Schedule) {c : Chunk} (stats : Stats)
    {st : Studio σ τ} {symbols : SymbolTable} (hst : rasterizer.Reaches s st.rasterizer)
    (hsink : sink.Reaches t st.sink)
    (h : Feasible animation.table directives c.frames st.symbols symbols) :
    ∃ stats' v w, (chunk rasterizer sink settings directives animation schedule stats c).run st =
      (.ok stats', ⟨symbols, v, w⟩) ∧ sink.Reaches t w := by
  obtain ⟨jobs, hjobs, hexecutable⟩ := h
  obtain ⟨outcomes, v, hrun, hreports⟩ := renderChunk_of_jobs hforks schedule hjobs hst
  obtain ⟨fs, hfs⟩ := (all_ok_iff hr hreports).mpr hexecutable
  obtain ⟨stats', w, hdeliver, hw⟩ :=
    succeeds_deliverFrames hs animation.timeline stats fs st.sink hsink
  exact ⟨stats', v, w, chunk_eq_ok_iff.mpr
    ⟨jobs, outcomes, hjobs, hrun, deliverAll_eq_ok_iff.mpr ⟨fs, hfs, hdeliver⟩⟩, hw⟩

/-- The frames of chunks that succeed are feasible. -/
theorem feasible_of_foldlM_chunk (hr : rasterizer.Reliable s) (hforks : rasterizer.Forking s)
    {schedule : Schedule} {chunks : List Chunk} {stats stats' : Stats} {st u : Studio σ τ}
    (hst : rasterizer.Reaches s st.rasterizer)
    (h : (chunks.foldlM (chunk rasterizer sink settings directives animation schedule) stats).run
      st = (.ok stats', u)) :
    Feasible animation.table directives (chunks.flatMap Chunk.frames) st.symbols u.symbols := by
  induction chunks generalizing stats st with
  | nil =>
      obtain ⟨_, rfl⟩ := pure_eq_ok_iff.mp h
      exact feasible_nil animation.table directives st.symbols
  | cons c chunks ih =>
      obtain ⟨_, middle, hchunk, hchunks⟩ := foldlM_cons_eq_ok_iff.mp h
      have hmiddle := reaches_of_chunk sink settings directives animation schedule hst hchunk
      rw [List.flatMap_cons, feasible_append_iff]
      exact ⟨middle.symbols, feasible_of_chunk hr hforks hst hchunk, ih hmiddle hchunks⟩

/-- Chunks with feasible frames succeed. -/
theorem foldlM_chunk_of_feasible (hr : rasterizer.Reliable s) (hs : sink.Reliable t)
    (hforks : rasterizer.Forking s) (schedule : Schedule) {chunks : List Chunk} {stats : Stats}
    {st : Studio σ τ} {symbols : SymbolTable} (hst : rasterizer.Reaches s st.rasterizer)
    (hsink : sink.Reaches t st.sink)
    (h : Feasible animation.table directives (chunks.flatMap Chunk.frames) st.symbols symbols) :
    ∃ stats' u, (chunks.foldlM (chunk rasterizer sink settings directives animation schedule)
      stats).run st = (.ok stats', u) ∧ sink.Reaches t u.sink := by
  induction chunks generalizing stats st with
  | nil => exact ⟨stats, st, rfl, hsink⟩
  | cons c chunks ih =>
      rw [List.flatMap_cons, feasible_append_iff] at h
      obtain ⟨middle, hfirst, hrest⟩ := h
      obtain ⟨between, v, w, hchunk, hw⟩ :=
        chunk_of_feasible hr hs hforks schedule stats hst hsink hfirst
      have hv := reaches_of_chunk sink settings directives animation schedule hst hchunk
      obtain ⟨stats', u, hchunks, hu⟩ := @ih between ⟨middle, v, w⟩ hv hw hrest
      exact ⟨stats', u, foldlM_cons_eq_ok_iff.mpr ⟨between, _, hchunk, hchunks⟩, hu⟩

/-! ### Renders -/

/-- The frames of a render that succeeds are feasible. -/
theorem feasible_of_body {threading : Threading} {schedule : Schedule} {studio u : Studio σ τ}
    {stats : Stats} (hr : rasterizer.Reliable studio.rasterizer)
    (hworkers : threading.parallel = true →
      rasterizer.Forking studio.rasterizer ∧ threading.threads ≠ some 0)
    (h : (body rasterizer sink settings directives animation threading schedule).run studio =
      (.ok stats, u)) :
    Feasible animation.table directives animation.timeline.frames studio.symbols u.symbols := by
  unfold body at h
  split at h
  case isTrue hparallel =>
      obtain ⟨hforks, hthreads⟩ := hworkers hparallel
      rw [run_parallel sink settings directives animation schedule hthreads studio
        (hforks _ .start)] at h
      have hfeasible := feasible_of_foldlM_chunk hr hforks (.forked .start) h
      rw [Chunk.flatMap_frames_all] at hfeasible
      exact hfeasible
  case isFalse => exact feasible_of_foldlM_frame hr .start h

/-- A render of feasible frames succeeds. -/
theorem body_of_feasible {threading : Threading} (schedule : Schedule) {studio : Studio σ τ}
    {symbols : SymbolTable} (hr : rasterizer.Reliable studio.rasterizer)
    (hs : sink.Reliable studio.sink)
    (hworkers : threading.parallel = true →
      rasterizer.Forking studio.rasterizer ∧ threading.threads ≠ some 0)
    (h : Feasible animation.table directives animation.timeline.frames studio.symbols symbols) :
    ∃ stats u, (body rasterizer sink settings directives animation threading schedule).run
      studio = (.ok stats, u) ∧ sink.Reaches studio.sink u.sink := by
  have hsink : sink.Reaches studio.sink studio.sink := ⟨[], rfl⟩
  unfold body
  split
  case isTrue hparallel =>
      obtain ⟨hforks, hthreads⟩ := hworkers hparallel
      rw [run_parallel sink settings directives animation schedule hthreads studio
        (hforks _ .start)]
      have hall : Feasible animation.table directives
          ((Chunk.all animation.timeline.frameCount threading.chunkSize).flatMap Chunk.frames)
          studio.symbols symbols := by
        rw [Chunk.flatMap_frames_all]
        exact h
      exact foldlM_chunk_of_feasible hr hs hforks schedule (.forked .start) hsink hall
  case isFalse => exact foldlM_frame_of_feasible hr hs .start hsink h

/-- A render succeeds if and only if its settings and its table are valid and its frames are
feasible. -/
theorem frames_succeed_iff {threading : Threading} (schedule : Schedule) {studio : Studio σ τ}
    (hr : rasterizer.Reliable studio.rasterizer) (hs : sink.Reliable studio.sink)
    (hworkers : threading.parallel = true →
      rasterizer.Forking studio.rasterizer ∧ threading.threads ≠ some 0) :
    (∃ stats u, (frames rasterizer sink settings directives threading schedule animation).run
        studio = (.ok stats, u)) ↔
      settings.validate = .ok () ∧ checkLength animation = .ok () ∧
        ∃ symbols, Feasible animation.table directives animation.timeline.frames studio.symbols
          symbols := by
  simp only [frames_eq_ok_iff]
  constructor
  · rintro ⟨stats, u, hvalid, hlength, t, hbody, _⟩
    exact ⟨hvalid, hlength, u.symbols,
      feasible_of_body (u := ⟨u.symbols, u.rasterizer, t⟩) hr hworkers hbody⟩
  · rintro ⟨hvalid, hlength, symbols, h⟩
    obtain ⟨stats, u, hbody, hsink⟩ := body_of_feasible schedule hr hs hworkers h
    have hfinish : ∃ w, (finish sink animation.timeline).run u.sink = (.ok (), w) := by
      unfold finish
      split
      · obtain ⟨⟨⟩, w, hw, _⟩ := hs (.join animation.timeline.basename) u.sink hsink
        exact ⟨w, hw⟩
      · exact ⟨u.sink, rfl⟩
    obtain ⟨w, hw⟩ := hfinish
    exact ⟨stats, ⟨u.symbols, u.rasterizer, w⟩, hvalid, hlength, u.sink, hbody, hw⟩

end

/-! ### Feasible frames -/

section

variable {table : KnobTable} {directives : List Directive} {symbols symbols' : SymbolTable}
  {count : Nat}

/-- What the first frame needs is what all frames need. -/
theorem renderable_of_first {first : SymbolTable}
    (hvaried : ∀ row name, (table.value? row name).isSome →
      SymbolTable.constants? symbols name = none)
    (hrow : (writeRow table 0).run symbols = (.ok (), first))
    (h : Frame.Executable first directives) : Renderable symbols directives table where
  varied := hvaried
  constants d hd name hname := by
    rw [← constants?_of_writeRow hrow]
    exact (h.defined d hd).constants name hname
  knobs d hd name hname := by
    have hknob := (h.defined d hd).knob name hname
    rw [knob?_of_writeRow hrow, Option.isSome_or, Bool.or_eq_true] at hknob
    exact hknob.symm
  balanced front hfront := by
    have hcount := h.balanced front hfront
    rwa [Nat.zero_add] at hcount

/-- The scene of feasible frames is renderable, if there is a frame. -/
theorem renderable_of_feasible (hsize : table.size = count + 1)
    (h : Feasible table directives (List.range (count + 1)) symbols symbols') :
    Renderable symbols directives table := by
  obtain ⟨jobs, hjobs, hexecutable⟩ := h
  have hrows : ∀ n ∈ List.range (count + 1), n < table.size := by
    intro n hn
    rw [hsize]
    exact List.mem_range.mp hn
  have hfree := (snapshots_succeed_iff hrows).mp ⟨jobs, symbols', hjobs⟩
  rw [List.range_succ_eq_map] at hjobs
  obtain ⟨first, rest, hrow, _, rfl⟩ := snapshots_cons_eq_ok_iff.mp hjobs
  refine renderable_of_first ?_ hrow (hexecutable (0, first) List.mem_cons_self)
  intro row name hname
  by_cases hrow : row < count + 1
  · exact hfree row (List.mem_range.mpr hrow) name hname
  · have hlength : table.rows.length = count + 1 := hsize
    have hnone : table.row? row = none := List.getElem?_eq_none (by omega)
    rw [KnobTable.value?, hnone] at hname
    cases hname

/-- What is found on the first frame is found on all frames. -/
theorem feasible_of_renderable (hsize : table.size = count)
    (h : Renderable symbols directives table) :
    ∃ symbols', Feasible table directives (List.range count) symbols symbols' := by
  have hrows : ∀ n ∈ List.range count, n < table.size := by
    intro n hn
    rw [hsize]
    exact List.mem_range.mp hn
  obtain ⟨jobs, symbols', hjobs⟩ :=
    (snapshots_succeed_iff hrows).mpr fun n _ name hname => h.varied n name hname
  refine ⟨symbols', jobs, hjobs, ?_⟩
  intro job hjob
  have hcarried := (carried_of_snapshots hjobs).2 job hjob
  constructor
  case defined =>
      intro d hd
      constructor
      · intro name hname
        rw [(constants?_of_snapshots hjobs name).2 job hjob]
        exact h.constants d hd name hname
      · intro name hname
        rw [hcarried.isSome_knob?_iff]
        rcases h.knobs d hd name hname with hknob | hfirst
        · exact .inl hknob
        · exact .inr ⟨0, Nat.succ_pos _, hfirst⟩
  case balanced =>
      intro front hfront
      rw [Nat.zero_add]
      exact h.balanced front hfront

theorem exists_feasible_iff (hsize : table.size = count) :
    (∃ symbols', Feasible table directives (List.range count) symbols symbols') ↔
      (1 ≤ count → Renderable symbols directives table) := by
  cases count with
  | zero =>
      refine ⟨fun _ h => absurd h (Nat.not_succ_le_zero 0), fun _ => ?_⟩
      exact ⟨symbols, feasible_nil table directives symbols⟩
  | succ count =>
      constructor
      · rintro ⟨symbols', h⟩ _
        exact renderable_of_feasible hsize h
      · intro h
        exact feasible_of_renderable hsize (h (Nat.succ_pos count))

end

theorem scene_eq_ok_iff {rasterizer : Rasterizer σ} {sink : Sink τ} {settings : Settings}
    {directives : List Directive} {threading : Threading} {schedule : Schedule}
    {studio u : Studio σ τ} {animation : Animation} {stats : Stats} :
    (scene rasterizer sink settings directives threading schedule).run studio =
        (.ok (animation, stats), u) ↔
      Animation.ofDirectives directives = .ok animation ∧
        (frames rasterizer sink settings directives threading schedule animation).run studio =
          (.ok stats, u) := by
  simp only [scene, bind_eq_ok_iff, ofExcept_eq_ok_iff, pure_eq_ok_iff]
  constructor
  · rintro ⟨_, _, ⟨hanimation, rfl⟩, _, _, hframes, hresult, rfl⟩
    obtain ⟨rfl, rfl⟩ := Prod.mk.inj hresult
    exact ⟨hanimation, hframes⟩
  · rintro ⟨hanimation, hframes⟩
    exact ⟨animation, studio, ⟨hanimation, rfl⟩, stats, u, hframes, rfl, rfl⟩

/-- The table of a scene is the one for the frames that it has. -/
theorem table_of_ofDirectives {directives : List Directive} {animation : Animation}
    (h : Animation.ofDirectives directives = .ok animation) :
    KnobTable.ofDirectives directives animation.timeline.frameCount = .ok animation.table := by
  unfold Animation.ofDirectives at h
  cases htimeline : Timeline.ofDirectives directives with
  | error e => rw [htimeline] at h; cases h
  | ok timeline =>
      rw [htimeline] at h
      change (KnobTable.ofDirectives directives timeline.frameCount >>= fun table =>
        pure ⟨timeline, table⟩) = .ok animation at h
      cases htable : KnobTable.ofDirectives directives timeline.frameCount with
      | error e => rw [htable] at h; cases h
      | ok table =>
          rw [htable] at h
          obtain rfl := Except.ok.inj h
          exact htable

/-- The table of a scene has a row for each frame. -/
theorem size_table_of_ofDirectives {directives : List Directive} {animation : Animation}
    (h : Animation.ofDirectives directives = .ok animation) :
    animation.table.size = animation.timeline.frameCount.toNat :=
  KnobTable.size_ofDirectives (table_of_ofDirectives h)

/-- **When a render succeeds.**  With a rasterizer and a sink that never fail, and with workers that
can be had if there are to be any, a render succeeds if and only if its settings are valid, its
animation can be resolved and its scene is renderable, unless it has no frames.  So if no name that
is varied is a set of constants and the first frame can be rendered, then all frames can be. -/
theorem scene_succeeds_iff {rasterizer : Rasterizer σ} {sink : Sink τ} (settings : Settings)
    (directives : List Directive) {threading : Threading} (schedule : Schedule)
    (studio : Studio σ τ) (hr : rasterizer.Reliable studio.rasterizer)
    (hs : sink.Reliable studio.sink)
    (hworkers : threading.parallel = true →
      rasterizer.Forking studio.rasterizer ∧ threading.threads ≠ some 0) :
    let render := (scene rasterizer sink settings directives threading schedule).run studio
    ((∃ result u, render = (.ok result, u)) ↔
      settings.canvas.width ≠ 0 ∧ settings.canvas.height ≠ 0 ∧ settings.step ≠ 0 ∧
        ∃ animation, Animation.ofDirectives directives = .ok animation ∧
          (1 ≤ animation.timeline.frameCount.toNat →
            Renderable studio.symbols directives animation.table)) ∧
      ∀ animation, Animation.ofDirectives directives = .ok animation →
        settings.canvas.width ≠ 0 → settings.canvas.height ≠ 0 → settings.step ≠ 0 →
        (∀ row name, (animation.table.value? row name).isSome →
          SymbolTable.constants? studio.symbols name = none) →
        (∃ stats u, (frame rasterizer sink settings directives animation noStats 0).run studio =
          (.ok stats, u)) →
        ∃ result u, render = (.ok result, u) := by
  intro render
  have hiff : (∃ result u, render = (.ok result, u)) ↔
      settings.canvas.width ≠ 0 ∧ settings.canvas.height ≠ 0 ∧ settings.step ≠ 0 ∧
        ∃ animation, Animation.ofDirectives directives = .ok animation ∧
          (1 ≤ animation.timeline.frameCount.toNat →
            Renderable studio.symbols directives animation.table) := by
    constructor
    · rintro ⟨⟨animation, stats⟩, u, h⟩
      obtain ⟨hanimation, hframes⟩ := scene_eq_ok_iff.mp h
      obtain ⟨hvalid, _, hfeasible⟩ :=
        (frames_succeed_iff schedule hr hs hworkers).mp ⟨stats, u, hframes⟩
      obtain ⟨hwidth, hheight, hstep⟩ := Settings.validate_eq_ok_iff.mp hvalid
      have hsize := size_table_of_ofDirectives hanimation
      exact ⟨hwidth, hheight, hstep, animation, hanimation,
        (exists_feasible_iff hsize).mp hfeasible⟩
    · rintro ⟨hwidth, hheight, hstep, animation, hanimation, hrenderable⟩
      have hvalid := Settings.validate_eq_ok_iff.mpr ⟨hwidth, hheight, hstep⟩
      have hsize := size_table_of_ofDirectives hanimation
      obtain ⟨stats, u, hframes⟩ := (frames_succeed_iff schedule hr hs hworkers).mpr
        ⟨hvalid, checkLength_eq_ok_iff.mpr hsize, (exists_feasible_iff hsize).mpr hrenderable⟩
      exact ⟨(animation, stats), u, scene_eq_ok_iff.mpr ⟨hanimation, hframes⟩⟩
  refine ⟨hiff, ?_⟩
  rintro animation hanimation hwidth hheight hstep hvaried ⟨stats, u, hframe⟩
  obtain ⟨f, hrow, hrun, _⟩ := frame_eq_ok_iff.mp hframe
  have hexecutable := (Frame.run_succeeds_iff hr .start).mp ⟨f, u.rasterizer, hrun⟩
  exact hiff.mpr ⟨hwidth, hheight, hstep, animation, hanimation,
    fun _ => renderable_of_first hvaried hrow hexecutable⟩

theorem reliable_idle : Rasterizer.idle.Reliable () := by
  intro call s _
  cases call <;> exact ⟨_, (), rfl, .start⟩

theorem reliable_silent : Sink.silent.Reliable () := by
  intro call s hs
  cases call <;> exact ⟨(), s, rfl, hs⟩

/-- A golden box that turns. -/
def turning : List Directive :=
  [.frames 2, .vary ⟨⟨0, 1, 1, 2⟩, "spin"⟩, .push, .motion (.rotate .y 45) (some "spin"),
    .shape (.box ⟨0, 0, 0⟩ ⟨1, 1, 1⟩) (some "gold") none, .pop]

theorem turning_succeeds :
    let studio : Studio Unit Unit := ⟨NameMap.empty.insert "gold" (.constants .standard), (), ()⟩
    let render (directives : List Directive) := (scene Rasterizer.idle Sink.silent .standard
      directives ⟨true, 0, some 2⟩ .apart).run studio
    (∃ result u, render turning = (.ok result, u)) ∧
      ¬∃ result u, render (turning ++ [.pop]) = (.ok result, u) := by
  intro studio render
  have hworkers : (⟨true, 0, some 2⟩ : Threading).parallel = true →
      Rasterizer.idle.Forking studio.rasterizer ∧ (some 2 : Option UInt64) ≠ some 0 :=
    fun _ => ⟨fun _ _ => rfl, by decide⟩
  have hiff := fun directives => (scene_succeeds_iff .standard directives .apart studio
    reliable_idle reliable_silent hworkers).1
  constructor
  · refine (hiff turning).mpr ⟨by decide, by decide, by decide, _, rfl, fun _ => ?_⟩
    constructor
    case varied =>
        intro row name hname
        obtain ⟨v, hv, rfl⟩ := KnobTable.exists_vary_of_value?
          (rfl : KnobTable.ofDirectives turning 2 = .ok _) hname
        simp only [turning, List.mem_cons, Directive.vary.injEq, reduceCtorEq, List.not_mem_nil,
          false_or, or_false] at hv
        rw [hv]
        rfl
    case constants =>
        intro d hd name hname
        simp only [turning, List.mem_cons, List.not_mem_nil, or_false] at hd
        rcases hd with rfl | rfl | rfl | rfl | rfl | rfl
        case inr.inr.inr.inr.inl =>
            obtain rfl := Option.some.inj hname
            rfl
        all_goals cases hname
    case knobs =>
        intro d hd name hname
        simp only [turning, List.mem_cons, List.not_mem_nil, or_false] at hd
        rcases hd with rfl | rfl | rfl | rfl | rfl | rfl
        case inr.inr.inr.inl =>
            obtain rfl := Option.some.inj hname
            exact .inr rfl
        all_goals cases hname
    case balanced =>
        have hinits : ∀ front ∈ turning.inits,
            front.countP Directive.closes ≤ front.countP Directive.opens := by decide
        intro front hfront
        exact hinits front ((List.mem_inits front turning).mpr hfront)
  · intro h
    obtain ⟨_, _, _, animation, hanimation, hrenderable⟩ := (hiff (turning ++ [.pop])).mp h
    have hpos : ∃ a, Animation.ofDirectives (turning ++ [.pop]) = .ok a ∧
        1 ≤ a.timeline.frameCount.toNat := ⟨_, rfl, by decide⟩
    obtain ⟨a, ha, hpos⟩ := hpos
    rw [ha] at hanimation
    obtain rfl := Except.ok.inj hanimation
    exact absurd ((hrenderable hpos).balanced _ List.prefix_rfl) (by decide)

end Render
end SceneScript
