import SceneScript.Proofs.CarryOver
import SceneScript.Proofs.ParallelRuns

/-! # Renders that fail

A render without workers stops at the first frame that fails, after the frames before it have been
delivered.  A render with workers writes the rows of a whole chunk before anything of the chunk is
delivered, and delivers the outcomes of the chunk in order.  For a rasterizer without a memory the
two are compared chunk by chunk.  If the rows of a chunk can be written, its frames come to the same
either way (`run_foldlM_frame_of_snapshots`, `run_chunk_of_snapshots`), faults included.  If they
cannot, the chunk delivers nothing (`run_chunk_of_fault`), and a name on one of the rows is a set of
constants (`fault_of_snapshots`).

So the two ways fail alike but for such a `Clash` in the chunk of the failing frame
(`failing_renders`).  Then they can differ in their calls, and even in their faults
(`clash_hides_calls`). -/

namespace SceneScript
namespace Render

open SceneScript.Action

variable {σ τ : Type}

section

variable {rasterizer : Rasterizer σ} {s : σ} (sink : Sink τ) (settings : Settings)
  (directives : List Directive) (animation : Animation)

/-! ### The frames of one chunk -/

/-- Deliver what a frame comes to, if it is no fault. -/
def deliverOutcome (timeline : Timeline) (stats : Stats) (outcome : Except Fault Frame) :
    Action τ Stats :=
  ofExcept outcome >>= deliver sink timeline stats

theorem deliverAll_cons (timeline : Timeline) (stats : Stats) (outcome : Except Fault Frame)
    (outcomes : List (Except Fault Frame)) :
    deliverAll sink timeline stats (outcome :: outcomes) =
      deliverOutcome sink timeline stats outcome >>= fun stats =>
        deliverAll sink timeline stats outcomes := rfl

/-- A frame whose row is written comes to what its job comes to, delivered. -/
theorem run_frame_of_row (h : rasterizer.Memoryless s) {number : Nat}
    {symbols first : SymbolTable}
    (hrow : (writeRow animation.table number).run symbols = (.ok (), first)) {v : σ}
    (hv : rasterizer.Reaches s v) (stats : Stats) (t : τ) :
    let delivered := (deliverOutcome sink animation.timeline stats
      (jobOutcome rasterizer settings directives s (number, first))).run t
    ∃ w, rasterizer.Reaches s w ∧
      (frame rasterizer sink settings directives animation stats number).run ⟨symbols, v, t⟩ =
        (delivered.1, ⟨first, w, delivered.2⟩) := by
  have hrun := Frame.steady_run settings first h directives number
  have hsame : ((Frame.run rasterizer settings directives number first).run v).1 =
      jobOutcome rasterizer settings directives s (number, first) := hrun.same v s hv .start
  refine ⟨_, hrun.stays v hv, ?_⟩
  rw [← hsame]
  simp only [frame, deliverOutcome, run_bind, onSymbols, onRasterizer, onSink, run_within, hrow,
    run_inspect]
  rcases (Frame.run rasterizer settings directives number first).run v with ⟨_ | f, w⟩ <;> rfl

/-- Frames whose rows can be written come to what their jobs come to, delivered in order. -/
theorem run_foldlM_frame_of_snapshots (h : rasterizer.Memoryless s) {numbers : List Nat}
    {jobs : List (Nat × SymbolTable)} {symbols symbols' : SymbolTable}
    (hjobs : (snapshots animation.table numbers).run symbols = (.ok jobs, symbols')) {v : σ}
    (hv : rasterizer.Reaches s v) (stats : Stats) (t : τ) :
    let delivered := (deliverAll sink animation.timeline stats
      (jobs.map (jobOutcome rasterizer settings directives s))).run t
    ∃ left w, rasterizer.Reaches s w ∧
      (numbers.foldlM (frame rasterizer sink settings directives animation) stats).run
        ⟨symbols, v, t⟩ = (delivered.1, ⟨left, w, delivered.2⟩) := by
  induction numbers generalizing jobs symbols v stats t with
  | nil =>
      obtain ⟨rfl, rfl⟩ := pure_eq_ok_iff.mp hjobs
      exact ⟨symbols, v, hv, rfl⟩
  | cons number numbers ih =>
      obtain ⟨first, rest, hrow, hrest, rfl⟩ := snapshots_cons_eq_ok_iff.mp hjobs
      obtain ⟨w, hw, hframe⟩ :=
        run_frame_of_row sink settings directives animation h hrow hv stats t
      rw [List.map_cons, deliverAll_cons, List.foldlM_cons]
      simp only [run_bind, hframe]
      rcases (deliverOutcome sink animation.timeline stats
        (jobOutcome rasterizer settings directives s (number, first))).run t with ⟨e | between, u⟩
      · exact ⟨first, w, hw, rfl⟩
      · exact ih hrest hw between u

variable (schedule : Schedule)

/-- A chunk whose rows can be written comes to what its jobs come to, delivered in order. -/
theorem run_chunk_of_snapshots (h : rasterizer.Memoryless s) {c : Chunk}
    {jobs : List (Nat × SymbolTable)} {symbols symbols' : SymbolTable}
    (hjobs : (snapshots animation.table c.frames).run symbols = (.ok jobs, symbols')) {v : σ}
    (hv : rasterizer.Reaches s v) (stats : Stats) (t : τ) :
    let delivered := (deliverAll sink animation.timeline stats
      (jobs.map (jobOutcome rasterizer settings directives s))).run t
    ∃ w, rasterizer.Reaches s w ∧
      (chunk rasterizer sink settings directives animation schedule stats c).run ⟨symbols, v, t⟩ =
        (delivered.1, ⟨symbols', w, delivered.2⟩) := by
  obtain ⟨w, hw, hrendered⟩ :=
    renderChunk_of_snapshots settings directives animation schedule h hjobs hv
  refine ⟨w, hw, ?_⟩
  simp only [chunk, run_bind, onSymbols, onRasterizer, onSink, run_within, hjobs, hrendered]

/-- A chunk with a row that cannot be written fails before anything of it is delivered. -/
theorem run_chunk_of_fault (rasterizer : Rasterizer σ) {c : Chunk}
    {symbols symbols' : SymbolTable} {e : Fault}
    (hfault : (snapshots animation.table c.frames).run symbols = (.error e, symbols')) (v : σ)
    (stats : Stats) (t : τ) :
    (chunk rasterizer sink settings directives animation schedule stats c).run ⟨symbols, v, t⟩ =
      (.error e, ⟨symbols', v, t⟩) := by
  simp only [chunk, run_bind, onSymbols, run_within, hfault]

end

/-! ### Rows that cannot be written -/

section

variable {table : KnobTable} {t u : SymbolTable} {e : Fault}

theorem snapshots_cons (number : Nat) (numbers : List Nat) :
    snapshots table (number :: numbers) =
      (do
        writeRow table number
        let first ← inspect id
        let rest ← snapshots table numbers
        return (number, first) :: rest : Action SymbolTable (List (Nat × SymbolTable))) := by
  simp only [snapshots, List.mapM_cons, bind_assoc, pure_bind]

/-- Rows cannot be written in order if the first cannot be, or after it one of the others. -/
theorem fault_of_snapshots_cons {number : Nat} {numbers : List Nat}
    (h : (snapshots table (number :: numbers)).run t = (.error e, u)) :
    (writeRow table number).run t = (.error e, u) ∨
      ∃ first, (writeRow table number).run t = (.ok (), first) ∧
        (snapshots table numbers).run first = (.error e, u) := by
  rw [snapshots_cons, bind_eq_error_iff] at h
  rcases h with hrow | ⟨⟨⟩, first, hrow, h⟩
  · exact .inl hrow
  · refine .inr ⟨first, hrow, ?_⟩
    change (snapshots table numbers >>= fun rest => pure ((number, first) :: rest)).run first =
      _ at h
    rcases bind_eq_error_iff.mp h with hrest | ⟨_, _, _, h⟩
    · exact hrest
    · cases h

/-- If rows that are there cannot be written in order, a name in one of them is a set of constants,
and the fault is about it. -/
theorem fault_of_snapshots {numbers : List Nat} (hnumbers : ∀ n ∈ numbers, n < table.size)
    (h : (snapshots table numbers).run t = (.error e, u)) :
    ∃ row ∈ numbers, ∃ name, (table.value? row name).isSome ∧
      (SymbolTable.constants? t name).isSome ∧ e = .notKnob name := by
  induction numbers generalizing t with
  | nil => cases h
  | cons number numbers ih =>
      obtain ⟨hnumber, hothers⟩ := List.forall_mem_cons.mp hnumbers
      rcases fault_of_snapshots_cons h with hrow | ⟨first, hrow, hrest⟩
      · obtain ⟨name, hname, hconstants, he⟩ := fault_of_writeRow hnumber hrow
        exact ⟨number, List.mem_cons_self, name, hname,
          Option.isSome_iff_ne_none.mpr hconstants, he⟩
      · obtain ⟨row, hmem, name, hname, hconstants, he⟩ := ih hothers hrest
        rw [constants?_of_writeRow hrow] at hconstants
        exact ⟨row, List.mem_cons_of_mem number hmem, name, hname, hconstants, he⟩

end

/-! ### Chunks and frames side by side -/

section

variable {rasterizer : Rasterizer σ} {s : σ} (sink : Sink τ) (settings : Settings)
  (directives : List Directive) (animation : Animation) (schedule : Schedule)

/-- Where frames fail one after the other, chunks fail.  They fail alike, unless the chunk of the
failing frame has a row that cannot be written; then nothing of this chunk is delivered. -/
theorem foldlM_chunk_fails (h : rasterizer.Memoryless s) {chunks : List Chunk}
    (hrows : ∀ c ∈ chunks, ∀ n ∈ c.frames, n < animation.table.size) {symbols : SymbolTable}
    {v v' : σ} (hv : rasterizer.Reaches s v) (hv' : rasterizer.Reaches s v') {stats : Stats} {t : τ}
    {e : Fault} {u : Studio σ τ}
    (hfails : ((chunks.flatMap Chunk.frames).foldlM
      (frame rasterizer sink settings directives animation) stats).run ⟨symbols, v, t⟩ =
        (.error e, u)) :
    ∃ e' w, (chunks.foldlM (chunk rasterizer sink settings directives animation schedule)
        stats).run ⟨symbols, v', t⟩ = (.error e', w) ∧
      ((e' = e ∧ w.sink = u.sink) ∨
        ∃ front c rest, chunks = front ++ c :: rest ∧
          (∃ stats' x, ((front.flatMap Chunk.frames).foldlM
              (frame rasterizer sink settings directives animation) stats).run ⟨symbols, v, t⟩ =
                (.ok stats', x) ∧ w.sink = x.sink ∧
            (c.frames.foldlM (frame rasterizer sink settings directives animation) stats').run x =
              (.error e, u)) ∧
          ∃ row ∈ c.frames, ∃ name, (animation.table.value? row name).isSome ∧
            (SymbolTable.constants? symbols name).isSome ∧ e' = .notKnob name) := by
  induction chunks generalizing symbols v v' stats t with
  | nil => cases hfails
  | cons c chunks ih =>
      obtain ⟨hfirst, hothers⟩ := List.forall_mem_cons.mp hrows
      rcases hsnapshots : (snapshots animation.table c.frames).run symbols with
        ⟨e' | jobs, symbols'⟩
      · have hchunk := run_chunk_of_fault sink settings directives animation schedule rasterizer
          hsnapshots v' stats t
        have hhere : (c.frames.foldlM (frame rasterizer sink settings directives animation)
            stats).run ⟨symbols, v, t⟩ = (.error e, u) := by
          rw [List.flatMap_cons, List.foldlM_append, bind_eq_error_iff] at hfails
          rcases hfails with hfails | ⟨_, _, hok, _⟩
          · exact hfails
          · obtain ⟨_, _, hjobs, _, _⟩ := foldlM_frame_eq_ok_iff.mp hok
            rw [hsnapshots] at hjobs
            cases hjobs
        refine ⟨e', _, bind_eq_error_iff.mpr (.inl hchunk), .inr ?_⟩
        exact ⟨[], c, chunks, rfl, ⟨stats, ⟨symbols, v, t⟩, rfl, rfl, hhere⟩,
          fault_of_snapshots hfirst hsnapshots⟩
      · obtain ⟨left, w, hw, hframes⟩ := run_foldlM_frame_of_snapshots sink settings directives
          animation h hsnapshots hv stats t
        obtain ⟨w', hw', hchunk⟩ := run_chunk_of_snapshots sink settings directives animation
          schedule h hsnapshots hv' stats t
        rw [List.flatMap_cons, List.foldlM_append, bind_eq_error_iff, hframes] at hfails
        rcases hdelivered : (deliverAll sink animation.timeline stats
          (jobs.map (jobOutcome rasterizer settings directives s))).run t with ⟨e₁ | between, t₁⟩
        · -- Both ways stop at the same outcome of the chunk.
          rw [hdelivered] at hfails hchunk
          rcases hfails with hfails | ⟨_, _, hok, _⟩
          · obtain ⟨he, rfl⟩ := Prod.mk.inj hfails
            obtain rfl := Except.error.inj he
            exact ⟨e₁, _, bind_eq_error_iff.mpr (.inl hchunk), .inl ⟨rfl, rfl⟩⟩
          · cases hok
        · -- Both ways go on to the next chunk with the same symbols and the same sink.
          rw [hdelivered] at hfails hchunk hframes
          obtain ⟨jobs', _, hjobs', _, _⟩ := foldlM_frame_eq_ok_iff.mp hframes
          obtain rfl : symbols' = left := by
            rw [hsnapshots] at hjobs'
            exact (Prod.mk.inj hjobs').2
          rcases hfails with hfails | ⟨_, _, hok, hrest⟩
          · cases hfails
          · obtain ⟨hstats, rfl⟩ := Prod.mk.inj hok
            obtain rfl := Except.ok.inj hstats
            obtain ⟨e', y, hy, hends⟩ := ih hothers hw hw' hrest
            refine ⟨e', y, bind_eq_error_iff.mpr (.inr ⟨between, _, hchunk, hy⟩), ?_⟩
            rcases hends with hsame |
              ⟨front, d, rest, rfl, ⟨stats', x, hx, hsink, hhere⟩, row, hrow, name, hname, hbound,
                he⟩
            · exact .inl hsame
            · refine .inr ⟨c :: front, d, rest, rfl, ⟨stats', x, ?_, hsink, hhere⟩, row, hrow, name,
                hname, ?_, he⟩
              · rw [List.flatMap_cons]
                exact foldlM_append_eq_ok_iff.mpr ⟨between, _, hframes, hx⟩
              · rw [← (constants?_of_snapshots hsnapshots name).1]
                exact hbound

end

/-! ### Whole renders -/

/-- A name on the rows of some frames is a set of constants, so that a row cannot be written. -/
def Clash (animation : Animation) (symbols : SymbolTable) (numbers : List Nat) (name : String) :
    Prop :=
  ∃ row ∈ numbers, (animation.table.value? row name).isSome ∧
    (SymbolTable.constants? symbols name).isSome

section

variable {rasterizer : Rasterizer σ} (sink : Sink τ) (settings : Settings)
  (directives : List Directive) (animation : Animation) (schedule : Schedule)

/-- Where a render without workers fails, one with workers fails.  It fails alike, unless the chunk
of the failing frame has a clash; then it delivers the frames before this chunk and no more. -/
theorem parallel_fails {studio : Studio σ τ} (h : rasterizer.Memoryless studio.rasterizer)
    (threading : Threading) (hthreads : threading.threads ≠ some 0)
    (hlength : checkLength animation = .ok ()) {e : Fault} {u : Studio σ τ}
    (hfails : (sequential rasterizer sink settings directives animation).run studio =
      (.error e, u)) :
    ∃ e' w, (parallel rasterizer sink settings directives animation threading schedule).run
        studio = (.error e', w) ∧
      ((e' = e ∧ w.sink = u.sink) ∨
        ∃ c ∈ Chunk.all animation.timeline.frameCount threading.chunkSize,
          (∃ stats x, (framesBefore rasterizer sink settings directives animation
              c.first.toNat).run studio = (.ok stats, x) ∧ w.sink = x.sink ∧
            (c.frames.foldlM (frame rasterizer sink settings directives animation) stats).run x =
              (.error e, u)) ∧
          ∃ name, Clash animation studio.symbols c.frames name ∧ e' = .notKnob name) := by
  have hsize := checkLength_eq_ok_iff.mp hlength
  have hall := Chunk.flatMap_frames_all animation.timeline.frameCount threading.chunkSize
  have hrows : ∀ c ∈ Chunk.all animation.timeline.frameCount threading.chunkSize,
      ∀ n ∈ c.frames, n < animation.table.size := by
    intro c hc n hn
    have hmem := List.mem_flatMap.mpr ⟨c, hc, hn⟩
    rw [hall, List.mem_range] at hmem
    rwa [hsize]
  have hfails : (((Chunk.all animation.timeline.frameCount threading.chunkSize).flatMap
      Chunk.frames).foldlM (frame rasterizer sink settings directives animation) noStats).run
        ⟨studio.symbols, studio.rasterizer, studio.sink⟩ = (.error e, u) := by
    rw [hall]
    exact hfails
  obtain ⟨e', w, hrun, hends⟩ := foldlM_chunk_fails sink settings directives animation schedule h
    hrows .start (.forked .start) hfails
  refine ⟨e', w, ?_, ?_⟩
  · rw [run_parallel sink settings directives animation schedule hthreads studio
      (h.forks _ .start)]
    exact hrun
  · rcases hends with hsame |
      ⟨front, c, rest, hsplit, ⟨stats, x, hx, hsink, hhere⟩, row, hrow, name, hname, hbound, he⟩
    · exact .inl hsame
    · refine .inr ⟨c, ?_, ⟨stats, x, ?_, hsink, hhere⟩, name, ⟨row, hrow, hname, hbound⟩, he⟩
      · rw [hsplit]
        exact List.mem_append_right _ List.mem_cons_self
      · rw [(Chunk.flatMap_frames_before hsplit).1] at hx
        exact hx

/-- Where a render without workers does all frames, one with workers does. -/
theorem parallel_of_sequential {studio : Studio σ τ} (h : rasterizer.Memoryless studio.rasterizer)
    (threading : Threading) (hthreads : threading.threads ≠ some 0) {stats : Stats}
    {u : Studio σ τ}
    (hok : (sequential rasterizer sink settings directives animation).run studio =
      (.ok stats, u)) :
    ∃ w, (parallel rasterizer sink settings directives animation threading schedule).run studio =
      (.ok stats, ⟨u.symbols, w, u.sink⟩) :=
  (parallel_iff_phased sink settings directives animation schedule h hthreads).mpr
    ((sequential_iff_phased sink settings directives animation h).mp ⟨u.rasterizer, hok⟩)

/-- The calls of frames are added to those made before. -/
theorem calls_grow {numbers : List Nat} {stats : Stats} {x u : Studio σ (τ × List Sink.Call)}
    {r : Except Fault Stats}
    (h : (numbers.foldlM (frame rasterizer sink.recorded settings directives animation) stats).run
      x = (r, u)) : x.sink.2 <+: u.sink.2 := by
  obtain ⟨more, hmore⟩ := recordedBy_foldlM
    (frame_recordedBy rasterizer sink settings directives animation) numbers stats
    ⟨x.symbols, x.rasterizer, x.sink.1⟩ x.sink.2
  have hx : (numbers.foldlM (frame rasterizer sink.recorded settings directives animation)
      stats).run x = _ := hmore
  rw [h] at hx
  rw [(Prod.mk.inj hx).2]
  exact List.prefix_append _ _

end

/-- **Where a render without workers fails, one with workers fails.**  For a rasterizer without a
memory both fail alike and make the same calls, unless the chunk of the failing frame has a clash: a
name on one of its rows that is a set of constants.  Then the render with workers fails with this
clash, and the calls that it makes are those of the frames before the chunk, which the other render
makes as well, perhaps among others.  So without a clash anywhere the two ways cannot be told apart
where they fail. -/
theorem failing_renders {rasterizer : Rasterizer σ} (sink : Sink τ) (settings : Settings)
    (directives : List Directive) (animation : Animation) (schedule : Schedule)
    (studio : Studio σ τ) (h : rasterizer.Memoryless studio.rasterizer) (chunkSize : UInt64)
    {threads : Option UInt64} (hthreads : threads ≠ some 0) {e : Fault}
    {u : Studio σ (τ × List Sink.Call)} :
    let recorded (parallel : Bool) := (frames rasterizer sink.recorded settings directives
      ⟨parallel, chunkSize, threads⟩ schedule animation).run (studio.noting [])
    recorded false = (.error e, u) →
    ∃ e' w, recorded true = (.error e', w) ∧
      ((e' = e ∧ w.sink = u.sink) ∨
        ∃ c ∈ Chunk.all animation.timeline.frameCount chunkSize,
          (∃ stats x, (framesBefore rasterizer sink.recorded settings directives animation
              c.first.toNat).run (studio.noting []) = (.ok stats, x) ∧ w.sink = x.sink ∧
            (c.frames.foldlM (frame rasterizer sink.recorded settings directives animation)
              stats).run x = (.error e, u) ∧ w.sink.2 <+: u.sink.2) ∧
          ∃ name, Clash animation studio.symbols c.frames name ∧ e' = .notKnob name) := by
  intro recorded hfails
  change (frames rasterizer sink.recorded settings directives ⟨false, chunkSize, threads⟩ schedule
    animation).run (studio.noting []) = (.error e, u) at hfails
  change ∃ e' w, (frames rasterizer sink.recorded settings directives ⟨true, chunkSize, threads⟩
    schedule animation).run (studio.noting []) = (.error e', w) ∧ _
  rw [frames_eq_phases, bind_eq_error_iff] at hfails
  rw [frames_eq_phases]
  simp only [bind_eq_error_iff]
  rcases hfails with hvalid | ⟨_, _, hvalid, hfails⟩
  · exact ⟨e, u, .inl hvalid, .inl ⟨rfl, rfl⟩⟩
  rcases bind_eq_error_iff.mp hfails with hlength | ⟨_, _, hlength, hfails⟩
  · exact ⟨e, u, .inr ⟨_, _, hvalid, .inl hlength⟩, .inl ⟨rfl, rfl⟩⟩
  obtain ⟨_, rfl⟩ := ofExcept_eq_ok_iff.mp hvalid
  obtain ⟨hsize, rfl⟩ := ofExcept_eq_ok_iff.mp hlength
  rcases bind_eq_error_iff.mp hfails with hbody | ⟨stats, x, hbody, hfails⟩
  · obtain ⟨e', w, hparallel, hends⟩ := parallel_fails sink.recorded settings directives animation
      schedule h ⟨true, chunkSize, threads⟩ hthreads hsize hbody
    refine ⟨e', w, .inr ⟨_, _, hvalid, .inr ⟨_, _, hlength, .inl hparallel⟩⟩, ?_⟩
    rcases hends with hsame | ⟨c, hc, ⟨stats, x, hbefore, hsink, hhere⟩, hclash⟩
    · exact .inl hsame
    · refine .inr ⟨c, hc, ⟨stats, x, hbefore, hsink, hhere, ?_⟩, hclash⟩
      rw [hsink]
      exact calls_grow sink settings directives animation hhere
  · -- All frames are delivered both ways, and then they cannot be joined.
    obtain ⟨w, hparallel⟩ := parallel_of_sequential sink.recorded settings directives animation
      schedule h ⟨true, chunkSize, threads⟩ hthreads hbody
    rcases bind_eq_error_iff.mp hfails with hfinish | ⟨_, _, _, hfails⟩
    · obtain ⟨hfault, rfl⟩ := Prod.mk.inj hfinish
      refine ⟨e, ⟨x.symbols, w, ((finish sink.recorded animation.timeline).run x.sink).2⟩,
        .inr ⟨_, _, hvalid, .inr ⟨_, _, hlength, .inr ⟨stats, _, hparallel, .inl ?_⟩⟩⟩,
        .inl ⟨rfl, rfl⟩⟩
      exact Prod.ext hfault rfl
    · cases hfails

/-- A sink that counts its calls and refuses one of them. -/
def refusing (call : Nat) : Sink Nat :=
  let tick : Action Nat Unit := do
    Action.update (· + 1)
    let count ← Action.inspect id
    if count = call then Action.fail (.reported .lookup "refused") else return
  { display := fun _ => tick, store := fun _ _ => tick, join := fun _ => tick }

/-- Three frames of which the last two vary a name. -/
def clashing : Animation :=
  ⟨⟨"clash", true, 3⟩,
    ⟨[NameMap.empty, NameMap.empty.insert "gold" 0, NameMap.empty.insert "gold" 1]⟩⟩

/-- The symbols of a scene in which this name is a set of constants. -/
def golden : Studio Unit Nat := ⟨NameMap.empty.insert "gold" (.constants .standard), (), 0⟩

/-- If the name is a knob, the sink is what stops both renders, in the middle of the third frame,
and both have made the same calls. -/
theorem refused_fails :
    let render (call : Nat) (chunkSize : UInt64) (studio : Studio Unit Nat) (parallel : Bool) :=
      (frames Rasterizer.idle (refusing call).recorded .standard [.display]
        ⟨parallel, chunkSize, some 2⟩ .together clashing).run (studio.noting [])
    let delivery (number : Nat) : List Sink.Call := [.display Settings.standard.blankSurface,
      .store Settings.standard.blankSurface (numberedName "clash" number "png")]
    Rasterizer.idle.Memoryless () ∧ (some 2 : Option UInt64) ≠ some 0 ∧
      (∃ e u, render 2 64 golden false = (.error e, u) ∧
        ∃ e' w, render 2 64 golden true = (.error e', w)) ∧
      ∃ u w, render 6 2 ⟨.empty, (), 0⟩ false = (.error (.reported .lookup "refused"), u) ∧
        render 6 2 ⟨.empty, (), 0⟩ true = (.error (.reported .lookup "refused"), w) ∧
        w.sink = u.sink ∧ w.sink.2 = delivery 0 ++ delivery 1 ++ delivery 2 := by
  intro render delivery
  have hthreads : (some 2 : Option UInt64) ≠ some 0 := by decide
  refine ⟨Rasterizer.memoryless_idle, hthreads, ⟨_, _, rfl, ?_⟩, ?_⟩
  · obtain ⟨e', w, hrun, _⟩ := failing_renders (refusing 2) .standard [.display] clashing .together
      golden Rasterizer.memoryless_idle 64 hthreads rfl
    exact ⟨e', w, hrun⟩
  · obtain ⟨u, hfails, hcalls⟩ : ∃ u, render 6 2 ⟨.empty, (), 0⟩ false =
        (.error (.reported .lookup "refused"), u) ∧
          u.sink.2 = delivery 0 ++ delivery 1 ++ delivery 2 := ⟨_, rfl, rfl⟩
    obtain ⟨e', w, hrun, ⟨rfl, hsink⟩ | ⟨_, _, _, name, ⟨_, _, _, hconstants⟩, _⟩⟩ :=
      failing_renders (refusing 6) .standard [.display] clashing .together ⟨.empty, (), 0⟩
        Rasterizer.memoryless_idle 2 hthreads hfails
    · exact ⟨u, w, hfails, hrun, hsink, hsink ▸ hcalls⟩
    · cases hconstants

/-- Without workers the first frame is shown, and storing it is refused; with workers the clash on
the second frame comes first, and nothing is shown. -/
theorem clash_hides_calls :
    let recorded (parallel : Bool) := (frames Rasterizer.idle (refusing 2).recorded .standard
      [.display] ⟨parallel, 64, some 2⟩ .together clashing).run (golden.noting [])
    (recorded false).1 = .error (.reported .lookup "refused") ∧
      (recorded false).2.sink.2 = [.display Settings.standard.blankSurface,
        .store Settings.standard.blankSurface (numberedName "clash" 0 "png")] ∧
      (recorded true).1 = .error (.notKnob "gold") ∧ (recorded true).2.sink.2 = [] := by
  intro recorded
  have hchunks : Chunk.all clashing.timeline.frameCount (⟨true, 64, some 2⟩ : Threading).chunkSize =
      [⟨0, 3⟩] := by
    have hstop : Chunk.stopAfter 3 (Chunk.size 64).1 0 = 3 := by decide
    change Chunk.startingAt 3 (Chunk.size 64) 0 = _
    rw [Chunk.startingAt, dif_pos (by decide), hstop, Chunk.startingAt, dif_neg (by decide)]
  have hbody : (body Rasterizer.idle (refusing 2).recorded .standard [.display] clashing
      ⟨true, 64, some 2⟩ .together).run (golden.noting []) =
        (.error (.notKnob "gold"), golden.noting []) := by
    change (parallel Rasterizer.idle (refusing 2).recorded .standard [.display] clashing
      ⟨true, 64, some 2⟩ .together).run (golden.noting []) = _
    rw [run_parallel _ _ _ _ _ (by decide) _ rfl, hchunks]
    rfl
  have htrue : recorded true = (.error (.notKnob "gold"), golden.noting []) := by
    change (frames Rasterizer.idle (refusing 2).recorded .standard [.display]
      ⟨true, 64, some 2⟩ .together clashing).run (golden.noting []) = _
    rw [frames_eq_phases]
    refine bind_eq_error_iff.mpr (.inr ⟨(), _, rfl, ?_⟩)
    refine bind_eq_error_iff.mpr (.inr ⟨(), _, rfl, ?_⟩)
    exact bind_eq_error_iff.mpr (.inl hbody)
  refine ⟨rfl, rfl, ?_, ?_⟩
  · rw [htrue]
  · rw [htrue]
    rfl

end Render
end SceneScript
