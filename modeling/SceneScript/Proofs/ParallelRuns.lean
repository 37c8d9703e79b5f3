import SceneScript.Proofs.ChunkPartition
import SceneScript.Proofs.Memoryless
import SceneScript.Proofs.Phases

/-! # Workers do not change a render

For a rasterizer without a memory the outcome of a frame depends on its number and its symbols
alone.  `Render.Phased` is a successful run of frames in these terms: all knob rows are written, all
frames succeed and all of them are delivered.  Frames that are rendered one after the other succeed
in this sense (`foldlM_frame_iff_phased`), and so do frames that are rendered chunk by chunk
(`foldlM_chunk_iff_phased`), whatever the chunks and the schedule.  As the chunks of an
animation partition its frames, both ways to render it agree: `frames_parallel_iff` and, with the
calls to the sink, `parallel_refines_sequential`. -/

namespace SceneScript
namespace Render

open SceneScript.Action

variable {σ τ : Type}

/-- A successful run of frames phase by phase, for frames with known outcomes. -/
def Phased (sink : Sink τ) (animation : Animation)
    (outcome : Nat × SymbolTable → Except Fault Frame) (numbers : List Nat)
    (stats : Stats) (symbols : SymbolTable) (t : τ)
    (stats' : Stats) (symbols' : SymbolTable) (t' : τ) : Prop :=
  ∃ jobs fs, (snapshots animation.table numbers).run symbols = (.ok jobs, symbols') ∧
    jobs.map outcome = fs.map .ok ∧
    (deliverFrames sink animation.timeline stats fs).run t = (.ok stats', t')

section

variable {sink : Sink τ} {animation : Animation}
  {outcome : Nat × SymbolTable → Except Fault Frame} {stats stats' : Stats}
  {symbols symbols' : SymbolTable} {t t' : τ}

theorem phased_nil_iff :
    Phased sink animation outcome [] stats symbols t stats' symbols' t' ↔
      stats = stats' ∧ symbols = symbols' ∧ t = t' := by
  constructor
  · rintro ⟨jobs, fs, hjobs, houtcomes, hdeliver⟩
    obtain ⟨rfl, rfl⟩ := pure_eq_ok_iff.mp hjobs
    obtain rfl : fs = [] := List.map_eq_nil_iff.mp houtcomes.symm
    obtain ⟨rfl, rfl⟩ := pure_eq_ok_iff.mp hdeliver
    exact ⟨rfl, rfl, rfl⟩
  · rintro ⟨rfl, rfl, rfl⟩
    exact ⟨[], [], rfl, rfl, rfl⟩

/-- Runs of frames can be cut anywhere. -/
theorem phased_append_iff {xs ys : List Nat} :
    Phased sink animation outcome (xs ++ ys) stats symbols t stats' symbols' t' ↔
      ∃ between middle s, Phased sink animation outcome xs stats symbols t between middle s ∧
        Phased sink animation outcome ys between middle s stats' symbols' t' := by
  constructor
  · rintro ⟨jobs, fs, hjobs, houtcomes, hdeliver⟩
    obtain ⟨front, middle, back, hfront, hback, rfl⟩ := mapM_append_eq_ok_iff.mp hjobs
    rw [List.map_append] at houtcomes
    obtain ⟨fs, gs, rfl, hfs, hgs⟩ := List.map_eq_append_iff.mp houtcomes.symm
    obtain ⟨between, s, hfirst, hsecond⟩ := foldlM_append_eq_ok_iff.mp hdeliver
    exact ⟨between, middle, s, ⟨front, fs, hfront, hfs.symm, hfirst⟩,
      ⟨back, gs, hback, hgs.symm, hsecond⟩⟩
  · rintro ⟨between, middle, s, ⟨front, fs, hfront, hfs, hfirst⟩, back, gs, hback, hgs, hsecond⟩
    refine ⟨front ++ back, fs ++ gs, ?_, ?_, ?_⟩
    · exact mapM_append_eq_ok_iff.mpr ⟨front, middle, back, hfront, hback, rfl⟩
    · rw [List.map_append, List.map_append, hfs, hgs]
    · exact foldlM_append_eq_ok_iff.mpr ⟨between, s, hfirst, hsecond⟩

/-- Outcomes can be delivered if there is no fault among them and the frames can be. -/
theorem deliverAll_eq_ok_iff {outcomes : List (Except Fault Frame)} :
    (deliverAll sink animation.timeline stats outcomes).run t = (.ok stats', t') ↔
      ∃ fs, outcomes = fs.map .ok ∧
        (deliverFrames sink animation.timeline stats fs).run t = (.ok stats', t') := by
  induction outcomes generalizing stats t with
  | nil =>
      constructor
      · intro h
        exact ⟨[], rfl, h⟩
      · rintro ⟨fs, hfs, h⟩
        obtain rfl : fs = [] := List.map_eq_nil_iff.mp hfs.symm
        exact h
  | cons r outcomes ih =>
      rw [deliverAll, foldlM_cons_eq_ok_iff]
      constructor
      · rintro ⟨between, s, hr, hrest⟩
        obtain ⟨f, _, hf, hdeliver⟩ := bind_eq_ok_iff.mp hr
        obtain ⟨rfl, rfl⟩ := ofExcept_eq_ok_iff.mp hf
        obtain ⟨fs, rfl, hdelivers⟩ := ih.mp hrest
        exact ⟨f :: fs, rfl, foldlM_cons_eq_ok_iff.mpr ⟨between, s, hdeliver, hdelivers⟩⟩
      · rintro ⟨fs, hfs, h⟩
        obtain ⟨f, fs, rfl, rfl, rfl⟩ := List.map_eq_cons_iff.mp hfs.symm
        obtain ⟨between, s, hdeliver, hdelivers⟩ := foldlM_cons_eq_ok_iff.mp h
        exact ⟨between, s, bind_eq_ok_iff.mpr ⟨f, t, rfl, hdeliver⟩, ih.mpr ⟨fs, rfl, hdelivers⟩⟩

end

section

variable {rasterizer : Rasterizer σ} {s : σ} (sink : Sink τ) (settings : Settings)
  (directives : List Directive) (animation : Animation)

/-- Jobs are run if none of their outcomes is a fault. -/
theorem runJobs_eq_ok_iff (h : rasterizer.Memoryless s) {jobs : List (Nat × SymbolTable)}
    {fs : List Frame} {t : σ} (ht : rasterizer.Reaches s t) :
    (∃ u, (runJobs rasterizer settings directives jobs).run t = (.ok fs, u)) ↔
      jobs.map (jobOutcome rasterizer settings directives s) = fs.map .ok := by
  induction jobs generalizing fs t with
  | nil =>
      constructor
      · rintro ⟨u, hrun⟩
        obtain ⟨rfl, rfl⟩ := pure_eq_ok_iff.mp hrun
        rfl
      · intro hfs
        obtain rfl : fs = [] := List.map_eq_nil_iff.mp hfs.symm
        exact ⟨t, rfl⟩
  | cons job jobs ih =>
      have hrun := Frame.steady_run settings job.2 h directives job.1
      have hstays := hrun.stays t ht
      have hsame : ((Frame.run rasterizer settings directives job.1 job.2).run t).1 =
          jobOutcome rasterizer settings directives s job := hrun.same t s ht .start
      constructor
      · rintro ⟨u, hjobs⟩
        obtain ⟨f, v, fs, hf, hfs, rfl⟩ := mapM_cons_eq_ok_iff.mp hjobs
        rw [hf] at hstays hsame
        rw [List.map_cons, List.map_cons, ← hsame, (ih hstays).mp ⟨u, hfs⟩]
      · intro houtcomes
        obtain ⟨f, fs, rfl, hf, hfs⟩ := List.map_eq_cons_iff.mp houtcomes.symm
        obtain ⟨u, hjobs⟩ := (ih hstays).mpr hfs.symm
        refine ⟨u, mapM_cons_eq_ok_iff.mpr ⟨f, _, fs, ?_, hjobs, rfl⟩⟩
        exact Prod.ext (hsame.trans hf.symm) rfl

/-- Frames that are rendered one after the other succeed phase by phase. -/
theorem foldlM_frame_iff_phased (h : rasterizer.Memoryless s) {numbers : List Nat}
    {stats stats' : Stats} {st : Studio σ τ} (hr : rasterizer.Reaches s st.rasterizer)
    {symbols : SymbolTable} {t : τ} :
    (∃ u, (numbers.foldlM (frame rasterizer sink settings directives animation) stats).run st =
        (.ok stats', ⟨symbols, u, t⟩)) ↔
      Phased sink animation (jobOutcome rasterizer settings directives s) numbers
        stats st.symbols st.sink stats' symbols t := by
  simp only [foldlM_frame_eq_ok_iff]
  constructor
  · rintro ⟨u, jobs, fs, hjobs, hfs, hdeliver⟩
    exact ⟨jobs, fs, hjobs, (runJobs_eq_ok_iff settings directives h hr).mp ⟨u, hfs⟩, hdeliver⟩
  · rintro ⟨jobs, fs, hjobs, houtcomes, hdeliver⟩
    obtain ⟨u, hfs⟩ := (runJobs_eq_ok_iff settings directives h hr).mpr houtcomes
    exact ⟨u, jobs, fs, hjobs, hfs, hdeliver⟩

variable (schedule : Schedule)

/-- The jobs of a chunk are rendered, and the rasterizer is still without a memory. -/
theorem renderChunk_of_snapshots (h : rasterizer.Memoryless s) {c : Chunk}
    {symbols symbols' : SymbolTable} {jobs : List (Nat × SymbolTable)}
    (hjobs : (snapshots animation.table c.frames).run symbols = (.ok jobs, symbols')) {t : σ}
    (ht : rasterizer.Reaches s t) :
    ∃ u, rasterizer.Reaches s u ∧
      (renderChunk rasterizer settings directives schedule c jobs).run t =
        (.ok (jobs.map (jobOutcome rasterizer settings directives s)), u) := by
  have hlength : jobs.length = c.length := (length_of_mapM_eq_ok hjobs).trans c.length_frames
  exact renderChunk_eq settings directives jobs h schedule hlength ht

theorem reaches_of_chunk {c : Chunk} {stats stats' : Stats} {st u : Studio σ τ}
    (hr : rasterizer.Reaches s st.rasterizer)
    (hrun : (chunk rasterizer sink settings directives animation schedule stats c).run st =
      (.ok stats', u)) : rasterizer.Reaches s u.rasterizer := by
  obtain ⟨jobs, _, _, hrender, _⟩ := chunk_eq_ok_iff.mp hrun
  have hreaches := reaches_renderChunk settings directives jobs schedule c hr
  rw [hrender] at hreaches
  exact hreaches

/-- The frames of a chunk succeed phase by phase. -/
theorem chunk_iff_phased (h : rasterizer.Memoryless s) {c : Chunk} {stats stats' : Stats}
    {st : Studio σ τ} (hr : rasterizer.Reaches s st.rasterizer) {symbols : SymbolTable} {t : τ} :
    (∃ u, (chunk rasterizer sink settings directives animation schedule stats c).run st =
        (.ok stats', ⟨symbols, u, t⟩)) ↔
      Phased sink animation (jobOutcome rasterizer settings directives s) c.frames
        stats st.symbols st.sink stats' symbols t := by
  simp only [chunk_eq_ok_iff, deliverAll_eq_ok_iff]
  constructor
  · rintro ⟨u, jobs, outcomes, hjobs, hrender, fs, rfl, hdeliver⟩
    obtain ⟨_, _, hrendered⟩ :=
      renderChunk_of_snapshots settings directives animation schedule h hjobs hr
    rw [hrendered] at hrender
    exact ⟨jobs, fs, hjobs, Except.ok.inj (Prod.mk.inj hrender).1, hdeliver⟩
  · rintro ⟨jobs, fs, hjobs, houtcomes, hdeliver⟩
    obtain ⟨u, _, hrendered⟩ :=
      renderChunk_of_snapshots settings directives animation schedule h hjobs hr
    exact ⟨u, jobs, _, hjobs, hrendered, fs, houtcomes, hdeliver⟩

/-- Frames that are rendered chunk by chunk succeed phase by phase. -/
theorem foldlM_chunk_iff_phased (h : rasterizer.Memoryless s) {chunks : List Chunk}
    {stats stats' : Stats} {st : Studio σ τ} (hr : rasterizer.Reaches s st.rasterizer)
    {symbols : SymbolTable} {t : τ} :
    (∃ u, (chunks.foldlM (chunk rasterizer sink settings directives animation schedule)
        stats).run st = (.ok stats', ⟨symbols, u, t⟩)) ↔
      Phased sink animation (jobOutcome rasterizer settings directives s)
        (chunks.flatMap Chunk.frames) stats st.symbols st.sink stats' symbols t := by
  induction chunks generalizing stats st with
  | nil =>
      rw [List.flatMap_nil, phased_nil_iff]
      constructor
      · rintro ⟨u, hrun⟩
        obtain ⟨rfl, rfl⟩ := pure_eq_ok_iff.mp hrun
        exact ⟨rfl, rfl, rfl⟩
      · rintro ⟨rfl, rfl, rfl⟩
        exact ⟨st.rasterizer, rfl⟩
  | cons c chunks ih =>
      rw [List.flatMap_cons, phased_append_iff]
      constructor
      · rintro ⟨u, hrun⟩
        obtain ⟨between, middle, hchunk, hchunks⟩ := foldlM_cons_eq_ok_iff.mp hrun
        have hstays := reaches_of_chunk sink settings directives animation schedule hr hchunk
        refine ⟨between, middle.symbols, middle.sink, ?_, (ih hstays).mp ⟨u, hchunks⟩⟩
        exact (chunk_iff_phased sink settings directives animation schedule h hr).mp
          ⟨middle.rasterizer, hchunk⟩
      · rintro ⟨between, middle, v, hfirst, hrest⟩
        obtain ⟨u, hchunk⟩ :=
          (chunk_iff_phased sink settings directives animation schedule h hr).mpr hfirst
        have hstays := reaches_of_chunk sink settings directives animation schedule hr hchunk
        obtain ⟨w, hchunks⟩ := (ih hstays).mpr hrest
        exact ⟨w, foldlM_cons_eq_ok_iff.mpr ⟨between, _, hchunk, hchunks⟩⟩

theorem run_probeFork {t w : σ} (h : (rasterizer.fork t).1 = some w) :
    (probeFork rasterizer).run t = (.ok (), (rasterizer.fork t).2) := by
  refine bind_eq_ok_iff.mpr ⟨some w, (rasterizer.fork t).2, ?_, rfl⟩
  rw [← h]
  rfl

/-- If the rasterizer can be forked and there is a thread, the chunks are rendered in order. -/
theorem run_parallel {threading : Threading} (hthreads : threading.threads ≠ some 0)
    (st : Studio σ τ) (hfork : (rasterizer.fork st.rasterizer).1.isSome) :
    (parallel rasterizer sink settings directives animation threading schedule).run st =
      ((Chunk.all animation.timeline.frameCount threading.chunkSize).foldlM
        (chunk rasterizer sink settings directives animation schedule) noStats).run
          ⟨st.symbols, (rasterizer.fork st.rasterizer).2, st.sink⟩ := by
  obtain ⟨w, hw⟩ := Option.isSome_iff_exists.mp hfork
  have hvalid : threading.validate = .ok () := if_neg hthreads
  rw [parallel, run_bind, onRasterizer, run_within, run_probeFork hw, hvalid]
  rfl

/-- An animation that is rendered frame by frame succeeds phase by phase. -/
theorem sequential_iff_phased (h : rasterizer.Memoryless s) {stats : Stats}
    {symbols symbols' : SymbolTable} {t t' : τ} :
    (∃ u, (sequential rasterizer sink settings directives animation).run ⟨symbols, s, t⟩ =
        (.ok stats, ⟨symbols', u, t'⟩)) ↔
      Phased sink animation (jobOutcome rasterizer settings directives s)
        animation.timeline.frames noStats symbols t stats symbols' t' := by
  have hst : rasterizer.Reaches s (Studio.mk symbols s t).rasterizer := .start
  exact foldlM_frame_iff_phased sink settings directives animation h hst

/-- An animation that is rendered chunk by chunk succeeds phase by phase. -/
theorem parallel_iff_phased (h : rasterizer.Memoryless s) {threading : Threading}
    (hthreads : threading.threads ≠ some 0) {stats : Stats} {symbols symbols' : SymbolTable}
    {t t' : τ} :
    (∃ u, (parallel rasterizer sink settings directives animation threading schedule).run
        ⟨symbols, s, t⟩ = (.ok stats, ⟨symbols', u, t'⟩)) ↔
      Phased sink animation (jobOutcome rasterizer settings directives s)
        animation.timeline.frames noStats symbols t stats symbols' t' := by
  have hrun := run_parallel sink settings directives animation schedule hthreads
    ⟨symbols, s, t⟩ (h.forks s .start)
  rw [hrun, foldlM_chunk_iff_phased sink settings directives animation schedule h (.forked .start),
    Chunk.flatMap_frames_all]
  rfl

/-- An animation succeeds chunk by chunk if and only if it does frame by frame, and all that is
left but the rasterizer is then the same. -/
theorem frames_parallel_iff (h : rasterizer.Memoryless s) {chunkSize : UInt64}
    {threads : Option UInt64} (hthreads : threads ≠ some 0) {stats : Stats}
    {symbols symbols' : SymbolTable} {t t' : τ} :
    (∃ u, (frames rasterizer sink settings directives ⟨true, chunkSize, threads⟩ schedule
        animation).run ⟨symbols, s, t⟩ = (.ok stats, ⟨symbols', u, t'⟩)) ↔
      ∃ u, (frames rasterizer sink settings directives ⟨false, chunkSize, threads⟩ schedule
        animation).run ⟨symbols, s, t⟩ = (.ok stats, ⟨symbols', u, t'⟩) := by
  have hbody (before : τ) :
      (∃ u, (body rasterizer sink settings directives animation ⟨true, chunkSize, threads⟩
          schedule).run ⟨symbols, s, t⟩ = (.ok stats, ⟨symbols', u, before⟩)) ↔
        ∃ u, (body rasterizer sink settings directives animation ⟨false, chunkSize, threads⟩
          schedule).run ⟨symbols, s, t⟩ = (.ok stats, ⟨symbols', u, before⟩) :=
    (parallel_iff_phased sink settings directives animation schedule h hthreads).trans
      (sequential_iff_phased sink settings directives animation h).symm
  simp only [frames_eq_ok_iff]
  constructor
  · rintro ⟨u, hvalid, hlength, before, hrun, hfinish⟩
    obtain ⟨v, hrun⟩ := (hbody before).mp ⟨u, hrun⟩
    exact ⟨v, hvalid, hlength, before, hrun, hfinish⟩
  · rintro ⟨u, hvalid, hlength, before, hrun, hfinish⟩
    obtain ⟨v, hrun⟩ := (hbody before).mpr ⟨u, hrun⟩
    exact ⟨v, hvalid, hlength, before, hrun, hfinish⟩

end

/-- **Workers refine the render without them.**  For a rasterizer without a memory, any chunk size
and any schedule, a render with workers succeeds if and only if the one without does.  Both then
come to the same counts and the same symbols, and the sink receives the same calls in the same
order. -/
theorem parallel_refines_sequential {rasterizer : Rasterizer σ} {sink : Sink τ}
    {settings : Settings} {directives : List Directive} {animation : Animation}
    {schedule : Schedule} {studio : Studio σ τ} (h : rasterizer.Memoryless studio.rasterizer)
    {chunkSize : UInt64} {threads : Option UInt64} (hthreads : threads ≠ some 0) :
    let render (parallel : Bool) := (frames rasterizer sink settings directives
      ⟨parallel, chunkSize, threads⟩ schedule animation).run studio
    let recorded (parallel : Bool) := (frames rasterizer sink.recorded settings directives
      ⟨parallel, chunkSize, threads⟩ schedule animation).run (studio.noting [])
    ((∃ stats u, render true = (.ok stats, u)) ↔ ∃ stats u, render false = (.ok stats, u)) ∧
      ∀ stats u stats' u', render true = (.ok stats, u) → render false = (.ok stats', u') →
        stats = stats' ∧ u.symbols = u'.symbols ∧ u.sink = u'.sink ∧
          ∃ calls, recorded true = (.ok stats, u.noting calls) ∧
            recorded false = (.ok stats', u'.noting calls) := by
  intro render recorded
  refine ⟨?_, fun stats u stats' u' hparallel hsequential => ?_⟩
  · constructor
    · rintro ⟨stats, u, hrun⟩
      obtain ⟨v, hrun⟩ := (frames_parallel_iff sink settings directives animation schedule h
        hthreads).mp ⟨u.rasterizer, hrun⟩
      exact ⟨stats, _, hrun⟩
    · rintro ⟨stats, u, hrun⟩
      obtain ⟨v, hrun⟩ := (frames_parallel_iff sink settings directives animation schedule h
        hthreads).mpr ⟨u.rasterizer, hrun⟩
      exact ⟨stats, _, hrun⟩
  · obtain ⟨calls, hcalls⟩ := frames_recordedBy rasterizer sink settings directives animation
      ⟨true, chunkSize, threads⟩ schedule studio []
    obtain ⟨calls', hcalls'⟩ := frames_recordedBy rasterizer sink settings directives animation
      ⟨false, chunkSize, threads⟩ schedule studio []
    change _ = ((render true).1, (render true).2.noting calls) at hcalls
    change _ = ((render false).1, (render false).2.noting calls') at hcalls'
    rw [hparallel] at hcalls
    rw [hsequential] at hcalls'
    -- The two records are the same because a recorded sink is a sink.
    obtain ⟨v, hsame⟩ := (frames_parallel_iff sink.recorded settings directives animation schedule
      h hthreads).mp ⟨u.rasterizer, hcalls⟩
    obtain ⟨hstats, hleft⟩ := Prod.mk.inj (hsame.symm.trans hcalls')
    obtain ⟨hsymbols, _, hsink⟩ := Studio.mk.inj hleft
    obtain ⟨hsink, hrecord⟩ := Prod.mk.inj hsink
    refine ⟨Except.ok.inj hstats, hsymbols, hsink, calls, hcalls, ?_⟩
    rw [hrecord]
    exact hcalls'

/-- The rasterizer that divides a box into its corner, and makes the first cell white if the corner
is near the left and else the second. -/
def dotting : Rasterizer Unit :=
  { Rasterizer.idle with
    box := fun corner _ => pure ⟨[corner]⟩
    drawTriangles := fun triangles surface _ => pure
      (match triangles.points with
      | [] => surface
      | p :: _ => (surface.plot (if p.x < 1 then 0 else 1) 0 p.z ⟨255, 255, 255⟩).2) }

theorem memoryless_dotting : dotting.Memoryless () := ⟨fun _ _ => rfl, fun _ _ _ => rfl⟩

/-- A box that is moved as far as a knob says. -/
def stroll : List Directive :=
  [.motion (.move ⟨1, 0, 0⟩) (some "far"), .shape (.box ⟨0, 0, 0⟩ ⟨1, 1, 1⟩) none none]

/-- Three frames of which the last does not vary the knob. -/
def strolling : Animation :=
  ⟨⟨"stroll", true, 3⟩,
    ⟨[NameMap.empty.insert "far" 0, NameMap.empty.insert "far" 1, NameMap.empty]⟩⟩

/-- The last frame is alone in its chunk and is rendered with the knob of the one before it. -/
theorem strolling_renders_alike :
    let settings := { Settings.standard with canvas := ⟨2, 1⟩ }
    let recorded (parallel : Bool) := (frames dotting Sink.silent.recorded settings stroll
      ⟨parallel, 2, some 2⟩ .apart strolling).run (Studio.noting ⟨.empty, (), ()⟩ [])
    dotting.Memoryless () ∧ (some 2 : Option UInt64) ≠ some 0 ∧
      ∃ s₀ s₁ s₂ : Surface,
        recorded true = (.ok ⟨3, 3, 0⟩, Studio.noting ⟨NameMap.empty.insert "far" (.knob 1), (), ()⟩
          [.store s₀ (numberedName "stroll" 0 "png"), .store s₁ (numberedName "stroll" 1 "png"),
            .store s₂ (numberedName "stroll" 2 "png"), .join "stroll"]) ∧
        recorded true = recorded false ∧
        s₀.color? 0 0 = some ⟨255, 255, 255⟩ ∧ s₁.color? 0 0 = some .black ∧
        s₁.color? 1 0 = some ⟨255, 255, 255⟩ ∧ s₂.color? 1 0 = some ⟨255, 255, 255⟩ := by
  intro settings recorded
  have hthreads : (some 2 : Option UInt64) ≠ some 0 := by decide
  obtain ⟨s₀, s₁, s₂, hsequential, hcells⟩ : ∃ s₀ s₁ s₂ : Surface,
      recorded false = (.ok ⟨3, 3, 0⟩,
        Studio.noting ⟨NameMap.empty.insert "far" (.knob 1), (), ()⟩
          [.store s₀ (numberedName "stroll" 0 "png"), .store s₁ (numberedName "stroll" 1 "png"),
            .store s₂ (numberedName "stroll" 2 "png"), .join "stroll"]) ∧
      s₀.color? 0 0 = some ⟨255, 255, 255⟩ ∧ s₁.color? 0 0 = some .black ∧
        s₁.color? 1 0 = some ⟨255, 255, 255⟩ ∧ s₂.color? 1 0 = some ⟨255, 255, 255⟩ :=
    ⟨_, _, _, rfl, by decide +kernel, by decide +kernel, by decide +kernel, by decide +kernel⟩
  obtain ⟨hsucceeds, hagree⟩ := @parallel_refines_sequential _ _ dotting Sink.silent settings stroll
    strolling .apart ⟨.empty, (), ()⟩ memoryless_dotting 2 _ hthreads
  obtain ⟨stats, u, hparallel⟩ := hsucceeds.mpr ⟨_, _, rfl⟩
  obtain ⟨rfl, hsymbols, hsink, calls, htrue, hfalse⟩ := hagree stats u _ _ hparallel rfl
  have hstudio : u = ⟨NameMap.empty.insert "far" (.knob 1), (), ()⟩ := by
    obtain ⟨symbols, _, _⟩ := u
    exact congrArg (Studio.mk · () ()) hsymbols
  have hsame : recorded true = recorded false := by
    rw [hstudio] at htrue
    exact htrue.trans hfalse.symm
  exact ⟨memoryless_dotting, hthreads, s₀, s₁, s₂, hsame.trans hsequential, hsame, hcells⟩

end Render
end SceneScript
