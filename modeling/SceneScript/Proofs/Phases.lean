import SceneScript.Proofs.ActionLaws
import SceneScript.Render

/-! # The phases of a render

A render works on three things that do not touch each other: the symbols, the rasterizer and the
sink.  `frame_eq_ok_iff` takes a successful frame apart into what happens to each.  For a run of
frames this gives `foldlM_frame_eq_ok_iff`: the frames succeed one after the other if and only if
all knob rows can be written, all frames run and all of them be delivered, each phase on its own.  A
successful chunk is the same three phases (`chunk_eq_ok_iff`), so both ways to render come down to
`snapshots`, the running of jobs, and `deliverFrames`. -/

namespace SceneScript
namespace Render

open SceneScript.Action

variable {σ τ α : Type}

/-! ### Work on one part of a studio -/

theorem onSymbols_eq_iff {a : Action SymbolTable α} {st u : Studio σ τ} {r : Except Fault α} :
    (onSymbols a).run st = (r, u) ↔
      a.run st.symbols = (r, u.symbols) ∧ u.rasterizer = st.rasterizer ∧ u.sink = st.sink := by
  rw [onSymbols, within_eq_iff]
  constructor
  · rintro ⟨t, h, rfl⟩
    exact ⟨h, rfl, rfl⟩
  · rintro ⟨h, hr, hs⟩
    exact ⟨u.symbols, h, by rw [← hr, ← hs]⟩

theorem onRasterizer_eq_iff {a : Action σ α} {st u : Studio σ τ} {r : Except Fault α} :
    (onRasterizer a).run st = (r, u) ↔
      a.run st.rasterizer = (r, u.rasterizer) ∧ u.symbols = st.symbols ∧ u.sink = st.sink := by
  rw [onRasterizer, within_eq_iff]
  constructor
  · rintro ⟨t, h, rfl⟩
    exact ⟨h, rfl, rfl⟩
  · rintro ⟨h, hm, hs⟩
    exact ⟨u.rasterizer, h, by rw [← hm, ← hs]⟩

theorem onSink_eq_iff {a : Action τ α} {st u : Studio σ τ} {r : Except Fault α} :
    (onSink a).run st = (r, u) ↔
      a.run st.sink = (r, u.sink) ∧ u.symbols = st.symbols ∧
        u.rasterizer = st.rasterizer := by
  rw [onSink, within_eq_iff]
  constructor
  · rintro ⟨t, h, rfl⟩
    exact ⟨h, rfl, rfl⟩
  · rintro ⟨h, hm, hr⟩
    exact ⟨u.sink, h, by rw [← hm, ← hr]⟩

variable (rasterizer : Rasterizer σ) (sink : Sink τ) (settings : Settings)
  (directives : List Directive) (animation : Animation)

/-! ### The parts of a render -/

/-- Run the frames of jobs, each with the symbols it comes with. -/
def runJobs (jobs : List (Nat × SymbolTable)) : Action σ (List Frame) :=
  jobs.mapM fun job => Frame.run rasterizer settings directives job.1 job.2

/-- Deliver frames one after the other. -/
def deliverFrames (timeline : Timeline) (stats : Stats) (fs : List Frame) : Action τ Stats :=
  fs.foldlM (deliver sink timeline) stats

/-- The frames of a render, one way or the other. -/
def body (threading : Threading) (schedule : Schedule) : Action (Studio σ τ) Stats :=
  if threading.parallel then
    parallel rasterizer sink settings directives animation threading schedule
  else sequential rasterizer sink settings directives animation

/-- Join the frames of an animation, and nothing else. -/
def finish (timeline : Timeline) : Action τ Unit :=
  if timeline.animated then sink.join timeline.basename else pure ()

variable {rasterizer sink settings directives animation}

/-! ### One frame after the other -/

/-- A frame succeeds if its knob row can be written, its directives run and its outcome be
delivered. -/
theorem frame_eq_ok_iff {number : Nat} {stats stats' : Stats} {st u : Studio σ τ} :
    (frame rasterizer sink settings directives animation stats number).run st = (.ok stats', u) ↔
      ∃ f, (writeRow animation.table number).run st.symbols = (.ok (), u.symbols) ∧
        (Frame.run rasterizer settings directives number u.symbols).run st.rasterizer =
          (.ok f, u.rasterizer) ∧
        (deliver sink animation.timeline stats f).run st.sink = (.ok stats', u.sink) := by
  simp only [frame, bind_eq_ok_iff, onSymbols_eq_iff, onRasterizer_eq_iff,
    onSink_eq_iff, run_inspect]
  constructor
  · rintro ⟨_, st₁, ⟨hrow, hr₁, hs₁⟩, symbols, _, ⟨⟨⟩⟩, f, st₂, ⟨hrun, hm₂, hs₂⟩, hdeliver, hm, hr⟩
    refine ⟨f, ?_, ?_, ?_⟩
    · rw [hm, hm₂]
      exact hrow
    · rw [hm, hm₂, hr, ← hr₁]
      exact hrun
    · rw [← hs₁, ← hs₂]
      exact hdeliver
  · rintro ⟨f, hrow, hrun, hdeliver⟩
    exact ⟨(), ⟨u.symbols, st.rasterizer, st.sink⟩, ⟨hrow, rfl, rfl⟩, u.symbols, _, rfl, f,
      ⟨u.symbols, u.rasterizer, st.sink⟩, ⟨hrun, rfl, rfl⟩, hdeliver, rfl, rfl⟩

theorem snapshots_cons_eq_ok_iff {table : KnobTable} {number : Nat} {numbers : List Nat}
    {jobs : List (Nat × SymbolTable)} {symbols symbols' : SymbolTable} :
    (snapshots table (number :: numbers)).run symbols = (.ok jobs, symbols') ↔
      ∃ first rest, (writeRow table number).run symbols = (.ok (), first) ∧
        (snapshots table numbers).run first = (.ok rest, symbols') ∧
        jobs = (number, first) :: rest := by
  simp only [snapshots, mapM_cons_eq_ok_iff, bind_eq_ok_iff, run_inspect, pure_eq_ok_iff, id]
  constructor
  · rintro ⟨job, t, rest, ⟨_, first, hrow, _, _, ⟨⟨⟩⟩, rfl, rfl⟩, hrest, rfl⟩
    exact ⟨first, rest, hrow, hrest, rfl⟩
  · rintro ⟨first, rest, hrow, hrest, rfl⟩
    exact ⟨(number, first), first, rest, ⟨(), first, hrow, first, first, rfl, rfl, rfl⟩, hrest,
      rfl⟩

/-- Frames succeed one after the other if and only if they succeed phase by phase. -/
theorem foldlM_frame_eq_ok_iff {numbers : List Nat} {stats stats' : Stats} {st u : Studio σ τ} :
    (numbers.foldlM (frame rasterizer sink settings directives animation) stats).run st =
        (.ok stats', u) ↔
      ∃ jobs fs, (snapshots animation.table numbers).run st.symbols = (.ok jobs, u.symbols) ∧
        (runJobs rasterizer settings directives jobs).run st.rasterizer =
          (.ok fs, u.rasterizer) ∧
        (deliverFrames sink animation.timeline stats fs).run st.sink = (.ok stats', u.sink) := by
  induction numbers generalizing stats st with
  | nil =>
      simp only [List.foldlM_nil, snapshots, List.mapM_nil, pure_eq_ok_iff]
      constructor
      · rintro ⟨rfl, rfl⟩
        exact ⟨[], [], ⟨rfl, rfl⟩, rfl, rfl⟩
      · rintro ⟨jobs, fs, ⟨rfl, hm⟩, hrun, hdeliver⟩
        obtain ⟨rfl, hr⟩ := pure_eq_ok_iff.mp hrun
        obtain ⟨rfl, hs⟩ := pure_eq_ok_iff.mp hdeliver
        exact ⟨rfl, show Studio.mk st.symbols st.rasterizer st.sink = u by rw [hm, hr, hs]⟩
  | cons number numbers ih =>
      rw [foldlM_cons_eq_ok_iff]
      constructor
      · rintro ⟨stats₁, st₁, hframe, hrest⟩
        obtain ⟨f, hrow, hrun, hdeliver⟩ := frame_eq_ok_iff.mp hframe
        obtain ⟨jobs, fs, hjobs, hfs, hdelivers⟩ := ih.mp hrest
        refine ⟨(number, st₁.symbols) :: jobs, f :: fs, ?_, ?_, ?_⟩
        · exact snapshots_cons_eq_ok_iff.mpr ⟨_, _, hrow, hjobs, rfl⟩
        · exact mapM_cons_eq_ok_iff.mpr ⟨_, _, _, hrun, hfs, rfl⟩
        · exact foldlM_cons_eq_ok_iff.mpr ⟨_, _, hdeliver, hdelivers⟩
      · rintro ⟨jobs, fs, hjobs, hfs, hdelivers⟩
        obtain ⟨symbols, rest, hrow, hrest, rfl⟩ := snapshots_cons_eq_ok_iff.mp hjobs
        obtain ⟨f, s, others, hrun, hothers, rfl⟩ := mapM_cons_eq_ok_iff.mp hfs
        obtain ⟨stats₁, t, hdeliver, hdeliveries⟩ := foldlM_cons_eq_ok_iff.mp hdelivers
        exact ⟨stats₁, ⟨symbols, s, t⟩,
          frame_eq_ok_iff.mpr ⟨f, hrow, hrun, hdeliver⟩,
          ih.mpr ⟨rest, others, hrest, hothers, hdeliveries⟩⟩

/-! ### Chunks and whole renders -/

/-- A chunk succeeds if its knob rows can be written, its frames are rendered and their outcomes
be delivered. -/
theorem chunk_eq_ok_iff {schedule : Schedule} {c : Chunk} {stats stats' : Stats}
    {st u : Studio σ τ} :
    (chunk rasterizer sink settings directives animation schedule stats c).run st =
        (.ok stats', u) ↔
      ∃ jobs outcomes, (snapshots animation.table c.frames).run st.symbols =
          (.ok jobs, u.symbols) ∧
        (renderChunk rasterizer settings directives schedule c jobs).run st.rasterizer =
          (.ok outcomes, u.rasterizer) ∧
        (deliverAll sink animation.timeline stats outcomes).run st.sink =
          (.ok stats', u.sink) := by
  simp only [chunk, bind_eq_ok_iff, onSymbols_eq_iff, onRasterizer_eq_iff,
    onSink_eq_iff]
  constructor
  · rintro ⟨jobs, st₁, ⟨hjobs, hr₁, hs₁⟩, outcomes, st₂, ⟨hrun, hm₂, hs₂⟩, hdeliver, hm, hr⟩
    refine ⟨jobs, outcomes, ?_, ?_, ?_⟩
    · rw [hm, hm₂]
      exact hjobs
    · rw [hr, ← hr₁]
      exact hrun
    · rw [← hs₁, ← hs₂]
      exact hdeliver
  · rintro ⟨jobs, outcomes, hjobs, hrun, hdeliver⟩
    exact ⟨jobs, ⟨u.symbols, st.rasterizer, st.sink⟩, ⟨hjobs, rfl, rfl⟩, outcomes,
      ⟨u.symbols, u.rasterizer, st.sink⟩, ⟨hrun, rfl, rfl⟩, hdeliver, rfl, rfl⟩

theorem checkLength_eq_ok_iff :
    checkLength animation = .ok () ↔
      animation.table.size = animation.timeline.frameCount.toNat := by
  unfold checkLength
  split
  case isTrue hsize => simp [hsize]
  case isFalse hsize => simp [hsize]

/-- A render checks its settings and its table, renders the frames and finishes. -/
theorem frames_eq_phases (threading : Threading) (schedule : Schedule) :
    frames rasterizer sink settings directives threading schedule animation =
      (do
        ofExcept settings.validate
        ofExcept (checkLength animation)
        let stats ← body rasterizer sink settings directives animation threading schedule
        onSink (finish sink animation.timeline)
        return stats : Action (Studio σ τ) Stats) := by
  unfold frames body finish
  cases threading.parallel <;> cases animation.timeline.animated <;> rfl

/-- A render succeeds if its settings and its table are valid, its frames succeed and an animation
can be joined. -/
theorem frames_eq_ok_iff {threading : Threading} {schedule : Schedule} {stats : Stats}
    {st u : Studio σ τ} :
    (frames rasterizer sink settings directives threading schedule animation).run st =
        (.ok stats, u) ↔
      settings.validate = .ok () ∧ checkLength animation = .ok () ∧
        ∃ t, (body rasterizer sink settings directives animation threading schedule).run st =
            (.ok stats, ⟨u.symbols, u.rasterizer, t⟩) ∧
          (finish sink animation.timeline).run t = (.ok (), u.sink) := by
  rw [frames_eq_phases]
  simp only [bind_eq_ok_iff, ofExcept_eq_ok_iff, onSink_eq_iff, pure_eq_ok_iff]
  constructor
  · rintro ⟨_, _, ⟨hvalid, rfl⟩, _, _, ⟨hlength, rfl⟩, _, v, hbody, _, _, ⟨hfinish, hm, hr⟩, rfl,
      rfl⟩
    refine ⟨hvalid, hlength, v.sink, ?_, hfinish⟩
    rw [hm, hr]
    exact hbody
  · rintro ⟨hvalid, hlength, t, hbody, hfinish⟩
    exact ⟨(), st, ⟨hvalid, rfl⟩, (), st, ⟨hlength, rfl⟩, stats, _, hbody, (), u,
      ⟨hfinish, rfl, rfl⟩, rfl, rfl⟩

end Render
end SceneScript
