import SceneScript.Animation
import SceneScript.Frame
import SceneScript.Render.Schedule
import SceneScript.Sink

/-! # Rendering a scene

`Render.scene` resolves the animation of a scene and renders its frames.  Before a frame is run
the knob values of its row are written into the symbols, so a knob keeps its value on frames that
do not vary it.  A finished frame is delivered: its requests go to the sink in order, and a frame of
an animation is then stored under its numbered name.  After the last frame of an animation its
frames are joined.

`Render.sequential` takes the frames one after the other.  `Render.parallel` takes them chunk by
chunk: it first writes the symbols of all frames of the chunk, then has workers run the frames, and
then delivers the outcomes in the order of the frames. -/

namespace SceneScript

/-- What a render works on: the symbols of the scene, the rasterizer and the sink. -/
structure Studio (σ τ : Type) where
  symbols : SymbolTable
  rasterizer : σ
  sink : τ

/-- What a render did.  On a host these counts have sixty-four bits.  An animation has fewer than
2^32 frames, each is stored at most once, and each forwards the requests of the scene, so only a
scene with 2^32 requests or more could count further (`Render.statsOf_lt`). -/
structure Stats where
  frames : Nat
  stored : Nat
  forwarded : Nat
deriving DecidableEq, Repr, Inhabited

namespace Render

variable {σ τ α : Type}

/-- Nothing done yet. -/
def noStats : Stats := ⟨0, 0, 0⟩

/-- Work on the symbols. -/
def onSymbols (a : Action SymbolTable α) : Action (Studio σ τ) α :=
  a.within (·.symbols) fun symbols s => { s with symbols }

/-- Work with the rasterizer. -/
def onRasterizer (a : Action σ α) : Action (Studio σ τ) α :=
  a.within (·.rasterizer) fun rasterizer s => { s with rasterizer }

/-- Work with the sink. -/
def onSink (a : Action τ α) : Action (Studio σ τ) α :=
  a.within (·.sink) fun sink s => { s with sink }

/-! ### Delivery -/

/-- Hand a request to the sink. -/
def forward (sink : Sink τ) : Request → Action τ Unit
  | .display surface => sink.display surface
  | .save name surface => sink.store surface name

/-- Store a frame under its numbered name. -/
def storeFrame (sink : Sink τ) (basename : String) (f : Frame) : Action τ Unit := do
  let name ← Action.inspect fun t => sink.nameFrame t basename f.number
  sink.store f.surface name

/-- Hand what a frame came to to the sink, and count it. -/
def deliver (sink : Sink τ) (timeline : Timeline) (stats : Stats) (f : Frame) :
    Action τ Stats := do
  f.requests.forM (forward sink)
  let stats := { stats with
    frames := stats.frames + 1
    forwarded := stats.forwarded + f.requests.length }
  if timeline.animated then
    storeFrame sink timeline.basename f
    return { stats with stored := stats.stored + 1 }
  else
    return stats

/-! ### One frame after the other -/

/-- Write the knob values of a frame into the symbols. -/
def writeRow (table : KnobTable) (frame : Nat) : Action SymbolTable Unit :=
  match table.row? frame with
  | none => Action.fail (.rowMissing frame)
  | some row => SymbolTable.mergeRow row

/-- Render one frame. -/
def frame (rasterizer : Rasterizer σ) (sink : Sink τ) (settings : Settings)
    (directives : List Directive) (animation : Animation) (stats : Stats) (number : Nat) :
    Action (Studio σ τ) Stats := do
  onSymbols (writeRow animation.table number)
  let symbols ← Action.inspect Studio.symbols
  let f ← onRasterizer (Frame.run rasterizer settings directives number symbols)
  onSink (deliver sink animation.timeline stats f)

/-- Render the frames of an animation one after the other. -/
def sequential (rasterizer : Rasterizer σ) (sink : Sink τ) (settings : Settings)
    (directives : List Directive) (animation : Animation) : Action (Studio σ τ) Stats :=
  animation.timeline.frames.foldlM
    (frame rasterizer sink settings directives animation) noStats

/-! ### Chunk by chunk -/

/-- Write the knob values of frames into the symbols in order, and keep the symbols of each. -/
def snapshots (table : KnobTable) (frames : List Nat) :
    Action SymbolTable (List (Nat × SymbolTable)) :=
  frames.mapM fun number => do
    writeRow table number
    let symbols ← Action.inspect id
    return (number, symbols)

/-- The outcomes of the positions that one worker takes; without a worker each is a fault. -/
def work (rasterizer : Rasterizer σ) (settings : Settings) (directives : List Directive)
    (jobs : List (Nat × SymbolTable)) : Option σ → List Nat → List (Nat × Except Fault Frame)
  | _, [] => []
  | none, i :: positions =>
    (i, .error .forkingStopped) :: work rasterizer settings directives jobs none positions
  | some worker, i :: positions =>
    match jobs[i]? with
    | none => work rasterizer settings directives jobs (some worker) positions
    | some (number, symbols) =>
      let (outcome, worker) :=
        (Frame.run rasterizer settings directives number symbols).run worker
      (i, outcome) :: work rasterizer settings directives jobs (some worker) positions

/-- The outcomes of all workers, forked one after the other. -/
def workers (rasterizer : Rasterizer σ) (settings : Settings) (directives : List Directive)
    (jobs : List (Nat × SymbolTable)) :
    List (List Nat) → σ → List (Nat × Except Fault Frame) × σ
  | [], s => ([], s)
  | positions :: rest, s =>
    let (worker, s) := rasterizer.fork s
    let outcomes := work rasterizer settings directives jobs worker positions
    let (others, s) := workers rasterizer settings directives jobs rest s
    (outcomes ++ others, s)

/-- The outcomes of a chunk in the order of its frames. -/
def renderChunk (rasterizer : Rasterizer σ) (settings : Settings) (directives : List Directive)
    (schedule : Schedule) (chunk : Chunk) (jobs : List (Nat × SymbolTable)) :
    Action σ (List (Except Fault Frame)) := fun s =>
  let (outcomes, s) := workers rasterizer settings directives jobs (schedule.workers chunk) s
  (.ok ((List.range chunk.length).filterMap fun i => outcomes.lookup i), s)

/-- Deliver the outcomes of a chunk, up to the first that is a fault. -/
def deliverAll (sink : Sink τ) (timeline : Timeline) (stats : Stats)
    (outcomes : List (Except Fault Frame)) : Action τ Stats :=
  outcomes.foldlM (fun stats outcome => do
    let f ← Action.ofExcept outcome
    deliver sink timeline stats f) stats

/-- Render one chunk. -/
def chunk (rasterizer : Rasterizer σ) (sink : Sink τ) (settings : Settings)
    (directives : List Directive) (animation : Animation) (schedule : Schedule) (stats : Stats)
    (c : Chunk) : Action (Studio σ τ) Stats := do
  let jobs ← onSymbols (snapshots animation.table c.frames)
  let outcomes ← onRasterizer (renderChunk rasterizer settings directives schedule c jobs)
  onSink (deliverAll sink animation.timeline stats outcomes)

/-- See whether the rasterizer can be forked. -/
def probeFork (rasterizer : Rasterizer σ) : Action σ Unit := do
  match ← (fun s => let (worker, s) := rasterizer.fork s; (.ok worker, s) : Action σ (Option σ)) with
  | some _ => pure ()
  | none => Action.fail .noForking

/-- Render the frames of an animation chunk by chunk. -/
def parallel (rasterizer : Rasterizer σ) (sink : Sink τ) (settings : Settings)
    (directives : List Directive) (animation : Animation) (threading : Threading)
    (schedule : Schedule) : Action (Studio σ τ) Stats := do
  onRasterizer (probeFork rasterizer)
  Action.ofExcept threading.validate
  (Chunk.all animation.timeline.frameCount threading.chunkSize).foldlM
    (chunk rasterizer sink settings directives animation schedule) noStats

/-! ### Whole renders -/

/-- Refuse a knob table of another length than the timeline. -/
def checkLength (animation : Animation) : Except Fault Unit :=
  if animation.table.size = animation.timeline.frameCount.toNat then .ok ()
  else .error (.tableLength animation.table.size animation.timeline.frameCount.toNat)

/-- Render the frames of an animation, and join them if it is one. -/
def frames (rasterizer : Rasterizer σ) (sink : Sink τ) (settings : Settings)
    (directives : List Directive) (threading : Threading) (schedule : Schedule)
    (animation : Animation) : Action (Studio σ τ) Stats := do
  Action.ofExcept settings.validate
  Action.ofExcept (checkLength animation)
  let stats ←
    if threading.parallel then
      parallel rasterizer sink settings directives animation threading schedule
    else sequential rasterizer sink settings directives animation
  if animation.timeline.animated then onSink (sink.join animation.timeline.basename)
  return stats

/-- Resolve the animation of a scene and render it. -/
def scene (rasterizer : Rasterizer σ) (sink : Sink τ) (settings : Settings)
    (directives : List Directive) (threading : Threading) (schedule : Schedule) :
    Action (Studio σ τ) (Animation × Stats) := do
  let animation ← Action.ofExcept (Animation.ofDirectives directives)
  let stats ← frames rasterizer sink settings directives threading schedule animation
  return (animation, stats)

end Render

end SceneScript
