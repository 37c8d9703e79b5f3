import SceneScript.Proofs.FrameRuns
import SceneScript.Proofs.Phases
import SceneScript.Proofs.SinkCalls

/-! # What a sink receives

`Render.calls_of_sequential` lists all calls that a sink receives in a successful render without
workers, in order.  A frame hands over its requests, each with the surface as it stood, and then its
final surface if it is one of an animation (`frameCalls`); after the last frame an animation is
joined.  The list is written down from the scene alone: `before` is where the frame begins, and the
surfaces are those to which the directives come that stand in front (`Frame.requested`). -/

namespace SceneScript

/-- The call that a request is handed over with. -/
def Request.call : Request → Sink.Call
  | .display surface => .display surface
  | .save name surface => .store surface name

namespace Render

open SceneScript.Action

variable {σ τ : Type}

/-! ### Delivering one frame -/

/-- The calls that deliver a frame, of which the first goes to a sink in a given state. -/
def delivery (sink : Sink τ) (timeline : Timeline) (t : τ) (number : Nat)
    (requests : List Request) (surface : Surface) : List Sink.Call :=
  requests.map Request.call ++
    if timeline.animated then
      [.store surface (sink.nameFrame (sink.after t (requests.map Request.call))
        timeline.basename number)]
    else []

theorem length_delivery (sink : Sink τ) (timeline : Timeline) (t : τ) (number : Nat)
    (requests : List Request) (surface : Surface) :
    (delivery sink timeline t number requests surface).length =
      requests.length + (if timeline.animated then 1 else 0) := by
  rw [delivery, List.length_append, List.length_map]
  cases timeline.animated <;> rfl

/-! ### Delivering makes the calls -/

section

variable (sink : Sink τ) (timeline : Timeline) (t : τ)

theorem makes_forward (r : Request) : sink.Makes t [r.call] (forward sink.recorded r) := by
  cases r <;> exact Sink.makes_noting _

/-- Requests are handed over in order, each once. -/
theorem makes_forwardAll (requests : List Request) :
    sink.Makes t (requests.map Request.call) (requests.forM (forward sink.recorded)) := by
  induction requests generalizing t with
  | nil => exact Sink.makes_pure ()
  | cons r requests ih => exact (makes_forward sink t r).bind fun _ => ih _

theorem makes_storeFrame (basename : String) (f : Frame) :
    sink.Makes t [.store f.surface (sink.nameFrame t basename f.number)]
      (storeFrame sink.recorded basename f) :=
  (Sink.makes_noting (.store f.surface (sink.nameFrame t basename f.number))).congr fun _ => rfl

/-- Delivering a frame makes the calls of its `delivery`. -/
theorem makes_deliver (stats : Stats) (f : Frame) :
    sink.Makes t (delivery sink timeline t f.number f.requests f.surface)
      (deliver sink.recorded timeline stats f) := by
  refine (makes_forwardAll sink t f.requests).bind fun _ => ?_
  dsimp only
  split
  · rw [← List.append_nil [_]]
    exact (makes_storeFrame sink _ timeline.basename f).bind fun _ => Sink.makes_pure _
  · exact Sink.makes_pure _

end

/-- A frame that is delivered makes the calls of its `delivery` and is counted. -/
theorem delivered_eq_of_ok (sink : Sink τ) {timeline : Timeline} {stats stats' : Stats}
    {f : Frame} {t : τ} {calls : List Sink.Call} {u : τ × List Sink.Call}
    (h : (deliver sink.recorded timeline stats f).run (t, calls) = (.ok stats', u)) :
    u.2 = calls ++ delivery sink timeline t f.number f.requests f.surface ∧
      stats' = ⟨stats.frames + 1, stats.stored + (if timeline.animated then 1 else 0),
        stats.forwarded + f.requests.length⟩ := by
  obtain ⟨hu, _⟩ := (makes_deliver sink timeline t stats f).accepted calls stats' u h
  refine ⟨congrArg Prod.snd hu, ?_⟩
  rw [deliver, bind_eq_ok_iff] at h
  obtain ⟨_, _, _, h⟩ := h
  cases hanimated : timeline.animated with
  | false =>
      simp only [hanimated, Bool.false_eq_true, if_false, pure_eq_ok_iff] at h
      exact h.1.symm
  | true =>
      simp only [hanimated, if_true, bind_eq_ok_iff, pure_eq_ok_iff] at h
      obtain ⟨_, _, _, hstats, _⟩ := h
      exact hstats.symm

/-! ### One frame after the other -/

section

variable (rasterizer : Rasterizer σ) (sink : Sink τ) (settings : Settings)
  (directives : List Directive) (animation : Animation)

/-- The studio when a frame begins. -/
def before (studio : Studio σ τ) (number : Nat) : Studio σ τ :=
  (((List.range number).foldlM (frame rasterizer sink settings directives animation)
    noStats).run studio).2

/-- The symbols with which a frame is run. -/
def symbolsOf (studio : Studio σ τ) (number : Nat) : SymbolTable :=
  ((writeRow animation.table number).run
    (before rasterizer sink settings directives animation studio number).symbols).2

/-- What a frame comes to when its turn comes. -/
def frameOutcome (studio : Studio σ τ) (number : Nat) : Except Fault Frame :=
  ((Frame.run rasterizer settings directives number
    (symbolsOf rasterizer sink settings directives animation studio number)).run
      (before rasterizer sink settings directives animation studio number).rasterizer).1

/-- The calls that a frame makes: one for each `display` and `save` in source order, and then one
for the final surface if the scene is animated. -/
def frameCalls (studio : Studio σ τ) (number : Nat) : List Sink.Call :=
  let start := before rasterizer sink settings directives animation studio number
  let symbols := symbolsOf rasterizer sink settings directives animation studio number
  delivery sink animation.timeline start.sink number
    (Frame.requested rasterizer settings symbols number directives start.rasterizer)
    (Frame.finalSurface rasterizer settings symbols number directives start.rasterizer)

/-- The frame succeeds in its turn, and makes as many calls as it should. -/
def Completes (studio : Studio σ τ) (number : Nat) : Prop :=
  (∃ f, frameOutcome rasterizer sink settings directives animation studio number = .ok f) ∧
    (frameCalls rasterizer sink settings directives animation studio number).length =
      directives.countP Directive.requests + (if animation.timeline.animated then 1 else 0)

/-- The calls after the last frame. -/
def finalCalls (timeline : Timeline) : List Sink.Call :=
  if timeline.animated then [.join timeline.basename] else []

/-- What a successful render does with so many frames. -/
def statsOf (directives : List Directive) (timeline : Timeline) (count : Nat) : Stats where
  frames := count
  stored := if timeline.animated then count else 0
  forwarded := count * directives.countP Directive.requests

variable {rasterizer sink settings directives animation}

/-- The counts of a scene with fewer than 2^32 requests fit in sixty-four bits. -/
theorem statsOf_lt {timeline : Timeline} {count : Nat}
    (hcount : count ≤ timeline.frameCount.toNat)
    (hrequests : directives.countP Directive.requests < UInt32.size) :
    (statsOf directives timeline count).frames < UInt64.size ∧
      (statsOf directives timeline count).stored < UInt64.size ∧
      (statsOf directives timeline count).forwarded < UInt64.size := by
  have hframes : count < UInt32.size := Nat.lt_of_le_of_lt hcount timeline.frameCount.toNat_lt
  have hsize : UInt32.size < UInt64.size := by decide
  refine ⟨Nat.lt_trans hframes hsize, ?_, ?_⟩
  · unfold statsOf
    dsimp only
    split
    · exact Nat.lt_trans hframes hsize
    · decide
  · exact Nat.mul_lt_mul'' hframes hrequests

/-- A frame that succeeds in its turn makes the calls of `frameCalls`. -/
theorem calls_of_frame {studio : Studio σ τ} {calls : List Sink.Call} {number : Nat}
    {stats stats' : Stats} {u : Studio σ (τ × List Sink.Call)}
    (h : (frame rasterizer sink.recorded settings directives animation stats number).run
        ((before rasterizer sink settings directives animation studio number).noting calls) =
      (.ok stats', u)) :
    Completes rasterizer sink settings directives animation studio number ∧
      u.sink.2 = calls ++ frameCalls rasterizer sink settings directives animation studio number ∧
      stats' = ⟨stats.frames + 1, stats.stored + (if animation.timeline.animated then 1 else 0),
        stats.forwarded + directives.countP Directive.requests⟩ := by
  obtain ⟨f, hrow, hrun, hdeliver⟩ := frame_eq_ok_iff.mp h
  have hsymbols :
      symbolsOf rasterizer sink settings directives animation studio number = u.symbols :=
    congrArg Prod.snd hrow
  have hframe : frameCalls rasterizer sink settings directives animation studio number =
      delivery sink animation.timeline
        (before rasterizer sink settings directives animation studio number).sink
        f.number f.requests f.surface := by
    rw [frameCalls, hsymbols, Frame.number_of_run hrun, Frame.requests_of_run hrun,
      ← Frame.finalSurface_of_run hrun]
    rfl
  obtain ⟨hcalls, hstats⟩ := delivered_eq_of_ok sink hdeliver
  refine ⟨⟨⟨f, ?_⟩, ?_⟩, ?_, ?_⟩
  · rw [frameOutcome, hsymbols]
    exact congrArg Prod.fst hrun
  · rw [hframe, length_delivery, Frame.length_requests_of_run hrun]
  · rw [hcalls, hframe]
  · rw [hstats, Frame.length_requests_of_run hrun]

/-- The frames up to a number make their calls one frame after the other. -/
theorem calls_of_foldlM_frame {studio : Studio σ τ} {calls : List Sink.Call} {count : Nat}
    {stats : Stats} {u : Studio σ (τ × List Sink.Call)}
    (h : ((List.range count).foldlM
        (frame rasterizer sink.recorded settings directives animation) noStats).run
          (studio.noting calls) = (.ok stats, u)) :
    (∀ number < count, Completes rasterizer sink settings directives animation studio number) ∧
      u = (before rasterizer sink settings directives animation studio count).noting
        (calls ++ (List.range count).flatMap
          (frameCalls rasterizer sink settings directives animation studio)) ∧
      stats = statsOf directives animation.timeline count := by
  induction count generalizing stats u with
  | zero =>
      obtain ⟨rfl, rfl⟩ := pure_eq_ok_iff.mp h
      refine ⟨fun _ hlt => absurd hlt (Nat.not_lt_zero _), ?_, ?_⟩
      · rw [List.range_zero, List.flatMap_nil, List.append_nil]
        rfl
      · simp [noStats, statsOf]
  | succ count ih =>
      -- The record of the last frame is known from the frame itself; all else of the studio that it
      -- leaves is that of the run without a record.
      obtain ⟨more, hplain⟩ := recordedBy_foldlM
        (frame_recordedBy rasterizer sink settings directives animation)
        (List.range (count + 1)) noStats studio calls
      rw [h] at hplain
      have hu : u = (before rasterizer sink settings directives animation studio
          (count + 1)).noting (calls ++ more) := (Prod.mk.inj hplain).2
      rw [List.range_succ, foldlM_append_eq_ok_iff] at h
      obtain ⟨stats₁, v, hfront, hlast⟩ := h
      obtain ⟨hok, rfl, rfl⟩ := ih hfront
      rw [List.foldlM_cons] at hlast
      simp only [List.foldlM_nil, bind_pure] at hlast
      obtain ⟨hframe, hcalls, hstats⟩ := calls_of_frame hlast
      refine ⟨fun number hlt => ?_, ?_, ?_⟩
      · rcases Nat.lt_succ_iff_lt_or_eq.mp hlt with hlt | rfl
        · exact hok number hlt
        · exact hframe
      · have hmore : calls ++ more = u.sink.2 := congrArg (fun v => v.sink.2) hu.symm
        rw [List.range_succ, List.flatMap_append, List.flatMap_singleton, ← List.append_assoc,
          ← hcalls, ← hmore]
        exact hu
      · rw [hstats]
        simp only [statsOf, Nat.succ_mul]
        cases animation.timeline.animated <;> rfl

end

/-! ### Whole renders -/

theorem makes_finish (sink : Sink τ) (timeline : Timeline) (t : τ) :
    sink.Makes t (finalCalls timeline) (finish sink.recorded timeline) := by
  unfold finish finalCalls
  split
  · exact Sink.makes_noting (.join timeline.basename)
  · exact Sink.makes_pure ()

theorem finished_eq_of_ok {sink : Sink τ} {timeline : Timeline} {t : τ} {calls : List Sink.Call}
    {u : τ × List Sink.Call}
    (h : (finish sink.recorded timeline).run (t, calls) = (.ok (), u)) :
    u.2 = calls ++ finalCalls timeline :=
  congrArg Prod.snd ((makes_finish sink timeline t).accepted calls () u h).1

/-- **The calls of a render.**  If a render without workers succeeds, then every frame does, and the
sink receives the calls of the frames in order and then the final calls, and no others.  No frame
has a call too few or too many, and the counts are those of the frames, of the stored frames and of
the requests. -/
theorem calls_of_sequential {rasterizer : Rasterizer σ} {sink : Sink τ} {settings : Settings}
    {directives : List Directive} {animation : Animation} {chunkSize : UInt64}
    {threads : Option UInt64} {schedule : Schedule} {studio u : Studio σ τ} {stats : Stats}
    (h : (frames rasterizer sink settings directives ⟨false, chunkSize, threads⟩ schedule
        animation).run studio = (.ok stats, u)) :
    (∀ number < animation.timeline.frameCount.toNat,
        Completes rasterizer sink settings directives animation studio number) ∧
      (frames rasterizer sink.recorded settings directives ⟨false, chunkSize, threads⟩ schedule
          animation).run (studio.noting []) =
        (.ok stats, u.noting
          ((List.range animation.timeline.frameCount.toNat).flatMap
              (frameCalls rasterizer sink settings directives animation studio) ++
            finalCalls animation.timeline)) ∧
      stats = statsOf directives animation.timeline animation.timeline.frameCount.toNat := by
  obtain ⟨more, hrecorded⟩ := frames_recordedBy rasterizer sink settings directives animation
    ⟨false, chunkSize, threads⟩ schedule studio []
  rw [h, List.nil_append] at hrecorded
  obtain ⟨_, _, t, hbody, hfinish⟩ := frames_eq_ok_iff.mp hrecorded
  obtain ⟨hok, hu, hstats⟩ := calls_of_foldlM_frame hbody
  obtain rfl : t = _ := congrArg Studio.sink hu
  refine ⟨hok, ?_, hstats⟩
  have hmore : more = [] ++ (List.range animation.timeline.frameCount.toNat).flatMap
      (frameCalls rasterizer sink settings directives animation studio) ++
        finalCalls animation.timeline := finished_eq_of_ok hfinish
  rw [List.nil_append] at hmore
  rw [← hmore]
  exact hrecorded

/-- A scene of two frames with two requests each. -/
def twoFrames : List Directive := [.frames 2, .basename "flip", .display, .save "still"]

theorem calls_of_twoFrames :
    Animation.ofDirectives twoFrames = .ok ⟨⟨"flip", true, 2⟩, .blank 2⟩ ∧
      (frames Rasterizer.idle Sink.silent.recorded .standard twoFrames .standard .together
          ⟨⟨"flip", true, 2⟩, .blank 2⟩).run ⟨.empty, (), ((), [])⟩ =
        (.ok ⟨2, 2, 4⟩, ⟨.empty, (), ((),
          [.display Settings.standard.blankSurface, .store Settings.standard.blankSurface "still",
            .store Settings.standard.blankSurface (numberedName "flip" 0 "png"),
            .display Settings.standard.blankSurface, .store Settings.standard.blankSurface "still",
            .store Settings.standard.blankSurface (numberedName "flip" 1 "png"),
            .join "flip"])⟩) :=
  ⟨rfl, (calls_of_sequential
    (rfl : (frames Rasterizer.idle Sink.silent .standard twoFrames .standard .together
      ⟨⟨"flip", true, 2⟩, .blank 2⟩).run ⟨.empty, (), ()⟩ =
        (.ok ⟨2, 2, 4⟩, ⟨.empty, (), ()⟩))).2.1⟩

end Render
end SceneScript
