import SceneScript.Proofs.Interruptions
import SceneScript.Proofs.ParallelRuns

/-! # Frames with the symbols carried to them

`Render.Runs` says with which symbols a render runs its frames, and `Carried` says what symbols are
carried to a frame.  Here both are tied to a whole render.  The frames that the sink is given are
runs of the scene with the symbols carried to them (`Render.RunCarried`): all frames if the render
succeeds, and the first ones if it fails.  By `Render.symbols_carry_over` there are no other symbols
that a frame is run with, with workers or without. -/

namespace SceneScript
namespace Render

open SceneScript.Action

variable {σ τ : Type}

section

variable (rasterizer : Rasterizer σ) (sink : Sink τ) (settings : Settings)
  (directives : List Directive) (animation : Animation) (threading : Threading)
  (schedule : Schedule) (studio : Studio σ τ)

/-- In the course of a render the frame with a number is run with the symbols carried to it, and
this is what it comes to. -/
def RunCarried (number : Nat) (f : Frame) : Prop :=
  ∃ symbols w, Runs rasterizer sink settings directives animation threading schedule studio number
      symbols (.ok f) ∧
    Carried animation.table studio.symbols (number + 1) symbols ∧
    ((Frame.run rasterizer settings directives number symbols).run w).1 = .ok f

variable {rasterizer sink settings directives animation threading schedule studio}

theorem Completed.runCarried {number : Nat} {f : Frame}
    (h : Completed rasterizer sink settings directives animation threading schedule studio number
      f) :
    RunCarried rasterizer sink settings directives animation threading schedule studio number
      f := by
  obtain ⟨symbols, _, hruns, _⟩ := h
  obtain ⟨hcarried, _, hreport⟩ := carried_of_runs hruns
  rcases hreport with hstopped | ⟨w, hw⟩
  · cases hstopped
  · exact ⟨symbols, w, hruns, hcarried, hw.symm⟩

/-- A render that succeeds has delivered all its frames and then made the final calls. -/
theorem delivered_of_frames {stats : Stats} {u : Studio σ (τ × List Sink.Call)}
    (h : (frames rasterizer sink.recorded settings directives threading schedule animation).run
      (studio.noting []) = (.ok stats, u)) :
    ∃ fs, fs.length = animation.timeline.frameCount.toNat ∧
      (∀ number f, fs[number]? = some f → Completed rasterizer sink settings directives animation
        threading schedule studio number f) ∧
      u.sink.2 = deliveries sink animation.timeline studio.sink fs ++
        finalCalls animation.timeline := by
  obtain ⟨_, _, t, hbody, hfinish⟩ := frames_eq_ok_iff.mp h
  obtain ⟨fs, hlength, hdelivered⟩ := delivered_of_body hbody
  have ht : t = _ := hdelivered.received
  rw [ht] at hfinish
  exact ⟨fs, hlength, hdelivered.completed, finished_eq_of_ok hfinish⟩

end

/-- **Knobs carry over.**  Every frame that a render runs, with workers or without, gets the symbols
carried to it; sets of constants stay as they were and no symbol disappears, and what is reported of
the frame is what it comes to with these symbols.  Rows behind a frame have no influence on it, nor
has the way in which the frames are shared out.  After a successful render of at least one frame the
symbols are those of the last frame.  A frame is run with one table of symbols, and whatever a sink
has received of a render, it received of frames that were run so. -/
theorem symbols_carry_over (rasterizer : Rasterizer σ) (sink : Sink τ) (settings : Settings)
    (directives : List Directive) (animation : Animation) (threading : Threading)
    (schedule : Schedule) (studio : Studio σ τ) :
    (∀ number symbols r,
        Runs rasterizer sink settings directives animation threading schedule studio number
          symbols r →
        Carried animation.table studio.symbols (number + 1) symbols ∧
          (∀ name constants, studio.symbols.get? name = some (.constants constants) →
            symbols.get? name = some (.constants constants)) ∧
          (∀ name, (studio.symbols.get? name).isSome → (symbols.get? name).isSome) ∧
          (r = .error .forkingStopped ∨
            ∃ w, r = ((Frame.run rasterizer settings directives number symbols).run w).1)) ∧
      (∀ animation' threading' schedule' number symbols symbols' r r',
        (∀ row ≤ number, animation'.table.row? row = animation.table.row? row) →
        Runs rasterizer sink settings directives animation threading schedule studio number
          symbols r →
        Runs rasterizer sink settings directives animation' threading' schedule' studio number
          symbols' r' →
        symbols' = symbols) ∧
      (∀ stats u,
        (frames rasterizer sink settings directives threading schedule animation).run studio =
          (.ok stats, u) →
        0 < animation.timeline.frameCount.toNat →
        ∃ r, Runs rasterizer sink settings directives animation threading schedule studio
          (animation.timeline.frameCount.toNat - 1) u.symbols r) ∧
      (∀ number symbols symbols' r r',
        Runs rasterizer sink settings directives animation threading schedule studio number
          symbols r →
        Runs rasterizer sink settings directives animation threading schedule studio number
          symbols' r' →
        symbols = symbols' ∧ r = r') ∧
      ∀ outcome u,
        (frames rasterizer sink.recorded settings directives threading schedule animation).run
          (studio.noting []) = (outcome, u) →
        ∃ fs rest,
          (∀ number f, fs[number]? = some f → RunCarried rasterizer sink settings directives
            animation threading schedule studio number f) ∧
          u.sink.2 = deliveries sink animation.timeline studio.sink fs ++ rest ∧
          match outcome with
          | .ok _ => fs.length = animation.timeline.frameCount.toNat ∧
              rest = finalCalls animation.timeline
          | .error e => Interrupted rasterizer sink settings directives animation threading schedule
              studio e fs rest := by
  refine ⟨?_, ?_, ?_, fun _ _ _ _ _ h h' => h.unique h', ?_⟩
  · intro number symbols r h
    obtain ⟨hcarried, hconstants, hreport⟩ := carried_of_runs h
    refine ⟨hcarried, ?_, fun name => hcarried.isSome_get?, hreport⟩
    intro name constants hname
    rw [← SymbolTable.constants?_eq_some_iff, hconstants, SymbolTable.constants?_eq_some_iff]
    exact hname
  · intro animation' threading' schedule' number symbols symbols' r r' hrows h h'
    have hcarried' := (carried_of_runs h').1.congr fun row hrow =>
      (hrows row (Nat.le_of_lt_succ hrow)).symm
    exact hcarried'.unique (carried_of_runs h).1
  · intro stats u h hpos
    obtain ⟨_, _, t, hbody, _⟩ := frames_eq_ok_iff.mp h
    have hcount : animation.timeline.frameCount.toNat =
        animation.timeline.frameCount.toNat - 1 + 1 := by omega
    exact exists_runs_of_body (u := ⟨u.symbols, u.rasterizer, t⟩) hcount hbody
  · intro outcome u h
    cases outcome with
    | ok stats =>
        obtain ⟨fs, hlength, hcompleted, hcalls⟩ := delivered_of_frames h
        exact ⟨fs, _, fun number f hf => (hcompleted number f hf).runCarried, hcalls, hlength, rfl⟩
    | error e =>
        obtain ⟨fs, rest, hcompleted, _, hcalls, hrest⟩ := stopped_of_frames h
        exact ⟨fs, rest, fun number f hf => (hcompleted number f hf).runCarried, hcalls, hrest⟩

/-- Three frames of which the last does not vary the knob. -/
def fading : Animation :=
  ⟨⟨"fade", true, 3⟩,
    ⟨[NameMap.empty.insert "spin" 1, NameMap.empty.insert "spin" 2, NameMap.empty]⟩⟩

/-- The same frames without the rows behind the second. -/
def cutShort : Animation :=
  ⟨⟨"fade", true, 2⟩, ⟨[NameMap.empty.insert "spin" 1, NameMap.empty.insert "spin" 2]⟩⟩

/-- A picture that is turned by a knob and shown. -/
def swinging : List Directive := [.motion (.rotate .z 30) (some "spin"), .display]

theorem fading_carries_over :
    let studio : Studio Unit Unit := ⟨NameMap.empty.insert "gold" (.constants .standard), (), ()⟩
    (∃ symbols r, Runs Rasterizer.idle Sink.silent .standard swinging fading .standard .together
        studio 2 symbols r ∧
      symbols.get? "spin" = some (.knob 2) ∧
      symbols.get? "gold" = some (.constants .standard)) ∧
      (∃ symbols symbols' r r',
        Runs Rasterizer.idle Sink.silent .standard swinging fading .standard .together studio 1
          symbols r ∧
        Runs Rasterizer.idle Sink.silent .standard swinging cutShort .standard .together studio 1
          symbols' r' ∧
        symbols' = symbols) ∧
      ∃ fs u, (frames Rasterizer.idle Sink.silent.recorded .standard swinging ⟨true, 2, none⟩ .apart
          fading).run (studio.noting []) = (.ok ⟨3, 3, 3⟩, u) ∧
        u.sink.2 = deliveries Sink.silent fading.timeline () fs ++ [.join "fade"] ∧
        fs.length = 3 ∧
        ∀ number f, fs[number]? = some f → RunCarried Rasterizer.idle Sink.silent .standard swinging
          fading ⟨true, 2, none⟩ .apart studio number f := by
  intro studio
  obtain ⟨hruns, hrows, hlast, _⟩ := symbols_carry_over Rasterizer.idle Sink.silent .standard
    swinging fading .standard .together studio
  obtain ⟨_, _, _, _, hframes⟩ := symbols_carry_over Rasterizer.idle Sink.silent .standard swinging
    fading ⟨true, 2, none⟩ .apart studio
  refine ⟨?_, ?_, ?_⟩
  · have hrender : (frames Rasterizer.idle Sink.silent .standard swinging .standard .together
        fading).run studio =
          (.ok ⟨3, 3, 3⟩, ⟨studio.symbols.insert "spin" (.knob 2), (), ()⟩) := rfl
    obtain ⟨r, hr⟩ := hlast _ _ hrender (by decide)
    obtain ⟨hcarried, hconstants, _, _⟩ := hruns 2 _ r hr
    refine ⟨_, r, hr, ?_, hconstants "gold" .standard rfl⟩
    refine hcarried.latest "spin" 1 2 (by decide) rfl ?_
    intro later h₁ h₂
    obtain rfl : later = 2 := by omega
    rfl
  · let first : Studio Unit Unit := ⟨studio.symbols.insert "spin" (.knob 1), (), ()⟩
    have hbefore : (framesBefore Rasterizer.idle Sink.silent .standard swinging fading 1).run
        studio = (.ok ⟨1, 1, 1⟩, first) := rfl
    have hbefore' : (framesBefore Rasterizer.idle Sink.silent .standard swinging cutShort 1).run
        studio = (.ok ⟨1, 1, 1⟩, first) := rfl
    have hrow : (writeRow fading.table 1).run first.symbols =
        (.ok (), studio.symbols.insert "spin" (.knob 2)) := rfl
    have hrow' : (writeRow cutShort.table 1).run first.symbols =
        (.ok (), studio.symbols.insert "spin" (.knob 2)) := rfl
    obtain ⟨r, hr⟩ : ∃ r, Runs Rasterizer.idle Sink.silent .standard swinging fading .standard
        .together studio 1 (studio.symbols.insert "spin" (.knob 2)) r :=
      ⟨_, .alone rfl (by decide) hbefore hrow⟩
    obtain ⟨r', hr'⟩ : ∃ r, Runs Rasterizer.idle Sink.silent .standard swinging cutShort .standard
        .together studio 1 (studio.symbols.insert "spin" (.knob 2)) r :=
      ⟨_, .alone rfl (by decide) hbefore' hrow'⟩
    have hequal : ∀ row ≤ 1, cutShort.table.row? row = fading.table.row? row := by
      intro row hrow
      have hrow : row = 0 ∨ row = 1 := by omega
      rcases hrow with rfl | rfl <;> rfl
    exact ⟨_, _, r, r', hr, hr', hrows cutShort .standard .together 1 _ _ r r' hequal hr hr'⟩
  · have hsequential : (frames Rasterizer.idle Sink.silent .standard swinging ⟨false, 2, none⟩
        .apart fading).run studio =
          (.ok ⟨3, 3, 3⟩, ⟨studio.symbols.insert "spin" (.knob 2), (), ()⟩) := rfl
    obtain ⟨w, hparallel⟩ := (frames_parallel_iff Sink.silent .standard swinging fading .apart
      Rasterizer.memoryless_idle (by decide)).mpr ⟨(), hsequential⟩
    obtain ⟨calls, hrecorded⟩ := frames_recordedBy Rasterizer.idle Sink.silent .standard swinging
      fading ⟨true, 2, none⟩ .apart studio []
    rw [hparallel] at hrecorded
    obtain ⟨fs, _, hfs, hcalls, hlength, rfl⟩ := hframes _ _ hrecorded
    exact ⟨fs, _, hrecorded, hcalls, hlength, hfs⟩

end Render
end SceneScript
