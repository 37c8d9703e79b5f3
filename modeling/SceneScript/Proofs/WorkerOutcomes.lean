import Mathlib.Data.List.Forall2
import SceneScript.Proofs.Recording

/-! # What workers report

`Rasterizer.Reaches r s` are the states that calls and forks lead a rasterizer to from the state
`s`, its workers included.  A frame consists of calls, so what every call has and sequences inherit
holds of its run (`Frame.inherited_run`); in particular no frame leads out of these states
(`Frame.reaches_run`).

`Render.ReportedOf` says that an outcome is that of running a job in one of these states.  Whatever
the rasterizer and the schedule, what workers report for a position is the outcome of the job there,
unless a worker could not be had (`Render.reported_of_mem_workers`); if there always is a worker, a
chunk comes to the outcomes of its jobs in their order (`Render.renderChunk_reports`). -/

namespace SceneScript

variable {σ : Type}

namespace Rasterizer

/-- What a call is answered with. -/
def Call.Answer : Call → Type
  | .box _ _ | .sphere _ _ _ | .torus _ _ _ _ => Triangles
  | .line _ _ => Segments
  | .drawTriangles _ _ _ | .drawSegments _ _ _ => Surface

/-- Make a call. -/
def answer (r : Rasterizer σ) : (call : Call) → Action σ call.Answer
  | .box corner size => r.box corner size
  | .sphere center radius step => r.sphere center radius step
  | .torus center minorRadius majorRadius step => r.torus center minorRadius majorRadius step
  | .line p0 p1 => r.line p0 p1
  | .drawTriangles triangles surface shading => r.drawTriangles triangles surface shading
  | .drawSegments segments surface color => r.drawSegments segments surface color

/-- The states that a rasterizer and its workers come to from a state. -/
inductive Reaches (r : Rasterizer σ) (s : σ) : σ → Prop
  | start : Reaches r s s
  | call {t : σ} (call : Call) : Reaches r s t → Reaches r s ((r.answer call).run t).2
  | forked {t : σ} : Reaches r s t → Reaches r s (r.fork t).2
  | worker {t w : σ} : Reaches r s t → (r.fork t).1 = some w → Reaches r s w

/-- The rasterizer and its workers can always be forked. -/
def Forking (r : Rasterizer σ) (s : σ) : Prop := ∀ t, r.Reaches s t → (r.fork t).1.isSome

end Rasterizer

/-! ### What calls have and frames inherit -/

namespace Action

/-- A property that known answers have and sequences of actions inherit. -/
structure Inherited (Good : (α : Type) → Action σ α → Prop) : Prop where
  ofExcept : ∀ (α : Type) (r : Except Fault α), Good α (ofExcept r)
  bind : ∀ (α β : Type) (a : Action σ α) (f : α → Action σ β),
    Good α a → (∀ v, Good β (f v)) → Good β (a >>= f)

/-- An action does not lead out of a set of states. -/
def Keeps (P : σ → Prop) (α : Type) (a : Action σ α) : Prop := ∀ t, P t → P (a.run t).2

theorem inherited_keeps (P : σ → Prop) : Inherited (Keeps P) where
  ofExcept _ _ _ ht := ht
  bind _ _ a f ha hf t ht := by
    have ha := ha t ht
    rw [run_bind]
    rcases e : a.run t with ⟨_ | v, u⟩ <;> rw [e] at ha
    · exact ha
    · exact hf v u ha

end Action

namespace Frame

open SceneScript.Action

variable {rasterizer : Rasterizer σ} {Good : (α : Type) → Action σ α → Prop}
  (settings : Settings) (symbols : SymbolTable)

theorem inherited_divide (hcalls : ∀ call, Good call.Answer (rasterizer.answer call))
    (step : UInt32) (shape : Shape) : Good Triangles (divide rasterizer step shape) := by
  cases shape with
  | box corner size => exact hcalls (.box corner size)
  | sphere center radius => exact hcalls (.sphere center radius step)
  | torus center minorRadius majorRadius =>
      exact hcalls (.torus center minorRadius majorRadius step)

theorem inherited_step (h : Inherited Good)
    (hcalls : ∀ call, Good call.Answer (rasterizer.answer call)) (number index : Nat)
    (d : Directive) (p : Progress) :
    Good Progress (step rasterizer settings symbols number index d p) := by
  have hpure : ∀ q : Progress, Good Progress (pure q) := fun q => h.ofExcept Progress (.ok q)
  cases d with
  | shape shape constants coords =>
      refine h.bind _ _ _ _ (h.ofExcept _ _) fun r => ?_
      refine h.bind _ _ _ _ ?_ fun surface => hpure _
      refine h.bind _ _ _ _ (inherited_divide hcalls settings.step shape) fun triangles => ?_
      exact hcalls (.drawTriangles (triangles.transform p.stack.top) p.surface
        ⟨settings.lighting, r⟩)
  | line constants p0 coords0 p1 coords1 =>
      refine h.bind _ _ _ _ (h.ofExcept _ _) fun _ => ?_
      refine h.bind _ _ _ _ ?_ fun surface => hpure _
      refine h.bind _ _ _ _ (hcalls (.line p0 p1)) fun segments => ?_
      exact hcalls (.drawSegments (segments.transform p.stack.top) p.surface settings.lineColor)
  | motion m knob => exact h.bind _ _ _ _ (h.ofExcept _ _) fun _ => hpure _
  | pop =>
      unfold step
      dsimp only
      split
      · exact hpure _
      · exact h.ofExcept Progress (.error _)
  | _ => exact hpure _

theorem inherited_steps (h : Inherited Good)
    (hcalls : ∀ call, Good call.Answer (rasterizer.answer call)) (number : Nat) :
    ∀ (index : Nat) (directives : List Directive) (p : Progress),
      Good Progress (steps rasterizer settings symbols number index directives p)
  | _, [], p => h.ofExcept Progress (.ok p)
  | index, d :: directives, p =>
      h.bind _ _ _ _ (inherited_step settings symbols h hcalls number index d p) fun q =>
        inherited_steps h hcalls number (index + 1) directives q

/-- What every call has and sequences inherit holds of the run of a frame. -/
theorem inherited_run (h : Inherited Good)
    (hcalls : ∀ call, Good call.Answer (rasterizer.answer call)) (directives : List Directive)
    (number : Nat) : Good Frame (run rasterizer settings directives number symbols) :=
  h.bind _ _ _ _ (inherited_steps settings symbols h hcalls number 0 directives _) fun _ =>
    h.ofExcept Frame (.ok _)

theorem reaches_run {s t : σ} (ht : rasterizer.Reaches s t) (directives : List Directive)
    (number : Nat) :
    rasterizer.Reaches s ((run rasterizer settings directives number symbols).run t).2 :=
  inherited_run settings symbols (inherited_keeps (rasterizer.Reaches s))
    (fun call _ hu => .call call hu) directives number t ht

end Frame

/-! ### Workers -/

/-- What is found for every position of a list, in order. -/
theorem forall₂_filterMap_range {α β : Type} {R : α → β → Prop} {xs : List α}
    {found : Nat → Option β} (h : ∀ i x, xs[i]? = some x → ∃ y, found i = some y ∧ R x y) :
    List.Forall₂ R xs ((List.range xs.length).filterMap found) := by
  induction xs generalizing found with
  | nil => exact .nil
  | cons x xs ih =>
      obtain ⟨y, hy, hxy⟩ := h 0 x rfl
      rw [List.length_cons, List.range_succ_eq_map, List.filterMap_cons, List.filterMap_map, hy]
      exact .cons hxy (ih fun i z hz => h (i + 1) z hz)

namespace Render

variable (rasterizer : Rasterizer σ) (settings : Settings) (directives : List Directive) (s : σ)

/-- The outcome is that of running a job in a state that is reached. -/
def ReportedOf (job : Nat × SymbolTable) (r : Except Fault Frame) : Prop :=
  ∃ w, rasterizer.Reaches s w ∧
    r = ((Frame.run rasterizer settings directives job.1 job.2).run w).1

variable {rasterizer s} (jobs : List (Nat × SymbolTable))

/-- A worker reports on each of its positions that has a job, and reports what the job comes to. -/
theorem mem_work {worker : σ} (hworker : rasterizer.Reaches s worker) (positions : List Nat) :
    (∀ e ∈ work rasterizer settings directives jobs (some worker) positions,
        ∃ job, jobs[e.1]? = some job ∧
          ReportedOf rasterizer settings directives s job e.2) ∧
      ∀ i ∈ positions, i < jobs.length →
        ∃ r, (i, r) ∈ work rasterizer settings directives jobs (some worker) positions := by
  induction positions generalizing worker with
  | nil => simp [work]
  | cons i positions ih =>
      cases hjob : jobs[i]? with
      | none =>
          obtain ⟨hreports, hall⟩ := ih hworker
          simp only [work, hjob]
          refine ⟨hreports, ?_⟩
          intro j hj hlt
          rcases List.mem_cons.mp hj with rfl | hj
          · exact absurd (List.getElem?_eq_none_iff.mp hjob) (by omega)
          · exact hall j hj hlt
      | some job =>
          obtain ⟨hreports, hall⟩ :=
            ih (Frame.reaches_run settings job.2 hworker directives job.1)
          simp only [work, hjob]
          refine ⟨?_, ?_⟩
          · intro e he
            rcases List.mem_cons.mp he with rfl | he
            · exact ⟨job, hjob, worker, hworker, rfl⟩
            · exact hreports e he
          · intro j hj hlt
            rcases List.mem_cons.mp hj with rfl | hj
            · exact ⟨_, List.mem_cons_self⟩
            · obtain ⟨r, hr⟩ := hall j hj hlt
              exact ⟨r, List.mem_cons_of_mem _ hr⟩

/-- Without a worker each position is a fault. -/
theorem work_none (positions : List Nat) :
    work rasterizer settings directives jobs none positions =
      positions.map fun i => (i, .error .forkingStopped) := by
  induction positions with
  | nil => rfl
  | cons i positions ih => rw [work, ih, List.map_cons]

/-- What workers report for a position is the outcome of the job there, unless a worker could not
be had; and they report on every position that they are given. -/
theorem reported_of_mem_workers (rows : List (List Nat)) {t : σ} (ht : rasterizer.Reaches s t) :
    (∀ e ∈ (workers rasterizer settings directives jobs rows t).1,
        (e.2 = .error .forkingStopped ∧ ¬rasterizer.Forking s) ∨
          ∃ job, jobs[e.1]? = some job ∧
            ReportedOf rasterizer settings directives s job e.2) ∧
      (∀ i ∈ rows.flatten, i < jobs.length →
        ∃ r, (i, r) ∈ (workers rasterizer settings directives jobs rows t).1) ∧
      rasterizer.Reaches s (workers rasterizer settings directives jobs rows t).2 := by
  induction rows generalizing t with
  | nil =>
      exact ⟨fun e he => absurd he List.not_mem_nil, fun i hi => absurd hi List.not_mem_nil, ht⟩
  | cons positions rows ih =>
      obtain ⟨hreports, hall, hleft⟩ := ih ht.forked
      simp only [workers]
      refine ⟨?_, ?_, hleft⟩
      · intro e he
        rcases List.mem_append.mp he with he | he
        · cases hworker : (rasterizer.fork t).1 with
          | none =>
              rw [hworker, work_none] at he
              obtain ⟨i, _, rfl⟩ := List.mem_map.mp he
              refine .inl ⟨rfl, ?_⟩
              intro hforks
              have hsome := hforks t ht
              rw [hworker] at hsome
              cases hsome
          | some worker =>
              rw [hworker] at he
              exact .inr ((mem_work settings directives jobs (ht.worker hworker) positions).1 e he)
        · exact hreports e he
      · intro i hi hlt
        rw [List.flatten_cons] at hi
        rcases List.mem_append.mp hi with hi | hi
        · cases hworker : (rasterizer.fork t).1 with
          | none =>
              rw [work_none]
              exact ⟨_, List.mem_append_left _ (List.mem_map.mpr ⟨i, hi, rfl⟩)⟩
          | some worker =>
              obtain ⟨r, hr⟩ :=
                (mem_work settings directives jobs (ht.worker hworker) positions).2 i hi hlt
              exact ⟨r, List.mem_append_left _ hr⟩
        · obtain ⟨r, hr⟩ := hall i hi hlt
          exact ⟨r, List.mem_append_right _ hr⟩

/-- A chunk leaves the rasterizer in a state that it reaches. -/
theorem reaches_renderChunk (schedule : Schedule) (c : Chunk) {t : σ}
    (ht : rasterizer.Reaches s t) :
    rasterizer.Reaches s
      ((renderChunk rasterizer settings directives schedule c jobs).run t).2 :=
  (reported_of_mem_workers settings directives jobs (schedule.workers c) ht).2.2

/-- If there always is a worker, a chunk comes to the outcomes of its jobs in their order, and the
schedule does not matter. -/
theorem renderChunk_reports (hforks : rasterizer.Forking s) (schedule : Schedule) {c : Chunk}
    (hlength : jobs.length = c.length) {t : σ} (ht : rasterizer.Reaches s t) :
    ∃ outcomes u, rasterizer.Reaches s u ∧
      (renderChunk rasterizer settings directives schedule c jobs).run t = (.ok outcomes, u) ∧
      List.Forall₂ (ReportedOf rasterizer settings directives s) jobs outcomes := by
  obtain ⟨hreports, hall, hleft⟩ :=
    reported_of_mem_workers settings directives jobs (schedule.workers c) ht
  refine ⟨_, _, hleft, rfl, ?_⟩
  rw [← hlength]
  apply forall₂_filterMap_range
  intro i job hjob
  have hlt : i < jobs.length := (List.getElem?_eq_some_iff.mp hjob).1
  have hi : i ∈ (schedule.workers c).flatten := by
    rw [(schedule.complete c).mem_iff, List.mem_range, ← hlength]
    exact hlt
  obtain ⟨r, hr⟩ := hall i hi hlt
  have hsome : ((workers rasterizer settings directives jobs (schedule.workers c) t).1.lookup
      i).isSome := List.lookup_isSome_iff.mpr ⟨(i, r), hr, beq_self_eq_true i⟩
  obtain ⟨r, hfound⟩ := Option.isSome_iff_exists.mp hsome
  obtain ⟨front, back, hsplit, _⟩ := List.lookup_eq_some_iff.mp hfound
  refine ⟨r, hfound, ?_⟩
  have hmem : (i, r) ∈ (workers rasterizer settings directives jobs (schedule.workers c) t).1 := by
    rw [hsplit]
    exact List.mem_append_right _ List.mem_cons_self
  rcases hreports (i, r) hmem with ⟨_, hnot⟩ | ⟨job', hjob', hreport⟩
  · exact absurd hforks hnot
  · rw [hjob] at hjob'
    rw [Option.some.inj hjob']
    exact hreport

end Render
end SceneScript
