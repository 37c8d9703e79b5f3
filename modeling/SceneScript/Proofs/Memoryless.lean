import SceneScript.Proofs.WorkerOutcomes

/-! # Rasterizers without a memory

`Rasterizer.Memoryless r s` says of a rasterizer in the state `s` that what it answers depends on
the call alone: in every state that calls and forks lead to, and so for every worker, it answers as
it does in `s`; and it can always be forked.  The run of a frame then has one outcome whoever runs
it and whatever was run before (`Frame.steady_run`), and a chunk comes to the outcomes of its frames
in order, however a schedule shares them out (`Render.renderChunk_eq`). -/

namespace SceneScript

variable {σ α β : Type}

namespace Rasterizer

/-- The rasterizer forks, and it and its workers answer a call always alike. -/
structure Memoryless (r : Rasterizer σ) (s : σ) : Prop where
  forks : ∀ t, r.Reaches s t → (r.fork t).1.isSome
  answers : ∀ t, r.Reaches s t → ∀ call, ((r.answer call).run t).1 = ((r.answer call).run s).1

theorem memoryless_idle : idle.Memoryless () := ⟨fun _ _ => rfl, fun _ _ _ => rfl⟩

end Rasterizer

namespace Action

/-- In the states of a set an action always answers the same, and it does not leave the set. -/
structure Steady (P : σ → Prop) (a : Action σ α) : Prop where
  stays : ∀ t, P t → P (a.run t).2
  same : ∀ t u, P t → P u → (a.run t).1 = (a.run u).1

variable {P : σ → Prop}

theorem steady_ofExcept (r : Except Fault α) : (ofExcept r : Action σ α).Steady P :=
  ⟨fun _ h => h, fun _ _ _ _ => rfl⟩

theorem Steady.bind {a : Action σ α} {f : α → Action σ β} (h : a.Steady P)
    (hf : ∀ v, (f v).Steady P) : (a >>= f).Steady P := by
  refine ⟨fun t ht => ?_, fun t u ht hu => ?_⟩
  · have hstays := h.stays t ht
    rw [run_bind]
    rcases e : a.run t with ⟨_ | v, t'⟩ <;> rw [e] at hstays
    · exact hstays
    · exact (hf v).stays t' hstays
  · have hsame := h.same t u ht hu
    have ht := h.stays t ht
    have hu := h.stays u hu
    rw [run_bind, run_bind]
    rcases e : a.run t with ⟨r, t'⟩
    rcases e' : a.run u with ⟨r', u'⟩
    rw [e] at hsame ht
    rw [e'] at hsame hu
    obtain rfl : r = r' := hsame
    cases r with
    | error fault => rfl
    | ok v => exact (hf v).same t' u' ht hu

theorem inherited_steady (P : σ → Prop) : Inherited fun α (a : Action σ α) => a.Steady P where
  ofExcept _ r := steady_ofExcept r
  bind _ _ _ _ := Steady.bind

end Action

namespace Frame

open SceneScript.Action

variable {rasterizer : Rasterizer σ} {s : σ} (settings : Settings) (symbols : SymbolTable)

theorem steady_answer (h : rasterizer.Memoryless s) (call : Rasterizer.Call) :
    (rasterizer.answer call).Steady (rasterizer.Reaches s) :=
  ⟨fun _ ht => .call call ht, fun t u ht hu =>
    (h.answers t ht call).trans (h.answers u hu call).symm⟩

/-- A frame has one outcome, whoever runs it. -/
theorem steady_run (h : rasterizer.Memoryless s) (directives : List Directive) (number : Nat) :
    (run rasterizer settings directives number symbols).Steady (rasterizer.Reaches s) :=
  inherited_run settings symbols (inherited_steady (rasterizer.Reaches s)) (steady_answer h)
    directives number

end Frame

namespace Render

variable (rasterizer : Rasterizer σ) (settings : Settings) (directives : List Directive) (s : σ)
  (jobs : List (Nat × SymbolTable))

/-- What the frame of a job comes to for a rasterizer in a state. -/
def jobOutcome (job : Nat × SymbolTable) : Except Fault Frame :=
  ((Frame.run rasterizer settings directives job.1 job.2).run s).1

variable {rasterizer s}

/-- A job has one outcome, whoever reports it. -/
theorem eq_jobOutcome_of_reportedOf (h : rasterizer.Memoryless s) {job : Nat × SymbolTable}
    {r : Except Fault Frame} (hr : ReportedOf rasterizer settings directives s job r) :
    r = jobOutcome rasterizer settings directives s job := by
  obtain ⟨w, hw, rfl⟩ := hr
  exact (Frame.steady_run settings job.2 h directives job.1).same w s hw .start

/-- A chunk comes to the outcomes of its frames in order, and the schedule does not matter. -/
theorem renderChunk_eq (h : rasterizer.Memoryless s) (schedule : Schedule) {c : Chunk}
    (hlength : jobs.length = c.length) {t : σ} (ht : rasterizer.Reaches s t) :
    ∃ u, rasterizer.Reaches s u ∧
      (renderChunk rasterizer settings directives schedule c jobs).run t =
        (.ok (jobs.map (jobOutcome rasterizer settings directives s)), u) := by
  obtain ⟨outcomes, u, hu, hrun, hreports⟩ :=
    renderChunk_reports settings directives jobs h.forks schedule hlength ht
  refine ⟨u, hu, ?_⟩
  have hequal : List.Forall₂ (fun job r => jobOutcome rasterizer settings directives s job = r)
      jobs outcomes :=
    hreports.imp fun job r hr => (eq_jobOutcome_of_reportedOf settings directives h hr).symm
  have houtcomes : jobs.map (jobOutcome rasterizer settings directives s) = outcomes := by
    rw [← List.forall₂_eq_eq_eq, List.forall₂_map_left_iff]
    exact hequal
  rw [houtcomes]
  exact hrun

end Render

end SceneScript
