import Mathlib.Data.List.Forall2
import SceneScript.Proofs.ChunkPartition
import SceneScript.Proofs.Phases

/-! # Two runs side by side

`Alike F V` compares two outcomes: both are values, related by `V`, or both are faults, related by
`F`.  `Action.Paired S F V` compares two actions: run in states that `S` relates they leave states
that `S` relates, and their outcomes are alike.  A sequence of paired actions is paired, and so are
loops whose rounds are.

The states of a studio are compared part by part (`Studio.Related`): the symbols by one relation,
the rasterizers by another one, and the sinks are equal.  Two renders of one animation are then
paired if the writing of a knob row and the run of a frame are (`Render.paired_sequential`) or, with
workers, the running of a chunk (`Render.paired_parallel`).  The two may differ in their directives,
in their symbols and in their schedules. -/

namespace SceneScript

variable {σ τ α β γ δ : Type} {S : σ → σ → Prop} {F : Fault → Fault → Prop} {V : α → β → Prop}

/-! ### Outcomes -/

/-- Both outcomes are values that are related, or both are faults that are. -/
inductive Alike (F : Fault → Fault → Prop) (V : α → β → Prop) :
    Except Fault α → Except Fault β → Prop
  | ok {v : α} {w : β} (h : V v w) : Alike F V (.ok v) (.ok w)
  | error {e e' : Fault} (h : F e e') : Alike F V (.error e) (.error e')

namespace Alike

theorem refl (hF : ∀ e, F e e) (r : Except Fault α) : Alike F Eq r r := by
  cases r with
  | ok v => exact .ok rfl
  | error e => exact .error (hF e)

theorem imp {G : Fault → Fault → Prop} (hFG : ∀ e e', F e e' → G e e') {r : Except Fault α}
    {r' : Except Fault β} (h : Alike F V r r') : Alike G V r r' := by
  cases h with
  | ok h => exact .ok h
  | error h => exact .error (hFG _ _ h)

theorem eq {r r' : Except Fault α} (h : Alike Eq Eq r r') : r = r' := by
  cases h with
  | ok h => rw [h]
  | error h => rw [h]

theorem map {r r' : Except Fault α} (h : Alike F Eq r r') (f : α → γ) :
    Alike F Eq (r.map f) (r'.map f) := by
  cases h with
  | ok h => exact .ok (congrArg f h)
  | error h => exact .error h

theorem bind {W : γ → δ → Prop} {r : Except Fault α} {r' : Except Fault β}
    {f : α → Except Fault γ} {g : β → Except Fault δ} (h : Alike F V r r')
    (hf : ∀ v w, V v w → Alike F W (f v) (g w)) : Alike F W (r >>= f) (r' >>= g) := by
  cases h with
  | ok h => exact hf _ _ h
  | error h => exact .error h

theorem foldlM {R : α → β → Prop} {f : γ → α → Except Fault γ} {g : γ → β → Except Fault γ}
    (h : ∀ c x y, R x y → Alike F Eq (f c x) (g c y)) {xs : List α} {ys : List β}
    (hxs : List.Forall₂ R xs ys) (c : γ) : Alike F Eq (xs.foldlM f c) (ys.foldlM g c) := by
  induction hxs generalizing c with
  | nil => exact .ok rfl
  | cons hxy _ ih =>
      rw [List.foldlM_cons, List.foldlM_cons]
      refine (h c _ _ hxy).bind ?_
      rintro d _ rfl
      exact ih d

end Alike

/-! ### Actions -/

namespace Action

/-- In related states the actions have outcomes that are alike, and they leave related states. -/
def Paired (S : σ → σ → Prop) (F : Fault → Fault → Prop) (V : α → β → Prop) (a : Action σ α)
    (b : Action σ β) : Prop :=
  ∀ s t, S s t → S (a.run s).2 (b.run t).2 ∧ Alike F V (a.run s).1 (b.run t).1

theorem paired_ofExcept {r : Except Fault α} {r' : Except Fault β} (h : Alike F V r r') :
    Paired S F V (ofExcept r) (ofExcept r') :=
  fun _ _ hst => ⟨hst, h⟩

theorem paired_pure {v : α} {w : β} (h : V v w) : Paired S F V (pure v) (pure w) :=
  paired_ofExcept (.ok h)

theorem paired_fail {e e' : Fault} (h : F e e') :
    Paired S F V (fail e : Action σ α) (fail e' : Action σ β) :=
  paired_ofExcept (.error h)

theorem paired_inspect {f : σ → α} {g : σ → β} (h : ∀ s t, S s t → V (f s) (g t)) :
    Paired S F V (inspect f) (inspect g) :=
  fun s t hst => ⟨hst, .ok (h s t hst)⟩

theorem paired_refl (hF : ∀ e, F e e) (a : Action σ α) : Paired Eq F Eq a a := by
  rintro s _ rfl
  exact ⟨rfl, .refl hF _⟩

theorem Paired.imp {G : Fault → Fault → Prop} (hFG : ∀ e e', F e e' → G e e') {a : Action σ α}
    {b : Action σ β} (h : Paired S F V a b) : Paired S G V a b :=
  fun s t hst => ⟨(h s t hst).1, (h s t hst).2.imp hFG⟩

theorem Paired.bind {W : γ → δ → Prop} {a : Action σ α} {b : Action σ β} {f : α → Action σ γ}
    {g : β → Action σ δ} (h : Paired S F V a b) (hf : ∀ v w, V v w → Paired S F W (f v) (g w)) :
    Paired S F W (a >>= f) (b >>= g) := by
  intro s t hst
  obtain ⟨hleft, halike⟩ := h s t hst
  rw [run_bind, run_bind]
  generalize a.run s = x at hleft halike
  generalize b.run t = y at hleft halike
  obtain ⟨r, s'⟩ := x
  obtain ⟨r', t'⟩ := y
  cases halike with
  | ok hvw => exact hf _ _ hvw s' t' hleft
  | error he => exact ⟨hleft, .error he⟩

theorem paired_foldlM {R : α → β → Prop} {f : γ → α → Action σ γ} {g : γ → β → Action σ γ}
    (h : ∀ c x y, R x y → Paired S F Eq (f c x) (g c y)) {xs : List α} {ys : List β}
    (hxs : List.Forall₂ R xs ys) (c : γ) : Paired S F Eq (xs.foldlM f c) (ys.foldlM g c) := by
  induction hxs generalizing c with
  | nil => exact paired_pure rfl
  | cons hxy _ ih =>
      rw [List.foldlM_cons, List.foldlM_cons]
      refine (h c _ _ hxy).bind ?_
      rintro d _ rfl
      exact ih d

theorem paired_forM {f g : α → Action σ Unit} {xs : List α}
    (h : ∀ x ∈ xs, Paired S F Eq (f x) (g x)) : Paired S F Eq (xs.forM f) (xs.forM g) := by
  induction xs with
  | nil => exact paired_pure rfl
  | cons x xs ih =>
      obtain ⟨hx, hxs⟩ := List.forall_mem_cons.mp h
      exact hx.bind fun _ _ _ => ih hxs

theorem paired_mapM {f : α → Action σ β} {g : α → Action σ γ} {V : β → γ → Prop}
    (h : ∀ x, Paired S F V (f x) (g x)) (xs : List α) :
    Paired S F (fun ys zs => List.Forall₂ V ys zs ∧ ys.length = xs.length) (xs.mapM f)
      (xs.mapM g) := by
  induction xs with
  | nil => exact paired_pure ⟨.nil, rfl⟩
  | cons x xs ih =>
      rw [List.mapM_cons, List.mapM_cons]
      refine (h x).bind fun y z hyz => ih.bind ?_
      rintro ys zs ⟨hyszs, hlength⟩
      exact paired_pure ⟨.cons hyz hyszs, congrArg (· + 1) hlength⟩

end Action

/-! ### Studios -/

/-- Two studios with the same sink, and with symbols and rasterizers that are related. -/
structure Studio.Related (A : SymbolTable → SymbolTable → Prop) (T : σ → σ → Prop)
    (st st' : Studio σ τ) : Prop where
  symbols : A st.symbols st'.symbols
  rasterizer : T st.rasterizer st'.rasterizer
  sink : st.sink = st'.sink

theorem Studio.related_eq_iff {st st' : Studio σ τ} : Related Eq Eq st st' ↔ st = st' := by
  constructor
  · rintro ⟨hsymbols, hrasterizer, hsink⟩
    cases st
    cases st'
    cases hsymbols
    cases hrasterizer
    cases hsink
    rfl
  · rintro rfl
    exact ⟨rfl, rfl, rfl⟩

namespace Render

open SceneScript.Action

variable {A : SymbolTable → SymbolTable → Prop} {T : σ → σ → Prop}

theorem paired_onSymbols {a : Action SymbolTable α} {b : Action SymbolTable β}
    (h : Paired A F V a b) :
    Paired (Studio.Related A T) F V (onSymbols a : Action (Studio σ τ) α) (onSymbols b) := by
  rintro st st' ⟨hsymbols, hrasterizer, hsink⟩
  obtain ⟨hleft, halike⟩ := h _ _ hsymbols
  exact ⟨⟨hleft, hrasterizer, hsink⟩, halike⟩

theorem paired_onRasterizer {a : Action σ α} {b : Action σ β} (h : Paired T F V a b) :
    Paired (Studio.Related A T) F V (onRasterizer a : Action (Studio σ τ) α) (onRasterizer b) := by
  rintro st st' ⟨hsymbols, hrasterizer, hsink⟩
  obtain ⟨hleft, halike⟩ := h _ _ hrasterizer
  exact ⟨⟨hsymbols, hleft, hsink⟩, halike⟩

theorem paired_onSink (hF : ∀ e, F e e) (a : Action τ α) :
    Paired (Studio.Related A T) F Eq (onSink a : Action (Studio σ τ) α) (onSink a) := by
  rintro ⟨s, r, t⟩ ⟨s', r', t'⟩ ⟨hsymbols, hrasterizer, rfl⟩
  exact ⟨⟨hsymbols, hrasterizer, rfl⟩, .refl hF _⟩

/-! ### Renders -/

section

variable {rasterizer : Rasterizer σ} (sink : Sink τ) {settings : Settings}
  {xs ys : List Directive} {animation : Animation}

theorem paired_frame (hF : ∀ e, F e e) (stats : Stats) (number : Nat)
    (hrow : Paired A F Eq (writeRow animation.table number) (writeRow animation.table number))
    (hrun : ∀ symbols symbols', A symbols symbols' →
      Paired T F Eq (Frame.run rasterizer settings xs number symbols)
        (Frame.run rasterizer settings ys number symbols')) :
    Paired (Studio.Related A T) F Eq (frame rasterizer sink settings xs animation stats number)
      (frame rasterizer sink settings ys animation stats number) := by
  refine (paired_onSymbols hrow).bind fun _ _ _ => ?_
  refine (paired_inspect fun _ _ h => h.symbols).bind fun symbols symbols' hsymbols => ?_
  refine (paired_onRasterizer (hrun symbols symbols' hsymbols)).bind ?_
  rintro f _ rfl
  exact paired_onSink hF _

theorem paired_sequential (hF : ∀ e, F e e)
    (hrow : ∀ number,
      Paired A F Eq (writeRow animation.table number) (writeRow animation.table number))
    (hrun : ∀ number symbols symbols', A symbols symbols' →
      Paired T F Eq (Frame.run rasterizer settings xs number symbols)
        (Frame.run rasterizer settings ys number symbols')) :
    Paired (Studio.Related A T) F Eq (sequential rasterizer sink settings xs animation)
      (sequential rasterizer sink settings ys animation) := by
  refine paired_foldlM (R := Eq) ?_ (List.forall₂_refl _) noStats
  rintro stats number _ rfl
  exact paired_frame sink hF stats number (hrow number) (hrun number)

/-- The jobs of a chunk, with symbols that are related. -/
def JobsRelated (A : SymbolTable → SymbolTable → Prop) (jobs jobs' : List (Nat × SymbolTable)) :
    Prop :=
  List.Forall₂ (fun job job' => job.1 = job'.1 ∧ A job.2 job'.2) jobs jobs'

theorem paired_snapshots (numbers : List Nat)
    (hrow : ∀ number,
      Paired A F Eq (writeRow animation.table number) (writeRow animation.table number)) :
    Paired A F (fun jobs jobs' => JobsRelated A jobs jobs' ∧ jobs.length = numbers.length)
      (snapshots animation.table numbers) (snapshots animation.table numbers) := by
  refine paired_mapM (fun number => ?_) numbers
  refine (hrow number).bind fun _ _ _ => ?_
  refine (paired_inspect fun _ _ hst => hst).bind fun symbols symbols' hsymbols => ?_
  exact paired_pure ⟨rfl, hsymbols⟩

variable {schedule schedule' : Schedule} {threading : Threading}

theorem paired_chunk (hF : ∀ e, F e e) (stats : Stats) (c : Chunk)
    (hrow : ∀ number,
      Paired A F Eq (writeRow animation.table number) (writeRow animation.table number))
    (hchunk : ∀ jobs jobs', JobsRelated A jobs jobs' → jobs.length = c.length →
      Paired T F Eq (renderChunk rasterizer settings xs schedule c jobs)
        (renderChunk rasterizer settings ys schedule' c jobs')) :
    Paired (Studio.Related A T) F Eq
      (chunk rasterizer sink settings xs animation schedule stats c)
      (chunk rasterizer sink settings ys animation schedule' stats c) := by
  refine (paired_onSymbols (paired_snapshots c.frames hrow)).bind ?_
  rintro jobs jobs' ⟨hjobs, hlength⟩
  refine (paired_onRasterizer (hchunk jobs jobs' hjobs (hlength.trans c.length_frames))).bind ?_
  rintro outcomes _ rfl
  exact paired_onSink hF _

theorem paired_parallel (hF : ∀ e, F e e)
    (hprobe : Paired T F Eq (probeFork rasterizer) (probeFork rasterizer))
    (hrow : ∀ number,
      Paired A F Eq (writeRow animation.table number) (writeRow animation.table number))
    (hchunk : ∀ c jobs jobs', JobsRelated A jobs jobs' → jobs.length = c.length →
      Paired T F Eq (renderChunk rasterizer settings xs schedule c jobs)
        (renderChunk rasterizer settings ys schedule' c jobs')) :
    Paired (Studio.Related A T) F Eq
      (parallel rasterizer sink settings xs animation threading schedule)
      (parallel rasterizer sink settings ys animation threading schedule') := by
  refine (paired_onRasterizer hprobe).bind fun _ _ _ => ?_
  refine (paired_ofExcept (.refl hF _)).bind fun _ _ _ => ?_
  refine paired_foldlM (R := Eq) ?_ (List.forall₂_refl _) noStats
  rintro stats c _ rfl
  exact paired_chunk sink hF stats c hrow (hchunk c)

/-- Renders of an animation are paired if what they do for its frames is. -/
theorem paired_frames (hF : ∀ e, F e e)
    (hbody : Paired (Studio.Related A T) F Eq
      (body rasterizer sink settings xs animation threading schedule)
      (body rasterizer sink settings ys animation threading schedule')) :
    Paired (Studio.Related A T) F Eq
      (frames rasterizer sink settings xs threading schedule animation)
      (frames rasterizer sink settings ys threading schedule' animation) := by
  rw [frames_eq_phases, frames_eq_phases]
  refine (paired_ofExcept (.refl hF _)).bind fun _ _ _ => ?_
  refine (paired_ofExcept (.refl hF _)).bind fun _ _ _ => ?_
  refine hbody.bind ?_
  rintro stats _ rfl
  exact (paired_onSink hF _).bind fun _ _ _ => paired_pure rfl

/-- Scenes whose animations are alike are rendered alike if renders of the animation are paired. -/
theorem paired_scene
    (hanimation : Alike F Eq (Animation.ofDirectives xs) (Animation.ofDirectives ys))
    (hframes : ∀ animation, Animation.ofDirectives xs = .ok animation →
      Paired (Studio.Related A T) F Eq
        (frames rasterizer sink settings xs threading schedule animation)
        (frames rasterizer sink settings ys threading schedule' animation)) :
    Paired (Studio.Related A T) F Eq (scene rasterizer sink settings xs threading schedule)
      (scene rasterizer sink settings ys threading schedule') := by
  have hresolved : Alike F (fun a b => a = b ∧ Animation.ofDirectives xs = .ok a)
      (Animation.ofDirectives xs) (Animation.ofDirectives ys) := by
    generalize Animation.ofDirectives xs = r at hanimation
    generalize Animation.ofDirectives ys = r' at hanimation
    cases hanimation with
    | ok h => exact .ok ⟨h, rfl⟩
    | error h => exact .error h
  refine (paired_ofExcept hresolved).bind ?_
  rintro animation _ ⟨rfl, hok⟩
  refine (hframes animation hok).bind ?_
  rintro stats _ rfl
  exact paired_pure rfl

end

end Render

end SceneScript
