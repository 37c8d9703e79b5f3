import Mathlib.Data.List.Basic
import Mathlib.Data.List.Induction
import SceneScript.Frame
import SceneScript.Proofs.ActionLaws

/-! # Runs of frames

A run of `Frame.steps` on `xs ++ ys` is a run on `xs` and then one on `ys` (`steps_append`), so a
run is understood from its last directive backwards.  `requests_of_run` is the first use: the
requests of a frame are `Frame.requested`, one for each `display` and `save` in source order, with
the surface that the directives before it come to when they are run alone. -/

namespace SceneScript

/-- The request that a directive makes of a surface. -/
def Directive.request? (surface : Surface) : Directive → Option Request
  | .display => some (.display surface)
  | .save name => some (.save name surface)
  | _ => none

/-- The directive asks for output. -/
def Directive.requests : Directive → Bool
  | .display | .save _ => true
  | _ => false

theorem Directive.isSome_request? (surface : Surface) (d : Directive) :
    (d.request? surface).isSome = d.requests := by
  cases d <;> rfl

namespace Frame

open SceneScript.Action

variable {σ : Type} (rasterizer : Rasterizer σ) (settings : Settings) (symbols : SymbolTable)
  (number : Nat)

theorem steps_append (index : Nat) (xs ys : List Directive) (p : Progress) :
    steps rasterizer settings symbols number index (xs ++ ys) p =
      steps rasterizer settings symbols number index xs p >>=
        steps rasterizer settings symbols number (index + xs.length) ys := by
  induction xs generalizing index p with
  | nil => rw [List.nil_append, steps, pure_bind, List.length_nil, Nat.add_zero]
  | cons d xs ih =>
      rw [List.cons_append, steps, steps, bind_assoc, List.length_cons]
      congr 1
      funext q
      rw [ih, Nat.add_right_comm, Nat.add_assoc]

theorem steps_singleton (index : Nat) (d : Directive) (p : Progress) :
    steps rasterizer settings symbols number index [d] p =
      step rasterizer settings symbols number index d p := by
  simp only [steps, bind_pure]

variable {rasterizer settings symbols number}

/-- A run is successful if its directives are, and answers what they come to. -/
theorem run_eq_ok_iff {directives : List Directive} {s t : σ} {f : Frame} :
    (run rasterizer settings directives number symbols).run s = (.ok f, t) ↔
      ∃ p, (steps rasterizer settings symbols number 0 directives (.start settings)).run s =
          (.ok p, t) ∧ f = ⟨number, p.surface, p.requests⟩ := by
  simp only [run, bind_eq_ok_iff, pure_eq_ok_iff]
  constructor
  · rintro ⟨p, u, hp, rfl, rfl⟩
    exact ⟨p, hp, rfl⟩
  · rintro ⟨p, hp, rfl⟩
    exact ⟨p, t, hp, rfl, rfl⟩

/-- A directive adds its own request, with the surface as it stood before. -/
theorem requests_of_step {index : Nat} {d : Directive} {p q : Progress} {s t : σ}
    (h : (step rasterizer settings symbols number index d p).run s = (.ok q, t)) :
    q.requests = p.requests ++ (d.request? p.surface).toList := by
  cases d with
  | shape shape constants coords =>
      simp only [step, bind_eq_ok_iff, pure_eq_ok_iff] at h
      obtain ⟨_, _, _, _, _, _, rfl, _⟩ := h
      exact (List.append_nil _).symm
  | line constants p0 coords0 p1 coords1 =>
      simp only [step, bind_eq_ok_iff, pure_eq_ok_iff] at h
      obtain ⟨_, _, _, _, _, _, rfl, _⟩ := h
      exact (List.append_nil _).symm
  | motion m knob =>
      simp only [step, bind_eq_ok_iff, pure_eq_ok_iff] at h
      obtain ⟨_, _, _, rfl, _⟩ := h
      exact (List.append_nil _).symm
  | pop =>
      simp only [step] at h
      split at h
      · rw [pure_eq_ok_iff] at h
        rw [← h.1]
        exact (List.append_nil _).symm
      · simp at h
  | _ =>
      simp only [step, pure_eq_ok_iff] at h
      rw [← h.1]
      simp [Directive.request?]

/-- A frame has as many requests as its scene has directives that ask for output. -/
theorem length_requests_of_steps {index : Nat} {directives : List Directive} {p q : Progress}
    {s t : σ}
    (h : (steps rasterizer settings symbols number index directives p).run s = (.ok q, t)) :
    q.requests.length = p.requests.length + directives.countP Directive.requests := by
  induction directives generalizing index p s with
  | nil =>
      rw [steps, pure_eq_ok_iff] at h
      rw [h.1]
      rfl
  | cons d directives ih =>
      rw [steps, bind_eq_ok_iff] at h
      obtain ⟨r, u, hr, h⟩ := h
      have hd := requests_of_step hr
      rw [ih h, hd, List.length_append, List.countP_cons,
        ← Directive.isSome_request? p.surface d]
      cases d.request? p.surface <;> simp; omega

theorem length_requests_of_run {directives : List Directive} {s t : σ} {f : Frame}
    (h : (run rasterizer settings directives number symbols).run s = (.ok f, t)) :
    f.requests.length = directives.countP Directive.requests := by
  obtain ⟨p, hp, rfl⟩ := run_eq_ok_iff.mp h
  rw [length_requests_of_steps hp]
  exact Nat.zero_add _

theorem number_of_run {directives : List Directive} {s t : σ} {f : Frame}
    (h : (run rasterizer settings directives number symbols).run s = (.ok f, t)) :
    f.number = number := by
  obtain ⟨p, _, rfl⟩ := run_eq_ok_iff.mp h
  rfl

/-! ### Requests as snapshots -/

variable (rasterizer settings symbols number)

/-- The surface as it stands before a position: what the directives in front of it draw. -/
def surfaceBefore (directives : List Directive) (s : σ) (position : Nat) : Option Surface :=
  ((run rasterizer settings (directives.take position) number symbols).run s).1.toOption.map
    Frame.surface

/-- The requests of a frame in source order, each with the surface as it stands before it. -/
def requested (directives : List Directive) (s : σ) : List Request :=
  directives.zipIdx.filterMap fun e =>
    (surfaceBefore rasterizer settings symbols number directives s e.2).bind e.1.request?

/-- The final surface of a frame; a blank one if the frame fails. -/
def finalSurface (directives : List Directive) (s : σ) : Surface :=
  (surfaceBefore rasterizer settings symbols number directives s directives.length).getD
    settings.blankSurface

variable {rasterizer settings symbols number}

theorem surfaceBefore_append {directives : List Directive} (rest : List Directive) (s : σ)
    {position : Nat} (h : position ≤ directives.length) :
    surfaceBefore rasterizer settings symbols number (directives ++ rest) s position =
      surfaceBefore rasterizer settings symbols number directives s position := by
  rw [surfaceBefore, surfaceBefore, List.take_append_of_le_length h]

theorem requested_concat (directives : List Directive) (d : Directive) (s : σ) :
    requested rasterizer settings symbols number (directives ++ [d]) s =
      requested rasterizer settings symbols number directives s ++
        ((surfaceBefore rasterizer settings symbols number directives s directives.length).bind
          d.request?).toList := by
  unfold requested
  rw [List.zipIdx_append, List.filterMap_append]
  congr 1
  · refine List.filterMap_congr fun e he => ?_
    have hlt : e.2 < directives.length := List.snd_lt_of_mem_zipIdx he
    rw [surfaceBefore_append [d] s (Nat.le_of_lt hlt)]
  · rw [List.zipIdx_singleton, List.filterMap_cons, List.filterMap_nil,
      Nat.zero_add, surfaceBefore_append [d] s (Nat.le_refl _)]
    cases (surfaceBefore rasterizer settings symbols number directives s
      directives.length).bind d.request? <;> rfl

/-- The requests of a frame are faithful: kind, name, order and surface are those of the
directives that make them. -/
theorem requests_of_run {directives : List Directive} {s t : σ} {f : Frame}
    (h : (run rasterizer settings directives number symbols).run s = (.ok f, t)) :
    f.requests = requested rasterizer settings symbols number directives s := by
  induction directives using List.reverseRecOn generalizing f t with
  | nil =>
      obtain ⟨p, hp, rfl⟩ := run_eq_ok_iff.mp h
      rw [steps, pure_eq_ok_iff] at hp
      rw [← hp.1]
      rfl
  | append_singleton directives d ih =>
      obtain ⟨q, hq, rfl⟩ := run_eq_ok_iff.mp h
      rw [steps_append, bind_eq_ok_iff] at hq
      obtain ⟨p, u, hp, hd⟩ := hq
      rw [steps_singleton] at hd
      have hfront := run_eq_ok_iff.mpr ⟨p, hp, rfl⟩
      have hsurface : surfaceBefore rasterizer settings symbols number directives s
          directives.length = some p.surface := by
        rw [surfaceBefore, List.take_length, hfront]
        rfl
      rw [requested_concat, ← ih hfront, hsurface]
      exact requests_of_step hd

theorem finalSurface_of_run {directives : List Directive} {s t : σ} {f : Frame}
    (h : (run rasterizer settings directives number symbols).run s = (.ok f, t)) :
    finalSurface rasterizer settings symbols number directives s = f.surface := by
  rw [finalSurface, surfaceBefore, List.take_length, h]
  rfl

end Frame

end SceneScript
