import Mathlib.Data.List.Forall2
import SceneScript.Proofs.FrameRuns
import SceneScript.Proofs.Interleavings

/-! # Requests as snapshots

A frame that runs has one request for each `display` and `save`, and each of them holds the surface
that the directives in front of it come to when they are run alone (`Frame.forall₂_requests`).  So
nothing that is drawn later is seen in a request.

Nor does a request show in what is drawn later.  Apart from its requests a frame in the making does
not depend on them (`Frame.step_withRequests`) nor on the positions of its directives, which only
faults quote; so without its `display`s and `save`s a scene runs as it does with them
(`Frame.steps_quiet`).  `Frame.requests_are_snapshots` puts the two together, with the calls to the
rasterizer. -/

namespace SceneScript

variable {σ α β : Type}

/-! ### Lists -/

/-- Where a function has values exactly on what passes a test, its values belong one by one to what
passes. -/
theorem forall₂_filter_filterMap {R : α → β → Prop} {p : α → Bool} {f : α → Option β} {xs : List α}
    (hpass : ∀ x ∈ xs, p x = true → ∃ y, f x = some y ∧ R x y)
    (hfail : ∀ x ∈ xs, p x = false → f x = none) :
    List.Forall₂ R (xs.filter p) (xs.filterMap f) := by
  induction xs with
  | nil => exact .nil
  | cons x xs ih =>
      obtain ⟨hx, hxs⟩ := List.forall_mem_cons.mp hpass
      obtain ⟨hx', hxs'⟩ := List.forall_mem_cons.mp hfail
      cases hp : p x with
      | true =>
          obtain ⟨y, hy, hxy⟩ := hx hp
          rw [List.filter_cons_of_pos hp, List.filterMap_cons_some hy]
          exact .cons hxy (ih hxs hxs')
      | false =>
          rw [List.filter_cons_of_neg (by rw [hp]; decide), List.filterMap_cons_none (hx' hp)]
          exact ih hxs hxs'

/-- Paired actions succeed together. -/
theorem Action.Paired.eq_ok {F : Fault → Fault → Prop} {a b : Action σ α} (h : a.Paired Eq F Eq b)
    {s t : σ} {v : α} (ha : a.run s = (.ok v, t)) : b.run s = (.ok v, t) := by
  obtain ⟨hstate, halike⟩ := h s s rfl
  rw [ha] at hstate halike
  generalize b.run s = outcome at hstate halike
  obtain ⟨r, u⟩ := outcome
  cases halike with
  | ok hvalue =>
      obtain rfl : v = _ := hvalue
      obtain rfl : t = u := hstate
      rfl

namespace Frame

open SceneScript.Action

variable {rasterizer : Rasterizer σ} {settings : Settings} {symbols : SymbolTable} {number : Nat}

/-! ### What a request holds -/

/-- The directives in front of a position run if all of them do. -/
theorem exists_run_take {directives : List Directive} {s t : σ} {f : Frame}
    (h : (run rasterizer settings directives number symbols).run s = (.ok f, t)) (i : Nat) :
    ∃ g u, (run rasterizer settings (directives.take i) number symbols).run s = (.ok g, u) := by
  obtain ⟨p, hp, rfl⟩ := run_eq_ok_iff.mp h
  rw [← List.take_append_drop i directives, steps_append, bind_eq_ok_iff] at hp
  obtain ⟨q, u, hq, _⟩ := hp
  exact ⟨_, u, run_eq_ok_iff.mpr ⟨q, hq, rfl⟩⟩

/-- The requests of a frame are, in source order, those of its `display`s and `save`s, each made of
the surface that the directives in front of it come to. -/
theorem forall₂_requests {directives : List Directive} {s t : σ} {f : Frame}
    (h : (run rasterizer settings directives number symbols).run s = (.ok f, t)) :
    List.Forall₂ (fun e r => ∃ g u,
        (run rasterizer settings (directives.take e.2) number symbols).run s = (.ok g, u) ∧
          e.1.request? g.surface = some r)
      (directives.zipIdx.filter fun e => e.1.requests) f.requests := by
  rw [requests_of_run h]
  have hbefore : ∀ i, ∃ g u,
      (run rasterizer settings (directives.take i) number symbols).run s = (.ok g, u) ∧
        surfaceBefore rasterizer settings symbols number directives s i = some g.surface := by
    intro i
    obtain ⟨g, u, hg⟩ := exists_run_take h i
    exact ⟨g, u, hg, by rw [surfaceBefore, hg]; rfl⟩
  refine forall₂_filter_filterMap ?_ ?_
  · rintro ⟨d, i⟩ _ hd
    obtain ⟨g, u, hg, hsurface⟩ := hbefore i
    obtain ⟨r, hr⟩ := Option.isSome_iff_exists.mp ((d.isSome_request? g.surface).trans hd)
    exact ⟨r, by rw [hsurface]; exact hr, g, u, hg, hr⟩
  · rintro ⟨d, i⟩ _ hd
    obtain ⟨g, u, hg, hsurface⟩ := hbefore i
    have hnone : (d.request? g.surface).isSome = false := (d.isSome_request? g.surface).trans hd
    rw [hsurface]
    exact Option.isNone_iff_eq_none.mp (Option.isSome_eq_false_iff.mp hnone)

/-! ### Without requests -/

/-- A `display` or `save` does nothing but make its request. -/
theorem step_of_requests {d : Directive} (hd : d.requests = true) (index : Nat) (p : Progress) :
    step rasterizer settings symbols number index d p =
      pure { p with requests := p.requests ++ (d.request? p.surface).toList } := by
  cases d with
  | display | save => rfl
  | _ => cases hd

/-- Any other directive does the same whatever has been requested before. -/
theorem step_withRequests {d : Directive} (hd : d.requests = false) {index : Nat} {p q : Progress}
    {s t : σ} (h : (step rasterizer settings symbols number index d p).run s = (.ok q, t))
    (requests : List Request) :
    (step rasterizer settings symbols number index d { p with requests }).run s =
      (.ok { q with requests }, t) := by
  cases d with
  | shape shape constants coords =>
      simp only [step, bind_eq_ok_iff, pure_eq_ok_iff] at h ⊢
      obtain ⟨r, u, hr, surface, v, hdraw, rfl, rfl⟩ := h
      exact ⟨r, u, hr, surface, v, hdraw, rfl, rfl⟩
  | line constants p0 coords0 p1 coords1 =>
      simp only [step, bind_eq_ok_iff, pure_eq_ok_iff] at h ⊢
      obtain ⟨r, u, hr, surface, v, hdraw, rfl, rfl⟩ := h
      exact ⟨r, u, hr, surface, v, hdraw, rfl, rfl⟩
  | motion m knob =>
      simp only [step, bind_eq_ok_iff, pure_eq_ok_iff] at h ⊢
      obtain ⟨k, u, hk, rfl, rfl⟩ := h
      exact ⟨k, u, hk, rfl, rfl⟩
  | pop =>
      simp only [step] at h ⊢
      cases hpop : p.stack.pop with
      | error e =>
          rw [hpop] at h
          simp at h
      | ok popped =>
          rw [hpop] at h
          obtain ⟨rfl, rfl⟩ := pure_eq_ok_iff.mp h
          rfl
  | display | save => cases hd
  | _ =>
      obtain ⟨rfl, rfl⟩ := pure_eq_ok_iff.mp h
      rfl

/-- Directives that run do so without their `display`s and `save`s as well, from any position and
whatever has been requested before. -/
theorem steps_quiet {directives : List Directive} {index : Nat} {p q : Progress} {s t : σ}
    (h : (steps rasterizer settings symbols number index directives p).run s = (.ok q, t))
    (index' : Nat) (requests : List Request) :
    (steps rasterizer settings symbols number index' (directives.filter fun d => !d.requests)
      { p with requests }).run s = (.ok { q with requests }, t) := by
  induction directives generalizing index index' p s with
  | nil =>
      obtain ⟨rfl, rfl⟩ := pure_eq_ok_iff.mp h
      rfl
  | cons d directives ih =>
      rw [steps, bind_eq_ok_iff] at h
      obtain ⟨p', s', hd, hrest⟩ := h
      cases hrequests : d.requests with
      | true =>
          rw [step_of_requests hrequests, pure_eq_ok_iff] at hd
          obtain ⟨rfl, rfl⟩ := hd
          rw [List.filter_cons_of_neg (by rw [hrequests]; decide)]
          exact ih hrest index'
      | false =>
          have hmoved := (paired_step rasterizer settings symbols number index index' d p).eq_ok hd
          rw [List.filter_cons_of_pos (by rw [hrequests]; rfl), steps, bind_eq_ok_iff]
          exact ⟨_, s', step_withRequests hrequests hmoved requests, ih hrest (index' + 1)⟩

/-- A frame that runs does so without its requests as well, and comes to the same but for them. -/
theorem run_quiet {directives : List Directive} {s t : σ} {f : Frame}
    (h : (run rasterizer settings directives number symbols).run s = (.ok f, t)) :
    (run rasterizer settings (directives.filter fun d => !d.requests) number symbols).run s =
      (.ok { f with requests := [] }, t) := by
  obtain ⟨p, hp, rfl⟩ := run_eq_ok_iff.mp h
  exact run_eq_ok_iff.mpr ⟨_, steps_quiet hp 0 [], rfl⟩

/-- **Requests are snapshots.**  A frame that runs has a request for each `display` and `save` of
its scene and no other, in source order and of the same kind and name.  The surface of a request is
the one that the directives in front of it come to when they are run alone, from the same state of
the rasterizer.  And without all `display`s and `save`s the rasterizer receives the same calls, is
left in the same state, and the final surface is the same. -/
theorem requests_are_snapshots {directives : List Directive} {s t : σ} {f : Frame}
    (h : (run rasterizer settings directives number symbols).run s = (.ok f, t)) :
    List.Forall₂ (fun e r => ∃ g u,
        (run rasterizer settings (directives.take e.2) number symbols).run s = (.ok g, u) ∧
          e.1.request? g.surface = some r)
      (directives.zipIdx.filter fun e => e.1.requests) f.requests ∧
    ∀ calls, ∃ more g,
      (run rasterizer.recorded settings directives number symbols).run (s, calls) =
        (.ok f, (t, calls ++ more)) ∧
      (run rasterizer.recorded settings (directives.filter fun d => !d.requests) number
        symbols).run (s, calls) = (.ok g, (t, calls ++ more)) ∧
      g.surface = f.surface ∧ g.requests = [] := by
  refine ⟨forall₂_requests h, fun calls => ?_⟩
  obtain ⟨more, hrecorded⟩ := run_recordedBy rasterizer settings symbols directives number s calls
  rw [h] at hrecorded
  exact ⟨more, _, hrecorded, run_quiet hrecorded, rfl, rfl⟩

/-- The rasterizer that makes the first cell white for every shape. -/
def dabbing : Rasterizer Unit :=
  { Rasterizer.idle with
    drawTriangles := fun _ surface _ => pure (surface.plot 0 0 0 ⟨255, 255, 255⟩).2 }

/-- A ball between two requests. -/
def ball : List Directive :=
  [.display, .shape (.sphere ⟨0, 0, 0⟩ 1) none none, .save "ball"]

theorem ball_snapshots :
    let settings := { Settings.standard with canvas := ⟨1, 1⟩ }
    ∃ f, (run dabbing settings ball 0 .empty).run () = (.ok f, ()) ∧
      (∃ first second, f.requests = [.display first, .save "ball" second] ∧
        first.color? 0 0 = some .black ∧ second.color? 0 0 = some ⟨255, 255, 255⟩) ∧
      ∃ g calls, (run dabbing.recorded settings [.shape (.sphere ⟨0, 0, 0⟩ 1) none none] 0
          .empty).run ((), []) = (.ok g, ((), calls)) ∧
        g.surface = f.surface ∧ calls.length = 2 := by
  intro settings
  obtain ⟨f, hf⟩ : ∃ f, (run dabbing settings ball 0 .empty).run () = (.ok f, ()) := ⟨_, rfl⟩
  obtain ⟨hrequests, hquiet⟩ := requests_are_snapshots hf
  refine ⟨f, hf, ?_, ?_⟩
  · generalize f.requests = requests at hrequests
    cases hrequests with
    | cons hdisplay hrest =>
        cases hrest with
        | cons hsave hnil =>
            cases hnil
            obtain ⟨g, u, hg, hr⟩ := hdisplay
            obtain ⟨g', u', hg', hr'⟩ := hsave
            cases hg
            cases hr
            cases hg'
            cases hr'
            exact ⟨_, _, rfl, by decide, by decide⟩
  · obtain ⟨more, g, hall, hg, hsurface, _⟩ := hquiet []
    refine ⟨g, more, hg, hsurface, ?_⟩
    cases hall
    rfl

end Frame

end SceneScript
