import SceneScript.Action

/-! # Runs of actions

What a run says about its parts, mostly for runs that succeed.  `Action.bind_eq_ok_iff` takes the
run of a sequence apart, `Action.within_eq_iff` the run on a part of a state, and
`Action.mapM_cons_eq_ok_iff` and its fellows the first round of a loop over a list.  With them the
definition of a run is not opened in later proofs. -/

namespace SceneScript
namespace Action

variable {σ τ α β γ : Type}

theorem pure_eq_ok_iff {v w : α} {s t : σ} :
    (pure v : Action σ α).run s = (.ok w, t) ↔ v = w ∧ s = t := by
  simp

theorem bind_eq_ok_iff {a : Action σ α} {f : α → Action σ β} {s u : σ} {w : β} :
    (a >>= f).run s = (.ok w, u) ↔
      ∃ v t, a.run s = (.ok v, t) ∧ (f v).run t = (.ok w, u) := by
  rw [run_bind]
  rcases a.run s with ⟨_ | v, t⟩
  · simp
  · constructor
    · intro h
      exact ⟨v, t, rfl, h⟩
    · rintro ⟨_, _, ⟨rfl, rfl⟩, h⟩
      exact h

/-- A sequence faults in its first part, or in its second after a success of the first. -/
theorem bind_eq_error_iff {a : Action σ α} {f : α → Action σ β} {s u : σ} {e : Fault} :
    (a >>= f).run s = (.error e, u) ↔
      a.run s = (.error e, u) ∨ ∃ v t, a.run s = (.ok v, t) ∧ (f v).run t = (.error e, u) := by
  rw [run_bind]
  rcases a.run s with ⟨_ | v, t⟩
  · simp
  · constructor
    · intro h
      exact .inr ⟨v, t, rfl, h⟩
    · rintro (⟨⟨⟩⟩ | ⟨_, _, ⟨rfl, rfl⟩, h⟩)
      exact h

theorem ofExcept_eq_ok_iff {r : Except Fault α} {s t : σ} {v : α} :
    (ofExcept r : Action σ α).run s = (.ok v, t) ↔ r = .ok v ∧ s = t := by
  simp

theorem within_eq_iff {part : σ → τ} {put : τ → σ → σ} {a : Action τ α} {s u : σ}
    {r : Except Fault α} :
    (within part put a).run s = (r, u) ↔ ∃ t, a.run (part s) = (r, t) ∧ put t s = u := by
  rw [run_within]
  rcases a.run (part s) with ⟨r, t⟩
  constructor
  · intro h
    obtain ⟨rfl, rfl⟩ := Prod.mk.inj h
    exact ⟨t, rfl, rfl⟩
  · rintro ⟨_, ⟨rfl, rfl⟩, rfl⟩
    rfl

theorem mapM_cons_eq_ok_iff {f : α → Action σ β} {x : α} {xs : List α} {ys : List β} {s u : σ} :
    ((x :: xs).mapM f).run s = (.ok ys, u) ↔
      ∃ y t rest, (f x).run s = (.ok y, t) ∧ (xs.mapM f).run t = (.ok rest, u) ∧
        ys = y :: rest := by
  simp only [List.mapM_cons, bind_eq_ok_iff, pure_eq_ok_iff]
  constructor
  · rintro ⟨y, t, hy, rest, u, hrest, rfl, rfl⟩
    exact ⟨y, t, rest, hy, hrest, rfl⟩
  · rintro ⟨y, t, rest, hy, hrest, rfl⟩
    exact ⟨y, t, hy, rest, u, hrest, rfl, rfl⟩

theorem foldlM_cons_eq_ok_iff {f : β → α → Action σ β} {x : α} {xs : List α} {b c : β} {s u : σ} :
    ((x :: xs).foldlM f b).run s = (.ok c, u) ↔
      ∃ d t, (f b x).run s = (.ok d, t) ∧ (xs.foldlM f d).run t = (.ok c, u) := by
  rw [List.foldlM_cons, bind_eq_ok_iff]

theorem forM_cons_eq_ok_iff {f : α → Action σ Unit} {x : α} {xs : List α} {s u : σ} :
    ((x :: xs).forM f).run s = (.ok (), u) ↔
      ∃ t, (f x).run s = (.ok (), t) ∧ (xs.forM f).run t = (.ok (), u) := by
  change (f x >>= fun _ => xs.forM f).run s = (.ok (), u) ↔ _
  rw [bind_eq_ok_iff]
  constructor
  · rintro ⟨⟨⟩, t, hx, hxs⟩
    exact ⟨t, hx, hxs⟩
  · rintro ⟨t, hx, hxs⟩
    exact ⟨(), t, hx, hxs⟩

/-- A loop that faults does so on one of its elements, after the rounds of those in front. -/
theorem exists_of_foldlM_eq_error {f : β → α → Action σ β} {xs : List α} {b : β} {s u : σ}
    {e : Fault} (h : (xs.foldlM f b).run s = (.error e, u)) :
    ∃ front x back c t, xs = front ++ x :: back ∧ (front.foldlM f b).run s = (.ok c, t) ∧
      (f c x).run t = (.error e, u) := by
  induction xs generalizing b s with
  | nil => cases h
  | cons x xs ih =>
      rw [List.foldlM_cons, bind_eq_error_iff] at h
      rcases h with hx | ⟨d, t, hx, hxs⟩
      · exact ⟨[], x, xs, b, s, rfl, rfl, hx⟩
      · obtain ⟨front, y, back, c, v, rfl, hfront, hy⟩ := ih hxs
        exact ⟨x :: front, y, back, c, v, rfl, foldlM_cons_eq_ok_iff.mpr ⟨d, t, hx, hfront⟩, hy⟩

theorem foldlM_append_eq_ok_iff {f : β → α → Action σ β} {xs ys : List α} {b c : β} {s u : σ} :
    ((xs ++ ys).foldlM f b).run s = (.ok c, u) ↔
      ∃ d t, (xs.foldlM f b).run s = (.ok d, t) ∧ (ys.foldlM f d).run t = (.ok c, u) := by
  rw [List.foldlM_append, bind_eq_ok_iff]

theorem mapM_append_eq_ok_iff {f : α → Action σ β} {xs ys : List α} {zs : List β} {s u : σ} :
    ((xs ++ ys).mapM f).run s = (.ok zs, u) ↔
      ∃ front t back, (xs.mapM f).run s = (.ok front, t) ∧ (ys.mapM f).run t = (.ok back, u) ∧
        zs = front ++ back := by
  simp only [List.mapM_append, bind_eq_ok_iff, pure_eq_ok_iff]
  constructor
  · rintro ⟨front, t, hf, back, u, hb, rfl, rfl⟩
    exact ⟨front, t, back, hf, hb, rfl⟩
  · rintro ⟨front, t, back, hf, hb, rfl⟩
    exact ⟨front, t, hf, back, u, hb, rfl, rfl⟩

theorem length_of_mapM_eq_ok {f : α → Action σ β} :
    ∀ {xs : List α} {ys : List β} {s u : σ},
      (xs.mapM f).run s = (.ok ys, u) → ys.length = xs.length
  | [], ys, s, u, h => by
      rw [List.mapM_nil, pure_eq_ok_iff] at h
      obtain ⟨rfl, rfl⟩ := h
      rfl
  | x :: xs, ys, s, u, h => by
      obtain ⟨y, t, rest, _, hrest, rfl⟩ := mapM_cons_eq_ok_iff.mp h
      rw [List.length_cons, List.length_cons, length_of_mapM_eq_ok hrest]

end Action
end SceneScript
