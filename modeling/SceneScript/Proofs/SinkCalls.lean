import SceneScript.Proofs.Recording

/-! # Calls that a sink accepts and calls that it refuses

`Sink.Accepts` says that a sink accepts calls one after the other, and `Sink.Refuses` that it
accepts all of them but the last.  An action `Sink.Makes` calls if it makes them in order, each as
long as all before it were accepted, and does nothing else to the sink: if it succeeds all have been
made and accepted, and if it faults, then at the first that was refused, with the fault of the
refusal.  Sequences of such actions are such actions (`Sink.Makes.bind`). -/

namespace SceneScript

variable {τ α β : Type}

namespace Sink

open SceneScript.Action

variable (sink : Sink τ)

/-- The sink accepts calls, one after the other. -/
def Accepts : τ → List Call → Prop
  | _, [] => True
  | t, call :: calls =>
    ((sink.perform call).run t).1 = .ok () ∧ Accepts ((sink.perform call).run t).2 calls

/-- The sink accepts all calls but the last, which it refuses with a fault. -/
def Refuses (t : τ) (calls : List Call) (e : Fault) : Prop :=
  ∃ front call, calls = front ++ [call] ∧ sink.Accepts t front ∧
    ((sink.perform call).run (sink.after t front)).1 = .error e

/-- The action makes calls to the recorded sink, up to the first that is refused. -/
structure Makes (t : τ) (calls : List Call) (a : Action (τ × List Call) α) : Prop where
  accepted : ∀ (record : List Call) (v : α) (u : τ × List Call), a.run (t, record) = (.ok v, u) →
    u = (sink.after t calls, record ++ calls) ∧ sink.Accepts t calls
  refused : ∀ (record : List Call) (e : Fault) (u : τ × List Call),
    a.run (t, record) = (.error e, u) →
      ∃ made, made <+: calls ∧ u = (sink.after t made, record ++ made) ∧ sink.Refuses t made e

variable {sink} {t : τ} {calls xs ys : List Call}

theorem after_append (sink : Sink τ) (t : τ) (xs ys : List Call) :
    sink.after t (xs ++ ys) = sink.after (sink.after t xs) ys := List.foldl_append

theorem accepts_append_iff :
    sink.Accepts t (xs ++ ys) ↔ sink.Accepts t xs ∧ sink.Accepts (sink.after t xs) ys := by
  induction xs generalizing t with
  | nil => exact (iff_of_eq (true_and _)).symm
  | cons call xs ih => exact (and_congr_right fun _ => ih).trans and_assoc.symm

theorem Accepts.refuses_append {e : Fault} (hxs : sink.Accepts t xs)
    (hys : sink.Refuses (sink.after t xs) ys e) : sink.Refuses t (xs ++ ys) e := by
  obtain ⟨front, call, rfl, hfront, hcall⟩ := hys
  refine ⟨xs ++ front, call, (List.append_assoc _ _ _).symm, ?_, ?_⟩
  · exact accepts_append_iff.mpr ⟨hxs, hfront⟩
  · rw [after_append]
    exact hcall

theorem Refuses.ne_nil {e : Fault} (h : sink.Refuses t calls e) : calls ≠ [] := by
  obtain ⟨front, call, rfl, _⟩ := h
  exact List.append_ne_nil_of_right_ne_nil front (List.cons_ne_nil call [])

/-! ### Actions that make calls -/

theorem makes_pure (v : α) : sink.Makes t [] (pure v) where
  accepted record w u h := by
    obtain ⟨_, rfl⟩ := pure_eq_ok_iff.mp h
    exact ⟨by rw [List.append_nil]; rfl, trivial⟩
  refused _ _ _ h := by cases h

theorem makes_noting (call : Call) : sink.Makes t [call] ((sink.perform call).noting call) where
  accepted record v u h := by
    obtain ⟨hv, rfl⟩ := Prod.mk.inj h
    exact ⟨rfl, hv, trivial⟩
  refused record e u h := by
    obtain ⟨he, rfl⟩ := Prod.mk.inj h
    exact ⟨[call], List.prefix_rfl, rfl, [], call, rfl, trivial, he⟩

theorem Makes.bind {a : Action (τ × List Call) α} {f : α → Action (τ × List Call) β}
    (ha : sink.Makes t xs a) (hf : ∀ v, sink.Makes (sink.after t xs) ys (f v)) :
    sink.Makes t (xs ++ ys) (a >>= f) where
  accepted record w u h := by
    obtain ⟨v, _, hrun, hrest⟩ := bind_eq_ok_iff.mp h
    obtain ⟨rfl, hxs⟩ := ha.accepted record v _ hrun
    obtain ⟨rfl, hys⟩ := (hf v).accepted _ w u hrest
    rw [after_append, List.append_assoc]
    exact ⟨rfl, accepts_append_iff.mpr ⟨hxs, hys⟩⟩
  refused record e u h := by
    rcases bind_eq_error_iff.mp h with hrun | ⟨v, _, hrun, hrest⟩
    · obtain ⟨made, hmade, hu, hrefused⟩ := ha.refused record e u hrun
      exact ⟨made, hmade.trans (List.prefix_append xs ys), hu, hrefused⟩
    · obtain ⟨rfl, hxs⟩ := ha.accepted record v _ hrun
      obtain ⟨made, hmade, rfl, hrefused⟩ := (hf v).refused _ e u hrest
      refine ⟨xs ++ made, (List.prefix_append_right_inj xs).mpr hmade, ?_,
        hxs.refuses_append hrefused⟩
      rw [after_append, List.append_assoc]

/-- The calls that an action makes can depend on the state that it finds. -/
theorem Makes.congr {a b : Action (τ × List Call) α} (hb : sink.Makes t calls b)
    (h : ∀ record, a.run (t, record) = b.run (t, record)) : sink.Makes t calls a where
  accepted record v u hrun := hb.accepted record v u (by rw [← h]; exact hrun)
  refused record e u hrun := hb.refused record e u (by rw [← h]; exact hrun)

end Sink

end SceneScript
