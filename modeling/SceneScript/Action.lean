import SceneScript.Fault

/-! # Actions

An `Action σ α` works on a state `σ` and answers with a value or a fault; the state it leaves is
known in both cases, which is what a caller sees after a failed run.  Each way to build an action
has one equation about running it, so the definition is never unfolded elsewhere. -/

namespace SceneScript

/-- A computation on a state that may fault and keeps the state when it does. -/
def Action (σ α : Type) : Type := σ → Except Fault α × σ

namespace Action

variable {σ τ α β : Type}

/-- The outcome and the state an action leaves. -/
def run (a : Action σ α) (s : σ) : Except Fault α × σ := a s

/-- Answer a value and leave the state alone. -/
def done (v : α) : Action σ α := fun s => (.ok v, s)

/-- Go on with the value of an action, unless it faults. -/
def andThen (a : Action σ α) (f : α → Action σ β) : Action σ β := fun s =>
  match a s with
  | (.ok v, t) => f v t
  | (.error e, t) => (.error e, t)

instance : Monad (Action σ) where
  pure := done
  bind := andThen

/-- Fault. -/
def fail (e : Fault) : Action σ α := fun s => (.error e, s)

/-- Answer what is already known. -/
def ofExcept (r : Except Fault α) : Action σ α := fun s => (r, s)

/-- Answer something about the state. -/
def inspect (f : σ → α) : Action σ α := fun s => (.ok (f s), s)

/-- Change the state. -/
def update (f : σ → σ) : Action σ Unit := fun s => (.ok (), f s)

/-- Work on a part of a larger state. -/
def within (part : σ → τ) (put : τ → σ → σ) (a : Action τ α) : Action σ α := fun s =>
  match a (part s) with
  | (r, t) => (r, put t s)

@[simp] theorem run_pure (v : α) (s : σ) : (pure v : Action σ α).run s = (.ok v, s) := rfl

@[simp] theorem run_bind (a : Action σ α) (f : α → Action σ β) (s : σ) :
    (a >>= f).run s = match a.run s with
      | (.ok v, t) => (f v).run t
      | (.error e, t) => (.error e, t) := rfl

@[simp] theorem run_fail (e : Fault) (s : σ) : (fail e : Action σ α).run s = (.error e, s) := rfl

@[simp] theorem run_ofExcept (r : Except Fault α) (s : σ) : (ofExcept r).run s = (r, s) := rfl

@[simp] theorem run_inspect (f : σ → α) (s : σ) : (inspect f).run s = (.ok (f s), s) := rfl

@[simp] theorem run_update (f : σ → σ) (s : σ) : (update f).run s = (.ok (), f s) := rfl

@[simp] theorem run_within (part : σ → τ) (put : τ → σ → σ) (a : Action τ α) (s : σ) :
    (within part put a).run s = ((a.run (part s)).1, put (a.run (part s)).2 s) := rfl

@[ext] theorem ext {a b : Action σ α} (h : ∀ s, a.run s = b.run s) : a = b := funext h

instance : LawfulMonad (Action σ) := LawfulMonad.mk' (Action σ)
  (fun a => Action.ext fun s => by
    change (match a s with | (.ok v, t) => (Except.ok v, t) | (.error e, t) => (.error e, t)) = a s
    rcases a s with ⟨_ | _, _⟩ <;> rfl)
  (fun _ _ => rfl)
  (fun a f g => Action.ext fun s => by
    simp only [run_bind]
    rcases a.run s with ⟨_ | _, _⟩ <;> rfl)

end Action

end SceneScript
