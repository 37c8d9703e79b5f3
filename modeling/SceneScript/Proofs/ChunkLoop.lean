import SceneScript.Proofs.ChunkPartition
import SceneScript.Proofs.ParallelRuns

/-! # The loop over chunks

A parallel render goes through the frames with a cursor.  While a frame is left it works on the
chunk that begins at the cursor and then moves the cursor to the end of that chunk; a fault ends
the loop at once.  `Chunk.Loops` says this turn by turn, for any size of the chunks and any work on
them, and nothing in it bounds the number of turns: with a size of zero the loop goes on for ever
(`Chunk.not_loops_zero`).  With the sizes that a render uses the loop has exactly one run, which
enters the chunks of `Chunk.all` in order, and these are a `Chunk.Partition` of the frames
(`Chunk.loop_partitions_frames`).  A parallel render whose checks pass is this loop
(`Render.run_parallel_eq_iff_loops`). -/

namespace SceneScript
namespace Chunk

open SceneScript.Action

variable {σ β : Type}

/-- The runs of the loop over chunks: from a cursor, a value and a state, the chunks that are
entered, and the outcome with the state that is left. -/
inductive Loops (count size : UInt32) (body : β → Chunk → Action σ β) :
    UInt32 → β → σ → List Chunk → Except Fault β × σ → Prop
  | ended {first : UInt32} {b : β} {s : σ} :
      ¬ first < count → Loops count size body first b s [] (.ok b, s)
  | faulted {first : UInt32} {b : β} {s t : σ} {e : Fault} :
      first < count →
      (body b (beginningAt count size first)).run s = (.error e, t) →
      Loops count size body first b s [beginningAt count size first] (.error e, t)
  | turned {first : UInt32} {b c : β} {s t : σ} {chunks : List Chunk}
      {r : Except Fault β × σ} :
      first < count →
      (body b (beginningAt count size first)).run s = (.ok c, t) →
      Loops count size body (stopAfter count size first) c t chunks r →
      Loops count size body first b s (beginningAt count size first :: chunks) r

/-- Without a size the cursor stays where it is. -/
theorem stopAfter_zero {count first : UInt32} (h : first < count) :
    stopAfter count 0 first = first := by
  have hlt : first.toNat < count.toNat := UInt32.lt_iff_toNat_lt.mp h
  have hcount : count.toNat < UInt32.size := count.toNat_lt
  apply UInt32.toNat_inj.mp
  rw [toNat_stopAfter, UInt32.toNat_zero]
  unfold limit
  omega

/-! ### Runs of the loop -/

section Runs

variable {body : β → Chunk → Action σ β} {count first : UInt32} {b : β} {s : σ}
  {chunks : List Chunk} {r : Except Fault β × σ}

/-- The loop has at most one run, whatever the size. -/
theorem Loops.unique {size : UInt32} {chunks' : List Chunk} {r' : Except Fault β × σ}
    (h : Loops count size body first b s chunks r)
    (h' : Loops count size body first b s chunks' r') : chunks' = chunks ∧ r' = r := by
  induction h generalizing chunks' r' with
  | ended hge =>
      cases h' with
      | ended => exact ⟨rfl, rfl⟩
      | faulted hlt => exact absurd hlt hge
      | turned hlt => exact absurd hlt hge
  | faulted hlt hrun =>
      cases h' with
      | ended hge => exact absurd hlt hge
      | faulted _ hrun' =>
          rw [hrun] at hrun'
          exact ⟨rfl, hrun'.symm⟩
      | turned _ hrun' =>
          rw [hrun] at hrun'
          cases hrun'
  | turned hlt hrun _ ih =>
      cases h' with
      | ended hge => exact absurd hlt hge
      | faulted _ hrun' =>
          rw [hrun] at hrun'
          cases hrun'
      | turned _ hrun' hrest =>
          rw [hrun] at hrun'
          obtain ⟨⟨⟩, rfl⟩ := Prod.mk.inj hrun'
          obtain ⟨rfl, rfl⟩ := ih hrest
          exact ⟨rfl, rfl⟩

/-- With a size of zero the loop has no run, unless the work on a chunk faults. -/
theorem not_loops_zero (hbody : ∀ b c s, ∃ v t, (body b c).run s = (.ok v, t))
    (hfirst : first < count) : ¬ Loops count 0 body first b s chunks r := by
  intro h
  induction h with
  | ended hge => exact hge hfirst
  | @faulted first b s t e _ hrun =>
      obtain ⟨v, u, hok⟩ := hbody b (beginningAt count 0 first) s
      rw [hrun] at hok
      cases hok
  | turned hlt _ _ ih =>
      apply ih
      rwa [stopAfter_zero hlt]

variable {size : { size : UInt32 // 0 < size }}

/-- The loop comes to what going through the list of the chunks comes to. -/
theorem Loops.run_foldlM (h : Loops count size body first b s chunks r) :
    ((startingAt count size first).foldlM body b).run s = r := by
  induction h with
  | ended hge =>
      rw [startingAt_of_not_lt size hge]
      rfl
  | faulted hlt hrun =>
      rw [startingAt_of_lt size hlt, List.foldlM_cons, run_bind, hrun]
  | turned hlt hrun _ ih =>
      rw [startingAt_of_lt size hlt, List.foldlM_cons, run_bind, hrun]
      exact ih

/-- The chunks that are entered are the first of the chunks, and all of them without a fault. -/
theorem Loops.entered (h : Loops count size body first b s chunks r) :
    chunks <+: startingAt count size first ∧
      (chunks = startingAt count size first ∨ ∃ e t, r = (.error e, t)) := by
  induction h with
  | ended hge =>
      rw [startingAt_of_not_lt size hge]
      exact ⟨List.prefix_refl _, .inl rfl⟩
  | faulted hlt =>
      rw [startingAt_of_lt size hlt]
      exact ⟨⟨_, rfl⟩, .inr ⟨_, _, rfl⟩⟩
  | turned hlt _ _ ih =>
      obtain ⟨hfront, hall⟩ := ih
      rw [startingAt_of_lt size hlt, List.prefix_cons_inj, List.cons.injEq]
      exact ⟨hfront, hall.imp_left fun h => ⟨rfl, h⟩⟩

/-- The loop ends. -/
theorem exists_loops (count : UInt32) (size : { size : UInt32 // 0 < size })
    (body : β → Chunk → Action σ β) (first : UInt32) (b : β) (s : σ) :
    ∃ chunks r, Loops count size body first b s chunks r := by
  -- The induction is on the frames that are left, which `lt_stopAfter` makes fewer with each turn.
  induction first using startingAt.induct count size generalizing b s with
  | case1 first hlt ih =>
      rcases hrun : (body b (beginningAt count size first)).run s with ⟨e | v, t⟩
      · exact ⟨_, _, .faulted hlt hrun⟩
      · obtain ⟨chunks, r, hrest⟩ := ih v t
        exact ⟨_, _, .turned hlt hrun hrest⟩
  | case2 first hge => exact ⟨_, _, .ended hge⟩

end Runs

/-- **The loop over chunks ends, and its chunks partition the frames.**  Whatever is done with a
chunk, the loop has exactly one run.  It comes to what going through the chunks of the animation
comes to, and it enters these in order, up to the first that faults. -/
theorem loop_partitions_frames (count : UInt32) (chunkSize : UInt64)
    (body : β → Chunk → Action σ β) (b : β) (s : σ) :
    Partition count (max chunkSize.toNat 1) (all count chunkSize) ∧
      ∃ entered outcome,
        (∀ chunks r, Loops count (size chunkSize) body 0 b s chunks r ↔
          chunks = entered ∧ r = outcome) ∧
        ((all count chunkSize).foldlM body b).run s = outcome ∧
        entered <+: all count chunkSize ∧
        (entered = all count chunkSize ∨ ∃ e t, outcome = (.error e, t)) := by
  obtain ⟨entered, outcome, hloop⟩ := exists_loops count (size chunkSize) body 0 b s
  refine ⟨partition_all count chunkSize, entered, outcome, ?_, hloop.run_foldlM, hloop.entered⟩
  intro chunks r
  constructor
  · exact hloop.unique
  · rintro ⟨rfl, rfl⟩
    exact hloop

/-- Just below the largest number the end of the second chunk is a sum that saturates; the loop
still ends behind the last frame and has worked on each once. -/
theorem saturated_partitions_frames :
    saturatingAdd 4294967290 4294967290 = 4294967295 ∧
      Partition 4294967295 4294967290 [⟨0, 4294967290⟩, ⟨4294967290, 4294967295⟩] ∧
      Loops 4294967295 4294967290
        (fun frames c => (pure (frames + c.length) : Action Unit Nat)) 0 0 ()
        [⟨0, 4294967290⟩, ⟨4294967290, 4294967295⟩] (.ok 4294967295, ()) := by
  have hall : all 4294967295 4294967290 = [⟨0, 4294967290⟩, ⟨4294967290, 4294967295⟩] := by
    rw [all, startingAt_of_lt _ (by decide), startingAt_of_lt _ (by decide),
      startingAt_of_not_lt _ (by decide)]
    decide
  obtain ⟨hpartition, entered, outcome, hruns, houtcome, -, hentered⟩ :=
    loop_partitions_frames 4294967295 4294967290
      (fun frames c => (pure (frames + c.length) : Action Unit Nat)) 0 ()
  rw [hall] at hpartition houtcome hentered
  obtain rfl : outcome = (.ok 4294967295, ()) := houtcome.symm
  have hentered : entered = [⟨0, 4294967290⟩, ⟨4294967290, 4294967295⟩] := by
    rcases hentered with h | ⟨e, t, h⟩
    · exact h
    · cases h
  exact ⟨by decide, hpartition, (hruns _ _).mpr ⟨hentered.symm, rfl⟩⟩

end Chunk

/-! ### The loop of a parallel render -/

namespace Render

variable {σ τ : Type} {rasterizer : Rasterizer σ} {sink : Sink τ} {settings : Settings}
  {directives : List Directive} {animation : Animation} {threading : Threading}
  {schedule : Schedule}

/-- If the rasterizer can be forked and there is a thread, a parallel render comes to what the loop
over its chunks comes to. -/
theorem run_parallel_eq_iff_loops {st : Studio σ τ} {r : Except Fault Stats × Studio σ τ}
    (hthreads : threading.threads ≠ some 0) (hfork : (rasterizer.fork st.rasterizer).1.isSome) :
    (parallel rasterizer sink settings directives animation threading schedule).run st = r ↔
      ∃ chunks, Chunk.Loops animation.timeline.frameCount (Chunk.size threading.chunkSize)
        (chunk rasterizer sink settings directives animation schedule) 0 noStats
        ⟨st.symbols, (rasterizer.fork st.rasterizer).2, st.sink⟩ chunks r := by
  rw [run_parallel sink settings directives animation schedule hthreads st hfork]
  constructor
  · rintro rfl
    obtain ⟨chunks, r, h⟩ := Chunk.exists_loops animation.timeline.frameCount
      (Chunk.size threading.chunkSize)
      (chunk rasterizer sink settings directives animation schedule) 0 noStats
      ⟨st.symbols, (rasterizer.fork st.rasterizer).2, st.sink⟩
    exact ⟨chunks, h.run_foldlM ▸ h⟩
  · rintro ⟨chunks, h⟩
    exact h.run_foldlM

end Render
end SceneScript
