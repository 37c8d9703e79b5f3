import SceneScript.Proofs.CarryOver

/-! # Reports of runs

A render reports at most one outcome of each frame of its animation: `Render.Runs.lt` says that what
is run is such a frame, and `Render.Runs.unique` that the symbols it is run with and the outcome are
determined by its number.  In a chunk this is because the workers take each position once.
`Render.forall₂_runs_of_renderChunk` lists the reports of a chunk in the order of its frames, and
`Render.runs_of_recorded` says that a record of the calls to the sink makes no difference. -/

namespace SceneScript

/-- The chunk of a frame, and with it the chunks in front of it, are determined by the frame. -/
theorem Chunk.split_unique {front front' rest rest' : List Chunk} {c c' : Chunk} {count : UInt32}
    {chunkSize : UInt64} (h : all count chunkSize = front ++ c :: rest)
    (h' : all count chunkSize = front' ++ c' :: rest') {number : Nat} (hc : number ∈ c.frames)
    (hc' : number ∈ c'.frames) : front = front' ∧ c = c' ∧ rest = rest' := by
  -- A chunk in front of another one has only frames in front of it.
  have hbefore : ∀ {xs ys : List Chunk} {d e : Chunk}, all count chunkSize = xs ++ e :: ys →
      d ∈ xs → number ∈ d.frames → number ∉ e.frames := by
    intro xs ys d e hsplit hd hnumber hmem
    have hlt : number ∈ List.range e.first.toNat := by
      rw [← (flatMap_frames_before hsplit).1]
      exact List.mem_flatMap.mpr ⟨d, hd, hnumber⟩
    have hle := (List.mem_range'_1.mp hmem).1
    rw [List.mem_range] at hlt
    omega
  rcases List.append_eq_append_iff.mp (h.symm.trans h') with
    ⟨more, rfl, hmore⟩ | ⟨more, rfl, hmore⟩
  · cases more with
    | nil =>
        obtain ⟨rfl, rfl⟩ := List.cons.inj hmore
        exact ⟨(List.append_nil front).symm, rfl, rfl⟩
    | cons d more =>
        obtain ⟨rfl, _⟩ := List.cons.inj hmore
        exact absurd hc' (hbefore h' (List.mem_append_right _ List.mem_cons_self) hc)
  · cases more with
    | nil =>
        obtain ⟨rfl, rfl⟩ := List.cons.inj hmore
        exact ⟨List.append_nil front', rfl, rfl⟩
    | cons d more =>
        obtain ⟨rfl, _⟩ := List.cons.inj hmore
        exact absurd hc (hbefore h (List.mem_append_right _ List.mem_cons_self) hc')

namespace Render

open SceneScript.Action

variable {σ τ : Type}

/-! ### Positions -/

section

variable (rasterizer : Rasterizer σ) (settings : Settings) (directives : List Directive)
  (jobs : List (Nat × SymbolTable))

theorem sublist_work (worker : Option σ) (positions : List Nat) :
    ((work rasterizer settings directives jobs worker positions).map Prod.fst).Sublist
      positions := by
  induction positions generalizing worker with
  | nil => cases worker <;> exact .slnil
  | cons i positions ih =>
      cases worker with
      | none => exact (ih none).cons_cons i
      | some w =>
          rw [work]
          cases jobs[i]? with
          | none => exact (ih (some w)).cons i
          | some job => exact (ih _).cons_cons i

theorem sublist_workers (rows : List (List Nat)) (s : σ) :
    ((workers rasterizer settings directives jobs rows s).1.map Prod.fst).Sublist
      rows.flatten := by
  induction rows generalizing s with
  | nil => exact .slnil
  | cons positions rows ih =>
      rw [workers, List.map_append, List.flatten_cons]
      exact (sublist_work rasterizer settings directives jobs _ positions).append (ih _)

/-- The workers report on a position at most once. -/
theorem report_unique (schedule : Schedule) (c : Chunk) (s : σ) {position : Nat}
    {r r' : Except Fault Frame}
    (h : (position, r) ∈ (workers rasterizer settings directives jobs (schedule.workers c) s).1)
    (h' : (position, r') ∈
      (workers rasterizer settings directives jobs (schedule.workers c) s).1) : r = r' := by
  have honce : ((workers rasterizer settings directives jobs (schedule.workers c) s).1.map
      Prod.fst).Nodup :=
    (sublist_workers rasterizer settings directives jobs (schedule.workers c) s).nodup
      ((schedule.complete c).nodup_iff.mpr List.nodup_range)
  exact (Prod.mk.inj (List.inj_on_of_nodup_map honce h h' rfl)).2

theorem map_fst_of_snapshots {table : KnobTable} {numbers : List Nat}
    {jobs : List (Nat × SymbolTable)} {t u : SymbolTable}
    (h : (snapshots table numbers).run t = (.ok jobs, u)) : jobs.map Prod.fst = numbers := by
  induction numbers generalizing jobs t with
  | nil =>
      obtain ⟨rfl, _⟩ := pure_eq_ok_iff.mp h
      rfl
  | cons number numbers ih =>
      obtain ⟨first, rest, _, hrest, rfl⟩ := snapshots_cons_eq_ok_iff.mp h
      rw [List.map_cons, ih hrest]

end

/-! ### Frames of a render -/

section

variable {rasterizer : Rasterizer σ} {sink : Sink τ} {settings : Settings}
  {directives : List Directive} {animation : Animation} {threading : Threading}
  {schedule : Schedule} {studio : Studio σ τ}

theorem mem_frames_of_job {c : Chunk} {jobs : List (Nat × SymbolTable)} {t u : SymbolTable}
    {position number : Nat} {symbols : SymbolTable}
    (rows : (snapshots animation.table c.frames).run t = (.ok jobs, u))
    (job : jobs[position]? = some (number, symbols)) : c.frames[position]? = some number := by
  rw [← map_fst_of_snapshots rows, List.getElem?_map, job]
  rfl

/-- What a render runs is a frame of its animation. -/
theorem Runs.lt {number : Nat} {symbols : SymbolTable} {r : Except Fault Frame}
    (h : Runs rasterizer sink settings directives animation threading schedule studio number
      symbols r) : number < animation.timeline.frameCount.toNat := by
  cases h with
  | alone sequential within before row => exact within
  | shared parallel chunks before rows job report =>
      rename_i front rest c _ _ _ _ _
      have hmem := List.mem_of_getElem? (mem_frames_of_job rows job)
      rw [← List.mem_range, ← Chunk.flatMap_frames_all _ threading.chunkSize, chunks]
      exact List.mem_flatMap.mpr ⟨c, List.mem_append_right _ List.mem_cons_self, hmem⟩

/-- A frame is run once. -/
theorem Runs.unique {number : Nat} {symbols symbols' : SymbolTable} {r r' : Except Fault Frame}
    (h : Runs rasterizer sink settings directives animation threading schedule studio number
      symbols r)
    (h' : Runs rasterizer sink settings directives animation threading schedule studio number
      symbols' r') : symbols = symbols' ∧ r = r' := by
  cases h with
  | alone sequential within before row =>
      cases h' with
      | alone _ _ before' row' =>
          obtain ⟨_, rfl⟩ := Prod.mk.inj (before.symm.trans before')
          obtain ⟨_, rfl⟩ := Prod.mk.inj (row.symm.trans row')
          exact ⟨rfl, rfl⟩
      | shared parallel => rw [sequential] at parallel; cases parallel
  | shared parallel chunks before rows job report =>
      cases h' with
      | alone sequential => rw [parallel] at sequential; cases sequential
      | shared _ chunks' before' rows' job' report' =>
          have hposition := mem_frames_of_job rows job
          have hposition' := mem_frames_of_job rows' job'
          obtain ⟨rfl, rfl, rfl⟩ := Chunk.split_unique chunks chunks'
            (List.mem_of_getElem? hposition) (List.mem_of_getElem? hposition')
          obtain ⟨_, rfl⟩ := Prod.mk.inj (before.symm.trans before')
          obtain ⟨hjobs, _⟩ := Prod.mk.inj (rows.symm.trans rows')
          obtain rfl := Except.ok.inj hjobs
          obtain rfl := (List.getElem?_inj (List.getElem?_eq_some_iff.mp hposition).1
            List.nodup_range').mp (hposition.trans hposition'.symm)
          rw [job] at job'
          exact ⟨(Prod.mk.inj (Option.some.inj job')).2,
            report_unique rasterizer settings directives _ schedule _ _ report report'⟩

/-- A chunk comes to what is reported of its frames, in their order. -/
theorem forall₂_runs_of_renderChunk {front rest : List Chunk} {c : Chunk} {stats : Stats}
    {st : Studio σ τ} {jobs : List (Nat × SymbolTable)} {last : SymbolTable}
    {outcomes : List (Except Fault Frame)} {s : σ} (parallel : threading.parallel = true)
    (chunks : Chunk.all animation.timeline.frameCount threading.chunkSize = front ++ c :: rest)
    (before : (firstChunks rasterizer sink settings directives animation threading schedule
      front).run studio = (.ok stats, st))
    (rows : (snapshots animation.table c.frames).run st.symbols = (.ok jobs, last))
    (rendered : (renderChunk rasterizer settings directives schedule c jobs).run st.rasterizer =
      (.ok outcomes, s)) :
    List.Forall₂ (fun number r => ∃ symbols, Runs rasterizer sink settings directives animation
      threading schedule studio number symbols r) c.frames outcomes := by
  obtain rfl := Except.ok.inj (congrArg Prod.fst rendered)
  rw [← c.length_frames]
  apply forall₂_filterMap_range
  intro position number hnumber
  have hjob : ∃ symbols, jobs[position]? = some (number, symbols) := by
    rw [← map_fst_of_snapshots rows, List.getElem?_map, Option.map_eq_some_iff] at hnumber
    obtain ⟨⟨_, symbols⟩, hjob, rfl⟩ := hnumber
    exact ⟨symbols, hjob⟩
  obtain ⟨symbols, job⟩ := hjob
  have hposition : position ∈ (schedule.workers c).flatten := by
    rw [(schedule.complete c).mem_iff, List.mem_range, ← c.length_frames]
    exact (List.getElem?_eq_some_iff.mp hnumber).1
  obtain ⟨r, hr⟩ := (reported_of_mem_workers settings directives jobs (schedule.workers c)
    (.start (r := rasterizer) (s := st.rasterizer))).2.1 position hposition
      (List.getElem?_eq_some_iff.mp job).1
  have hsome := List.lookup_isSome_iff.mpr ⟨(position, r), hr, beq_self_eq_true position⟩
  obtain ⟨r, hfound⟩ := Option.isSome_iff_exists.mp hsome
  obtain ⟨_, _, hsplit, _⟩ := List.lookup_eq_some_iff.mp hfound
  refine ⟨r, hfound, symbols, .shared parallel chunks before rows job ?_⟩
  rw [hsplit]
  exact List.mem_append_right _ List.mem_cons_self

theorem firstChunks_recordedBy (rasterizer : Rasterizer σ) (sink : Sink τ) (settings : Settings)
    (directives : List Directive) (animation : Animation) (threading : Threading)
    (schedule : Schedule) (chunks : List Chunk) :
    (firstChunks rasterizer sink settings directives animation threading schedule
      chunks).RecordedBy Studio.noting
      (firstChunks rasterizer sink.recorded settings directives animation threading schedule
        chunks) :=
  (onRasterizer_recordedBy _).bind fun _ => (recordedBy_ofExcept _).bind fun _ =>
    recordedBy_foldlM (chunk_recordedBy rasterizer sink settings directives animation schedule) _ _

/-- With a recorded sink frames are run as with the sink itself. -/
theorem runs_of_recorded {calls : List Sink.Call} {number : Nat} {symbols : SymbolTable}
    {r : Except Fault Frame}
    (h : Runs rasterizer sink.recorded settings directives animation threading schedule
      (studio.noting calls) number symbols r) :
    Runs rasterizer sink settings directives animation threading schedule studio number
      symbols r := by
  cases h with
  | alone sequential within before row =>
      obtain ⟨st, _, hst, rfl⟩ := (recordedBy_foldlM (frame_recordedBy rasterizer sink settings
        directives animation) (List.range number) noStats).of_ok before
      exact .alone sequential within hst row
  | shared parallel chunks before rows job report =>
      obtain ⟨st, _, hst, rfl⟩ := (firstChunks_recordedBy rasterizer sink settings directives
        animation threading schedule _).of_ok before
      exact .shared parallel chunks hst rows job report

end

end Render
end SceneScript
