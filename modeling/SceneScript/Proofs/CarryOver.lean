import SceneScript.Proofs.ChunkPartition
import SceneScript.Proofs.Phases
import SceneScript.Proofs.RowMerging
import SceneScript.Proofs.WorkerOutcomes

/-! # Knobs carry over from frame to frame

A render writes the row of a frame into the symbols and leaves them there, so a knob keeps its value
on frames that do not vary it.  `Carried` says which symbols the first rows of a table leave without
speaking of any writing: a name is the knob of the latest row that has an entry for it, and if there
is no such row it stands for what it stood for at first.  There are no two such tables of symbols
(`Carried.unique`).

`Render.Runs` says that a render hands symbols to the run of a frame, and what is reported of it,
whether the frames are taken one after the other or chunk by chunk and whether or not the render
goes on to succeed.  By `Render.carried_of_runs` these symbols are those carried to the frame. -/

namespace SceneScript

/-- The symbols that the first `count` rows of a table leave. -/
structure Carried (table : KnobTable) (initial : SymbolTable) (count : Nat)
    (symbols : SymbolTable) : Prop where
  /-- A name is the knob of the latest row that has an entry for it. -/
  latest : ∀ (name : String) (row : Nat) (v : Float), row < count →
    table.value? row name = some v →
    (∀ later, row < later → later < count → table.value? later name = none) →
    symbols.get? name = some (.knob v)
  /-- A name that no row has an entry for stands for what it stood for at first. -/
  untouched : ∀ name : String, (∀ row < count, table.value? row name = none) →
    symbols.get? name = initial.get? name

namespace KnobTable

/-- Among the first rows there is a latest one with an entry for a name, or none has one. -/
theorem latest_or_none (table : KnobTable) (name : String) (count : Nat) :
    (∃ row v, row < count ∧ table.value? row name = some v ∧
        ∀ later, row < later → later < count → table.value? later name = none) ∨
      ∀ row < count, table.value? row name = none := by
  induction count with
  | zero => exact .inr fun row h => absurd h (Nat.not_lt_zero row)
  | succ count ih =>
      cases hlast : table.value? count name with
      | some v => exact .inl ⟨count, v, Nat.lt_succ_self count, hlast, fun _ _ _ => by omega⟩
      | none =>
          have hext : ∀ row, row < count + 1 → row < count ∨ row = count := fun _ _ => by omega
          rcases ih with ⟨row, v, hrow, hv, hlater⟩ | hnone
          · refine .inl ⟨row, v, by omega, hv, ?_⟩
            intro later hlt h
            rcases hext later h with h | rfl
            · exact hlater later hlt h
            · exact hlast
          · refine .inr ?_
            intro row h
            rcases hext row h with h | rfl
            · exact hnone row h
            · exact hlast

end KnobTable

namespace Carried

variable {table : KnobTable} {initial t u : SymbolTable} {count : Nat}

theorem zero (table : KnobTable) (initial : SymbolTable) : Carried table initial 0 initial where
  latest _ _ _ h := absurd h (Nat.not_lt_zero _)
  untouched _ _ := rfl

/-- One more row is written. -/
theorem succ (h : Carried table initial count t)
    (hrow : (Render.writeRow table count).run t = (.ok (), u)) :
    Carried table initial (count + 1) u := by
  obtain ⟨_, _, hnames⟩ := Render.writeRow_eq_ok_iff.mp hrow
  constructor
  · intro name row v hlt hv hlater
    rw [hnames]
    by_cases hlast : row = count
    · rw [← hlast, hv]
      rfl
    · rw [hlater count (by omega) (by omega)]
      exact h.latest name row v (by omega) hv fun later h₁ h₂ => hlater later h₁ (by omega)
  · intro name hnone
    rw [hnames, hnone count (by omega)]
    exact h.untouched name fun row hlt => hnone row (by omega)

/-- The symbols carried to a frame depend on the rows up to it alone. -/
theorem congr {table' : KnobTable} (h : Carried table initial count t)
    (heq : ∀ row < count, table'.row? row = table.row? row) : Carried table' initial count t := by
  have hvalue : ∀ row < count, ∀ name, table'.value? row name = table.value? row name := by
    intro row hlt name
    rw [KnobTable.value?, KnobTable.value?, heq row hlt]
  constructor
  · intro name row v hlt hv hlater
    rw [hvalue row hlt] at hv
    refine h.latest name row v hlt hv ?_
    intro later h₁ h₂
    rw [← hvalue later h₂]
    exact hlater later h₁ h₂
  · intro name hnone
    refine h.untouched name ?_
    intro row hlt
    rw [← hvalue row hlt]
    exact hnone row hlt

theorem unique (ht : Carried table initial count t) (hu : Carried table initial count u) :
    t = u := by
  apply NameMap.ext_get?
  intro name
  rcases table.latest_or_none name count with ⟨row, v, hlt, hv, hlater⟩ | hnone
  · rw [ht.latest name row v hlt hv hlater, hu.latest name row v hlt hv hlater]
  · rw [ht.untouched name hnone, hu.untouched name hnone]

/-- No symbol disappears. -/
theorem isSome_get? (h : Carried table initial count t) {name : String}
    (hname : (initial.get? name).isSome) : (t.get? name).isSome := by
  rcases table.latest_or_none name count with ⟨row, v, hlt, hv, hlater⟩ | hnone
  · rw [h.latest name row v hlt hv hlater]
    rfl
  · rw [h.untouched name hnone]
    exact hname

end Carried

namespace Render

open SceneScript.Action

variable {σ τ : Type}

/-! ### Snapshots -/

section

variable {table : KnobTable} {jobs : List (Nat × SymbolTable)} {initial t u : SymbolTable}

theorem snapshots_singleton_eq_ok_iff {number : Nat} :
    (snapshots table [number]).run t = (.ok jobs, u) ↔
      (writeRow table number).run t = (.ok (), u) ∧ jobs = [(number, u)] := by
  rw [snapshots_cons_eq_ok_iff]
  constructor
  · rintro ⟨first, rest, hrow, hrest, rfl⟩
    obtain ⟨rfl, rfl⟩ := pure_eq_ok_iff.mp hrest
    exact ⟨hrow, rfl⟩
  · rintro ⟨hrow, rfl⟩
    exact ⟨u, [], hrow, pure_eq_ok_iff.mpr ⟨rfl, rfl⟩, rfl⟩

theorem snapshots_append_eq_ok_iff {xs ys : List Nat} :
    (snapshots table (xs ++ ys)).run t = (.ok jobs, u) ↔
      ∃ front middle back, (snapshots table xs).run t = (.ok front, middle) ∧
        (snapshots table ys).run middle = (.ok back, u) ∧ jobs = front ++ back :=
  mapM_append_eq_ok_iff

/-- Rows written in order leave the symbols carried to each frame. -/
theorem carried_of_snapshots {count : Nat}
    (h : (snapshots table (List.range count)).run initial = (.ok jobs, u)) :
    Carried table initial count u ∧
      ∀ job ∈ jobs, Carried table initial (job.1 + 1) job.2 := by
  induction count generalizing jobs u with
  | zero =>
      obtain ⟨rfl, rfl⟩ := pure_eq_ok_iff.mp h
      exact ⟨.zero table initial, fun job hjob => absurd hjob List.not_mem_nil⟩
  | succ count ih =>
      rw [List.range_succ] at h
      obtain ⟨front, middle, back, hfront, hback, rfl⟩ := snapshots_append_eq_ok_iff.mp h
      obtain ⟨hrow, rfl⟩ := snapshots_singleton_eq_ok_iff.mp hback
      obtain ⟨hmiddle, hjobs⟩ := ih hfront
      have hlast : Carried table initial (count + 1) u := hmiddle.succ hrow
      refine ⟨hlast, ?_⟩
      intro job hjob
      rcases List.mem_append.mp hjob with hjob | hjob
      · exact hjobs job hjob
      · rw [List.mem_singleton.mp hjob]
        exact hlast

/-- The constants are those of the beginning, in every snapshot and in the end. -/
theorem constants?_of_snapshots {numbers : List Nat}
    (h : (snapshots table numbers).run t = (.ok jobs, u)) (name : String) :
    SymbolTable.constants? u name = SymbolTable.constants? t name ∧
      ∀ job ∈ jobs, SymbolTable.constants? job.2 name = SymbolTable.constants? t name := by
  induction numbers generalizing jobs t with
  | nil =>
      obtain ⟨rfl, rfl⟩ := pure_eq_ok_iff.mp h
      exact ⟨rfl, fun job hjob => absurd hjob List.not_mem_nil⟩
  | cons number numbers ih =>
      obtain ⟨first, rest, hrow, hrest, rfl⟩ := snapshots_cons_eq_ok_iff.mp h
      obtain ⟨hlast, hjobs⟩ := ih hrest
      have hfirst := constants?_of_writeRow hrow name
      refine ⟨hlast.trans hfirst, ?_⟩
      intro job hjob
      rcases List.mem_cons.mp hjob with rfl | hjob
      · exact hfirst
      · exact (hjobs job hjob).trans hfirst

end

/-! ### Frames and their symbols -/

section

variable (rasterizer : Rasterizer σ) (sink : Sink τ) (settings : Settings)
  (directives : List Directive) (animation : Animation) (threading : Threading)
  (schedule : Schedule) (studio : Studio σ τ)

/-- The frames before a number, one after the other. -/
def framesBefore (number : Nat) : Action (Studio σ τ) Stats :=
  (List.range number).foldlM (frame rasterizer sink settings directives animation) noStats

/-- The first chunks of a render that shares out its frames. -/
def firstChunks (chunks : List Chunk) : Action (Studio σ τ) Stats := do
  onRasterizer (probeFork rasterizer)
  Action.ofExcept threading.validate
  chunks.foldlM (chunk rasterizer sink settings directives animation schedule) noStats

/-- In the course of a render a frame is run with symbols, and an outcome is reported of it. -/
inductive Runs : Nat → SymbolTable → Except Fault Frame → Prop
  /-- The frames before it have succeeded, and its row has been written. -/
  | alone {number : Nat} {stats : Stats} {st : Studio σ τ} {symbols : SymbolTable}
      (sequential : threading.parallel = false)
      (within : number < animation.timeline.frameCount.toNat)
      (before : (framesBefore rasterizer sink settings directives animation number).run studio =
        (.ok stats, st))
      (row : (writeRow animation.table number).run st.symbols = (.ok (), symbols)) :
      Runs number symbols
        ((Frame.run rasterizer settings directives number symbols).run st.rasterizer).1
  /-- The chunks before its own have succeeded, all rows of its chunk have been written, and a
  worker reports on its position. -/
  | shared {front rest : List Chunk} {c : Chunk} {stats : Stats} {st : Studio σ τ}
      {jobs : List (Nat × SymbolTable)} {last : SymbolTable} {position number : Nat}
      {symbols : SymbolTable} {r : Except Fault Frame}
      (parallel : threading.parallel = true)
      (chunks : Chunk.all animation.timeline.frameCount threading.chunkSize = front ++ c :: rest)
      (before : (firstChunks rasterizer sink settings directives animation threading schedule
        front).run studio = (.ok stats, st))
      (rows : (snapshots animation.table c.frames).run st.symbols = (.ok jobs, last))
      (job : jobs[position]? = some (number, symbols))
      (report : (position, r) ∈ (workers rasterizer settings directives jobs (schedule.workers c)
        st.rasterizer).1) :
      Runs number symbols r

variable {rasterizer sink settings directives animation threading schedule studio}

theorem snapshots_of_framesBefore {number : Nat} {stats : Stats} {st : Studio σ τ}
    (h : (framesBefore rasterizer sink settings directives animation number).run studio =
      (.ok stats, st)) :
    ∃ jobs, (snapshots animation.table (List.range number)).run studio.symbols =
      (.ok jobs, st.symbols) := by
  obtain ⟨jobs, _, hjobs, _, _⟩ := foldlM_frame_eq_ok_iff.mp h
  exact ⟨jobs, hjobs⟩

theorem snapshots_of_foldlM_chunk {chunks : List Chunk} {stats stats' : Stats}
    {st u : Studio σ τ}
    (h : (chunks.foldlM (chunk rasterizer sink settings directives animation schedule) stats).run
      st = (.ok stats', u)) :
    ∃ jobs, (snapshots animation.table (chunks.flatMap Chunk.frames)).run st.symbols =
      (.ok jobs, u.symbols) := by
  induction chunks generalizing stats st with
  | nil =>
      obtain ⟨_, rfl⟩ := pure_eq_ok_iff.mp h
      exact ⟨[], rfl⟩
  | cons c chunks ih =>
      obtain ⟨_, middle, hchunk, hchunks⟩ := foldlM_cons_eq_ok_iff.mp h
      obtain ⟨front, _, hfront, _, _⟩ := chunk_eq_ok_iff.mp hchunk
      obtain ⟨back, hback⟩ := ih hchunks
      exact ⟨front ++ back,
        snapshots_append_eq_ok_iff.mpr ⟨front, middle.symbols, back, hfront, hback, rfl⟩⟩

theorem snapshots_of_firstChunks {chunks : List Chunk} {stats : Stats} {st : Studio σ τ}
    (h : (firstChunks rasterizer sink settings directives animation threading schedule
      chunks).run studio = (.ok stats, st)) :
    ∃ jobs, (snapshots animation.table (chunks.flatMap Chunk.frames)).run studio.symbols =
      (.ok jobs, st.symbols) := by
  obtain ⟨_, v, hprobe, hrest⟩ := bind_eq_ok_iff.mp h
  obtain ⟨_, _, hvalid, hchunks⟩ := bind_eq_ok_iff.mp hrest
  obtain ⟨_, rfl⟩ := ofExcept_eq_ok_iff.mp hvalid
  obtain ⟨_, hsymbols, _⟩ := onRasterizer_eq_iff.mp hprobe
  rw [← hsymbols]
  exact snapshots_of_foldlM_chunk hchunks

/-- Frames are run with the symbols carried to them, among which the constants are those of the
beginning, and what is reported of a frame is what it comes to with these symbols. -/
theorem carried_of_runs {number : Nat} {symbols : SymbolTable} {r : Except Fault Frame}
    (h : Runs rasterizer sink settings directives animation threading schedule studio number
      symbols r) :
    Carried animation.table studio.symbols (number + 1) symbols ∧
      (∀ name, SymbolTable.constants? symbols name =
        SymbolTable.constants? studio.symbols name) ∧
      (r = .error .forkingStopped ∨
        ∃ w, r = ((Frame.run rasterizer settings directives number symbols).run w).1) := by
  cases h with
  | alone sequential within before row =>
      rename_i st
      obtain ⟨jobs, hjobs⟩ := snapshots_of_framesBefore before
      refine ⟨(carried_of_snapshots hjobs).1.succ row, ?_, .inr ⟨st.rasterizer, rfl⟩⟩
      intro name
      exact (constants?_of_writeRow row name).trans (constants?_of_snapshots hjobs name).1
  | shared parallel chunks before rows job report =>
      rename_i front rest c stats st jobs last position
      obtain ⟨earlier, hearlier⟩ := snapshots_of_firstChunks before
      obtain ⟨n, hn⟩ := Chunk.flatMap_frames_append_frames chunks
      have hall : (snapshots animation.table (List.range n)).run studio.symbols =
          (.ok (earlier ++ jobs), last) := by
        rw [← hn]
        exact snapshots_append_eq_ok_iff.mpr ⟨earlier, st.symbols, jobs, hearlier, rows, rfl⟩
      have hmem : (number, symbols) ∈ earlier ++ jobs :=
        List.mem_append_right _ (List.mem_of_getElem? job)
      refine ⟨(carried_of_snapshots hall).2 _ hmem, ?_, ?_⟩
      · intro name
        exact (constants?_of_snapshots hall name).2 _ hmem
      · have hstart : rasterizer.Reaches st.rasterizer st.rasterizer := .start
        rcases (reported_of_mem_workers settings directives jobs (schedule.workers c) hstart).1
          (position, r) report with ⟨hstopped, _⟩ | ⟨job', hjob', w, _, hr⟩
        · exact .inl hstopped
        · rw [job] at hjob'
          obtain rfl := Option.some.inj hjob'
          exact .inr ⟨w, hr⟩

theorem firstChunks_concat (front : List Chunk) (c : Chunk) :
    firstChunks rasterizer sink settings directives animation threading schedule (front ++ [c]) =
      firstChunks rasterizer sink settings directives animation threading schedule front >>=
        fun stats => chunk rasterizer sink settings directives animation schedule stats c := by
  simp only [firstChunks, List.foldlM_append, List.foldlM_cons, List.foldlM_nil, bind_pure,
    bind_assoc]

/-- After a successful chunk the symbols are those that its last frame was run with. -/
theorem exists_runs_of_chunk {front rest : List Chunk} {c : Chunk} {init : List Nat} {number : Nat}
    {stats stats' : Stats} {st u : Studio σ τ} (parallel : threading.parallel = true)
    (chunks : Chunk.all animation.timeline.frameCount threading.chunkSize = front ++ c :: rest)
    (before : (firstChunks rasterizer sink settings directives animation threading schedule
      front).run studio = (.ok stats, st))
    (hchunk : (chunk rasterizer sink settings directives animation schedule stats c).run st =
      (.ok stats', u))
    (hframes : c.frames = init ++ [number]) :
    ∃ r, Runs rasterizer sink settings directives animation threading schedule studio number
      u.symbols r := by
  obtain ⟨jobs, _, hjobs, _, _⟩ := chunk_eq_ok_iff.mp hchunk
  have hlength : jobs.length = c.length := (length_of_mapM_eq_ok hjobs).trans c.length_frames
  have hsplit := hjobs
  rw [hframes, snapshots_append_eq_ok_iff] at hsplit
  obtain ⟨earlier, middle, back, hearlier, hback, rfl⟩ := hsplit
  obtain ⟨_, rfl⟩ := snapshots_singleton_eq_ok_iff.mp hback
  rw [List.length_append, List.length_singleton] at hlength
  -- A worker reports on the last position, as the schedule gives every position to some worker.
  have hgiven : earlier.length ∈ (schedule.workers c).flatten := by
    rw [(schedule.complete c).mem_iff, List.mem_range]
    omega
  obtain ⟨r, hr⟩ := (reported_of_mem_workers settings directives (earlier ++ [(number, u.symbols)])
    (schedule.workers c) (.start (r := rasterizer) (s := st.rasterizer))).2.1 earlier.length hgiven
      (by simp)
  have hjob : (earlier ++ [(number, u.symbols)])[earlier.length]? = some (number, u.symbols) := by
    simp
  exact ⟨r, .shared parallel chunks before hjobs hjob hr⟩

/-- After a successful render the symbols are those that the last frame was run with. -/
theorem exists_runs_of_body {count : Nat} {stats : Stats} {u : Studio σ τ}
    (hcount : animation.timeline.frameCount.toNat = count + 1)
    (h : (body rasterizer sink settings directives animation threading schedule).run studio =
      (.ok stats, u)) :
    ∃ r, Runs rasterizer sink settings directives animation threading schedule studio count
      u.symbols r := by
  cases hmode : threading.parallel with
  | false =>
      have hrun : ((List.range (count + 1)).foldlM
          (frame rasterizer sink settings directives animation) noStats).run studio =
            (.ok stats, u) := by
        rw [← hcount, ← h, body, hmode]
        rfl
      rw [List.range_succ, foldlM_append_eq_ok_iff] at hrun
      obtain ⟨_, st, hbefore, hlast⟩ := hrun
      obtain ⟨_, v, hframe, hend⟩ := foldlM_cons_eq_ok_iff.mp hlast
      obtain ⟨_, rfl⟩ := pure_eq_ok_iff.mp hend
      obtain ⟨_, hrow, _, _⟩ := frame_eq_ok_iff.mp hframe
      exact ⟨_, .alone hmode (by omega) hbefore hrow⟩
  | true =>
      have hrun : (firstChunks rasterizer sink settings directives animation threading schedule
          (Chunk.all animation.timeline.frameCount threading.chunkSize)).run studio =
            (.ok stats, u) := by
        rw [← h, body, hmode]
        rfl
      have hframes := Chunk.flatMap_frames_all animation.timeline.frameCount threading.chunkSize
      rw [hcount, List.range_succ] at hframes
      rcases List.eq_nil_or_concat' (Chunk.all animation.timeline.frameCount threading.chunkSize)
        with hnil | ⟨front, c, hchunks⟩
      · rw [hnil] at hframes
        simp at hframes
      · rw [hchunks, firstChunks_concat, bind_eq_ok_iff] at hrun
        obtain ⟨_, st, hbefore, hchunk⟩ := hrun
        have hpos : 0 < c.length := (Chunk.length_le_of_split hchunks).1
        rcases List.eq_nil_or_concat' c.frames with hnil | ⟨init, number, hlast⟩
        · rw [← c.length_frames, hnil] at hpos
          exact absurd hpos (Nat.lt_irrefl 0)
        · rw [hchunks, List.flatMap_append, List.flatMap_singleton, hlast, ← List.append_assoc]
            at hframes
          have hnumber : number = count := by
            have hlast := congrArg List.getLast? hframes
            simpa using hlast
          rw [hnumber] at hlast
          exact exists_runs_of_chunk hmode hchunks hbefore hchunk hlast

end

end Render
end SceneScript
