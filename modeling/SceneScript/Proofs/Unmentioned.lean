import SceneScript.Proofs.PairedRuns
import SceneScript.Proofs.RenderConditions

/-! # Names that a scene does not mention

A scene mentions the names that it varies, the knobs of its motions and the sets of constants of its
shapes and lines (`Mentions`).  Two tables of symbols that agree on these names (`AgreeOn`) cannot
be told apart by the scene: the run of a frame is the same action with either
(`Frame.run_congr`), and so is the writing of a knob row, which changes varied names only
(`Render.paired_writeRow`).  `Tracked` follows two tables through a render in this way, and
`Render.unmentioned_unaffected` draws the conclusion for whole renders, successful or not. -/

namespace SceneScript

variable {σ τ α : Type}

/-! ### Names -/

/-- The scene varies a name. -/
def Varies (directives : List Directive) (name : String) : Prop :=
  ∃ v, .vary v ∈ directives ∧ v.knob = name

/-- The scene mentions a name. -/
def Mentions (directives : List Directive) (name : String) : Prop :=
  Varies directives name ∨ ∃ d ∈ directives, d.knob? = some name ∨ d.constants? = some name

/-- Two tables have the same entries, or none, for the names that a scene mentions. -/
def AgreeOn (directives : List Directive) (t t' : SymbolTable) : Prop :=
  ∀ name, Mentions directives name → t.get? name = t'.get? name

/-- A table has the same entries as before, and no others, for the names that a scene does not
vary. -/
def Kept (directives : List Directive) (initial t : SymbolTable) : Prop :=
  ∀ name, ¬Varies directives name → t.get? name = initial.get? name

/-- Two tables in the course of two renders: they agree on the names that are mentioned, and both
keep those that are not varied. -/
structure Tracked (directives : List Directive) (initial initial' t t' : SymbolTable) : Prop where
  agree : AgreeOn directives t t'
  kept : Kept directives initial t
  kept' : Kept directives initial' t'

/-! ### Frames -/

namespace Frame

open SceneScript.Action

variable (rasterizer : Rasterizer σ) (settings : Settings) {t t' : SymbolTable}

theorem reflectance_congr {constants : Option String}
    (h : ∀ name, constants = some name → t.get? name = t'.get? name) (standard : Reflectance)
    (site : Site) :
    reflectance t standard constants site = reflectance t' standard constants site := by
  cases constants with
  | none => rfl
  | some name => simp only [reflectance, SymbolTable.constants?, h name rfl]

theorem stretch_congr {knob : Option String}
    (h : ∀ name, knob = some name → t.get? name = t'.get? name) (site : Site) :
    stretch t knob site = stretch t' knob site := by
  cases knob with
  | none => rfl
  | some name => simp only [stretch, SymbolTable.knob?, h name rfl]

/-- A directive does the same with two tables that have the same entries for its names. -/
theorem step_congr {d : Directive} (number index : Nat) (p : Progress)
    (h : ∀ name, d.knob? = some name ∨ d.constants? = some name → t.get? name = t'.get? name) :
    step rasterizer settings t number index d p = step rasterizer settings t' number index d p := by
  cases d with
  | shape shape constants coords =>
      have hconstants : ∀ standard site, reflectance t standard constants site =
          reflectance t' standard constants site :=
        reflectance_congr fun name hname => h name (.inr hname)
      simp only [step, hconstants]
  | line constants p0 coords0 p1 coords1 =>
      have hconstants : ∀ standard site, reflectance t standard constants site =
          reflectance t' standard constants site :=
        reflectance_congr fun name hname => h name (.inr hname)
      simp only [step, hconstants]
  | motion m knob =>
      have hknob : ∀ site, stretch t knob site = stretch t' knob site :=
        stretch_congr fun name hname => h name (.inl hname)
      simp only [step, hknob]
  | _ => rfl

theorem steps_congr {directives : List Directive}
    (h : ∀ d ∈ directives, ∀ name, d.knob? = some name ∨ d.constants? = some name →
      t.get? name = t'.get? name) (number index : Nat) (p : Progress) :
    steps rasterizer settings t number index directives p =
      steps rasterizer settings t' number index directives p := by
  induction directives generalizing index p with
  | nil => rfl
  | cons d directives ih =>
      obtain ⟨hd, hdirectives⟩ := List.forall_mem_cons.mp h
      rw [steps, steps, step_congr rasterizer settings number index p hd]
      congr 1
      funext q
      exact ih hdirectives (index + 1) q

/-- The run of a frame is the same with two tables that agree on what the scene mentions. -/
theorem run_congr {directives : List Directive} (h : AgreeOn directives t t') (number : Nat) :
    run rasterizer settings directives number t = run rasterizer settings directives number t' := by
  have hsteps : ∀ p, steps rasterizer settings t number 0 directives p =
      steps rasterizer settings t' number 0 directives p :=
    steps_congr rasterizer settings (fun d hd name hname => h name (.inr ⟨d, hd, hname⟩)) number 0
  rw [run, run, hsteps]

end Frame

/-! ### Rows -/

section

variable {directives : List Directive} {initial initial' t t' : SymbolTable}

/-- Two tables stay tracked if a name that is varied becomes the same in both. -/
theorem Tracked.insert (h : Tracked directives initial initial' t t') {name : String}
    (hname : Varies directives name) (symbol : Symbol) :
    Tracked directives initial initial' (t.insert name symbol) (t'.insert name symbol) where
  agree n hn := by rw [NameMap.get?_insert, NameMap.get?_insert, h.agree n hn]
  kept n hn := by
    have hne : n ≠ name := fun heq => hn (heq ▸ hname)
    rw [NameMap.get?_insert, if_neg hne, h.kept n hn]
  kept' n hn := by
    have hne : n ≠ name := fun heq => hn (heq ▸ hname)
    rw [NameMap.get?_insert, if_neg hne, h.kept' n hn]

end

namespace Render

open SceneScript.Action

variable {directives : List Directive} {initial initial' : SymbolTable}

/-- A varied name is given a value in both tables, or it is a set of constants in both. -/
theorem paired_assign {name : String} (hname : Varies directives name) (v : Float) :
    Paired (Tracked directives initial initial') Eq Eq (SymbolTable.assign name v)
      (SymbolTable.assign name v) := by
  intro t t' tracked
  have hsame : SymbolTable.constants? t name = SymbolTable.constants? t' name := by
    rw [SymbolTable.constants?, SymbolTable.constants?, tracked.agree name (.inl hname)]
  cases hconstants : SymbolTable.constants? t name with
  | none =>
      rw [SymbolTable.run_assign_of_free hconstants,
        SymbolTable.run_assign_of_free (hsame.symm.trans hconstants)]
      exact ⟨tracked.insert hname _, .ok rfl⟩
  | some r =>
      rw [SymbolTable.run_assign_of_constants hconstants,
        SymbolTable.run_assign_of_constants (hsame.symm.trans hconstants)]
      exact ⟨tracked, .error rfl⟩

/-- The rows of a scene are written alike to two tables that are tracked. -/
theorem paired_writeRow {animation : Animation}
    (h : Animation.ofDirectives directives = .ok animation) (number : Nat) :
    Paired (Tracked directives initial initial') Eq Eq (writeRow animation.table number)
      (writeRow animation.table number) := by
  unfold writeRow
  cases hrow : animation.table.row? number with
  | none => exact paired_fail rfl
  | some row =>
      refine paired_forM fun e he => paired_assign ?_ e.2
      apply KnobTable.exists_vary_of_value? (table_of_ofDirectives h)
      rw [value?_of_row? hrow, (row.mem_toList_iff e).mp he]
      rfl

/-! ### Renders -/

/-- Two renders have the same result and leave the same sink, with its calls if they are recorded,
and tables that agree on what the scene mentions and have kept what it does not vary. -/
structure Unaffected (directives : List Directive) (initial initial' : SymbolTable)
    (x x' : Except Fault α × Studio σ τ) : Prop where
  result : x.1 = x'.1
  sink : x.2.sink = x'.2.sink
  agree : AgreeOn directives x.2.symbols x'.2.symbols
  kept : Kept directives initial x.2.symbols
  kept' : Kept directives initial' x'.2.symbols

section

variable {rasterizer : Rasterizer σ} {T : σ → σ → Prop}

/-- Paired scenes that start with tables that agree leave such tables. -/
theorem unaffected_of_paired {a b : Action (Studio σ τ) α}
    (h : Paired (Studio.Related (Tracked directives initial initial') T) Eq Eq a b)
    (agree : AgreeOn directives initial initial') {s s' : σ} (hs : T s s') (t : τ) :
    Unaffected directives initial initial' (a.run ⟨initial, s, t⟩) (b.run ⟨initial', s', t⟩) ∧
      T (a.run ⟨initial, s, t⟩).2.rasterizer (b.run ⟨initial', s', t⟩).2.rasterizer := by
  have start : Tracked directives initial initial' initial initial' :=
    ⟨agree, fun _ _ => rfl, fun _ _ => rfl⟩
  obtain ⟨⟨⟨hagree, hkept, hkept'⟩, hrasterizer, hsink⟩, halike⟩ :=
    h ⟨initial, s, t⟩ ⟨initial', s', t⟩ ⟨start, hs, rfl⟩
  exact ⟨⟨halike.eq, hsink, hagree, hkept, hkept'⟩, hrasterizer⟩

variable (sink : Sink τ) (settings : Settings) (directives)

theorem paired_scene_alone (rasterizer : Rasterizer σ) (chunkSize : UInt64)
    (threads : Option UInt64) (schedule : Schedule) :
    Paired (Studio.Related (Tracked directives initial initial') Eq) Eq Eq
      (scene rasterizer sink settings directives ⟨false, chunkSize, threads⟩ schedule)
      (scene rasterizer sink settings directives ⟨false, chunkSize, threads⟩ schedule) := by
  have same : ∀ e : Fault, e = e := fun _ => rfl
  refine paired_scene sink (.refl same _) fun animation hanimation => ?_
  refine paired_frames sink same (paired_sequential sink same (paired_writeRow hanimation) ?_)
  intro number t t' tracked
  rw [Frame.run_congr rasterizer settings tracked.agree number]
  exact paired_refl same _

/-- Workers of a rasterizer without a memory do the same with jobs whose tables agree, however a
schedule shares them out. -/
theorem paired_renderChunk {s : σ} (h : rasterizer.Memoryless s) (schedule schedule' : Schedule)
    (c : Chunk) {jobs jobs' : List (Nat × SymbolTable)}
    (hjobs : JobsRelated (Tracked directives initial initial') jobs jobs')
    (hlength : jobs.length = c.length) :
    Paired (fun t u => rasterizer.Reaches s t ∧ rasterizer.Reaches s u) Eq Eq
      (renderChunk rasterizer settings directives schedule c jobs)
      (renderChunk rasterizer settings directives schedule' c jobs') := by
  rintro t u ⟨ht, hu⟩
  have houtcomes : jobs.map (jobOutcome rasterizer settings directives s) =
      jobs'.map (jobOutcome rasterizer settings directives s) := by
    rw [← List.forall₂_eq_eq_eq, List.forall₂_map_left_iff, List.forall₂_map_right_iff]
    refine hjobs.imp ?_
    rintro ⟨number, symbols⟩ ⟨_, symbols'⟩ ⟨rfl, tracked⟩
    rw [jobOutcome, jobOutcome, Frame.run_congr rasterizer settings tracked.agree number]
  obtain ⟨v, hv, hrun⟩ := renderChunk_eq settings directives jobs h schedule hlength ht
  obtain ⟨v', hv', hrun'⟩ := renderChunk_eq settings directives jobs' h schedule'
    (hjobs.length_eq.symm.trans hlength) hu
  rw [hrun, hrun', houtcomes]
  exact ⟨⟨hv, hv'⟩, .ok rfl⟩

theorem paired_scene_shared {s : σ} (h : rasterizer.Memoryless s) (chunkSize : UInt64)
    (threads : Option UInt64) (schedule schedule' : Schedule) :
    Paired (Studio.Related (Tracked directives initial initial')
        fun t u => rasterizer.Reaches s t ∧ rasterizer.Reaches s u) Eq Eq
      (scene rasterizer sink settings directives ⟨true, chunkSize, threads⟩ schedule)
      (scene rasterizer sink settings directives ⟨true, chunkSize, threads⟩ schedule') := by
  have same : ∀ e : Fault, e = e := fun _ => rfl
  have hprobe : Paired (fun t u => rasterizer.Reaches s t ∧ rasterizer.Reaches s u) Eq Eq
      (probeFork rasterizer) (probeFork rasterizer) := by
    rintro t u ⟨ht, hu⟩
    obtain ⟨w, hw⟩ := Option.isSome_iff_exists.mp (h.forks t ht)
    obtain ⟨w', hw'⟩ := Option.isSome_iff_exists.mp (h.forks u hu)
    rw [run_probeFork hw, run_probeFork hw']
    exact ⟨⟨ht.forked, hu.forked⟩, .ok rfl⟩
  refine paired_scene sink (.refl same _) fun animation hanimation => ?_
  refine paired_frames sink same ?_
  exact paired_parallel sink same hprobe (paired_writeRow hanimation) fun c jobs jobs' =>
    paired_renderChunk directives settings h schedule schedule' c

end

/-- **What a scene does not mention is irrelevant to it, and stays untouched.**  With two tables of
symbols that agree on the names that a scene mentions, a render has the same result, successful or
not, and makes the same calls to the sink.  Afterwards the tables agree on these names again, and
neither has changed, lost or gained a name that is not varied.  Without workers this is so for any
rasterizer, which receives the same calls.  With workers it is so for a rasterizer without a memory,
even if two schedules share out the frames differently. -/
theorem unmentioned_unaffected {directives : List Directive} {symbols symbols' : SymbolTable}
    (agree : AgreeOn directives symbols symbols') (rasterizer : Rasterizer σ) (sink : Sink τ)
    (settings : Settings) (chunkSize : UInt64) (threads : Option UInt64) (s : σ) (t : τ) :
    (∀ schedule,
      let rendered (table : SymbolTable) := (scene rasterizer.recorded sink.recorded settings
        directives ⟨false, chunkSize, threads⟩ schedule).run ⟨table, (s, []), (t, [])⟩
      Unaffected directives symbols symbols' (rendered symbols) (rendered symbols') ∧
        (rendered symbols).2.rasterizer = (rendered symbols').2.rasterizer) ∧
    (rasterizer.Memoryless s → ∀ schedule schedule',
      let rendered (table : SymbolTable) (schedule : Schedule) := (scene rasterizer sink.recorded
        settings directives ⟨true, chunkSize, threads⟩ schedule).run ⟨table, s, (t, [])⟩
      Unaffected directives symbols symbols' (rendered symbols schedule)
        (rendered symbols' schedule')) := by
  constructor
  · intro schedule
    exact unaffected_of_paired (paired_scene_alone directives sink.recorded settings
      rasterizer.recorded chunkSize threads schedule) agree rfl _
  · intro h schedule schedule'
    exact (unaffected_of_paired (paired_scene_shared directives sink.recorded settings h chunkSize
      threads schedule schedule') agree ⟨.start, .start⟩ _).1

/-- A scene that turns by a knob. -/
def spinning : List Directive :=
  [.frames 2, .vary ⟨⟨0, 1, 1, 2⟩, "spin"⟩, .motion (.rotate .y 45) (some "spin"), .display]

/-- A knob that the scene does not mention makes no difference. -/
theorem spinning_unaffected :
    let silver : SymbolTable := NameMap.empty.insert "silver" (.knob 1)
    let rendered (table : SymbolTable) (schedule : Schedule) := (scene Rasterizer.idle
      Sink.silent.recorded .standard spinning ⟨true, 1, some 2⟩ schedule).run ⟨table, (), ((), [])⟩
    AgreeOn spinning .empty silver ∧ Rasterizer.idle.Memoryless () ∧
      Unaffected spinning .empty silver (rendered .empty .together) (rendered silver .apart) := by
  intro silver rendered
  have agree : AgreeOn spinning .empty silver := by
    intro name hname
    have hspin : name = "spin" := by
      rcases hname with ⟨v, hv, rfl⟩ | ⟨d, hd, hname⟩
      · simp only [spinning, List.mem_cons, Directive.vary.injEq, reduceCtorEq, List.not_mem_nil,
          false_or, or_false] at hv
        rw [hv]
      · simp only [spinning, List.mem_cons, List.not_mem_nil, or_false] at hd
        rcases hd with rfl | rfl | rfl | rfl
        case inr.inr.inr.inl =>
            rcases hname with hname | hname
            · exact (Option.some.inj hname).symm
            · cases hname
        all_goals rcases hname with hname | hname <;> cases hname
    have hother : name ≠ "silver" := by
      rw [hspin]
      decide
    rw [NameMap.get?_insert, if_neg hother]
  have memoryless : Rasterizer.idle.Memoryless () := Rasterizer.memoryless_idle
  exact ⟨agree, memoryless, (unmentioned_unaffected agree Rasterizer.idle Sink.silent .standard 1
    (some 2) () ()).2 memoryless .together .apart⟩

end Render

end SceneScript
