import Mathlib.Data.List.Basic
import Mathlib.Data.List.Induction
import Mathlib.Data.Nat.Find
import SceneScript.Proofs.KnobMeaning

/-! # The outcome of resolution

Resolution goes over the directives twice.  The first pass holds every `vary` against the frames
that have been declared when it is met, the second one against the frames that are declared in the
end; the two differ where a scene declares its frames more than once.

Both passes are judged (`Judged`): after some directives a pass is in a state that can be told from
these directives alone, and it faults at the first directive to which there is an objection.  So the
outcome of a pass is known from its objections (`Judged.foldlM_eq_ok`, `Judged.foldlM_eq_error`).
Both passes object to nothing but a `vary`, and `Animation.ofDirectives_outcome` puts what they say
of the `vary`s together. -/

namespace SceneScript

variable {β : Type}

/-! ### Judged passes -/

/-- What a pass comes to at a directive is told by the directives in front of it: it faults if there
is an objection, and otherwise goes on to the state of all of them. -/
def Judged (observe : β → Nat → Directive → Except Fault β) (state : List Directive → β)
    (objection? : List Directive → Directive → Option Fault) : Prop :=
  ∀ front d, observe (state front) front.length d =
    match objection? front d with
    | none => .ok (state (front ++ [d]))
    | some e => .error e

/-- The directive at a position is a `vary`. -/
def VaryAt (ds : List Directive) (i : Nat) (v : Vary) : Prop := ds[i]? = some (.vary v)

namespace Judged

variable {observe : β → Nat → Directive → Except Fault β} {state : List Directive → β}
  {objection? : List Directive → Directive → Option Fault} {ds : List Directive}

/-- A pass over directives without objections succeeds. -/
theorem foldlM_eq_ok (h : Judged observe state objection?)
    (hnone : ∀ i d, ds[i]? = some d → objection? (ds.take i) d = none) :
    ds.zipIdx.foldlM (fun b e => observe b e.2 e.1) (state []) = .ok (state ds) := by
  induction ds using List.reverseRecOn with
  | nil => rfl
  | append_singleton front d ih =>
      have hfront : ∀ i e, front[i]? = some e → objection? (front.take i) e = none := by
        intro i e he
        have hi : i < front.length := (List.getElem?_eq_some_iff.mp he).1
        have hnone := hnone i e (by rw [List.getElem?_append_left hi]; exact he)
        rwa [List.take_append_of_le_length (Nat.le_of_lt hi)] at hnone
      have hlast : objection? front d = none := by
        have hnone := hnone front.length d (by simp)
        rwa [List.take_append_of_le_length (Nat.le_refl _), List.take_length] at hnone
      rw [List.zipIdx_append, List.foldlM_append, ih hfront, List.zipIdx_singleton, Nat.zero_add]
      change (observe (state front) front.length d >>= fun b => pure b) = _
      rw [bind_pure, h front d, hlast]

/-- A pass faults at the first directive to which there is an objection. -/
theorem foldlM_eq_error (h : Judged observe state objection?) {i : Nat} {d : Directive} {e : Fault}
    (hd : ds[i]? = some d) (he : objection? (ds.take i) d = some e)
    (hnone : ∀ j < i, ∀ d, ds[j]? = some d → objection? (ds.take j) d = none) :
    ds.zipIdx.foldlM (fun b e => observe b e.2 e.1) (state []) = .error e := by
  obtain ⟨hi, hget⟩ := List.getElem?_eq_some_iff.mp hd
  have hsplit : ds = ds.take i ++ d :: ds.drop (i + 1) := by
    rw [← hget, List.getElem_cons_drop, List.take_append_drop]
  have hlength : (ds.take i).length = i := List.length_take_of_le (Nat.le_of_lt hi)
  have hfront : ∀ j e, (ds.take i)[j]? = some e → objection? ((ds.take i).take j) e = none := by
    intro j e he
    have hj : j < i := by
      have := (List.getElem?_eq_some_iff.mp he).1
      omega
    rw [List.getElem?_take_of_lt hj] at he
    rw [List.take_take, Nat.min_eq_left (Nat.le_of_lt hj)]
    exact hnone j hj e he
  have hjudged := h (ds.take i) d
  rw [he, hlength] at hjudged
  rw [hsplit, List.zipIdx_append, List.foldlM_append, h.foldlM_eq_ok hfront, hlength,
    List.zipIdx_cons, Nat.zero_add]
  change (observe (state (ds.take i)) i d >>= _) = _
  rw [hjudged]
  rfl

/-- A pass succeeds if and only if there is no objection. -/
theorem foldlM_succeeds_iff (h : Judged observe state objection?) :
    (∃ b, ds.zipIdx.foldlM (fun b e => observe b e.2 e.1) (state []) = .ok b) ↔
      ∀ i d, ds[i]? = some d → objection? (ds.take i) d = none := by
  constructor
  · rintro ⟨b, hb⟩
    by_contra hsome
    have hfirst : ∃ i d e, ds[i]? = some d ∧ objection? (ds.take i) d = some e := by
      push Not at hsome
      obtain ⟨i, d, hd, hne⟩ := hsome
      obtain ⟨e, he⟩ := Option.ne_none_iff_exists'.mp hne
      exact ⟨i, d, e, hd, he⟩
    classical
    obtain ⟨d, e, hd, he⟩ := Nat.find_spec hfirst
    have hnone : ∀ j < Nat.find hfirst, ∀ d, ds[j]? = some d →
        objection? (ds.take j) d = none := by
      intro j hj d hd
      by_contra hne
      obtain ⟨e, he⟩ := Option.ne_none_iff_exists'.mp hne
      exact Nat.find_min hfirst hj ⟨d, e, hd, he⟩
    rw [h.foldlM_eq_error hd he hnone] at hb
    cases hb
  · intro hnone
    exact ⟨state ds, h.foldlM_eq_ok hnone⟩

/-! Where nothing but a `vary` can be objected to, a pass is known from what its `vary`s meet. -/

variable {Meets : List Directive → Vary → Prop}

theorem succeeds_iff_meets (h : Judged observe state objection?)
    (hmeets : ∀ front d, objection? front d = none ↔ ∀ v, d = .vary v → Meets front v) :
    (∃ b, ds.zipIdx.foldlM (fun b e => observe b e.2 e.1) (state []) = .ok b) ↔
      ∀ i v, VaryAt ds i v → Meets (ds.take i) v := by
  refine h.foldlM_succeeds_iff.trans ⟨fun hnone i v hd => ?_, fun hall i d hd => ?_⟩
  · exact (hmeets _ _).mp (hnone i _ hd) v rfl
  · exact (hmeets _ _).mpr fun v hv => hall i v (hd.trans (congrArg some hv))

theorem eq_error_of_meets (h : Judged observe state objection?)
    (hmeets : ∀ front d, objection? front d = none ↔ ∀ v, d = .vary v → Meets front v)
    {i : Nat} {v : Vary} {e : Fault} (hd : VaryAt ds i v)
    (he : objection? (ds.take i) (.vary v) = some e)
    (hbefore : ∀ j < i, ∀ w, VaryAt ds j w → Meets (ds.take j) w) :
    ds.zipIdx.foldlM (fun b e => observe b e.2 e.1) (state []) = .error e :=
  h.foldlM_eq_error hd he fun j hj _ hd =>
    (hmeets _ _).mpr fun w hw => hbefore j hj w (hd.trans (congrArg some hw))

end Judged

/-! ### What a scene declares -/

/-- The count of frames that a directive declares. -/
def Directive.count? : Directive → Option UInt32
  | .frames count => some count
  | _ => none

/-- The base name that a directive gives. -/
def Directive.basename? : Directive → Option String
  | .basename name => some name
  | _ => none

/-- The count of frames of directives: that of the last `frames`, if there is one. -/
def declared? (directives : List Directive) : Option UInt32 :=
  (directives.filterMap Directive.count?).getLast?

/-- The base name of directives: that of the last `basename`, if there is one. -/
def named? (directives : List Directive) : Option String :=
  (directives.filterMap Directive.basename?).getLast?

/-- The `vary` begins and ends on frames that are counted. -/
def Vary.Fits (v : Vary) (count : UInt32) : Prop :=
  (0 ≤ v.firstFrame.toInt ∧ v.firstFrame.toInt < count.toNat) ∧
    0 ≤ v.lastFrame.toInt ∧ v.lastFrame.toInt < count.toNat

instance (v : Vary) (count : UInt32) : Decidable (v.Fits count) :=
  inferInstanceAs (Decidable (_ ∧ _))

/-- The `vary` fits the frames that the directives in front of it declare. -/
def Vary.Timely (v : Vary) (front : List Directive) : Prop :=
  ∃ count, declared? front = some count ∧ v.Fits count

theorem declared?_concat (front : List Directive) (d : Directive) :
    declared? (front ++ [d]) = d.count?.or (declared? front) := by
  unfold declared?
  rw [List.filterMap_append]
  cases hd : d.count? <;> simp [hd]

theorem named?_concat (front : List Directive) (d : Directive) :
    named? (front ++ [d]) = d.basename?.or (named? front) := by
  unfold named?
  rw [List.filterMap_append]
  cases hd : d.basename? <;> simp [hd]

theorem isSome_declared?_iff {directives : List Directive} :
    (declared? directives).isSome ↔ ∃ count, Directive.frames count ∈ directives := by
  have hmem : ∀ count,
      count ∈ directives.filterMap Directive.count? ↔ Directive.frames count ∈ directives := by
    intro count
    rw [List.mem_filterMap]
    constructor
    · rintro ⟨d, hd, h⟩
      cases d <;> cases h
      exact hd
    · intro h
      exact ⟨_, h, rfl⟩
  unfold declared?
  rw [List.getLast?_isSome]
  constructor
  · intro h
    obtain ⟨count, hcount⟩ := List.exists_mem_of_ne_nil _ h
    exact ⟨count, (hmem count).mp hcount⟩
  · rintro ⟨count, h⟩
    exact List.ne_nil_of_mem ((hmem count).mpr h)

theorem Vary.within_iff_fits {v : Vary} {count : UInt32} : v.Within count ↔ v.Fits count := by
  rw [Vary.Within, Timeline.covers_iff, Timeline.covers_iff, Vary.Fits]

/-! ### The two passes -/

/-- The fault of a `vary` that does not fit a count of frames. -/
def Vary.misfit (v : Vary) (index : Nat) (count : UInt32) : Fault :=
  .varyOutsideFrames index v.knob v.firstFrame v.lastFrame ((count.toNat : Int) - 1)

theorem Timeline.checkVary_eq (index : Nat) (v : Vary) (count : UInt32) :
    checkVary index v count = if v.Fits count then .ok () else .error (v.misfit index count) := by
  split
  · next h => exact checkVary_eq_ok_iff.mpr (Vary.within_iff_fits.mpr h)
  · next h =>
      have hcovers : ¬(covers count v.firstFrame && covers count v.lastFrame) = true := by
        rw [Bool.and_eq_true]
        exact fun hwithin => h (Vary.within_iff_fits.mp hwithin)
      rw [checkVary, if_neg hcovers]
      rfl

namespace Timeline

/-- The timeline that directives declare. -/
def declared (directives : List Directive) : Timeline where
  basename := (named? directives).getD "default"
  animated := (declared? directives).isSome
  frameCount := (declared? directives).getD 1

/-- What the first pass objects to in a directive, given those in front of it. -/
def objection? (front : List Directive) : Directive → Option Fault
  | .vary v =>
    match declared? front with
    | none => some (.varyBeforeFrames front.length v.knob)
    | some count => if v.Fits count then none else some (v.misfit front.length count)
  | _ => none

theorem judged : Judged observe declared objection? := by
  intro front d
  cases d with
  | vary v =>
      have hconcat : declared (front ++ [.vary v]) = declared front := by
        simp only [declared, declared?_concat, named?_concat, Directive.count?,
          Directive.basename?, Option.none_or]
      rw [hconcat]
      cases hcount : declared? front with
      | none => simp only [observe, objection?, declared, hcount]; rfl
      | some count =>
          simp only [observe, objection?, declared, hcount, Option.isSome_some, if_true,
            Option.getD_some, checkVary_eq]
          by_cases hfits : v.Fits count
          · simp only [if_pos hfits]; rfl
          · simp only [if_neg hfits]; rfl
  | _ =>
      simp only [observe, objection?, declared, declared?_concat, named?_concat, Directive.count?,
        Directive.basename?, Option.none_or, Option.some_or, Option.isSome_some, Option.getD_some]

theorem objection?_eq_none_iff (front : List Directive) (d : Directive) :
    objection? front d = none ↔ ∀ v, d = .vary v → v.Timely front := by
  cases d with
  | vary v =>
      simp only [objection?, Directive.vary.injEq, forall_eq', Vary.Timely]
      cases declared? front with
      | none => simp
      | some count => by_cases hfits : v.Fits count <;> simp [hfits]
  | _ => simp [objection?]

variable {ds : List Directive}

theorem ofDirectives_succeeds_iff :
    (∃ t, ofDirectives ds = .ok t) ↔ ∀ i v, VaryAt ds i v → v.Timely (ds.take i) :=
  judged.succeeds_iff_meets objection?_eq_none_iff

theorem ofDirectives_eq_ok (h : ∀ i v, VaryAt ds i v → v.Timely (ds.take i)) :
    ofDirectives ds = .ok (declared ds) :=
  judged.foldlM_eq_ok (judged.foldlM_succeeds_iff.mp (ofDirectives_succeeds_iff.mpr h))

theorem ofDirectives_eq_error {i : Nat} {v : Vary} {e : Fault} (hd : VaryAt ds i v)
    (he : objection? (ds.take i) (.vary v) = some e)
    (hbefore : ∀ j < i, ∀ w, VaryAt ds j w → w.Timely (ds.take j)) :
    ofDirectives ds = .error e :=
  judged.eq_error_of_meets objection?_eq_none_iff hd he hbefore

end Timeline

namespace KnobTable

/-- The table that the `vary`s of directives write, each of which has been found to fit. -/
def written (count : UInt32) (directives : List Directive) : KnobTable :=
  (directives.filterMap Directive.vary?).foldl record (blank count)

/-- What the second pass objects to in a directive, given those in front of it. -/
def objection? (count : UInt32) (front : List Directive) : Directive → Option Fault
  | .vary v => if v.Fits count then none else some (v.misfit front.length count)
  | _ => none

theorem judged (count : UInt32) : Judged (observe count) (written count) (objection? count) := by
  intro front d
  cases d with
  | vary v =>
      simp only [observe, objection?, Timeline.checkVary_eq, written, List.filterMap_append,
        List.foldl_append]
      by_cases hfits : v.Fits count
      · simp only [if_pos hfits]; rfl
      · simp only [if_neg hfits]; rfl
  | _ =>
      simp only [observe, objection?, written, List.filterMap_append, List.foldl_append]
      rfl

theorem objection?_eq_none_iff (count : UInt32) (front : List Directive) (d : Directive) :
    objection? count front d = none ↔ ∀ v, d = .vary v → v.Fits count := by
  cases d with
  | vary v => by_cases hfits : v.Fits count <;> simp [objection?, hfits]
  | _ => simp [objection?]

variable {ds : List Directive} {count : UInt32}

theorem ofDirectives_succeeds_iff :
    (∃ t, ofDirectives ds count = .ok t) ↔ ∀ i v, VaryAt ds i v → v.Fits count :=
  (judged count).succeeds_iff_meets (objection?_eq_none_iff count)

theorem ofDirectives_eq_error {i : Nat} {v : Vary} (hd : VaryAt ds i v)
    (hv : ¬v.Fits count) (hbefore : ∀ j < i, ∀ w, VaryAt ds j w → w.Fits count) :
    ofDirectives ds count = .error (v.misfit i count) := by
  have hi : i < ds.length := (List.getElem?_eq_some_iff.mp hd).1
  have he : objection? count (ds.take i) (.vary v) = some (v.misfit i count) := by
    rw [objection?, if_neg hv, List.length_take_of_le (Nat.le_of_lt hi)]
  exact (judged count).eq_error_of_meets (objection?_eq_none_iff count) hd he hbefore

end KnobTable

/-! ### Both passes -/

namespace Animation

/-- Resolution is the first pass and then the second, for the frames that the first one found. -/
theorem ofDirectives_eq (ds : List Directive) :
    ofDirectives ds = (Timeline.ofDirectives ds).bind fun timeline =>
      (KnobTable.ofDirectives ds timeline.frameCount).map fun table => ⟨timeline, table⟩ := by
  unfold ofDirectives
  cases Timeline.ofDirectives ds with
  | error e => rfl
  | ok timeline =>
      change (KnobTable.ofDirectives ds timeline.frameCount >>= _) = Except.map _ _
      cases KnobTable.ofDirectives ds timeline.frameCount <;> rfl

section

variable {ds : List Directive} {animation : Animation}

theorem ofDirectives_of_timely (h : ∀ i v, VaryAt ds i v → v.Timely (ds.take i)) :
    ofDirectives ds = (KnobTable.ofDirectives ds ((declared? ds).getD 1)).map fun table =>
      ⟨.declared ds, table⟩ := by
  rw [ofDirectives_eq, Timeline.ofDirectives_eq_ok h]
  rfl

theorem ofDirectives_of_objection {i : Nat} {v : Vary} {e : Fault} (hd : VaryAt ds i v)
    (he : Timeline.objection? (ds.take i) (.vary v) = some e)
    (hbefore : ∀ j < i, ∀ w, VaryAt ds j w → w.Timely (ds.take j)) :
    ofDirectives ds = .error e := by
  rw [ofDirectives_eq, Timeline.ofDirectives_eq_error hd he hbefore]
  rfl

theorem timely_of_ofDirectives (h : ofDirectives ds = .ok animation) :
    ∀ i v, VaryAt ds i v → v.Timely (ds.take i) := by
  apply Timeline.ofDirectives_succeeds_iff.mp
  rw [ofDirectives_eq] at h
  cases htimeline : Timeline.ofDirectives ds with
  | error e => rw [htimeline] at h; cases h
  | ok timeline => exact ⟨timeline, rfl⟩

/-- A scene that is resolved has the timeline that it declares, and the table of the second pass. -/
theorem eq_of_ofDirectives (h : ofDirectives ds = .ok animation) :
    animation.timeline = .declared ds ∧
      KnobTable.ofDirectives ds ((declared? ds).getD 1) = .ok animation.table := by
  rw [ofDirectives_of_timely (timely_of_ofDirectives h)] at h
  cases htable : KnobTable.ofDirectives ds ((declared? ds).getD 1) with
  | error e => rw [htable] at h; cases h
  | ok table =>
      rw [htable] at h
      obtain rfl := Except.ok.inj h
      exact ⟨rfl, rfl⟩

theorem ofDirectives_succeeds_iff :
    (∃ animation, ofDirectives ds = .ok animation) ↔
      ∀ i v, VaryAt ds i v → v.Timely (ds.take i) ∧ v.Fits ((declared? ds).getD 1) := by
  constructor
  · rintro ⟨animation, h⟩ i v hd
    have hfits := KnobTable.ofDirectives_succeeds_iff.mp ⟨_, (eq_of_ofDirectives h).2⟩
    exact ⟨timely_of_ofDirectives h i v hd, hfits i v hd⟩
  · intro h
    obtain ⟨table, htable⟩ := KnobTable.ofDirectives_succeeds_iff.mpr fun i v hd => (h i v hd).2
    rw [ofDirectives_of_timely fun i v hd => (h i v hd).1, htable]
    exact ⟨_, rfl⟩

end

/-- **The outcome of resolution.**  A scene is resolved if and only if every `vary` fits the frames
declared in front of it, for which the first pass alone is enough, and those that are declared in
the end.  Then it has the frames and the base name that are given last, and its table has a row for
each frame.  Otherwise the first `vary` that does not fit the frames in front of it is at fault, by
its order if there are none and by its range if there are; and if there is no such `vary`, the
first one that does not fit the frames in the end is. -/
theorem ofDirectives_outcome (ds : List Directive) :
    let count := (declared? ds).getD 1
    let Timely := fun i => ∀ v, VaryAt ds i v → v.Timely (ds.take i)
    let Fits := fun i => ∀ v, VaryAt ds i v → v.Fits count
    ((∃ timeline, Timeline.ofDirectives ds = .ok timeline) ↔ ∀ i, Timely i) ∧
      ((∃ animation, ofDirectives ds = .ok animation) ↔ ∀ i, Timely i ∧ Fits i) ∧
      (∀ animation, ofDirectives ds = .ok animation →
        animation.timeline.frameCount = count ∧
        (animation.timeline.animated ↔ ∃ n, .frames n ∈ ds) ∧
        animation.timeline.basename = (named? ds).getD "default" ∧
        animation.table.size = count.toNat) ∧
      (∀ i v, VaryAt ds i v → (∀ j < i, Timely j) →
        (declared? (ds.take i) = none → ∃ e, ofDirectives ds = .error e ∧
          e = .varyBeforeFrames i v.knob ∧ e.kind = .ordering) ∧
        ∀ n, declared? (ds.take i) = some n → ¬v.Fits n → ∃ e, ofDirectives ds = .error e ∧
          e = v.misfit i n ∧ e.kind = .range) ∧
      ((∀ i, Timely i) → ∀ i v, VaryAt ds i v → (∀ j < i, Fits j) → ¬v.Fits count →
        ∃ e, ofDirectives ds = .error e ∧ e = v.misfit i count ∧ e.kind = .range) := by
  intro count Timely Fits
  refine ⟨Timeline.ofDirectives_succeeds_iff, ofDirectives_succeeds_iff.trans ?_, ?_, ?_, ?_⟩
  · constructor
    · exact fun h i => ⟨fun v hd => (h i v hd).1, fun v hd => (h i v hd).2⟩
    · exact fun h i v hd => ⟨(h i).1 v hd, (h i).2 v hd⟩
  · intro animation h
    obtain ⟨htimeline, htable⟩ := eq_of_ofDirectives h
    rw [htimeline]
    exact ⟨rfl, isSome_declared?_iff, rfl, KnobTable.size_ofDirectives htable⟩
  · intro i v hd hbefore
    have hi : i < ds.length := (List.getElem?_eq_some_iff.mp hd).1
    have hlength : (ds.take i).length = i := List.length_take_of_le (Nat.le_of_lt hi)
    constructor
    · intro hnone
      refine ⟨_, ofDirectives_of_objection hd ?_ hbefore, rfl, rfl⟩
      rw [Timeline.objection?, hnone, hlength]
    · intro n hn hmisfit
      refine ⟨_, ofDirectives_of_objection hd ?_ hbefore, rfl, rfl⟩
      rw [Timeline.objection?, hn, hlength]
      exact if_neg hmisfit
  · intro hall i v hd hbefore hmisfit
    refine ⟨_, ?_, rfl, rfl⟩
    rw [ofDirectives_of_timely hall, KnobTable.ofDirectives_eq_error hd hmisfit hbefore]
    rfl

/-- The ramp of the knob `wide` ends after the frames there are in the end, and that of `late` after
those there are when it is met. -/
def shrunk : List Directive :=
  [.frames 9, .vary ⟨⟨0, 8, 0, 1⟩, "wide"⟩, .frames 5, .vary ⟨⟨2, 6, 0, 1⟩, "late"⟩, .frames 3]

theorem shrunk_outcome :
    (∃ timeline, Timeline.ofDirectives (shrunk.take 3) = .ok timeline) ∧
      ofDirectives (shrunk.take 3) = .error (.varyOutsideFrames 1 "wide" 0 8 4) ∧
      ofDirectives shrunk = .error (.varyOutsideFrames 3 "late" 2 6 4) := by
  have hfirst : ∃ timeline, Timeline.ofDirectives (shrunk.take 3) = .ok timeline := ⟨_, rfl⟩
  refine ⟨hfirst, ?_, ?_⟩
  · obtain ⟨htimely, _, _, _, hsecond⟩ := ofDirectives_outcome (shrunk.take 3)
    obtain ⟨e, he, rfl, _⟩ := hsecond (htimely.mp hfirst) 1 ⟨⟨0, 8, 0, 1⟩, "wide"⟩ rfl
      (by
        intro j hj v hv
        obtain rfl : j = 0 := by omega
        cases hv)
      (by decide)
    exact he
  · obtain ⟨_, _, _, hearly, _⟩ := ofDirectives_outcome shrunk
    obtain ⟨e, he, rfl, _⟩ := (hearly 3 ⟨⟨2, 6, 0, 1⟩, "late"⟩ rfl
      (by
        intro j hj v hv
        have hj : j = 0 ∨ j = 1 ∨ j = 2 := by omega
        rcases hj with rfl | rfl | rfl
        · cases hv
        · cases hv
          exact ⟨9, rfl, by decide⟩
        · cases hv)).2 5 rfl (by decide)
    exact he

end Animation

end SceneScript
