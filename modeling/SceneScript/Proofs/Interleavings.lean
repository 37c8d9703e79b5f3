import SceneScript.Proofs.PairedRuns
import SceneScript.Proofs.Recording

/-! # The two halves of a scene

A scene has two halves (`Directive.half`): the directives that are about the animation, and the
others.  Resolution reads the first half and the run of a frame reads the second one, so how the two
are interleaved matters only for the positions that faults quote, and the names of coordinate
systems do not matter at all.

`Twins` are two directives of two scenes that have one number in one half.  If a scene faults at a
directive, another scene with the same halves faults alike at its twin: `Animation.halves_alike`
says so of resolution, `Frame.halves_run_alike` of the run of a frame, and
`Render.halves_render_alike` of whole renders, with the calls to the rasterizer and to the sink. -/

namespace SceneScript

variable {σ τ β : Type}

/-! ### Halves -/

namespace Directive

/-- The directive is about the animation. -/
def animates : Directive → Bool
  | .frames _ | .basename _ | .vary _ => true
  | _ => false

/-- The directive without the names of coordinate systems. -/
def plain : Directive → Directive
  | .shape solid constants _ => .shape solid constants none
  | .line constants p0 _ p1 _ => .line constants p0 none p1 none
  | d => d

theorem animates_plain (d : Directive) : d.plain.animates = d.animates := by
  cases d <;> rfl

/-- No coordinate system has a name in a directive that is about the animation. -/
theorem plain_of_animates {d : Directive} (h : d.animates = true) : d.plain = d := by
  cases d with
  | frames | basename | vary => rfl
  | _ => cases h

theorem eq_of_plain {d d' : Directive} (h : d.plain = d'.plain) (hd : d.animates = true) :
    d = d' := by
  have hd' : d'.animates = true := by rw [← animates_plain, ← h, animates_plain, hd]
  rw [← plain_of_animates hd, h, plain_of_animates hd']

/-- One half of a scene: in order the directives that are about the animation, or those that are
not, without the names of coordinate systems. -/
def half (animating : Bool) (ds : List Directive) : List Directive :=
  (ds.filter (·.animates == animating)).map plain

/-- The directives of a half with their positions. -/
def placed (animating : Bool) (ds : List Directive) : List (Directive × Nat) :=
  ds.zipIdx.filter (·.1.animates == animating)

theorem map_placed (animating : Bool) (ds : List Directive) :
    (placed animating ds).map (·.1.plain) = half animating ds := by
  have hfirst : (placed animating ds).map Prod.fst = ds.filter (·.animates == animating) := by
    rw [placed, ← List.zipIdx_map_fst 0 ds, List.filter_map, List.zipIdx_map_fst]
    rfl
  rw [half, ← hfirst, List.map_map]
  rfl

/-- A loop in which the directives of one half do nothing goes over the other half. -/
theorem foldlM_placed {m : Type → Type} [Monad m] [LawfulMonad m] {animating : Bool}
    {f : β → Directive × Nat → m β}
    (inert : ∀ b e, e.1.animates ≠ animating → f b e = pure b) (ds : List Directive) (b : β) :
    ds.zipIdx.foldlM f b = (placed animating ds).foldlM f b := by
  rw [placed, List.foldlM_filter]
  congr 1
  funext b e
  split
  · rfl
  · next h => exact inert b e fun same => h (beq_iff_eq.mpr same)

end Directive

/-- Two directives of two scenes with the same number in the same half, with their positions. -/
def Twins (xs ys : List Directive) (d d' : Directive × Nat) : Prop :=
  ∃ (animating : Bool) (k : Nat), (Directive.placed animating xs)[k]? = some d ∧
    (Directive.placed animating ys)[k]? = some d'

section

variable {xs ys : List Directive} {animating : Bool}

theorem forall₂_twins (h : Directive.half animating xs = Directive.half animating ys) :
    List.Forall₂ (fun d d' => d.1.animates = animating ∧ d.1.plain = d'.1.plain ∧ Twins xs ys d d')
      (Directive.placed animating xs) (Directive.placed animating ys) := by
  rw [← Directive.map_placed, ← Directive.map_placed] at h
  rw [List.forall₂_iff_get]
  refine ⟨by simpa only [List.length_map] using congrArg List.length h, ?_⟩
  intro k hk hk'
  refine ⟨?_, ?_, ?_⟩
  · exact beq_iff_eq.mp (List.mem_filter.mp (List.get_mem _ ⟨k, hk⟩)).2
  · have hsame := congrArg (·[k]?) h
    simp only [List.getElem?_map, List.getElem?_eq_getElem hk, List.getElem?_eq_getElem hk',
      Option.map_some] at hsame
    exact Option.some.inj hsame
  · exact ⟨animating, k, List.getElem?_eq_getElem hk, List.getElem?_eq_getElem hk'⟩

end

/-! ### Positions in faults -/

namespace Fault

/-- The position of the directive that a fault quotes. -/
def index? : Fault → Option Nat
  | malformed index _ _ | varyBeforeFrames index _ | varyOutsideFrames index _ _ _ _ => some index
  | undefinedConstants site _ | undefinedKnob site _ | popWithoutPush site => some site.index
  | _ => none

/-- The fault with another position in its place. -/
def moved (index : Nat) : Fault → Fault
  | malformed _ op cause => malformed index op cause
  | varyBeforeFrames _ knob => varyBeforeFrames index knob
  | varyOutsideFrames _ knob first last lastFrame =>
    varyOutsideFrames index knob first last lastFrame
  | undefinedConstants site name => undefinedConstants { site with index } name
  | undefinedKnob site name => undefinedKnob { site with index } name
  | popWithoutPush site => popWithoutPush { site with index }
  | e => e

theorem kind_moved (index : Nat) (e : Fault) : (e.moved index).kind = e.kind := by
  cases e <;> rfl

/-- The faults quote a position each and are the same otherwise. -/
def Quotes (i j : Nat) (e e' : Fault) : Prop := e.index? = some i ∧ e' = e.moved j

/-- The faults are the same, unless they quote a position each. -/
def MayQuote (i j : Nat) (e e' : Fault) : Prop := e' = e ∨ e.Quotes i j e'

end Fault

/-! ### Resolution -/

/-- The observer is inert at directives that are not about the animation, faults at a `vary` only,
and uses the position of a directive only to quote it. -/
structure Observes (observe : β → Nat → Directive → Except Fault β) : Prop where
  inert : ∀ b i d, d.animates = false → observe b i d = .ok b
  quotes : ∀ b i j d, Alike (fun e e' => (∃ v, d = .vary v) ∧ e.Quotes i j e') Eq
    (observe b i d) (observe b j d)

theorem Timeline.alike_checkVary (v : Vary) (frameCount : UInt32) (i j : Nat) :
    Alike (fun e e' => (∃ w, Directive.vary v = .vary w) ∧ e.Quotes i j e') Eq
      (checkVary i v frameCount) (checkVary j v frameCount) := by
  unfold checkVary
  split
  · exact .ok rfl
  · exact .error ⟨⟨v, rfl⟩, rfl, rfl⟩

theorem Timeline.observes : Observes Timeline.observe where
  inert t i d h := by
    cases d with
    | frames | basename | vary => cases h
    | _ => rfl
  quotes t i j d := by
    cases d with
    | vary v =>
        simp only [observe]
        split
        · exact (alike_checkVary v t.frameCount i j).map _
        · exact .error ⟨⟨v, rfl⟩, rfl, rfl⟩
    | _ => exact .ok rfl

theorem KnobTable.observes (frameCount : UInt32) : Observes (KnobTable.observe frameCount) where
  inert t i d h := by
    cases d with
    | frames | basename | vary => cases h
    | _ => rfl
  quotes t i j d := by
    cases d with
    | vary v => exact (Timeline.alike_checkVary v frameCount i j).map _
    | _ => exact .ok rfl

/-- The faults of two scenes are the same, about a `vary` and its twin. -/
def VaryMoved (xs ys : List Directive) (e e' : Fault) : Prop :=
  ∃ v i j, Twins xs ys (.vary v, i) (.vary v, j) ∧ e.Quotes i j e' ∧ e'.kind = e.kind

section

variable {xs ys : List Directive}

/-- An observer comes to the same of two scenes with the same animation directives. -/
theorem Observes.alike_foldlM {observe : β → Nat → Directive → Except Fault β}
    (hobserve : Observes observe) (h : Directive.half true xs = Directive.half true ys) (b : β) :
    Alike (VaryMoved xs ys) Eq (xs.zipIdx.foldlM (fun b e => observe b e.2 e.1) b)
      (ys.zipIdx.foldlM (fun b e => observe b e.2 e.1) b) := by
  have inert : ∀ (c : β) (e : Directive × Nat), e.1.animates ≠ true →
      observe c e.2 e.1 = pure c :=
    fun c e he => hobserve.inert c e.2 e.1 (eq_false_of_ne_true he)
  rw [Directive.foldlM_placed inert, Directive.foldlM_placed inert]
  refine Alike.foldlM ?_ (forall₂_twins h) b
  rintro c ⟨d, i⟩ ⟨d', j⟩ ⟨hanimates, hplain, htwins⟩
  obtain rfl := Directive.eq_of_plain hplain hanimates
  refine (hobserve.quotes c i j d).imp ?_
  rintro e e' ⟨⟨v, rfl⟩, hquotes⟩
  exact ⟨v, i, j, htwins, hquotes, hquotes.2 ▸ Fault.kind_moved j e⟩

/-- **Resolution reads the animation directives only.**  Two scenes that have them in common have
the same animation, or the faults are the same, about a `vary` and its twin. -/
theorem Animation.halves_alike (h : Directive.half true xs = Directive.half true ys) :
    Alike (VaryMoved xs ys) Eq (Animation.ofDirectives xs) (Animation.ofDirectives ys) := by
  refine (Timeline.observes.alike_foldlM h .still).bind ?_
  rintro timeline _ rfl
  refine ((KnobTable.observes timeline.frameCount).alike_foldlM h _).bind ?_
  rintro table _ rfl
  exact .ok rfl

end

/-! ### Frames -/

/-- The faults of two scenes are the same, or they quote the positions of twins and are the same
otherwise. -/
def FaultMoved (xs ys : List Directive) (e e' : Fault) : Prop :=
  e'.kind = e.kind ∧ (e' = e ∨ ∃ d d', Twins xs ys d d' ∧ e.Quotes d.2 d'.2 e')

theorem FaultMoved.refl (xs ys : List Directive) (e : Fault) : FaultMoved xs ys e e :=
  ⟨rfl, .inl rfl⟩

theorem VaryMoved.faultMoved {xs ys : List Directive} {e e' : Fault} (h : VaryMoved xs ys e e') :
    FaultMoved xs ys e e' := by
  obtain ⟨v, i, j, htwins, hquotes, hkind⟩ := h
  exact ⟨hkind, .inr ⟨(.vary v, i), (.vary v, j), htwins, hquotes⟩⟩

namespace Frame

open SceneScript.Action

variable (rasterizer : Rasterizer σ) (settings : Settings) (symbols : SymbolTable) (number : Nat)

theorem step_plain (index : Nat) (d : Directive) (p : Progress) :
    step rasterizer settings symbols number index d.plain p =
      step rasterizer settings symbols number index d p := by
  cases d <;> rfl

theorem step_animates (index : Nat) {d : Directive} (h : d.animates = true) (p : Progress) :
    step rasterizer settings symbols number index d p = pure p := by
  cases d with
  | frames | basename | vary => rfl
  | _ => cases h

theorem alike_reflectance (standard : Reflectance) (constants : Option String) (op : Op)
    (i j : Nat) :
    Alike (Fault.MayQuote i j) Eq (reflectance symbols standard constants ⟨number, i, op⟩)
      (reflectance symbols standard constants ⟨number, j, op⟩) := by
  cases constants with
  | none => exact .ok rfl
  | some name =>
      simp only [reflectance]
      split
      · exact .ok rfl
      · exact .error (.inr ⟨rfl, rfl⟩)

theorem alike_stretch (knob : Option String) (op : Op) (i j : Nat) :
    Alike (Fault.MayQuote i j) Eq (stretch symbols knob ⟨number, i, op⟩)
      (stretch symbols knob ⟨number, j, op⟩) := by
  cases knob with
  | none => exact .ok rfl
  | some name =>
      simp only [stretch]
      split
      · exact .ok rfl
      · exact .error (.inr ⟨rfl, rfl⟩)

/-- A directive does the same at any position, which it uses only to quote it in a fault. -/
theorem paired_step (i j : Nat) (d : Directive) (p : Progress) :
    Paired Eq (Fault.MayQuote i j) Eq (step rasterizer settings symbols number i d p)
      (step rasterizer settings symbols number j d p) := by
  have same : ∀ {α : Type} (a : Action σ α), Paired Eq (Fault.MayQuote i j) Eq a a :=
    paired_refl fun _ => .inl rfl
  cases d with
  | shape shape constants coords =>
      refine (paired_ofExcept (alike_reflectance symbols number _ constants _ i j)).bind ?_
      rintro r _ rfl
      exact same _
  | line constants p0 coords0 p1 coords1 =>
      refine (paired_ofExcept (alike_reflectance symbols number _ constants _ i j)).bind ?_
      rintro r _ rfl
      exact same _
  | motion m knob =>
      refine (paired_ofExcept (alike_stretch symbols number knob _ i j)).bind ?_
      rintro k _ rfl
      exact same _
  | pop =>
      simp only [step]
      split
      · exact same _
      · exact paired_fail (.inr ⟨rfl, rfl⟩)
  | _ => exact same _

theorem steps_eq_foldlM (index : Nat) (ds : List Directive) (p : Progress) :
    steps rasterizer settings symbols number index ds p =
      (ds.zipIdx index).foldlM
        (fun p e => step rasterizer settings symbols number e.2 e.1 p) p := by
  induction ds generalizing index p with
  | nil => rfl
  | cons d ds ih =>
      rw [steps, List.zipIdx_cons, List.foldlM_cons]
      congr 1
      funext q
      exact ih (index + 1) q

/-- **The run of a frame does not read the animation directives.**  Two scenes that have the others
in common are run with the same calls to the rasterizer and come to the same frame, or the faults
are the same but for the position that they quote. -/
theorem halves_run_alike {xs ys : List Directive}
    (h : Directive.half false xs = Directive.half false ys) :
    Paired Eq (FaultMoved xs ys) Eq (run rasterizer settings xs number symbols)
      (run rasterizer settings ys number symbols) := by
  have inert : ∀ (p : Progress) (e : Directive × Nat), e.1.animates ≠ false →
      step rasterizer settings symbols number e.2 e.1 p = pure p :=
    fun p e he => step_animates rasterizer settings symbols number e.2 (eq_true_of_ne_false he) p
  refine Paired.bind (V := Eq) ?_ ?_
  case refine_2 =>
    rintro p _ rfl
    exact paired_pure rfl
  rw [steps_eq_foldlM, steps_eq_foldlM, Directive.foldlM_placed inert,
    Directive.foldlM_placed inert]
  refine paired_foldlM ?_ (forall₂_twins h) _
  rintro p ⟨d, i⟩ ⟨d', j⟩ ⟨_, hplain, htwins⟩
  rw [← step_plain _ _ _ _ j d', ← hplain, step_plain]
  refine (paired_step rasterizer settings symbols number i j d p).imp ?_
  rintro e _ (rfl | hquotes)
  · exact .refl xs ys _
  · exact ⟨hquotes.2 ▸ Fault.kind_moved j e, .inr ⟨(d, i), (d', j), htwins, hquotes⟩⟩

end Frame

/-! ### Renders -/

namespace Render

open SceneScript.Action

/-- **Only the halves of a scene matter to a render.**  Two scenes with the same animation
directives and the same others, interleaved in any way and with any names of coordinate systems,
have the same animation or fault at one `vary`.  Without workers both are rendered with the same
calls to the rasterizer and to the sink, whatever these do, and leave the same symbols; and either
both succeed with the same result, or the faults are the same but for the position that they quote,
which is that of one directive in either scene. -/
theorem halves_render_alike {xs ys : List Directive}
    (hanimation : Directive.half true xs = Directive.half true ys)
    (hothers : Directive.half false xs = Directive.half false ys) (rasterizer : Rasterizer σ)
    (sink : Sink τ) (settings : Settings) (chunkSize : UInt64) (threads : Option UInt64)
    (schedule : Schedule) (studio : Studio (σ × List Rasterizer.Call) (τ × List Sink.Call)) :
    let rendered (directives : List Directive) := (scene rasterizer.recorded sink.recorded settings
      directives ⟨false, chunkSize, threads⟩ schedule).run studio
    Alike (VaryMoved xs ys) Eq (Animation.ofDirectives xs) (Animation.ofDirectives ys) ∧
      (rendered xs).2 = (rendered ys).2 ∧
      Alike (FaultMoved xs ys) Eq (rendered xs).1 (rendered ys).1 := by
  have same := FaultMoved.refl xs ys
  have hresolved := Animation.halves_alike hanimation
  have hbody : ∀ animation, Paired (Studio.Related Eq Eq) (FaultMoved xs ys) Eq
      (sequential rasterizer.recorded sink.recorded settings xs animation)
      (sequential rasterizer.recorded sink.recorded settings ys animation) := by
    intro animation
    refine paired_sequential sink.recorded same (fun number => paired_refl same _) ?_
    rintro number symbols _ rfl
    exact Frame.halves_run_alike rasterizer.recorded settings symbols number hothers
  have hframes : ∀ animation, Paired (Studio.Related Eq Eq) (FaultMoved xs ys) Eq
      (frames rasterizer.recorded sink.recorded settings xs ⟨false, chunkSize, threads⟩ schedule
        animation)
      (frames rasterizer.recorded sink.recorded settings ys ⟨false, chunkSize, threads⟩ schedule
        animation) :=
    fun animation => paired_frames sink.recorded same (hbody animation)
  obtain ⟨hstudio, halike⟩ := paired_scene sink.recorded
    (hresolved.imp fun _ _ => VaryMoved.faultMoved) (fun animation _ => hframes animation)
    studio studio (Studio.related_eq_iff.mpr rfl)
  exact ⟨hresolved, Studio.related_eq_iff.mp hstudio, halike⟩

/-- A scene that closes a scope too often. -/
def overclosed : List Directive :=
  [.frames 2, .basename "flip", .push, .shape (.sphere ⟨0, 0, 0⟩ 1) none (some "world"), .pop,
    .display, .pop]

/-- The same scene with its animation directives at the end. -/
def overclosedEarlier : List Directive :=
  [.push, .shape (.sphere ⟨0, 0, 0⟩ 1) none none, .pop, .display, .frames 2, .pop,
    .basename "flip"]

theorem overclosed_alike :
    Directive.half true overclosed = Directive.half true overclosedEarlier ∧
      Directive.half false overclosed = Directive.half false overclosedEarlier ∧
      Alike (FaultMoved overclosed overclosedEarlier) Eq
        ((scene Rasterizer.idle.recorded Sink.silent.recorded .standard overclosed .standard
          .together).run ⟨.empty, ((), []), ((), [])⟩).1
        ((scene Rasterizer.idle.recorded Sink.silent.recorded .standard overclosedEarlier .standard
          .together).run ⟨.empty, ((), []), ((), [])⟩).1 := by
  have hanimation : Directive.half true overclosed = Directive.half true overclosedEarlier := rfl
  have hothers : Directive.half false overclosed = Directive.half false overclosedEarlier := rfl
  exact ⟨hanimation, hothers, (halves_render_alike hanimation hothers Rasterizer.idle Sink.silent
    .standard 64 none .together _).2.2⟩

end Render

end SceneScript
