import Mathlib.Data.Int.Order.Basic
import Mathlib.Data.List.DropRight
import Mathlib.Data.List.Induction
import Mathlib.Data.Prod.Lex
import SceneScript.Proofs.SurfaceCells

/-! # The depth buffer

What a cell shows after any plots depends on the plots of that cell alone, and `Surface.Shows` says
how: of the plots after the last one whose depth is no number, the last among the nearest; if there
is none of these, that one without a depth; and the background if nothing was plotted.  A plot with
such a depth is in front of nothing and behind nothing, so it is always drawn, and whatever comes
next is drawn over it; this is why the plots after it are looked at by themselves
(`Surface.recent`).

Depths are floats, and `<` on them is no linear order.  `Depth.rank?` gives every float that is a
number its rank in one, with one rank for both zeros, and `Depth.lt_iff` reduces `<` to ranks; what
the proofs need of `<` follows from that.  `Surface.Shows.behind` and `Surface.Shows.drawn` say what
one more plot of a cell changes, `Surface.Displays.draw` what one more plot changes anywhere, and
`Surface.plots_show_nearest` is the law for all plots. -/

namespace SceneScript

/-! ### The order of depths -/

namespace Depth

open Float.Model (UnpackedFloat)

/-- The rank of a number: its kind, and within a kind its exponent and its mantissa. -/
abbrev Rank : Type := ℤ ×ₗ ℤ ×ₗ ℤ

/-- Make a rank. -/
def Rank.of (kind exponent mantissa : ℤ) : Rank := toLex (kind, toLex (exponent, mantissa))

theorem Rank.of_lt_iff {k e m k' e' m' : ℤ} :
    Rank.of k e m < Rank.of k' e' m' ↔ k < k' ∨ k = k' ∧ (e < e' ∨ e = e' ∧ m < m') := by
  simp only [Rank.of, Prod.Lex.toLex_lt_toLex]

/-- The rank of what the bits of a float stand for; both zeros have one rank. -/
def rankOf? : UnpackedFloat → Option Rank
  | .notANumber => none
  | .infinity .negative => some (.of (-2) 0 0)
  | .finite .negative m e _ => some (.of (-1) (-e) (-m))
  | .zero _ => some (.of 0 0 0)
  | .finite .positive m e _ => some (.of 1 e m)
  | .infinity .positive => some (.of 2 0 0)

/-- The rank of a float, if it is a number. -/
def rank? (x : Float) : Option Rank := rankOf? x.toModel.unpack

theorem unpacked_lt_iff {a b : UnpackedFloat} :
    a.lt b = true ↔ ∃ r s, rankOf? a = some r ∧ rankOf? b = some s ∧ r < s := by
  have hsigns : compare UnpackedFloat.Sign.negative UnpackedFloat.Sign.positive = .lt := rfl
  unfold UnpackedFloat.lt
  -- The comparison is a table over the kinds of both numbers; only of two finite numbers with one
  -- sign it looks at exponents and mantissas.
  rcases a with ⟨_ | _⟩ | _ | _ | ⟨_ | _, m, e, _⟩ <;>
    rcases b with ⟨_ | _⟩ | _ | _ | ⟨_ | _, m', e', _⟩ <;>
    dsimp only [UnpackedFloat.compare, rankOf?] <;>
    simp [Rank.of_lt_iff, hsigns, Ordering.then_eq_lt, Ordering.then_eq_gt, compare_lt_iff_lt,
      compare_gt_iff_gt]

/-- A float is less than another if both are numbers and its rank is the lower one. -/
theorem lt_iff {x y : Float} : x < y ↔ ∃ r s, rank? x = some r ∧ rank? y = some s ∧ r < s := by
  rw [rank?, rank?, ← unpacked_lt_iff]
  exact decide_eq_true_iff

theorem rankOf?_eq_none_iff {u : UnpackedFloat} : rankOf? u = none ↔ u.isNaN = true := by
  rcases u with ⟨_ | _⟩ | _ | _ | ⟨_ | _, m, e, _⟩
  case notANumber => exact iff_of_true rfl rfl
  all_goals exact iff_of_false (Option.some_ne_none _) Bool.false_ne_true

theorem rank?_eq_none_iff {x : Float} : rank? x = none ↔ x.isNaN = true :=
  rankOf?_eq_none_iff

variable {x y z : Float}

theorem not_lt_of_lt (h : x < y) : ¬y < x := by
  intro h'
  obtain ⟨r, s, hr, hs, hlt⟩ := lt_iff.mp h
  obtain ⟨s', r', hs', hr', hlt'⟩ := lt_iff.mp h'
  rw [hr] at hr'
  rw [hs] at hs'
  obtain rfl := Option.some.inj hr'
  obtain rfl := Option.some.inj hs'
  exact lt_asymm hlt hlt'

/-- A number is above the lower or below the upper one of two numbers. -/
theorem lt_or_lt (h : x < z) (hy : y.isNaN = false) : x < y ∨ y < z := by
  obtain ⟨r, t, hr, ht, hlt⟩ := lt_iff.mp h
  obtain ⟨s, hs⟩ : ∃ s, rank? y = some s := by
    rw [← Option.ne_none_iff_exists', ne_eq, rank?_eq_none_iff, hy]
    exact Bool.false_ne_true
  rcases lt_or_ge r s with hrs | hsr
  · exact .inl (lt_iff.mpr ⟨r, s, hr, hs, hrs⟩)
  · exact .inr (lt_iff.mpr ⟨s, t, hs, ht, lt_of_le_of_lt hsr hlt⟩)

theorem isNaN_of_lt (h : x < y) : x.isNaN = false ∧ y.isNaN = false := by
  obtain ⟨r, s, hr, hs, _⟩ := lt_iff.mp h
  constructor
  · rw [← Bool.not_eq_true, ← rank?_eq_none_iff, hr]
    exact Option.some_ne_none r
  · rw [← Bool.not_eq_true, ← rank?_eq_none_iff, hs]
    exact Option.some_ne_none s

theorem not_lt_lowest (u : UnpackedFloat) : ∀ r ∈ rankOf? u, ¬r < Rank.of (-2) 0 0 := by
  rcases u with ⟨_ | _⟩ | _ | _ | ⟨_ | _, m, e, _⟩ <;>
    dsimp only [rankOf?] <;>
    simp [Rank.of_lt_iff, -not_lt]

/-- Nothing is behind the depth of a blank cell. -/
theorem not_lt_farthest : ¬x < farthest := by
  intro h
  obtain ⟨r, s, hr, hs, hlt⟩ := lt_iff.mp h
  have hlowest : rank? farthest = some (.of (-2) 0 0) := by decide +kernel
  rw [hlowest] at hs
  obtain rfl := Option.some.inj hs
  exact not_lt_lowest _ r hr hlt

end Depth

/-! ### What a cell shows -/

/-- The plot is one of the given cell. -/
def Plot.At (x y : Int) (p : Plot) : Prop := p.x = x ∧ p.y = y

instance (x y : Int) : DecidablePred (Plot.At x y) := fun p =>
  inferInstanceAs (Decidable (p.x = x ∧ p.y = y))

namespace Surface

open Depth

/-- The plots after the last one whose depth is no number. -/
def recent (plots : List Plot) : List Plot := plots.rtakeWhile fun p => !p.depth.isNaN

/-- After plots of its own a cell shows a colour at a depth. -/
inductive Shows (background : Rgb) (plots : List Plot) : Rgb → Float → Prop
  /-- The last among the nearest of the plots after the last one without a depth. -/
  | nearest {front back : List Plot} {p : Plot} (split : recent plots = front ++ p :: back)
      (nearest : ∀ q ∈ recent plots, ¬p.depth < q.depth) (last : ∀ q ∈ back, q.depth < p.depth) :
      Shows background plots p.color p.depth
  /-- The last plot, as its depth is no number. -/
  | unordered {front : List Plot} {p : Plot} (split : plots = front ++ [p])
      (nan : p.depth.isNaN = true) : Shows background plots p.color p.depth
  /-- The background, as nothing was plotted. -/
  | blank (h : plots = []) : Shows background plots background farthest

variable {background : Rgb} {plots front : List Plot} {p : Plot} {color : Rgb} {depth : Float}

theorem recent_concat_of_isNaN (h : p.depth.isNaN = true) : recent (plots ++ [p]) = [] :=
  List.rtakeWhile_concat_neg _ _ _ (by rw [h]; exact Bool.false_ne_true)

theorem recent_concat (h : p.depth.isNaN = false) :
    recent (plots ++ [p]) = recent plots ++ [p] :=
  List.rtakeWhile_concat_pos _ _ _ (by rw [h]; rfl)

theorem isNaN_of_mem_recent (h : p ∈ recent plots) : p.depth.isNaN = false := by
  have hnumber := List.mem_rtakeWhile_imp (p := fun q : Plot => !q.depth.isNaN) h
  rwa [Bool.not_eq_true'] at hnumber

/-- A plot behind what its cell shows changes nothing. -/
theorem Shows.behind (h : Shows background plots color depth) (hp : p.depth < depth) :
    Shows background (plots ++ [p]) color depth := by
  obtain ⟨hnumber, hdepth⟩ := isNaN_of_lt hp
  cases h with
  | @nearest front back q split nearest last =>
      have hsplit : recent (plots ++ [p]) = front ++ q :: (back ++ [p]) := by
        rw [recent_concat hnumber, split, List.append_assoc, List.cons_append]
      refine .nearest hsplit ?_ ?_
      · rw [recent_concat hnumber, List.forall_mem_append]
        refine ⟨nearest, ?_⟩
        rw [List.forall_mem_singleton]
        exact not_lt_of_lt hp
      · rw [List.forall_mem_append, List.forall_mem_singleton]
        exact ⟨last, hp⟩
  | unordered split nan =>
      rw [nan] at hdepth
      cases hdepth
  | blank h => exact absurd hp not_lt_farthest

/-- A plot that is not behind what its cell shows is shown. -/
theorem Shows.drawn (h : Shows background plots color depth) (hp : ¬p.depth < depth) :
    Shows background (plots ++ [p]) p.color p.depth := by
  cases hnumber : p.depth.isNaN with
  | true => exact .unordered rfl hnumber
  | false =>
      refine .nearest (recent_concat hnumber) ?_ (fun q hq => absurd hq List.not_mem_nil)
      rw [recent_concat hnumber, List.forall_mem_append, List.forall_mem_singleton]
      refine ⟨?_, fun hlt => not_lt_of_lt hlt hlt⟩
      intro q hq hlt
      cases h with
      | @nearest _ _ shown split nearest last =>
          -- What is nearer than the new plot would be nearer than what the cell has shown.
          have hshown : shown ∈ recent plots := by
            rw [split]
            exact List.mem_append_right _ List.mem_cons_self
          rcases lt_or_lt hlt (isNaN_of_mem_recent hshown) with hlt | hlt
          · exact hp hlt
          · exact nearest q hq hlt
      | unordered split nan =>
          rw [split, recent_concat_of_isNaN nan] at hq
          cases hq
      | blank h =>
          rw [h] at hq
          cases hq

/-- No other plot is as near as the last among the nearest and comes after it. -/
theorem length_le_of_last {recent front back front' back' : List Plot} {p p' : Plot}
    (h : recent = front ++ p :: back) (last : ∀ q ∈ back, q.depth < p.depth)
    (h' : recent = front' ++ p' :: back') (nearest' : ∀ q ∈ recent, ¬p'.depth < q.depth) :
    front'.length ≤ front.length := by
  by_contra hlt
  have hthere : recent[front'.length]? = some p' := by
    rw [h', List.getElem?_append_right (Nat.le_refl _), Nat.sub_self, List.getElem?_cons_zero]
  rw [h, List.getElem?_append_right (by omega),
    show front'.length - front.length = front'.length - front.length - 1 + 1 by omega,
    List.getElem?_cons_succ] at hthere
  refine nearest' p ?_ (last p' (List.mem_of_getElem? hthere))
  rw [h]
  exact List.mem_append_right _ List.mem_cons_self

/-- A cell shows one colour at one depth. -/
theorem Shows.unique {color' : Rgb} {depth' : Float} (h : Shows background plots color depth)
    (h' : Shows background plots color' depth') : color = color' ∧ depth = depth' := by
  cases h with
  | nearest split nearest last =>
      cases h' with
      | nearest split' nearest' last' =>
          have hlength := Nat.le_antisymm (length_le_of_last split' last' split nearest)
            (length_le_of_last split last split' nearest')
          obtain ⟨_, hcons⟩ := List.append_inj (split.symm.trans split') hlength
          obtain ⟨rfl, _⟩ := List.cons.inj hcons
          exact ⟨rfl, rfl⟩
      | unordered split' nan =>
          rw [split', recent_concat_of_isNaN nan] at split
          simp at split
      | blank h =>
          rw [h] at split
          simp [recent] at split
  | unordered split nan =>
      cases h' with
      | nearest split' nearest last =>
          rw [split, recent_concat_of_isNaN nan] at split'
          simp at split'
      | unordered split' nan' =>
          obtain ⟨_, rfl⟩ := List.append_singleton_inj.mp (split.symm.trans split')
          exact ⟨rfl, rfl⟩
      | blank h =>
          rw [h] at split
          simp at split
  | blank h =>
      cases h' with
      | nearest split nearest last =>
          rw [h] at split
          simp [recent] at split
      | unordered split nan =>
          rw [h] at split
          simp at split
      | blank => exact ⟨rfl, rfl⟩

/-! ### Plots of a surface -/

theorem after_concat (s : Surface) (plots : List Plot) (p : Plot) :
    s.after ((plots ++ [p]).map .plot) = ((s.after (plots.map .plot)).draw p).2 := by
  rw [List.map_append, after, List.foldl_append]
  rfl

/-- A cell of the surface shows what the plots of that cell make of it. -/
def Displays (background : Rgb) (plots : List Plot) (s : Surface) (x y : Int) : Prop :=
  ∃ color depth, s.color? x y = some color ∧ s.depth? x y = some depth ∧
    Shows background (plots.filter fun p => p.At x y) color depth

variable {s : Surface} {x y : Int}

/-- One more plot makes of each cell what the plots of that cell then make of it. -/
theorem Displays.draw (hs : s.Fits) (h : s.canvas.Holds x y)
    (hdisplays : Displays background plots s x y) (p : Plot) :
    Displays background (plots ++ [p]) (s.draw p).2 x y := by
  obtain ⟨color, depth, hcolor, hdepth, hshows⟩ := hdisplays
  unfold Displays
  rw [List.filter_append, List.filter_singleton]
  by_cases hat : p.At x y
  · obtain ⟨rfl, rfl⟩ := hat
    rw [decide_eq_true ⟨rfl, rfl⟩]
    obtain ⟨hoff, _⟩ | ⟨held, hheld, _, hdraw⟩ := draw_cases hs p
    · exact absurd h hoff
    · obtain rfl : depth = held := Option.some.inj (hdepth.symm.trans hheld)
      rcases hdraw with ⟨hbehind, hdraw⟩ | ⟨hbehind, hdraw⟩
      · rw [hdraw]
        exact ⟨color, depth, hcolor, hdepth, hshows.behind hbehind⟩
      · rw [hdraw, color?_written hs h h, depth?_written hs h h, if_pos ⟨rfl, rfl⟩,
          if_pos ⟨rfl, rfl⟩]
        exact ⟨p.color, p.depth, rfl, rfl, hshows.drawn hbehind⟩
  · have hother : ¬(x = p.x ∧ y = p.y) := fun ⟨hx, hy⟩ => hat ⟨hx.symm, hy.symm⟩
    obtain ⟨hcolor', hdepth'⟩ := draw_of_ne hs hother
    rw [hcolor', hdepth', decide_eq_false hat, cond_false, List.append_nil]
    exact ⟨color, depth, hcolor, hdepth, hshows⟩

/-- After plots of a blank surface each cell of the canvas shows what the plots of that cell make of
it. -/
theorem displays_after (canvas : Canvas) (background : Rgb) (plots : List Plot)
    (h : canvas.Holds x y) :
    Displays background plots ((blank canvas background).after (plots.map .plot)) x y := by
  induction plots using List.reverseRecOn with
  | nil =>
      obtain ⟨hcolor, hdepth⟩ := blank_of_holds background h
      exact ⟨background, farthest, hcolor, hdepth, .blank rfl⟩
  | append_singleton plots p ih =>
      have hs := (over_blank canvas background).after (plots.map .plot)
      rw [after_concat]
      refine ih.draw hs.toFits ?_ p
      rw [hs.canvas]
      exact h

/-- **The depth buffer.**  After any plots on a blank surface a cell of the canvas shows what the
plots of that cell make of it and nothing else.  A plot is drawn if and only if its cell is on the
canvas and it is not behind what the cell shows; a plot that is not drawn leaves the surface as it
is. -/
theorem plots_show_nearest (canvas : Canvas) (background : Rgb) (plots : List Plot) :
    let s := (blank canvas background).after (plots.map .plot)
    (∀ x y, canvas.Holds x y → ∀ color depth,
      (s.color? x y = some color ∧ s.depth? x y = some depth ↔
        Shows background (plots.filter fun p => p.At x y) color depth)) ∧
    ∀ p : Plot,
      ((s.draw p).1 = true ↔ canvas.Holds p.x p.y ∧
        ∃ held, s.depth? p.x p.y = some held ∧ ¬p.depth < held) ∧
      ((s.draw p).1 = false → (s.draw p).2 = s) := by
  intro s
  have hs : Over canvas background s := (over_blank canvas background).after _
  constructor
  · intro x y h color depth
    obtain ⟨color', depth', hcolor, hdepth, hshows⟩ := displays_after canvas background plots h
    constructor
    · rintro ⟨hc, hd⟩
      obtain rfl := Option.some.inj (hcolor.symm.trans hc)
      obtain rfl := Option.some.inj (hdepth.symm.trans hd)
      exact hshows
    · intro h'
      obtain ⟨rfl, rfl⟩ := hshows.unique h'
      exact ⟨hcolor, hdepth⟩
  · intro p
    rw [← hs.canvas]
    obtain ⟨hoff, hdraw⟩ | ⟨held, hheld, hon, ⟨hbehind, hdraw⟩ | ⟨hbehind, hdraw⟩⟩ :=
      draw_cases hs.toFits p
    · rw [hdraw]
      exact ⟨iff_of_false Bool.false_ne_true fun h => hoff h.1, fun _ => rfl⟩
    · rw [hdraw, hheld]
      refine ⟨iff_of_false Bool.false_ne_true ?_, fun _ => rfl⟩
      rintro ⟨_, _, ⟨⟩, hfront⟩
      exact hfront hbehind
    · rw [hdraw, hheld]
      exact ⟨iff_of_true rfl ⟨hon, held, rfl, hbehind⟩, fun h => Bool.noConfusion h⟩

/-- Plots of two cells: one without a depth, then two at one depth and a farther one. -/
def overlaid : List Plot :=
  [⟨0, 0, 5, .black⟩, ⟨0, 0, 0 / 0, .black⟩, ⟨0, 0, 2, ⟨1, 1, 1⟩⟩, ⟨1, 0, 9, ⟨9, 9, 9⟩⟩,
    ⟨0, 0, 2, ⟨2, 2, 2⟩⟩, ⟨0, 0, 1, ⟨3, 3, 3⟩⟩, ⟨7, 0, 9, .black⟩]

theorem overlaid_shown :
    let s := (blank ⟨2, 1⟩ .black).after (overlaid.map .plot)
    s.color? 0 0 = some ⟨2, 2, 2⟩ ∧ s.depth? 0 0 = some 2 ∧
      ((s.draw ⟨0, 0, 1, .black⟩).1 = false ∧ (s.draw ⟨0, 0, 1, .black⟩).2 = s) := by
  intro s
  obtain ⟨hcells, hdraws⟩ := plots_show_nearest ⟨2, 1⟩ .black overlaid
  have hsplit : recent (overlaid.filter fun p => p.At 0 0) =
      [⟨0, 0, 2, ⟨1, 1, 1⟩⟩] ++ ⟨0, 0, 2, ⟨2, 2, 2⟩⟩ :: [⟨0, 0, 1, ⟨3, 3, 3⟩⟩] := by
    rfl
  have hshows : Shows .black (overlaid.filter fun p => p.At 0 0) ⟨2, 2, 2⟩ 2 := by
    refine .nearest hsplit ?_ ?_
    · rw [hsplit]
      decide
    · decide
  obtain ⟨hcolor, hdepth⟩ := (hcells 0 0 (by decide) ⟨2, 2, 2⟩ 2).mpr hshows
  have hbehind : (s.draw ⟨0, 0, 1, .black⟩).1 = false := by
    rw [← Bool.not_eq_true, (hdraws _).1]
    rintro ⟨_, held, hheld, hfront⟩
    rw [hdepth] at hheld
    obtain rfl := Option.some.inj hheld
    exact hfront (by decide)
  exact ⟨hcolor, hdepth, hbehind, (hdraws _).2 hbehind⟩

end Surface
end SceneScript
