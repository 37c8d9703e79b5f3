import Mathlib.Algebra.Order.Field.Basic
import Mathlib.Algebra.Order.Field.Rat
import Mathlib.Order.Interval.Set.UnorderedInterval
import Mathlib.Tactic.FieldSimp
import Mathlib.Tactic.Linarith
import Mathlib.Tactic.Ring
import SceneScript.Proofs.KnobMeaning

/-! # Ramps over exact scalars

A `vary` writes the values of its ramp into a knob table: `Ramp.entry?` is what it writes on a
frame, over floats (`KnobTable.value?_record_eq_entry?`) and over any other scalars.  The last frame
has a branch of its own there.  Over rationals that branch makes no difference: on all frames of the
ramp its value lies on one line (`Ramp.value_eq_line`), so the entries are an `ExactRamp`, with
equal steps up to the last (`Ramp.entries_are_exact`). -/

namespace SceneScript

/-- What a ramp writes on a frame, if it is one of its own. -/
def Ramp.entry? {α : Type} [Add α] [Sub α] [Mul α] [Div α] [IntCast α] (r : Ramp α)
    (frame : Nat) : Option α :=
  if r.firstFrame ≤ Int64.ofNat frame ∧ Int64.ofNat frame ≤ r.lastFrame then
    some (r.value (Int64.ofNat frame))
  else none

/-- Recording a `vary` writes the entries of its ramp. -/
theorem KnobTable.value?_record_eq_entry? (t : KnobTable) (v : Vary) {frame : Nat}
    (h : frame < t.size) :
    (t.record v).value? frame v.knob = (v.entry? frame).or (t.value? frame v.knob) := by
  have hrow : frame < t.rows.length := h
  unfold value? row? record Ramp.entry?
  rw [List.getElem?_mapIdx, List.getElem?_eq_getElem hrow]
  simp only [Option.map_some, Option.bind_some]
  split
  · rw [NameMap.get?_insert, if_pos rfl]
    rfl
  · rfl

/-- Between two frames a quantity goes from one value to another in equal steps. -/
structure ExactRamp (x : ℕ → ℚ) (first last : ℕ) (a b : ℚ) : Prop where
  starts : x first = a
  ends : x last = b
  steps : ∃ d, ∀ n, first ≤ n → n < last → x (n + 1) - x n = d
  rising : a < b → StrictMonoOn x (Set.Icc first last)
  falling : b < a → StrictAntiOn x (Set.Icc first last)
  resting : a = b → ∀ n ∈ Set.Icc first last, x n = a
  between : ∀ n ∈ Set.Icc first last, x n ∈ Set.uIcc a b

section Line

variable {x : ℕ → ℚ} {first last : ℕ} {a b : ℚ}

/-- Points on a line are an exact ramp. -/
theorem ExactRamp.of_line (hlt : first < last)
    (hx : ∀ n ∈ Set.Icc first last, x n = a + (n - first) * ((b - a) / (last - first))) :
    ExactRamp x first last a b := by
  have hspan : (0 : ℚ) < last - first := sub_pos.mpr (by exact_mod_cast hlt)
  have hfirst : first ∈ Set.Icc first last := ⟨le_refl _, hlt.le⟩
  have hlast : last ∈ Set.Icc first last := ⟨hlt.le, le_refl _⟩
  have hstarts : x first = a := by
    rw [hx first hfirst]
    ring
  have hends : x last = b := by
    rw [hx last hlast]
    field_simp
    ring
  have hrising : a < b → StrictMonoOn x (Set.Icc first last) := by
    intro h m hm n hn hmn
    have hslope : 0 < (b - a) / (last - first) := div_pos (sub_pos.mpr h) hspan
    have hcast : (m : ℚ) < n := by exact_mod_cast hmn
    rw [hx m hm, hx n hn]
    nlinarith
  have hfalling : b < a → StrictAntiOn x (Set.Icc first last) := by
    intro h m hm n hn hmn
    have hslope : (b - a) / (last - first) < 0 := div_neg_of_neg_of_pos (sub_neg.mpr h) hspan
    have hcast : (m : ℚ) < n := by exact_mod_cast hmn
    rw [hx m hm, hx n hn]
    nlinarith
  have hresting : a = b → ∀ n ∈ Set.Icc first last, x n = a := by
    intro h n hn
    rw [hx n hn, h, sub_self, zero_div, mul_zero, add_zero]
  refine ⟨hstarts, hends, ⟨(b - a) / (last - first), fun n hn hn' => ?_⟩, hrising, hfalling,
    hresting, fun n hn => ?_⟩
  · rw [hx (n + 1) ⟨by omega, hn'⟩, hx n ⟨hn, hn'.le⟩]
    push_cast
    ring
  · rw [Set.mem_uIcc]
    rcases lt_trichotomy a b with h | h | h
    · have hmono := (hrising h).monotoneOn
      left
      rw [← hstarts, ← hends]
      exact ⟨hmono hfirst hn hn.1, hmono hn hlast hn.2⟩
    · left
      rw [hresting h n hn]
      exact ⟨le_refl a, h.le⟩
    · have hanti := (hfalling h).antitoneOn
      right
      rw [← hstarts, ← hends]
      exact ⟨hanti hn hlast hn.2, hanti hfirst hn hn.1⟩

end Line

namespace Ramp

variable {r : Ramp ℚ} {frameCount : UInt32} {first last : ℕ}

/-- The frames from the first to the last of a ramp are its own. -/
theorem entry?_eq (hfirst : r.firstFrame.toInt = first) (hlast : r.lastFrame.toInt = last)
    {frame : ℕ} (h : frame < frameCount.toNat) :
    r.entry? frame =
      if first ≤ frame ∧ frame ≤ last then some (r.value (Int64.ofNat frame)) else none := by
  have hn := toInt_ofNat_of_lt_frameCount h
  unfold entry?
  simp only [Int64.le_iff_toInt_le, hn, hfirst, hlast, Nat.cast_le]

/-- On the last frame of a ramp as on the others the value lies on the line through its ends. -/
theorem value_eq_line (hfirst : r.firstFrame.toInt = first) (hlast : r.lastFrame.toInt = last)
    (hlt : first < last) (hbound : last < frameCount.toNat) {n : ℕ}
    (h : n ∈ Set.Icc first last) :
    r.value (Int64.ofNat n) =
      r.firstValue + (n - first) * ((r.lastValue - r.firstValue) / (last - first)) := by
  have hn := toInt_ofNat_of_lt_frameCount (lt_of_le_of_lt h.2 hbound)
  have hspan := toInt_sub_of_nonneg (a := r.lastFrame) (b := r.firstFrame) (by omega) (by omega)
  have hpassed := toInt_sub_of_nonneg (a := Int64.ofNat n) (b := r.firstFrame) (by omega) (by omega)
  have hne : (last : ℚ) - first ≠ 0 := (sub_pos.mpr (by exact_mod_cast hlt)).ne'
  unfold value
  simp only [← Int64.toInt_inj, hspan, hpassed, hn, hfirst, hlast, Nat.cast_inj, Int.cast_sub,
    Int.cast_natCast]
  split
  · next hend =>
      rw [hend]
      field_simp
      ring
  · rfl

/-- **The entries of a ramp are exact.**  Recording a `vary` writes the entries of its ramp.  Read
over rationals, the entries of a ramp between two different frames of an animation start with its
first value and end with its last one, and go from the one to the other in equal steps. -/
theorem entries_are_exact :
    (∀ (t : KnobTable) (v : Vary), ∀ frame < t.size,
      (t.record v).value? frame v.knob = (v.entry? frame).or (t.value? frame v.knob)) ∧
    ∀ (r : Ramp ℚ) (frameCount : UInt32) (first last : ℕ), r.firstFrame.toInt = first →
      r.lastFrame.toInt = last → first < last → last < frameCount.toNat →
        ∃ x : ℕ → ℚ,
          (∀ frame < frameCount.toNat, r.entry? frame =
            if first ≤ frame ∧ frame ≤ last then some (x frame) else none) ∧
          ExactRamp x first last r.firstValue r.lastValue := by
  constructor
  · intro t v frame h
    exact t.value?_record_eq_entry? v h
  · intro r frameCount first last hfirst hlast hlt hbound
    refine ⟨fun n => r.value (Int64.ofNat n), fun frame h => entry?_eq hfirst hlast h, ?_⟩
    apply ExactRamp.of_line hlt
    intro n h
    exact value_eq_line hfirst hlast hlt hbound h

/-- A knob that falls from 10 to 1 on the frames 1 to 4. -/
def dimmed : Vary := ⟨⟨1, 4, 10, 1⟩, "glow"⟩

theorem dimmed_is_exact :
    ((KnobTable.blank 6).record dimmed).value? 4 "glow" = some 1 ∧
      ∃ x : ℕ → ℚ,
        (∀ frame < 6, entry? ⟨1, 4, 10, 1⟩ frame =
          if 1 ≤ frame ∧ frame ≤ 4 then some (x frame) else none) ∧
        ExactRamp x 1 4 10 1 := by
  obtain ⟨hwritten, hexact⟩ := entries_are_exact
  constructor
  · exact (hwritten (.blank 6) dimmed 4 (by decide)).trans rfl
  · exact hexact ⟨1, 4, 10, 1⟩ 6 1 4 rfl rfl (by decide) (by decide)

end Ramp

end SceneScript
