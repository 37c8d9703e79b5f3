import Mathlib.Data.List.Basic
import SceneScript.Output.Plan

/-! # Patterns and the frames they stand for

The program that joins the frames of an animation is not told their names.  It is given a pattern,
in which `%03d` stands for the number of a frame and `%%` for one `%`.  `Pattern.Piece` is a part of
such a pattern, `Pattern.text` spells a pattern out and `Pattern.fill` puts a number into it.
`Pattern.Expands` is what is documented of the program: a pattern with one number is filled, and a
pattern with none or with several is refused.  Of a `%` with anything else behind it nothing is
said.  `Pattern.expand` is such a program (`Pattern.expands_expand`).

The pattern of an animation stands for the names of its frames if there is no `%` in what surrounds
the number (`OutputPlan.pattern_names_frames`).  If there is one it never does, because nothing
doubles it: `50%` as a base name turns the conversion of the number into text
(`OutputPlan.percent_hides_number`). -/

namespace SceneScript

/-! ### Patterns -/

namespace Pattern

/-- A part of a pattern. -/
inductive Piece where
  /-- A character that stands for itself. -/
  | plain (c : Char) (h : c ≠ '%')
  /-- A doubled `%`, which stands for one. -/
  | percent
  /-- A conversion, which stands for the number; it may have a width, to be filled up with zeros. -/
  | number (width : Option Nat)

namespace Piece

/-- A piece as it is written. -/
def chars : Piece → List Char
  | plain c _ => [c]
  | percent => ['%', '%']
  | number none => ['%', 'd']
  | number (some width) => '%' :: '0' :: (Nat.toDigits 10 width ++ ['d'])

/-- What a piece stands for. -/
def filled (n : Nat) : Piece → List Char
  | plain c _ => [c]
  | percent => ['%']
  | number none => (Decimal.padded 0 n).toList
  | number (some width) => (Decimal.padded width n).toList

/-- The piece stands for a `%`. -/
def isPercent : Piece → Bool
  | percent => true
  | _ => false

/-- The piece stands for the number. -/
def isNumber : Piece → Bool
  | number _ => true
  | _ => false

end Piece

/-- A pattern as it is written. -/
def text (ps : List Piece) : String := String.ofList (ps.flatMap Piece.chars)

/-- A pattern with a number in it. -/
def fill (ps : List Piece) (n : Nat) : String := String.ofList (ps.flatMap (Piece.filled n))

/-- The documented expansion of patterns: those with one number are filled, and those with another
number of numbers are refused. -/
structure Expands (expand : String → Nat → Option String) : Prop where
  filled : ∀ ps n, ps.countP Piece.isNumber = 1 → expand (text ps) n = some (fill ps n)
  refused : ∀ ps n, ps.countP Piece.isNumber ≠ 1 → expand (text ps) n = none

/-! ### Digits -/

theorem toList_padded (width n : Nat) :
    (Decimal.padded width n).toList =
      List.replicate (width - (Nat.repr n).length) '0' ++ Nat.toDigits 10 n := by
  rw [Decimal.padded, String.toList_append, String.toList_ofList, Nat.toList_repr]

theorem isDigit_of_mem_padded {width n : Nat} {c : Char}
    (h : c ∈ (Decimal.padded width n).toList) : c.isDigit = true := by
  rw [toList_padded, List.mem_append] at h
  rcases h with h | h
  · rw [List.eq_of_mem_replicate h]
    decide
  · exact Nat.isDigit_of_mem_toDigits (by decide) (by decide) h

theorem count_percent_of_digits {cs : List Char} (h : ∀ c ∈ cs, c.isDigit = true) :
    cs.count '%' = 0 := by
  refine List.count_eq_zero_of_not_mem fun hmem => ?_
  have := h '%' hmem
  revert this
  decide

theorem count_padded (width n : Nat) : (Decimal.padded width n).toList.count '%' = 0 :=
  count_percent_of_digits fun _ => isDigit_of_mem_padded

/-! ### Counting -/

theorem Piece.count_chars (p : Piece) :
    p.chars.count '%' = 2 * (if p.isPercent then 1 else 0) + if p.isNumber then 1 else 0 := by
  cases p with
  | plain c h => exact List.count_singleton.trans (if_neg (by simpa using h))
  | percent => rfl
  | number width =>
      cases width with
      | none => rfl
      | some width =>
          have hdigits : (Nat.toDigits 10 width).count '%' = 0 :=
            count_percent_of_digits fun _ => Nat.isDigit_of_mem_toDigits (by decide) (by decide)
          rw [chars, List.count_cons_self, List.count_cons_of_ne (by decide), List.count_append,
            hdigits]
          rfl

theorem Piece.count_filled (p : Piece) (n : Nat) :
    (p.filled n).count '%' = if p.isPercent then 1 else 0 := by
  cases p with
  | plain c h => exact List.count_singleton.trans (if_neg (by simpa using h))
  | percent => rfl
  | number width => cases width <;> exact count_padded _ n

theorem count_chars (ps : List Piece) :
    (ps.flatMap Piece.chars).count '%' =
      2 * ps.countP Piece.isPercent + ps.countP Piece.isNumber := by
  induction ps with
  | nil => rfl
  | cons p ps ih =>
      rw [List.flatMap_cons, List.count_append, ih, p.count_chars, List.countP_cons,
        List.countP_cons]
      omega

theorem count_filled (ps : List Piece) (n : Nat) :
    (ps.flatMap (Piece.filled n)).count '%' = ps.countP Piece.isPercent := by
  induction ps with
  | nil => rfl
  | cons p ps ih =>
      rw [List.flatMap_cons, List.count_append, ih, p.count_filled, List.countP_cons]
      omega

/-! ### Text without a conversion -/

/-- Text in which every character stands for itself. -/
def plainly (cs : List Char) (h : ∀ c ∈ cs, c ≠ '%') : List Piece := cs.pmap Piece.plain h

theorem flatMap_plainly {f : Piece → List Char} (hf : ∀ c h, f (.plain c h) = [c])
    (cs : List Char) (h : ∀ c ∈ cs, c ≠ '%') : (plainly cs h).flatMap f = cs := by
  induction cs with
  | nil => rfl
  | cons c cs ih =>
      rw [plainly, List.pmap, List.flatMap_cons, hf]
      exact congrArg (c :: ·) (ih fun d hd => h d (List.mem_cons_of_mem c hd))

theorem countP_isNumber_plainly (cs : List Char) (h : ∀ c ∈ cs, c ≠ '%') :
    (plainly cs h).countP Piece.isNumber = 0 := by
  rw [List.countP_eq_zero]
  intro p hp
  obtain ⟨c, hc, rfl⟩ := List.mem_pmap.mp hp
  exact Bool.false_ne_true

/-! ### A program that expands patterns -/

/-- The piece that a conversion comes to: a `%`, digits, and the character behind them. -/
def conversion? : List Char → Char → Option Piece
  | [], '%' => some .percent
  | [], 'd' => some (.number none)
  | '0' :: digits, 'd' => some (.number (some (Nat.ofDigitChars 10 digits 0)))
  | _, _ => none

/-- Read a pattern.  Behind a `%` the digits read so far are kept. -/
def read : Option (List Char) → List Char → Option (List Piece)
  | none, [] => some []
  | some _, [] => none
  | none, c :: cs =>
    if h : c = '%' then read (some []) cs else (read none cs).map (.plain c h :: ·)
  | some digits, c :: cs =>
    if c.isDigit then read (some (digits ++ [c])) cs
    else (conversion? digits c).bind fun p => (read none cs).map (p :: ·)

/-- Read a pattern, and put a number into it if it has one place for it. -/
def expand (pattern : String) (n : Nat) : Option String :=
  (read none pattern.toList).bind fun ps =>
    if ps.countP Piece.isNumber = 1 then some (fill ps n) else none

theorem read_digits {more : List Char} (hmore : ∀ c ∈ more, c.isDigit = true)
    (digits cs : List Char) :
    read (some digits) (more ++ cs) = read (some (digits ++ more)) cs := by
  induction more generalizing digits with
  | nil => rw [List.nil_append, List.append_nil]
  | cons c more ih =>
      obtain ⟨hc, hmore⟩ := List.forall_mem_cons.mp hmore
      rw [List.cons_append, read, if_pos hc, ih hmore, List.append_assoc]
      rfl

theorem read_chars (p : Piece) (cs : List Char) :
    read none (p.chars ++ cs) = (read none cs).map (p :: ·) := by
  cases p with
  | plain c h => exact dif_neg h
  | percent => rfl
  | number width =>
      cases width with
      | none => rfl
      | some width =>
          have hdigits : ∀ c ∈ '0' :: Nat.toDigits 10 width, c.isDigit = true := by
            intro c hc
            rcases List.mem_cons.mp hc with rfl | hc
            · rfl
            · exact Nat.isDigit_of_mem_toDigits (by decide) (by decide) hc
          have hwidth : Nat.ofDigitChars 10 (Nat.toDigits 10 width) 0 = width :=
            Nat.ofDigitChars_toDigits (by decide) (by decide)
          have hread := read_digits hdigits [] ('d' :: cs)
          have hchars : (Piece.number (some width)).chars ++ cs =
              '%' :: ('0' :: Nat.toDigits 10 width ++ 'd' :: cs) := by
            simp [Piece.chars]
          rw [hchars, read, dif_pos rfl, hread, read, if_neg (by decide), List.nil_append,
            conversion?, hwidth]
          rfl

theorem read_flatMap_chars (ps : List Piece) : read none (ps.flatMap Piece.chars) = some ps := by
  induction ps with
  | nil => rfl
  | cons p ps ih => rw [List.flatMap_cons, read_chars, ih, Option.map_some]

theorem expands_expand : Expands expand where
  filled ps n h := by
    rw [expand, text, String.toList_ofList, read_flatMap_chars, Option.bind_some, if_pos h]
  refused ps n h := by
    rw [expand, text, String.toList_ofList, read_flatMap_chars, Option.bind_some, if_neg h]

end Pattern

/-! ### Paths of frames -/

namespace Path

theorem absolute_append {s t : String} (h : t.toList.head? ≠ some '/') :
    (⟨s ++ t⟩ : Path).absolute = (⟨s⟩ : Path).absolute := by
  rw [absolute, absolute, String.toList_append]
  cases s.toList with
  | nil => exact (beq_eq_false_iff_ne.mpr h).trans rfl
  | cons c cs => rfl

/-- What is added to a path inside a directory is added to the path that comes out. -/
theorem text_join_append (dir : Path) {s t : String} (h : t.toList.head? ≠ some '/') :
    (dir.join ⟨s ++ t⟩).text = (dir.join ⟨s⟩).text ++ t := by
  rw [join, join, absolute_append h]
  split
  · rfl
  · split <;> exact (String.append_assoc ..).symm

end Path

namespace OutputPlan

open SceneScript.Pattern

variable (p : OutputPlan) (basename : String)

/-- What stands in front of the number in the paths of frames. -/
def front : String := (p.animDir.join ⟨basename⟩).text

/-- What surrounds the number in the paths of frames: the directory, unless the base name is an
absolute path, the base name and the extension. -/
def surroundings : String := p.front basename ++ p.frameExt

theorem text_pattern : (p.pattern basename).text = p.front basename ++ ("%03d." ++ p.frameExt) := by
  have hhead : ("%03d." ++ p.frameExt).toList.head? ≠ some '/' := by
    rw [String.toList_append]
    exact fun h => absurd (Option.some.inj h) (by decide)
  rw [pattern, String.append_assoc, Path.text_join_append _ hhead, front]

theorem text_framePath (number : Nat) :
    (p.framePath basename number).text =
      p.front basename ++ (Decimal.padded 3 number ++ ("." ++ p.frameExt)) := by
  have hhead : (Decimal.padded 3 number ++ ("." ++ p.frameExt)).toList.head? ≠ some '/' := by
    rw [String.toList_append]
    cases hdigits : (Decimal.padded 3 number).toList with
    | nil =>
        rw [List.nil_append, String.toList_append]
        exact fun h => absurd (Option.some.inj h) (by decide)
    | cons c cs =>
        have hc := isDigit_of_mem_padded (hdigits ▸ List.mem_cons_self)
        rintro ⟨⟩
        exact absurd hc (by decide)
  rw [framePath, numberedName, String.append_assoc, String.append_assoc,
    Path.text_join_append _ hhead, front]

/-- A pattern without a `%` around its number stands for the paths of the frames. -/
theorem expand_pattern {expand : String → Nat → Option String} (hexpand : Expands expand)
    (h : '%' ∉ (p.surroundings basename).toList) (number : Nat) :
    expand (p.pattern basename).text number = some (p.framePath basename number).text := by
  rw [surroundings, String.toList_append, List.mem_append, not_or] at h
  have hfront : ∀ c ∈ (p.front basename).toList, c ≠ '%' := fun c hc heq => h.1 (heq ▸ hc)
  have hback : ∀ c ∈ '.' :: p.frameExt.toList, c ≠ '%' :=
    List.forall_mem_cons.mpr ⟨by decide, fun c hc heq => h.2 (heq ▸ hc)⟩
  let ps := plainly _ hfront ++ .number (some 3) :: plainly _ hback
  have hone : ps.countP Piece.isNumber = 1 := by
    rw [List.countP_append, List.countP_cons, countP_isNumber_plainly, countP_isNumber_plainly]
    rfl
  have htext : text ps = (p.pattern basename).text := by
    rw [text, List.flatMap_append, List.flatMap_cons, flatMap_plainly (fun _ _ => rfl),
      flatMap_plainly (fun _ _ => rfl), text_pattern, ← String.toList_inj, String.toList_ofList,
      String.toList_append, String.toList_append]
    rfl
  have hfill : fill ps number = (p.framePath basename number).text := by
    rw [fill, List.flatMap_append, List.flatMap_cons, flatMap_plainly (fun _ _ => rfl),
      flatMap_plainly (fun _ _ => rfl), text_framePath, ← String.toList_inj, String.toList_ofList,
      String.toList_append, String.toList_append, String.toList_append]
    rfl
  rw [← htext, ← hfill]
  exact hexpand.filled ps number hone

/-- A pattern with a `%` around its number stands for the path of no frame.  In the pattern each of
these `%` would have to be doubled. -/
theorem expand_pattern_ne {expand : String → Nat → Option String} (hexpand : Expands expand)
    (h : '%' ∈ (p.surroundings basename).toList) {ps : List Piece}
    (hps : text ps = (p.pattern basename).text) (number : Nat) :
    expand (p.pattern basename).text number ≠ some (p.framePath basename number).text := by
  rw [← hps]
  by_cases hone : ps.countP Piece.isNumber = 1
  · rw [hexpand.filled ps number hone]
    intro hfill
    have hfill := congrArg (List.count '%' ∘ String.toList) (Option.some.inj hfill)
    have hpattern := congrArg (List.count '%' ∘ String.toList) hps
    have hpositive := List.count_pos_iff.mpr h
    simp only [Function.comp_apply, text, fill, String.toList_ofList, count_chars, count_filled,
      hone, text_pattern, text_framePath, surroundings, String.toList_append, List.count_append,
      count_padded] at hfill hpattern hpositive
    have hconversion : "%03d.".toList.count '%' = 1 := rfl
    have hpoint : ".".toList.count '%' = 0 := rfl
    omega
  · rw [hexpand.refused ps number hone]
    exact (Option.some_ne_none _).symm

/-- **The pattern of an animation stands for the names of its frames** if there is no `%` in the
directory, the base name and the extension: with any number in it, it is the name that the sink
gives the frame with that number.  If there is a `%`, it stands for the name of no frame, as far as
the expansion of patterns is documented. -/
theorem pattern_names_frames {expand : String → Nat → Option String} (hexpand : Expands expand)
    (p : OutputPlan) (assembler : Assembler) (w : Workspace) (basename : String) (number : Nat) :
    ('%' ∉ (p.surroundings basename).toList →
      expand (p.assembly basename).pattern.text number =
        some ((p.sink assembler).nameFrame w basename number)) ∧
    ('%' ∈ (p.surroundings basename).toList →
      ∀ ps, text ps = (p.assembly basename).pattern.text →
        expand (p.assembly basename).pattern.text number ≠
          some ((p.sink assembler).nameFrame w basename number)) :=
  ⟨fun h => p.expand_pattern basename hexpand h number,
    fun h _ hps => p.expand_pattern_ne basename hexpand h hps number⟩

/-- A program that joins nothing and reports a success. -/
def idleAssembler : Assembler := ⟨true, fun _ disk => (.success, disk)⟩

theorem spin_names_frames :
    Expands expand ∧ '%' ∉ (standard.surroundings "spin").toList ∧
      expand (standard.assembly "spin").pattern.text 4 =
        some ((standard.sink idleAssembler).nameFrame ⟨.empty, []⟩ "spin" 4) ∧
      (standard.sink idleAssembler).nameFrame ⟨.empty, []⟩ "spin" 4 = "anim/spin004.png" :=
  have hplain : '%' ∉ (standard.surroundings "spin").toList := by decide
  ⟨expands_expand, hplain,
    (pattern_names_frames expands_expand standard idleAssembler ⟨.empty, []⟩ "spin" 4).1 hplain,
    by decide⟩

/-- With `50%` as a base name the pattern has no place for a number, and the frames have names. -/
theorem percent_hides_number :
    standard.validate = .ok () ∧ Expands expand ∧
      (standard.assembly "50%").pattern.text = "anim/50%%03d.png" ∧
      expand (standard.assembly "50%").pattern.text 0 = none ∧
      (standard.sink idleAssembler).nameFrame ⟨.empty, []⟩ "50%" 0 = "anim/50%000.png" :=
  ⟨rfl, expands_expand, by decide, rfl, by decide⟩

end OutputPlan

end SceneScript
