import Mathlib.Data.List.Basic
import SceneScript.Animation

/-! # The meaning of a knob table

`KnobTable.ofDirectives` records one `vary` after the other.  What a cell of the table holds in the
end is said by `lastVary?`: the last `vary` in source order that names the knob and covers the frame
decides, and its value there is `Vary.valueOn`, a formula in whole numbers that cannot overflow
(`value?_foldl_record`).

`KnobTable.recordAll?` writes a table cell by cell: it counts through the frames of every `vary`,
takes differences of sixty-four bits, and reaches rows by number.  It has no answer where a
difference overflows, a row is not there, or the slope of a ramp is used that does not ascend in
time.  `recordAll?_eq` shows that it always has one, and that it is that of `ofDirectives`. -/

namespace SceneScript

/-! ### Which `vary` decides a cell -/

/-- The `vary` that a directive is. -/
def Directive.vary? : Directive → Option Vary
  | .vary v => some v
  | _ => none

/-- The `vary` is about a knob, and a frame is one of its own. -/
def Vary.covers (v : Vary) (knob : String) (frame : Nat) : Bool :=
  v.knob = knob ∧ v.firstFrame.toInt ≤ frame ∧ frame ≤ v.lastFrame.toInt

/-- The value of a `vary` on one of its frames: the last value on the last frame, and before that
the first value and as many steps as frames have passed, a step being the difference of the values
divided by the number of steps. -/
def Vary.valueOn (v : Vary) (frame : Nat) : Float :=
  if (frame : Int) = v.lastFrame.toInt then v.lastValue
  else
    v.firstValue + Float.ofInt (frame - v.firstFrame.toInt) *
      ((v.lastValue - v.firstValue) / Float.ofInt (v.lastFrame.toInt - v.firstFrame.toInt))

/-- The last `vary` of a list that covers a frame for a knob. -/
def lastCovering? (varies : List Vary) (knob : String) (frame : Nat) : Option Vary :=
  (varies.filter fun v => v.covers knob frame).getLast?

/-- The last `vary` in source order that covers a frame for a knob. -/
def lastVary? (directives : List Directive) (knob : String) (frame : Nat) : Option Vary :=
  lastCovering? (directives.filterMap Directive.vary?) knob frame

theorem Vary.covers_iff {v : Vary} {knob : String} {frame : Nat} :
    v.covers knob frame ↔
      v.knob = knob ∧ v.firstFrame.toInt ≤ frame ∧ frame ≤ v.lastFrame.toInt := by
  simp [Vary.covers]

theorem lastCovering?_cons (v : Vary) (varies : List Vary) (knob : String) (frame : Nat) :
    lastCovering? (v :: varies) knob frame =
      (lastCovering? varies knob frame).or (if v.covers knob frame then some v else none) := by
  unfold lastCovering?
  rw [List.filter_cons]
  split
  · rw [List.getLast?_cons]
    cases (varies.filter fun v => v.covers knob frame).getLast? <;> rfl
  · rw [Option.or_none]

theorem isSome_lastVary?_iff {directives : List Directive} {knob : String} {frame : Nat} :
    (lastVary? directives knob frame).isSome ↔
      ∃ v, Directive.vary v ∈ directives ∧ v.covers knob frame := by
  have hmem : ∀ v, v ∈ directives.filterMap Directive.vary? ↔ Directive.vary v ∈ directives := by
    intro v
    rw [List.mem_filterMap]
    constructor
    · rintro ⟨d, hd, h⟩
      cases d <;> cases h
      exact hd
    · intro h
      exact ⟨_, h, rfl⟩
  unfold lastVary? lastCovering?
  rw [List.getLast?_isSome]
  constructor
  · intro h
    obtain ⟨v, hv⟩ := List.exists_mem_of_ne_nil _ h
    exact ⟨v, (hmem v).mp (List.mem_filter.mp hv).1, (List.mem_filter.mp hv).2⟩
  · rintro ⟨v, hv, h⟩
    exact List.ne_nil_of_mem (List.mem_filter.mpr ⟨(hmem v).mpr hv, h⟩)

/-! ### Whole numbers in sixty-four bits -/

theorem toInt_sub_of_nonneg {a b : Int64} (ha : 0 ≤ a.toInt) (hb : 0 ≤ b.toInt) :
    (a - b).toInt = a.toInt - b.toInt := by
  have hla := a.toInt_lt
  have hlb := b.toInt_lt
  rw [Int64.toInt_sub]
  exact Int.bmod_eq_of_le_mul_two (by omega) (by omega)

/-- The `vary` begins and ends within the frames. -/
def Vary.Within (v : Vary) (frameCount : UInt32) : Prop :=
  Timeline.covers frameCount v.firstFrame ∧ Timeline.covers frameCount v.lastFrame

theorem Timeline.covers_iff {frameCount : UInt32} {frame : Int64} :
    Timeline.covers frameCount frame ↔
      0 ≤ frame.toInt ∧ frame.toInt < frameCount.toNat := by
  rw [Timeline.covers, Bool.and_eq_true, decide_eq_true_eq, decide_eq_true_eq, Timeline.lastFrame]
  omega

theorem Timeline.checkVary_eq_ok_iff {index : Nat} {v : Vary} {frameCount : UInt32} :
    Timeline.checkVary index v frameCount = .ok () ↔ v.Within frameCount := by
  unfold Timeline.checkVary Vary.Within
  rw [← Bool.and_eq_true]
  split <;> simp [*]

theorem toInt_ofNat_of_lt_frameCount {frameCount : UInt32} {frame : Nat}
    (h : frame < frameCount.toNat) : (Int64.ofNat frame).toInt = frame := by
  have hc := frameCount.toNat_lt
  exact Int64.toInt_ofNat_of_lt (by omega)

/-- In whole numbers the ramp of a `vary` is the formula. -/
theorem Vary.value_eq_valueOn {v : Vary} {frameCount : UInt32} (hv : v.Within frameCount)
    {frame : Nat} (hframe : frame < frameCount.toNat) :
    v.value (Int64.ofNat frame) = v.valueOn frame := by
  obtain ⟨hfirst, hlast⟩ := hv
  have hfirst := (Timeline.covers_iff.mp hfirst).1
  have hlast := (Timeline.covers_iff.mp hlast).1
  have hn := toInt_ofNat_of_lt_frameCount hframe
  have hspan := toInt_sub_of_nonneg hlast hfirst
  have hpassed := toInt_sub_of_nonneg (a := Int64.ofNat frame) (by omega) hfirst
  unfold Ramp.value Vary.valueOn
  simp only [← Int64.toInt_inj, hspan, hpassed, hn]
  rfl

namespace KnobTable

/-! ### What a cell holds -/

@[simp] theorem size_record (t : KnobTable) (v : Vary) : (t.record v).size = t.size :=
  List.length_mapIdx

theorem size_blank (frameCount : UInt32) : (blank frameCount).size = frameCount.toNat :=
  List.length_replicate

theorem value?_blank (frameCount : UInt32) (frame : Nat) (knob : String) :
    (blank frameCount).value? frame knob = none := by
  unfold value? row? blank
  rw [List.getElem?_replicate]
  split <;> rfl

/-- A `vary` decides the cells it covers and no others. -/
theorem value?_record {t : KnobTable} {v : Vary} {frameCount : UInt32} (hv : v.Within frameCount)
    (ht : t.size = frameCount.toNat) {frame : Nat} (hframe : frame < frameCount.toNat)
    (knob : String) :
    (t.record v).value? frame knob =
      if v.covers knob frame then some (v.valueOn frame) else t.value? frame knob := by
  have hrow : frame < t.rows.length := lt_of_lt_of_eq hframe ht.symm
  have hn := toInt_ofNat_of_lt_frameCount hframe
  unfold value? row? record
  rw [List.getElem?_mapIdx, List.getElem?_eq_getElem hrow]
  simp only [Option.map_some, Option.bind_some, Int64.le_iff_toInt_le, hn,
    v.value_eq_valueOn hv hframe, Vary.covers_iff]
  by_cases hrange : v.firstFrame.toInt ≤ frame ∧ frame ≤ v.lastFrame.toInt
  · rw [if_pos hrange, NameMap.get?_insert]
    by_cases hknob : knob = v.knob
    · rw [if_pos hknob, if_pos ⟨hknob.symm, hrange⟩]
    · rw [if_neg hknob, if_neg fun h => hknob h.1.symm]
  · rw [if_neg hrange, if_neg fun h => hrange h.2]

/-- After several `vary`s the last that covers a cell decides it. -/
theorem value?_foldl_record {frameCount : UInt32} {frame : Nat} (hframe : frame < frameCount.toNat)
    (knob : String) {varies : List Vary} (hv : ∀ v ∈ varies, v.Within frameCount) {t : KnobTable}
    (ht : t.size = frameCount.toNat) :
    (varies.foldl record t).value? frame knob =
      ((lastCovering? varies knob frame).map (·.valueOn frame)).or (t.value? frame knob) := by
  induction varies generalizing t with
  | nil => rfl
  | cons v varies ih =>
      have hhead := hv v List.mem_cons_self
      rw [List.foldl_cons, ih (fun w hw => hv w (List.mem_cons_of_mem v hw))
        ((size_record t v).trans ht), value?_record hhead ht hframe, lastCovering?_cons]
      cases lastCovering? varies knob frame with
      | some w => rfl
      | none =>
          simp only [Option.map_none, Option.none_or]
          split <;> rfl

theorem size_foldl_record (varies : List Vary) (t : KnobTable) :
    (varies.foldl record t).size = t.size := by
  induction varies generalizing t with
  | nil => rfl
  | cons v varies ih => rw [List.foldl_cons, ih, size_record]

/-- A range that ends before it begins writes nothing. -/
theorem record_of_inverted (t : KnobTable) {v : Vary} (h : v.lastFrame < v.firstFrame) :
    t.record v = t := by
  have hrange : ∀ frame : Int64, ¬(v.firstFrame ≤ frame ∧ frame ≤ v.lastFrame) := by
    intro frame hframe
    rw [Int64.le_iff_toInt_le, Int64.le_iff_toInt_le] at hframe
    rw [Int64.lt_iff_toInt_lt] at h
    omega
  unfold record
  simp only [hrange, if_false]
  rw [show (t.rows.mapIdx fun _ row => row) = t.rows from List.ext_getElem? (by simp)]

/-- A table is made by recording the `vary`s in source order, each of which has passed its check. -/
theorem foldl_record_of_foldlM {frameCount : UInt32} {directives : List Directive} {start : Nat}
    {t table : KnobTable}
    (h : (directives.zipIdx start).foldlM (fun t e => t.observe frameCount e.2 e.1) t =
      .ok table) :
    (∀ v ∈ directives.filterMap Directive.vary?, v.Within frameCount) ∧
      table = (directives.filterMap Directive.vary?).foldl record t := by
  induction directives generalizing start t with
  | nil => exact ⟨fun v hv => absurd hv List.not_mem_nil, (Except.ok.inj h).symm⟩
  | cons d directives ih =>
      rw [List.zipIdx_cons, List.foldlM_cons] at h
      cases d with
      | vary v =>
          cases hc : Timeline.checkVary start v frameCount with
          | error e =>
              rw [observe, hc] at h
              cases h
          | ok _ =>
              rw [observe, hc] at h
              obtain ⟨hvaries, htable⟩ := ih h
              have hv := Timeline.checkVary_eq_ok_iff.mp hc
              exact ⟨List.forall_mem_cons.mpr ⟨hv, hvaries⟩, htable⟩
      | _ => exact ih h

/-- The cells of a finished table. -/
theorem value?_ofDirectives {directives : List Directive} {frameCount : UInt32} {table : KnobTable}
    (h : ofDirectives directives frameCount = .ok table) {frame : Nat}
    (hframe : frame < frameCount.toNat) (knob : String) :
    table.value? frame knob = (lastVary? directives knob frame).map (·.valueOn frame) := by
  obtain ⟨hvaries, rfl⟩ := foldl_record_of_foldlM h
  rw [value?_foldl_record hframe knob hvaries (size_blank frameCount), value?_blank, Option.or_none]
  rfl

theorem size_ofDirectives {directives : List Directive} {frameCount : UInt32} {table : KnobTable}
    (h : ofDirectives directives frameCount = .ok table) : table.size = frameCount.toNat := by
  obtain ⟨_, rfl⟩ := foldl_record_of_foldlM h
  rw [size_foldl_record, size_blank]

end KnobTable

/-! ### Writing cell by cell -/

/-- The difference of two numbers, if sixty-four bits hold it. -/
def exactSub? (a b : Int64) : Option Int64 :=
  if (a - b).toInt = a.toInt - b.toInt then some (a - b) else none

/-- The frames of a ramp, from the first to the last. -/
def Ramp.frames {α : Type} (r : Ramp α) : List Int64 :=
  (List.range (r.lastFrame.toInt - r.firstFrame.toInt + 1).toNat).map fun i : Nat =>
    Int64.ofInt (r.firstFrame.toInt + i)

/-- The value of a `vary` on a frame, if the differences are exact and the slope, where it is used,
is that of a range of more than one frame. -/
def Vary.value? (v : Vary) (frame : Int64) : Option Float := do
  let span ← exactSub? v.lastFrame v.firstFrame
  if frame = v.lastFrame then return v.lastValue
  let passed ← exactSub? frame v.firstFrame
  guard (v.firstFrame < v.lastFrame)
  let increment := (v.lastValue - v.firstValue) / Float.ofInt span.toInt
  return v.firstValue + Float.ofInt passed.toInt * increment

namespace KnobTable

/-- Write a cell, if its row is there. -/
def insertAt? (t : KnobTable) (frame : Int64) (knob : String) (x : Float) : Option KnobTable :=
  if 0 ≤ frame.toInt ∧ frame.toInt < t.size then
    some ⟨t.rows.modify frame.toInt.toNat fun row => row.insert knob x⟩
  else none

/-- Write the values of a knob frame by frame. -/
def record? (t : KnobTable) (v : Vary) : Option KnobTable := do
  let _ ← exactSub? v.lastFrame v.firstFrame
  v.frames.foldlM (fun t frame => do
    let x ← v.value? frame
    t.insertAt? frame v.knob x) t

/-- Check and write the `vary`s of directives, the first of which has a position. -/
def recordAll? (frameCount : UInt32) :
    Nat → List Directive → KnobTable → Option (Except Fault KnobTable)
  | _, [], t => some (.ok t)
  | index, .vary v :: directives, t =>
    match Timeline.checkVary index v frameCount with
    | .error e => some (.error e)
    | .ok () => (t.record? v).bind (recordAll? frameCount (index + 1) directives)
  | index, _ :: directives, t => recordAll? frameCount (index + 1) directives t

/-- What has been recorded after some of the frames of a `vary`. -/
def recordSome (t : KnobTable) (v : Vary) (n : Nat) : KnobTable :=
  ⟨t.rows.mapIdx fun i row =>
    if v.firstFrame.toInt ≤ i ∧ i < v.firstFrame.toInt + n then
      row.insert v.knob (v.value (Int64.ofNat i))
    else row⟩

theorem exactSub?_of_nonneg {a b : Int64} (ha : 0 ≤ a.toInt) (hb : 0 ≤ b.toInt) :
    exactSub? a b = some (a - b) :=
  if_pos (toInt_sub_of_nonneg ha hb)

theorem value?_eq_value {v : Vary} {frameCount : UInt32} (hv : v.Within frameCount)
    {frame : Int64} (hfirst : v.firstFrame.toInt ≤ frame.toInt)
    (hlast : frame.toInt ≤ v.lastFrame.toInt) : v.value? frame = some (v.value frame) := by
  have h0 := (Timeline.covers_iff.mp hv.1).1
  unfold Vary.value? Ramp.value guard
  rw [exactSub?_of_nonneg (by omega) h0, exactSub?_of_nonneg (by omega) h0]
  by_cases h : frame = v.lastFrame
  · simp only [h, if_true]
    rfl
  · have hlt : v.firstFrame < v.lastFrame := by
      have hne : frame.toInt ≠ v.lastFrame.toInt := fun e => h (Int64.toInt_inj.mp e)
      rw [Int64.lt_iff_toInt_lt]
      omega
    simp only [h, hlt, if_false, if_true]
    rfl

/-- Each frame of a `vary` extends what has been recorded by its own row. -/
theorem insertAt?_recordSome {t : KnobTable} {v : Vary} {frameCount : UInt32}
    (hv : v.Within frameCount) (ht : t.size = frameCount.toNat) {n : Nat} {frame : Int64}
    (hn : frame.toInt = v.firstFrame.toInt + n) (hlast : frame.toInt ≤ v.lastFrame.toInt) :
    (t.recordSome v n).insertAt? frame v.knob (v.value frame) =
      some (t.recordSome v (n + 1)) := by
  have h0 := (Timeline.covers_iff.mp hv.1).1
  have hbound := (Timeline.covers_iff.mp hv.2).2
  have hsize : (t.recordSome v n).size = frameCount.toNat := List.length_mapIdx.trans ht
  unfold insertAt?
  rw [if_pos (by omega)]
  have hframe : frame = Int64.ofNat frame.toInt.toNat := by
    have hc := frameCount.toNat_lt
    rw [← Int64.toInt_inj, Int64.toInt_ofNat_of_lt (by omega)]
    omega
  congr 2
  refine List.ext_getElem? fun i => ?_
  unfold recordSome
  rw [List.getElem?_modify, List.getElem?_mapIdx, List.getElem?_mapIdx]
  rcases t.rows[i]? with _ | row
  · simp
  · simp only [Option.map_some, Option.map_eq_map]
    by_cases hi : frame.toInt.toNat = i
    · subst hi
      rw [if_pos rfl, if_neg (by omega), if_pos (by omega), ← hframe]
    · rw [if_neg hi]
      congr 1
      exact if_congr (by omega) rfl rfl

theorem recordSome_zero (t : KnobTable) (v : Vary) : t.recordSome v 0 = t := by
  have hrange : ∀ i : Nat, ¬(v.firstFrame.toInt ≤ i ∧ i < v.firstFrame.toInt + (0 : Nat)) := by
    intro i
    omega
  unfold recordSome
  simp only [hrange, if_false]
  rw [show (t.rows.mapIdx fun _ row => row) = t.rows from List.ext_getElem? (by simp)]

/-- All frames of a `vary` are what it records. -/
theorem recordSome_all {t : KnobTable} {v : Vary} {frameCount : UInt32}
    (ht : t.size = frameCount.toNat) :
    t.recordSome v (v.lastFrame.toInt - v.firstFrame.toInt + 1).toNat = t.record v := by
  unfold recordSome record
  congr 1
  refine List.ext_getElem (by simp) fun i hi _ => ?_
  rw [List.length_mapIdx] at hi
  have hn := toInt_ofNat_of_lt_frameCount (lt_of_lt_of_eq hi ht)
  rw [List.getElem_mapIdx, List.getElem_mapIdx]
  refine if_congr ?_ rfl rfl
  rw [Int64.le_iff_toInt_le, Int64.le_iff_toInt_le, hn]
  omega

/-- Writing frame by frame succeeds and records the `vary`. -/
theorem record?_eq {t : KnobTable} {v : Vary} {frameCount : UInt32} (hv : v.Within frameCount)
    (ht : t.size = frameCount.toNat) : t.record? v = some (t.record v) := by
  have h0 := Timeline.covers_iff.mp hv.1
  have h1 := Timeline.covers_iff.mp hv.2
  have hc := frameCount.toNat_lt
  -- After `n` frames the loop has come to `recordSome v n`.
  have hloop : ∀ n : Nat, n ≤ (v.lastFrame.toInt - v.firstFrame.toInt + 1).toNat →
      ((List.range n).map fun i : Nat => Int64.ofInt (v.firstFrame.toInt + i)).foldlM
        (fun t frame => do
          let x ← v.value? frame
          t.insertAt? frame v.knob x) t = some (t.recordSome v n) := by
    intro n
    induction n with
    | zero =>
        intro _
        rw [recordSome_zero]
        rfl
    | succ n ih =>
        intro hle
        have hn : (Int64.ofInt (v.firstFrame.toInt + n)).toInt = v.firstFrame.toInt + n :=
          Int64.toInt_ofInt_of_le (by omega) (by omega)
        have hvalue : v.value? (.ofInt (v.firstFrame.toInt + n)) =
            some (v.value (.ofInt (v.firstFrame.toInt + n))) :=
          value?_eq_value hv (by omega) (by omega)
        have hinsert := insertAt?_recordSome hv ht hn (by omega)
        rw [List.range_succ, List.map_append, List.foldlM_append, ih (by omega)]
        simp only [List.map_cons, List.map_nil, List.foldlM_cons, List.foldlM_nil,
          Option.bind_eq_bind, Option.bind_some, hvalue, hinsert, Option.pure_def]
  unfold record?
  rw [exactSub?_of_nonneg h1.1 h0.1, ← recordSome_all ht]
  exact hloop _ (Nat.le_refl _)

/-- Writing cell by cell always has an answer: that of recording whole `vary`s. -/
theorem recordAll?_eq {frameCount : UInt32} (index : Nat) (directives : List Directive)
    {t : KnobTable} (ht : t.size = frameCount.toNat) :
    recordAll? frameCount index directives t =
      some ((directives.zipIdx index).foldlM (fun t e => t.observe frameCount e.2 e.1) t) := by
  induction directives generalizing index t with
  | nil => rfl
  | cons d directives ih =>
      rw [List.zipIdx_cons, List.foldlM_cons]
      cases d with
      | vary v =>
          rw [recordAll?, observe]
          cases hc : Timeline.checkVary index v frameCount with
          | error e => rfl
          | ok _ =>
              have hv := Timeline.checkVary_eq_ok_iff.mp hc
              simp only [record?_eq hv ht, Option.bind_some]
              exact ih (index + 1) ((size_record t v).trans ht)
      | _ => exact ih (index + 1) ht

/-- **The meaning of a knob table.**  Writing it cell by cell never leaves the rows, never overflows
and never uses the slope of a single frame, and comes to the table of `ofDirectives`.  A finished
table has a row for each frame, and a cell holds the value of the last `vary` that covers it; there
are no cells but those some `vary` covers.  A range that ends before it begins writes nothing. -/
theorem ofDirectives_meaning (directives : List Directive) (frameCount : UInt32) :
    recordAll? frameCount 0 directives (blank frameCount) =
        some (ofDirectives directives frameCount) ∧
      (∀ table, ofDirectives directives frameCount = .ok table →
        table.size = frameCount.toNat ∧
        ∀ frame < frameCount.toNat,
          (∀ knob, table.value? frame knob =
            (lastVary? directives knob frame).map (·.valueOn frame)) ∧
          (∀ knob, (table.value? frame knob).isSome ↔
            ∃ v, .vary v ∈ directives ∧ v.covers knob frame) ∧
          ∀ row, table.row? frame = some row → ∀ e ∈ row.toList,
            ∃ v, .vary v ∈ directives ∧ v.covers e.1 frame) ∧
      ∀ (t : KnobTable) (v : Vary), v.lastFrame < v.firstFrame → t.record v = t := by
  refine ⟨recordAll?_eq 0 directives (size_blank frameCount), fun table h => ?_,
    fun t v => t.record_of_inverted⟩
  refine ⟨size_ofDirectives h, fun frame hframe => ?_⟩
  have hcell := value?_ofDirectives h hframe
  have hsome : ∀ knob, (table.value? frame knob).isSome ↔
      ∃ v, Directive.vary v ∈ directives ∧ v.covers knob frame := by
    intro knob
    rw [hcell knob, Option.isSome_map, isSome_lastVary?_iff]
  refine ⟨hcell, hsome, fun row hrow e he => (hsome e.1).mp ?_⟩
  rw [value?, hrow, Option.bind_some, (row.mem_toList_iff e).mp he]
  rfl

/-- Two ramps of one knob that cross on the frames 1 and 2, and one that ends before it begins. -/
def crossing : List Directive :=
  [.vary ⟨⟨0, 2, 0, 4⟩, "spin"⟩, .vary ⟨⟨1, 3, 10, 30⟩, "spin"⟩, .vary ⟨⟨3, 0, 7, 8⟩, "lift"⟩]

theorem crossing_meaning :
    ∃ table, ofDirectives crossing 4 = .ok table ∧ table.size = 4 ∧
      table.value? 0 "spin" = some (Vary.valueOn ⟨⟨0, 2, 0, 4⟩, "spin"⟩ 0) ∧
      table.value? 2 "spin" = some (Vary.valueOn ⟨⟨1, 3, 10, 30⟩, "spin"⟩ 2) ∧
      table.value? 3 "lift" = none := by
  obtain ⟨table, h⟩ : ∃ table, ofDirectives crossing 4 = .ok table := ⟨_, rfl⟩
  obtain ⟨hsize, hcells⟩ := (ofDirectives_meaning crossing 4).2.1 table h
  refine ⟨table, h, hsize, ?_, ?_, ?_⟩
  · exact ((hcells 0 (by decide)).1 "spin").trans rfl
  · exact ((hcells 2 (by decide)).1 "spin").trans rfl
  · exact ((hcells 3 (by decide)).1 "lift").trans rfl

end KnobTable

end SceneScript
