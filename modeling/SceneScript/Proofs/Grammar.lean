import Mathlib.Algebra.Order.Field.Power
import Mathlib.Tactic.Positivity
import SceneScript.Command

/-! # The grammar of commands

`Layout` is the grammar of arguments: which numbers and names an operation takes, in which order and
with which knob, and the directive they stand for.  Nothing in it speaks of reading.  By
`Command.directive_iff_layout` a command is accepted if and only if it has the layout of its
operation, its directive is the one of the layout, and the fault of any other command is one of
validation that names the command.

Two operations take integers, which are written as floats.  `Denotes` says which integer a float is
equal to, over the rationals; `integer?_eq_some_iff` says that the integer arithmetic on the bits of
a float finds exactly this integer. -/

namespace SceneScript

/-! ### Floats that are integers -/

namespace Binary64

/-- The rational number that is denoted, if a number is. -/
def value? : Binary64 → Option ℚ
  | finite negative m q => some ((if negative then -1 else 1) * (m * 2 ^ q))
  | _ => none

theorem scaled?_eq_some_iff {m n : Nat} {q : Int} :
    scaled? m q = some n ↔ (m : ℚ) * 2 ^ q = n := by
  cases q with
  | ofNat q =>
      rw [scaled?, Option.some.injEq, Nat.shiftLeft_eq, Int.ofNat_eq_natCast, zpow_natCast]
      exact_mod_cast Iff.rfl
  | negSucc q =>
      have hpos : (2 : ℚ) ^ (q + 1) ≠ 0 := pow_ne_zero _ two_ne_zero
      have hvalue : (m : ℚ) * 2 ^ Int.negSucc q = n ↔ m = n * 2 ^ (q + 1) := by
        rw [zpow_negSucc, mul_inv_eq_iff_eq_mul₀ hpos]
        exact_mod_cast Iff.rfl
      rw [scaled?, hvalue, Nat.shiftRight_eq_div_pow, Nat.shiftLeft_eq]
      have hpos : 0 < 2 ^ (q + 1) := Nat.two_pow_pos (q + 1)
      constructor
      · intro h
        split at h
        case isTrue hdvd =>
            rw [← Option.some.inj h]
            exact hdvd.symm
        case isFalse => cases h
      · intro h
        have hquotient : m / 2 ^ (q + 1) = n := by rw [h, Nat.mul_div_cancel _ hpos]
        rw [hquotient, if_pos h.symm]

/-- A natural number is found if the number denoted is an integer. -/
theorem scaled?_eq_some_int_iff {m : Nat} {q n : Int} :
    (scaled? m q >>= fun k => pure (k : Int)) = some n ↔ (m : ℚ) * 2 ^ q = (n : ℚ) := by
  constructor
  · intro h
    obtain ⟨k, hk, hn⟩ := Option.bind_eq_some_iff.mp h
    rw [scaled?_eq_some_iff.mp hk, ← Option.some.inj hn, Int.cast_natCast]
  · intro h
    have hnonneg : (0 : ℚ) ≤ (n : ℚ) := by
      rw [← h]
      positivity
    obtain ⟨k, rfl⟩ := Int.eq_ofNat_of_zero_le (Int.cast_nonneg_iff.mp hnonneg)
    refine Option.bind_eq_some_iff.mpr ⟨k, scaled?_eq_some_iff.mpr ?_, rfl⟩
    rw [h, Int.cast_natCast]

theorem integer?_eq_some_iff {b : Binary64} {n : Int} :
    b.integer? = some n ↔ b.value? = some (n : ℚ) := by
  cases b with
  | nan => simp [integer?, value?]
  | infinity negative => simp [integer?, value?]
  | finite negative m q =>
      rw [integer?, value?, Option.map_eq_some_iff, Option.some.injEq]
      cases negative with
      | false =>
          simp only [Bool.false_eq_true, if_false, scaled?_eq_some_int_iff, exists_eq_right,
            one_mul]
      | true =>
          simp only [if_true, scaled?_eq_some_int_iff, neg_one_mul]
          constructor
          · rintro ⟨k, hk, rfl⟩
            rw [hk, Int.cast_neg]
          · intro h
            refine ⟨-n, ?_, neg_neg n⟩
            rw [Int.cast_neg, ← h, neg_neg]

end Binary64

/-- The float is finite and equal to the integer. -/
def Denotes (x : Float) (n : Int) : Prop := (Binary64.ofFloat x).value? = some (n : ℚ)

theorem integer?_eq_some_iff {x : Float} {n : Int} : integer? x = some n ↔ Denotes x n :=
  Binary64.integer?_eq_some_iff

/-- The nearest integer that has sixty-four bits. -/
def saturated (n : Int) : Int := max (-2 ^ 63) (min (2 ^ 63 - 1) n)

namespace Arguments

theorem toInt_clamp (n : Int) : (clamp n).toInt = saturated n := by
  have hmin : Int64.minValue.toInt = -2 ^ 63 := by decide
  have hmax : Int64.maxValue.toInt = 2 ^ 63 - 1 := by decide
  unfold clamp saturated
  rw [hmin, hmax]
  split
  · rw [hmin]
    omega
  · split
    · rw [hmax]
      omega
    · rw [Int64.toInt_ofInt_of_le (by omega) (by omega)]
      omega

theorem frameCount?_eq_some_iff {x : Float} {count : UInt32} :
    frameCount? x = some count ↔
      ∃ n, Denotes x n ∧ 1 ≤ n ∧ n ≤ 4294967295 ∧ (count.toNat : Int) = n := by
  rw [frameCount?, Option.bind_eq_some_iff]
  constructor
  · rintro ⟨n, hn, h⟩
    split at h
    case isTrue hrange =>
        have hsize : n < 4294967296 := hrange.2
        refine ⟨n, integer?_eq_some_iff.mp hn, hrange.1, by omega, ?_⟩
        rw [← Option.some.inj h, UInt32.toNat_ofNat_of_lt' (by omega)]
        omega
    case isFalse => cases h
  · rintro ⟨n, hn, hlow, hhigh, hcount⟩
    have hsize : n < (UInt32.size : Int) := Int.lt_of_le_of_lt hhigh (by decide)
    refine ⟨n, integer?_eq_some_iff.mpr hn, ?_⟩
    rw [if_pos ⟨hlow, hsize⟩, ← hcount, Int.toNat_natCast, UInt32.ofNat_toNat]

end Arguments

/-! ### The grammar -/

/-- The numbers of a point. -/
def Vec3.args (v : Vec3 Float) : List Arg := [.number v.x, .number v.y, .number v.z]

/-- The measures of a shape. -/
def Shape.args : Shape → List Arg
  | box corner size => corner.args ++ size.args
  | sphere center radius => center.args ++ [.number radius]
  | torus center minorRadius majorRadius =>
    center.args ++ [.number minorRadius, .number majorRadius]

/-- A name that need not be there. -/
def optional (name : Option String) : List Arg := name.toList.map .name

/-- The words for an axis. -/
def Axis.words : Axis → List String
  | x => ["x", "X"]
  | y => ["y", "Y"]
  | z => ["z", "Z"]

/-- The knob and the arguments of an operation, and the directive that they stand for. -/
inductive Layout : Op → Option String → List Arg → Directive → Prop
  | frames {x : Float} {n : Int} {count : UInt32} (hx : Denotes x n) (hlow : 1 ≤ n)
      (hhigh : n ≤ 4294967295) (hcount : (count.toNat : Int) = n) :
      Layout .frames none [.number x] (.frames count)
  | basename (name : String) : Layout .basename none [.name name] (.basename name)
  | vary {x y : Float} {m n : Int} {first last : Int64} (hx : Denotes x m) (hy : Denotes y n)
      (hfirst : first.toInt = saturated m) (hlast : last.toInt = saturated n)
      (horder : first.toInt < last.toInt) (v w : Float) (knob : String) :
      Layout .vary (some knob) [.number x, .number y, .number v, .number w]
        (.vary ⟨⟨first, last, v, w⟩, knob⟩)
  | shape (constants : Option String) (shape : Shape) (coords : Option String) :
      Layout shape.op none (optional constants ++ shape.args ++ optional coords)
        (.shape shape constants coords)
  | line (constants : Option String) (p0 : Vec3 Float) (coords0 : Option String)
      (p1 : Vec3 Float) (coords1 : Option String) :
      Layout .line none
        (optional constants ++ p0.args ++ optional coords0 ++ p1.args ++ optional coords1)
        (.line constants p0 coords0 p1 coords1)
  | move (offset : Vec3 Float) (knob : Option String) :
      Layout .move knob offset.args (.motion (.move offset) knob)
  | scale (factors : Vec3 Float) (knob : Option String) :
      Layout .scale knob factors.args (.motion (.scale factors) knob)
  | rotate {word : String} {axis : Axis} (hword : Text.trim word ∈ axis.words) (degrees : Float)
      (knob : Option String) :
      Layout .rotate knob [.name word, .number degrees] (.motion (.rotate axis degrees) knob)
  | push : Layout .push none [] .push
  | pop : Layout .pop none [] .pop
  | display : Layout .display none [] .display
  | save (name : String) : Layout .save none [.name name] (.save name)

theorem Layout.op_eq {op : Op} {knob : Option String} {args : List Arg} {d : Directive}
    (h : Layout op knob args d) : d.op = op := by
  cases h <;> rfl

theorem Axis.parse?_eq_some_iff {word : String} {axis : Axis} :
    parse? word = some axis ↔ Text.trim word ∈ axis.words := by
  unfold parse?
  split
  case h_7 hx hX hy hY hz hZ =>
      have hno : ¬Text.trim word ∈ axis.words := by
        cases axis <;>
          simp only [words, List.mem_cons, List.not_mem_nil, or_false, not_or] <;>
          exact ⟨by assumption, by assumption⟩
      simp [hno]
  all_goals
    rename_i hword
    rw [hword]
    cases axis <;> decide

/-! ### Reading -/

namespace Arguments

namespace Reader

variable {α β : Type}

theorem bind_eq_ok_iff {p : Reader α} {f : α → Reader β} {r t : Rest} {w : β} :
    (p >>= f).run r = .ok (w, t) ↔
      ∃ v s, p.run r = .ok (v, s) ∧ (f v).run s = .ok (w, t) := by
  rw [run_bind]
  rcases p.run r with e | ⟨v, s⟩
  · simp
  · constructor
    · intro h
      exact ⟨v, s, rfl, h⟩
    · rintro ⟨_, _, ⟨⟩, h⟩
      exact h

theorem pure_eq_ok_iff {v w : α} {r t : Rest} :
    (pure v : Reader α).run r = .ok (w, t) ↔ v = w ∧ r = t := by
  simp

/-- All arguments are read if none are left. -/
theorem readAll_eq_ok_iff {p : Reader α} {args : List Arg} {v : α} :
    p.readAll args = .ok v ↔ ∃ position, p.run ⟨0, args⟩ = .ok (v, ⟨position, []⟩) := by
  unfold readAll
  rcases p.run ⟨0, args⟩ with e | ⟨w, position, rest⟩
  · simp
  · cases rest <;> simp

end Reader

theorem run_frameIndex {x : Float} {n : Int} (h : Denotes x n) (position : Nat)
    (args : List Arg) :
    frameIndex.run ⟨position, .number x :: args⟩ = .ok (clamp n, ⟨position + 1, args⟩) := by
  refine Reader.bind_eq_ok_iff.mpr ⟨x, ⟨position + 1, args⟩, rfl, ?_⟩
  rw [integer?_eq_some_iff.mpr h]
  rfl

end Arguments

/-- The message about malformed arguments names the command by its position and its operation. -/
theorem Fault.message_malformed (index : Nat) (op : Op) (cause : ArgumentFault) :
    (malformed index op cause).message =
      "validation error: command #" ++ Nat.repr index ++ " (" ++ op.name ++ "): " ++
        cause.text := by
  have hbefore : "validation error: command #" = Kind.validation.heading ++ "command #" := by decide
  have hbehind : "): " = ")" ++ ": " := by decide
  rw [hbefore, hbehind]
  simp only [String.append_assoc]
  change Kind.validation.heading ++ (commandText index op ++ ": " ++ cause.text) = _
  simp only [commandText, String.append_assoc]

namespace Command

open Arguments

theorem check_eq_ok_iff {c : Command} {d : Directive} :
    c.check = .ok d ↔ (c.knob.isSome → c.op.takesKnob) ∧ c.body.readAll c.args = .ok d := by
  unfold check
  cases c.knob <;> cases c.op.takesKnob <;> simp

/-- A command with the layout of its operation is read as the directive of the layout. -/
theorem check_of_layout {c : Command} {d : Directive} (h : Layout c.op c.knob c.args d) :
    c.check = .ok d := by
  obtain ⟨op, args, knob⟩ := c
  cases h with
  | @frames x n count hx hlow hhigh hcount =>
      have hframes := frameCount?_eq_some_iff.mpr ⟨n, hx, hlow, hhigh, hcount⟩
      refine check_eq_ok_iff.mpr ⟨nofun, Reader.readAll_eq_ok_iff.mpr ⟨1, ?_⟩⟩
      refine Reader.bind_eq_ok_iff.mpr ⟨x, ⟨1, []⟩, rfl, ?_⟩
      rw [hframes]
      rfl
  | @vary x y m n first last hx hy hfirst hlast horder v w knob =>
      obtain rfl : first = clamp m := Int64.toInt_inj.mp (hfirst.trans (toInt_clamp m).symm)
      obtain rfl : last = clamp n := Int64.toInt_inj.mp (hlast.trans (toInt_clamp n).symm)
      have horder : ¬clamp n ≤ clamp m := by
        rw [Int64.le_iff_toInt_le]
        omega
      refine check_eq_ok_iff.mpr ⟨fun _ => rfl, Reader.readAll_eq_ok_iff.mpr ⟨4, ?_⟩⟩
      refine Reader.bind_eq_ok_iff.mpr ⟨_, _, run_frameIndex hx _ _, ?_⟩
      refine Reader.bind_eq_ok_iff.mpr ⟨_, _, run_frameIndex hy _ _, ?_⟩
      refine Reader.bind_eq_ok_iff.mpr ⟨v, ⟨3, [.number w]⟩, rfl, ?_⟩
      refine Reader.bind_eq_ok_iff.mpr ⟨w, ⟨4, []⟩, rfl, ?_⟩
      rw [if_neg horder]
      rfl
  | @rotate word axis hword degrees =>
      have haxis := Axis.parse?_eq_some_iff.mpr hword
      refine check_eq_ok_iff.mpr ⟨fun _ => rfl, Reader.readAll_eq_ok_iff.mpr ⟨2, ?_⟩⟩
      refine Reader.bind_eq_ok_iff.mpr ⟨.rotate axis degrees, ⟨2, []⟩, ?_, rfl⟩
      refine Reader.bind_eq_ok_iff.mpr ⟨word, ⟨1, [.number degrees]⟩, rfl, ?_⟩
      rw [haxis]
      rfl
  | shape constants shape coords =>
      cases shape <;> cases constants <;> cases coords <;> rfl
  | line constants p0 coords0 p1 coords1 =>
      cases constants <;> cases coords0 <;> cases coords1 <;> rfl
  | move offset => cases knob <;> rfl
  | scale factors => cases knob <;> rfl
  | _ => rfl

end Command

/-! ### What is read has the layout -/

namespace Arguments

variable {r t : Rest}

theorem args_of_number {x : Float} (h : number.run r = .ok (x, t)) :
    r.args = .number x :: t.args := by
  obtain ⟨position, args⟩ := r
  match args with
  | .number y :: args =>
      obtain ⟨rfl, rfl⟩ := Prod.mk.inj (Except.ok.inj h)
      rfl
  | .name s :: args => cases h
  | [] => cases h

theorem args_of_name {s : String} (h : name.run r = .ok (s, t)) : r.args = .name s :: t.args := by
  obtain ⟨position, args⟩ := r
  match args with
  | .name s :: args =>
      obtain ⟨rfl, rfl⟩ := Prod.mk.inj (Except.ok.inj h)
      rfl
  | .number x :: args => cases h
  | [] => cases h

theorem args_of_name? {o : Option String} (h : name?.run r = .ok (o, t)) :
    r.args = optional o ++ t.args := by
  obtain ⟨position, args⟩ := r
  match args with
  | .name s :: args | .number x :: args | [] =>
      obtain ⟨rfl, rfl⟩ := Prod.mk.inj (Except.ok.inj h)
      rfl

theorem args_of_point {v : Vec3 Float} (h : point.run r = .ok (v, t)) :
    r.args = v.args ++ t.args := by
  obtain ⟨x, r₁, hx, h⟩ := Reader.bind_eq_ok_iff.mp h
  obtain ⟨y, r₂, hy, h⟩ := Reader.bind_eq_ok_iff.mp h
  obtain ⟨z, r₃, hz, h⟩ := Reader.bind_eq_ok_iff.mp h
  obtain ⟨rfl, rfl⟩ := Reader.pure_eq_ok_iff.mp h
  rw [args_of_number hx, args_of_number hy, args_of_number hz]
  rfl

theorem args_of_frameIndex {i : Int64} (h : frameIndex.run r = .ok (i, t)) :
    ∃ x n, Denotes x n ∧ i.toInt = saturated n ∧ r.args = .number x :: t.args := by
  obtain ⟨x, r₁, hx, h⟩ := Reader.bind_eq_ok_iff.mp h
  split at h
  case h_1 n hn =>
      obtain ⟨rfl, rfl⟩ := Reader.pure_eq_ok_iff.mp h
      exact ⟨x, n, integer?_eq_some_iff.mp hn, toInt_clamp n, args_of_number hx⟩
  case h_2 => cases h

end Arguments

namespace Command

open Arguments

variable {r t : Rest}

/-- The measures of a shape are read in order. -/
theorem args_of_box {s : Shape} (h : box.run r = .ok (s, t)) :
    s.op = .box ∧ r.args = s.args ++ t.args := by
  obtain ⟨corner, r₁, hcorner, h⟩ := Reader.bind_eq_ok_iff.mp h
  obtain ⟨size, r₂, hsize, h⟩ := Reader.bind_eq_ok_iff.mp h
  obtain ⟨rfl, rfl⟩ := Reader.pure_eq_ok_iff.mp h
  rw [args_of_point hcorner, args_of_point hsize, ← List.append_assoc]
  exact ⟨rfl, rfl⟩

theorem args_of_sphere {s : Shape} (h : sphere.run r = .ok (s, t)) :
    s.op = .sphere ∧ r.args = s.args ++ t.args := by
  obtain ⟨center, r₁, hcenter, h⟩ := Reader.bind_eq_ok_iff.mp h
  obtain ⟨radius, r₂, hradius, h⟩ := Reader.bind_eq_ok_iff.mp h
  obtain ⟨rfl, rfl⟩ := Reader.pure_eq_ok_iff.mp h
  rw [args_of_point hcenter, args_of_number hradius]
  exact ⟨rfl, rfl⟩

theorem args_of_torus {s : Shape} (h : torus.run r = .ok (s, t)) :
    s.op = .torus ∧ r.args = s.args ++ t.args := by
  obtain ⟨center, r₁, hcenter, h⟩ := Reader.bind_eq_ok_iff.mp h
  obtain ⟨minorRadius, r₂, hminor, h⟩ := Reader.bind_eq_ok_iff.mp h
  obtain ⟨majorRadius, r₃, hmajor, h⟩ := Reader.bind_eq_ok_iff.mp h
  obtain ⟨rfl, rfl⟩ := Reader.pure_eq_ok_iff.mp h
  rw [args_of_point hcenter, args_of_number hminor, args_of_number hmajor]
  exact ⟨rfl, rfl⟩

variable {args : List Arg} {d : Directive} {knob : Option String}

theorem layout_of_frames (h : frames.readAll args = .ok d) : Layout .frames none args d := by
  obtain ⟨position, h⟩ := Reader.readAll_eq_ok_iff.mp h
  obtain ⟨x, r₁, hx, h⟩ := Reader.bind_eq_ok_iff.mp h
  split at h
  case h_1 count hcount =>
      obtain ⟨rfl, rfl⟩ := Reader.pure_eq_ok_iff.mp h
      obtain ⟨n, hn, hlow, hhigh, hcount⟩ := frameCount?_eq_some_iff.mp hcount
      obtain rfl : args = [.number x] := args_of_number hx
      exact .frames hn hlow hhigh hcount
  case h_2 => cases h

theorem layout_of_vary (h : (vary knob).readAll args = .ok d) : Layout .vary knob args d := by
  obtain ⟨position, h⟩ := Reader.readAll_eq_ok_iff.mp h
  cases knob with
  | none => cases h
  | some knob =>
      obtain ⟨first, r₁, hfirst, h⟩ := Reader.bind_eq_ok_iff.mp h
      obtain ⟨last, r₂, hlast, h⟩ := Reader.bind_eq_ok_iff.mp h
      obtain ⟨v, r₃, hv, h⟩ := Reader.bind_eq_ok_iff.mp h
      obtain ⟨w, r₄, hw, h⟩ := Reader.bind_eq_ok_iff.mp h
      split at h
      case isTrue => cases h
      case isFalse horder =>
          obtain ⟨rfl, rfl⟩ := Reader.pure_eq_ok_iff.mp h
          obtain ⟨x, m, hx, hm, hargs⟩ := args_of_frameIndex hfirst
          obtain ⟨y, n, hy, hn, hargs'⟩ := args_of_frameIndex hlast
          rw [hargs', args_of_number hv, args_of_number hw] at hargs
          obtain rfl : args = [.number x, .number y, .number v, .number w] := hargs
          rw [Int64.le_iff_toInt_le] at horder
          exact .vary hx hy hm hn (Int.lt_of_not_ge horder) v w knob

/-- The arguments of a shape have its layout if its measures are read in order. -/
theorem layout_of_solid {shape : Reader Shape} {op : Op}
    (hshape : ∀ {r t : Rest} {s : Shape}, shape.run r = .ok (s, t) →
      s.op = op ∧ r.args = s.args ++ t.args)
    (h : (solid shape).readAll args = .ok d) : Layout op none args d := by
  obtain ⟨position, h⟩ := Reader.readAll_eq_ok_iff.mp h
  obtain ⟨constants, r₁, hconstants, h⟩ := Reader.bind_eq_ok_iff.mp h
  obtain ⟨s, r₂, hs, h⟩ := Reader.bind_eq_ok_iff.mp h
  obtain ⟨coords, r₃, hcoords, h⟩ := Reader.bind_eq_ok_iff.mp h
  obtain ⟨rfl, rfl⟩ := Reader.pure_eq_ok_iff.mp h
  obtain ⟨rfl, hmeasures⟩ := hshape hs
  have hargs := args_of_name? hconstants
  rw [hmeasures, args_of_name? hcoords, List.append_nil, ← List.append_assoc] at hargs
  obtain rfl : args = optional constants ++ s.args ++ optional coords := hargs
  exact .shape constants s coords

theorem layout_of_line (h : line.readAll args = .ok d) : Layout .line none args d := by
  obtain ⟨position, h⟩ := Reader.readAll_eq_ok_iff.mp h
  obtain ⟨constants, r₁, hconstants, h⟩ := Reader.bind_eq_ok_iff.mp h
  obtain ⟨p0, r₂, hp0, h⟩ := Reader.bind_eq_ok_iff.mp h
  obtain ⟨coords0, r₃, hcoords0, h⟩ := Reader.bind_eq_ok_iff.mp h
  obtain ⟨p1, r₄, hp1, h⟩ := Reader.bind_eq_ok_iff.mp h
  obtain ⟨coords1, r₅, hcoords1, h⟩ := Reader.bind_eq_ok_iff.mp h
  obtain ⟨rfl, rfl⟩ := Reader.pure_eq_ok_iff.mp h
  have hargs := args_of_name? hconstants
  rw [args_of_point hp0, args_of_name? hcoords0, args_of_point hp1, args_of_name? hcoords1,
    List.append_nil, ← List.append_assoc, ← List.append_assoc, ← List.append_assoc] at hargs
  obtain rfl : args = optional constants ++ p0.args ++ optional coords0 ++ p1.args ++
    optional coords1 := hargs
  exact .line constants p0 coords0 p1 coords1

theorem layout_of_rotate
    (h : (do return .motion (← rotate) knob : Reader Directive).readAll args = .ok d) :
    Layout .rotate knob args d := by
  obtain ⟨position, h⟩ := Reader.readAll_eq_ok_iff.mp h
  obtain ⟨m, r₁, hm, h⟩ := Reader.bind_eq_ok_iff.mp h
  obtain ⟨rfl, rfl⟩ := Reader.pure_eq_ok_iff.mp h
  obtain ⟨word, r₂, hword, h⟩ := Reader.bind_eq_ok_iff.mp hm
  split at h
  case h_1 => cases h
  case h_2 axis haxis =>
      obtain ⟨degrees, r₃, hdegrees, h⟩ := Reader.bind_eq_ok_iff.mp h
      obtain ⟨rfl, rfl⟩ := Reader.pure_eq_ok_iff.mp h
      have hargs := args_of_name hword
      rw [args_of_number hdegrees] at hargs
      obtain rfl : args = [.name word, .number degrees] := hargs
      exact .rotate (Axis.parse?_eq_some_iff.mp haxis) degrees knob

/-- A directive that is made from a point alone. -/
theorem args_of_readAll_point {make : Vec3 Float → Directive}
    (h : (do return make (← point) : Reader Directive).readAll args = .ok d) :
    ∃ v, args = v.args ∧ d = make v := by
  obtain ⟨position, h⟩ := Reader.readAll_eq_ok_iff.mp h
  obtain ⟨v, r₁, hv, h⟩ := Reader.bind_eq_ok_iff.mp h
  obtain ⟨rfl, rfl⟩ := Reader.pure_eq_ok_iff.mp h
  exact ⟨v, (args_of_point hv).trans (List.append_nil _), rfl⟩

/-- A directive that is made from a name alone. -/
theorem args_of_readAll_name {make : String → Directive}
    (h : (do return make (← name) : Reader Directive).readAll args = .ok d) :
    ∃ s, args = [.name s] ∧ d = make s := by
  obtain ⟨position, h⟩ := Reader.readAll_eq_ok_iff.mp h
  obtain ⟨s, r₁, hs, h⟩ := Reader.bind_eq_ok_iff.mp h
  obtain ⟨rfl, rfl⟩ := Reader.pure_eq_ok_iff.mp h
  exact ⟨s, args_of_name hs, rfl⟩

/-- A directive that is made from nothing. -/
theorem args_of_readAll_pure {e : Directive}
    (h : (pure e : Reader Directive).readAll args = .ok d) : args = [] ∧ d = e := by
  obtain ⟨position, h⟩ := Reader.readAll_eq_ok_iff.mp h
  obtain ⟨rfl, hrest⟩ := Reader.pure_eq_ok_iff.mp h
  exact ⟨(Rest.mk.inj hrest).2, rfl⟩

/-- What is read of a command has the layout of its operation. -/
theorem layout_of_check {c : Command} (h : c.check = .ok d) : Layout c.op c.knob c.args d := by
  obtain ⟨hknob, hbody⟩ := check_eq_ok_iff.mp h
  obtain ⟨op, args, knob⟩ := c
  have hnone : op.takesKnob = false → knob = none := by
    intro hno
    cases knob with
    | none => rfl
    | some knob => exact absurd (hknob rfl) (by simp [hno])
  cases op with
  | frames => rw [hnone rfl]; exact layout_of_frames hbody
  | basename =>
      obtain ⟨s, rfl, rfl⟩ := args_of_readAll_name hbody
      rw [hnone rfl]
      exact .basename s
  | vary => exact layout_of_vary hbody
  | box => rw [hnone rfl]; exact layout_of_solid args_of_box hbody
  | sphere => rw [hnone rfl]; exact layout_of_solid args_of_sphere hbody
  | torus => rw [hnone rfl]; exact layout_of_solid args_of_torus hbody
  | line => rw [hnone rfl]; exact layout_of_line hbody
  | move =>
      obtain ⟨v, rfl, rfl⟩ := args_of_readAll_point hbody
      exact .move v knob
  | scale =>
      obtain ⟨v, rfl, rfl⟩ := args_of_readAll_point hbody
      exact .scale v knob
  | rotate => exact layout_of_rotate hbody
  | push =>
      obtain ⟨rfl, rfl⟩ := args_of_readAll_pure hbody
      rw [hnone rfl]
      exact .push
  | pop =>
      obtain ⟨rfl, rfl⟩ := args_of_readAll_pure hbody
      rw [hnone rfl]
      exact .pop
  | display =>
      obtain ⟨rfl, rfl⟩ := args_of_readAll_pure hbody
      rw [hnone rfl]
      exact .display
  | save =>
      obtain ⟨s, rfl, rfl⟩ := args_of_readAll_name hbody
      rw [hnone rfl]
      exact .save s

/-- **The grammar of commands.**  A command is accepted if and only if it has the layout of its
operation, and its directive is the one that the layout stands for; the directive belongs to the
operation of the command.  Any other command is refused with a fault of validation that names it by
its position and its operation. -/
theorem directive_iff_layout (c : Command) (index : Nat) :
    (∀ d, c.directive index = .ok d ↔ Layout c.op c.knob c.args d) ∧
      (∀ d, c.directive index = .ok d → d.op = c.op) ∧
      ∀ e, c.directive index = .error e → ∃ cause, e = .malformed index c.op cause ∧
        e.kind = .validation ∧
        e.message = "validation error: command #" ++ Nat.repr index ++ " (" ++ c.op.name ++ "): " ++
          cause.text := by
  have hcheck : ∀ d, c.directive index = .ok d ↔ c.check = .ok d := by
    intro d
    unfold directive
    cases c.check <;> simp [Except.mapError]
  refine ⟨?_, ?_, ?_⟩
  · intro d
    rw [hcheck]
    exact ⟨layout_of_check, check_of_layout⟩
  · intro d h
    exact (layout_of_check ((hcheck d).mp h)).op_eq
  · intro e h
    unfold directive at h
    cases hcause : c.check with
    | ok d => rw [hcause] at h; cases h
    | error cause =>
        rw [hcause] at h
        have he : Fault.malformed index c.op cause = e := Except.error.inj h
        rw [← he]
        exact ⟨cause, rfl, rfl, Fault.message_malformed index c.op cause⟩

end Command

end SceneScript
