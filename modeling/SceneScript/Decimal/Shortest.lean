import SceneScript.Decimal.Binary64

/-! # The fewest decimal digits that read back

A binary64 number `m · 2 ^ q` is what every real number in a small interval around it rounds to.
`shortest` finds the coarsest power of ten `10 ^ e` with a multiple in that interval and answers
the multiple nearest to the number, so no decimal with fewer digits reads back to it.  All
comparisons are between natural numbers: a multiple `c · 10 ^ e` and an end of the interval are
brought to a common denominator first. -/

namespace SceneScript.Decimal

/-- What to do with two multiples at the same distance. -/
inductive Tie where
  | toEven
  | away
deriving DecidableEq, Repr

/-- The number `digits · 10 ^ exponent`. -/
structure Digits where
  digits : Nat
  exponent : Int
deriving DecidableEq, Repr

/-- Numerator and denominator of `b ^ n`. -/
def power (b : Nat) : Int → Nat × Nat
  | .ofNat n => (Nat.pow b n, 1)
  | .negSucc n => (1, Nat.pow b (n + 1))

/-- The reals that round to a number, in quarters of its last binary place: the interval reaches
from `low` to `high` around `value`, and its ends belong to it when `closed`. -/
structure Interval where
  low : Nat
  value : Nat
  high : Nat
  closed : Bool

/-- The interval around `m · 2 ^ q`.  Below a power of two the neighbours are twice as dense, the
smallest normal number excepted; the ends belong to numbers with an even last place. -/
def Interval.around (m : Nat) (q : Int) : Interval where
  low := if m = Binary64.hiddenBit ∧ -1074 < q then 4 * m - 1 else 4 * m - 2
  value := 4 * m
  high := 4 * m + 2
  closed := m % 2 = 0

/-- The point `x`, in units of `w`, lies in the interval in units of `u`. -/
def Interval.holds (i : Interval) (u w x : Nat) : Bool :=
  if i.closed then i.low * u ≤ x * w && x * w ≤ i.high * u
  else i.low * u < x * w && x * w < i.high * u

/-- The multiple of `w` in the interval that is nearest to its value, if there is one: only the
two neighbours of the value can be. -/
def Interval.nearest? (tie : Tie) (i : Interval) (u w : Nat) : Option Nat :=
  let below := i.value * u / w
  let above := below + 1
  match i.holds u w below, i.holds u w above with
  | false, false => none
  | true, false => some below
  | false, true => some above
  | true, true =>
    let toBelow := i.value * u - below * w
    let toAbove := above * w - i.value * u
    if toBelow < toAbove then some below
    else if toAbove < toBelow then some above
    else match tie with
      | .away => some above
      | .toEven => if below % 2 = 0 then some below else some above

/-- Search the grids `10 ^ e`, `10 ^ (e - 1)`, … for the first with a multiple in the interval
around `m · 2 ^ q`. -/
def search (tie : Tie) (m : Nat) (q : Int) : Nat → Int → Digits
  | 0, e => ⟨0, e⟩
  | fuel + 1, e =>
    let (unitTop, unitBottom) := power 2 (q - 2)
    let (gridTop, gridBottom) := power 10 e
    match (Interval.around m q).nearest? tie (unitTop * gridBottom) (gridTop * unitBottom) with
    | some c => ⟨c, e⟩
    | none => search tie m q fuel (e - 1)

/-- The shortest digits of `m · 2 ^ q`, for `0 < m`.  The search starts above the number's leading
digit, and seventeen digits always suffice. -/
def shortest (tie : Tie) (m : Nat) (q : Int) : Digits :=
  let bits : Int := (Nat.log2 m : Int) + 1
  search tie m q 24 ((q + bits) * 30103 / 100000 + 1)

end SceneScript.Decimal
