/-! # Reading a decimal literal

A `Literal` is the anatomy of a number as written: its sign, the digits before and after the
point, and the exponent.  `Literal.ofChars?` is its grammar.  A literal without point and exponent
denotes an integer if it fits in sixty-four bits; every other literal denotes the float
`Literal.toFloat?`, which collects the digits into a sixty-four bit significand and then rounds
once more for a multiplication or division by a power of ten. -/

namespace SceneScript.Decimal

/-- A written number. -/
structure Literal where
  negative : Bool
  whole : List Nat
  fraction : List Nat
  exponent : Int
  /-- The literal is written without point and exponent. -/
  bare : Bool
deriving DecidableEq, Repr

/-- The values of decimal digits. -/
def digitValues (cs : List Char) : List Nat := cs.map fun c => c.toNat - '0'.toNat

/-- The natural number that digit values spell. -/
def ofDigits (ds : List Nat) : Nat := ds.foldl (fun n d => n * 10 + d) 0

namespace Literal

/-- The digits before the point: at least one, and no zero in front of another. -/
def whole? (cs : List Char) : Option (List Nat × List Char) :=
  match cs.takeWhile Char.isDigit with
  | [] => none
  | ['0'] => some ([0], cs.dropWhile Char.isDigit)
  | '0' :: _ => none
  | ds => some (digitValues ds, cs.dropWhile Char.isDigit)

/-- One or more digits. -/
def digits? (cs : List Char) : Option (List Nat × List Char) :=
  match cs.takeWhile Char.isDigit with
  | [] => none
  | ds => some (digitValues ds, cs.dropWhile Char.isDigit)

/-- The digits after a point, if there is one. -/
def fraction? : List Char → Option (List Nat × List Char)
  | '.' :: cs => digits? cs
  | cs => some ([], cs)

/-- The digits of an exponent, after its sign. -/
def signedDigits? : List Char → Option (Int × List Char)
  | '-' :: cs => (digits? cs).map fun (ds, rest) => (-(ofDigits ds : Int), rest)
  | '+' :: cs => (digits? cs).map fun (ds, rest) => ((ofDigits ds : Int), rest)
  | cs => (digits? cs).map fun (ds, rest) => ((ofDigits ds : Int), rest)

/-- The exponent, if there is one. -/
def exponent? : List Char → Option (Int × List Char)
  | 'e' :: cs => signedDigits? cs
  | 'E' :: cs => signedDigits? cs
  | cs => some (0, cs)

/-- A literal after its sign. -/
def magnitude? (negative : Bool) (cs : List Char) : Option Literal := do
  let (whole, afterWhole) ← whole? cs
  let (fraction, afterFraction) ← fraction? afterWhole
  let (exponent, rest) ← exponent? afterFraction
  if rest.isEmpty then some ⟨negative, whole, fraction, exponent, afterWhole.isEmpty⟩ else none

/-- The grammar: an optional minus sign, digits, an optional fraction, an optional exponent. -/
def ofChars? : List Char → Option Literal
  | '-' :: cs => magnitude? true cs
  | cs => magnitude? false cs

/-- Collect digits before the point while the significand fits in sixty-four bits; each digit
after that only raises the exponent. -/
def collectWhole : List Nat → Nat → Nat × Nat
  | [], s => (s, 0)
  | d :: ds, s => if s * 10 + d < UInt64.size then collectWhole ds (s * 10 + d) else (s, ds.length + 1)

/-- Collect digits after the point while the significand fits; the rest are dropped.  The second
component counts the digits taken. -/
def collectFraction : List Nat → Nat → Nat × Nat
  | [], s => (s, 0)
  | d :: ds, s =>
    if s * 10 + d < UInt64.size then
      let (significand, taken) := collectFraction ds (s * 10 + d)
      (significand, taken + 1)
    else (s, 0)

/-- The float nearest to `10 ^ d`. -/
def powerOfTen (d : Nat) : Float := Float.ofNat (Nat.pow 10 d)

/-- Divide by `10 ^ d`, in steps of `10 ^ 308`. -/
def scaleDown (f : Float) (d : Nat) : Float :=
  if d ≤ 308 then f / powerOfTen d
  else if f == 0 then f
  else scaleDown (f / powerOfTen 308) (d - 308)
termination_by d

/-- Multiply by `10 ^ d`, if the product is finite. -/
def scaleUp? (f : Float) (d : Nat) : Option Float :=
  if d ≤ 308 then
    let g := f * powerOfTen d
    if g.isInf then none else some g
  else if f == 0 then some f
  else none

/-- The float that a literal denotes; none if it is beyond the range of floats. -/
def toFloat? (l : Literal) : Option Float :=
  let (s, dropped) := collectWhole l.whole 0
  let (significand, taken) := collectFraction l.fraction s
  let f := Float.ofNat significand
  let magnitude := match (dropped : Int) - taken + l.exponent with
    | .ofNat d => scaleUp? f d
    | .negSucc d => some (scaleDown f (d + 1))
  magnitude.map fun g => if l.negative then -g else g

/-- The integer that a bare literal denotes, if it fits in sixty-four bits, signed when the
literal is negative.  A negative zero is left to the floats. -/
def toInt? (l : Literal) : Option Int :=
  let n := ofDigits l.whole
  if !l.bare then none
  else if l.negative then if 0 < n ∧ n ≤ 0x8000000000000000 then some (-(n : Int)) else none
  else if n < UInt64.size then some n else none

end Literal

end SceneScript.Decimal
