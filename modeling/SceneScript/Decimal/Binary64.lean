/-! # What a binary64 number denotes

`Binary64` spells out the three things the sixty-four bits of a float can stand for: no number,
an infinity, or the exact dyadic rational `± m · 2 ^ q`.  `Binary64.ofFloat` decodes the bits, and
`Binary64.integer?` answers with the integer a float equals, if it equals one.  Everything that
must be exact about floats in this library (their shortest digits, whether an argument is
integral) goes through this decoding and integer arithmetic. -/

namespace SceneScript

/-- The exact meaning of a binary64 number. -/
inductive Binary64 where
  | nan
  | infinity (negative : Bool)
  | finite (negative : Bool) (mantissa : Nat) (exponent : Int)
deriving DecidableEq, Repr

namespace Binary64

/-- The leading bit of a normal number, `2 ^ 52`, which is not among its bits. -/
def hiddenBit : Nat := 0x10000000000000

/-- Decode the sign, the eleven exponent bits and the fifty-two fraction bits. -/
def ofFloat (x : Float) : Binary64 :=
  let bits : Nat := x.toBits.toNat
  let negative := bits / 0x8000000000000000 == 1
  let biased : Nat := bits / hiddenBit % 2048
  let fraction : Nat := bits % hiddenBit
  if biased = 2047 then
    if fraction = 0 then infinity negative else nan
  else if biased = 0 then
    finite negative fraction (-1074)
  else
    finite negative (hiddenBit + fraction) ((biased : Int) - 1075)

/-- The number is neither an infinity nor a NaN. -/
def isFinite : Binary64 → Bool
  | finite _ _ _ => true
  | _ => false

/-- The natural number `m · 2 ^ q`, if it is one. -/
def scaled? (m : Nat) : Int → Option Nat
  | .ofNat q => some (m <<< q)
  | .negSucc q => if (m >>> (q + 1)) <<< (q + 1) = m then some (m >>> (q + 1)) else none

/-- The integer that the number equals; both zeros equal `0`. -/
def integer? : Binary64 → Option Int
  | finite negative m q => (scaled? m q).map fun n => if negative then -(n : Int) else n
  | _ => none

end Binary64

/-- The integer that a float equals exactly, if there is one. -/
def integer? (x : Float) : Option Int := (Binary64.ofFloat x).integer?

/-- The float is neither an infinity nor a NaN. -/
def isFinite (x : Float) : Bool := (Binary64.ofFloat x).isFinite

end SceneScript
