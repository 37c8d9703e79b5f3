import SceneScript.Decimal.Shortest

/-! # How a float is written

`Notation` collects the decisions that distinguish one written form of floats from another:
which exponents are written positionally, whether a whole number keeps `.0`, how a tie between
two shortest decimals goes, and what stands for the values that are not numbers.
`Notation.write` is the one function that writes floats; the modules that produce text hold the
`Notation` they need. -/

namespace SceneScript.Decimal

/-- One written form of floats. -/
structure Notation where
  /-- Which of two equally short and equally near decimals is taken. -/
  tie : Tie
  /-- A whole number in positional form ends in `.0`. -/
  keepPoint : Bool
  /-- The decimal exponents `low ≤ x ≤ high` of the leading digit that are written positionally;
  all of them when there is no window. -/
  window : Option (Int × Int)
  /-- The text of the values that are no number. -/
  nan : String
  infinity : String
  negativeInfinity : String

/-- A run of zeros. -/
def zeros (n : Nat) : String := String.ofList (List.replicate n '0')

/-- Positional form: the point stands `place` digits after the start of the digits, or that many
zeros before it. -/
def positional (keepPoint : Bool) (digits : String) (place : Int) : String :=
  let count := digits.length
  match place with
  | .ofNat p =>
    if p = 0 then "0." ++ digits
    else if count ≤ p then digits ++ zeros (p - count) ++ (if keepPoint then ".0" else "")
    else String.ofList (digits.toList.take p) ++ "." ++ String.ofList (digits.toList.drop p)
  | .negSucc p => "0." ++ zeros (p + 1) ++ digits

/-- Exponent form: one digit before the point, and an exponent with its sign. -/
def scientific (digits : String) (exponent : Int) : String :=
  let mark := if exponent < 0 then "e-" else "e+"
  let tail := digits.toList.drop 1
  let point := if tail.isEmpty then "" else "."
  String.ofList (digits.toList.take 1) ++ point ++ String.ofList tail ++ mark
    ++ Nat.repr exponent.natAbs

namespace Notation

/-- Write the magnitude `m · 2 ^ q`. -/
def magnitude (n : Notation) (m : Nat) (q : Int) : String :=
  if m = 0 then if n.keepPoint then "0.0" else "0"
  else
    let short := shortest n.tie m q
    let digits := Nat.repr short.digits
    let place := short.exponent + digits.length
    match n.window with
    | none => positional n.keepPoint digits place
    | some (low, high) =>
      if low ≤ place - 1 ∧ place - 1 ≤ high then positional n.keepPoint digits place
      else scientific digits (place - 1)

/-- Write a float. -/
def write (n : Notation) (x : Float) : String :=
  match Binary64.ofFloat x with
  | .nan => n.nan
  | .infinity negative => if negative then n.negativeInfinity else n.infinity
  | .finite negative m q => (if negative then "-" else "") ++ n.magnitude m q

end Notation

end SceneScript.Decimal
