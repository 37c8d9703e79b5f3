/-! # Whole numbers in decimal

Whole numbers are written without leading zeros; `padded` adds zeros in front up to a width, and
never cuts a number that is longer. -/

namespace SceneScript.Decimal

/-- Write an integer. -/
def integer (n : Int) : String :=
  if n < 0 then "-" ++ Nat.repr n.natAbs else Nat.repr n.natAbs

/-- Write a natural number with at least `width` digits. -/
def padded (width n : Nat) : String :=
  String.ofList (List.replicate (width - (Nat.repr n).length) '0') ++ Nat.repr n

end SceneScript.Decimal
