/-!
Numbers that a machine can hold. An integer fits if 128 bits hold it, with or
without a sign. A number with a fraction or an exponent fits if the nearest number
of double precision is finite; how close that one is does not matter.
-/

namespace BemNotation.Data

def integerFits (n : Int) : Bool :=
  -(Nat.pow 2 127 : Int) ≤ n && n < Nat.pow 2 128

/-- The number `coefficient * 10 ^ exponent`. -/
structure Decimal where
  coefficient : Nat
  exponent : Int
  deriving DecidableEq, Repr

/-- Numbers from here on are nearer to the power of two after the largest finite
number of double precision than to that number, or as near. -/
def overflow : Nat := (Nat.pow 2 54 - 1) * Nat.pow 2 970

/-- Numbers with so many digits in front of the point are too large in any case. -/
def manyDigits : Int := 400

/-- Compares with the overflow bound, after the point is moved to the end of the
number that has one. -/
def Decimal.fits (d : Decimal) : Bool :=
  if d.coefficient = 0 then true
  else
    let digits : Int := (Nat.toDigits 10 d.coefficient).length + d.exponent
    if manyDigits < digits then false
    else if digits < 0 then true
    else d.coefficient * Nat.pow 10 d.exponent.toNat < overflow * Nat.pow 10 (-d.exponent).toNat

private def ofDigits (cs : List Char) : Nat :=
  cs.foldl (fun n c => 10 * n + (c.toNat - '0'.toNat)) 0

private def ofSigned : List Char → Int
  | '-' :: cs => -(ofDigits cs : Int)
  | '+' :: cs => ofDigits cs
  | cs => ofDigits cs

/-- The size of a spelled number: digits, a point and digits, and an exponent
after the letter e, of which some may be missing. The sign in front and low lines
between digits mean nothing, and a word without digits counts as zero. -/
def Decimal.ofSpelling (spelling : String) : Decimal :=
  let cs := (spelling.toList.filter (· != '_')).dropWhile fun c => c = '+' || c = '-'
  let whole := cs.takeWhile Char.isDigit
  let rest := cs.drop whole.length
  let fraction :=
    match rest with
    | '.' :: rest => rest.takeWhile Char.isDigit
    | _ => []
  let exponent := (rest.dropWhile fun c => c = '.' || c.isDigit).drop 1
  { coefficient := ofDigits (whole ++ fraction)
    exponent := ofSigned exponent - fraction.length }

def decimalFits (spelling : String) : Bool :=
  (Decimal.ofSpelling spelling).fits

end BemNotation.Data
