/-!
Doubles, the numbers to which decimals are rounded when they are computed with: 53 binary digits
times a power of two, of which `2 ^ (-1074)` is the least. A decimal goes to the nearest of them,
and half way between two to the one whose digits form an even number.
-/

namespace Multifiling

/-- The magnitude of a double: `digits * 2 ^ exponent`. -/
structure Double where
  digits : Nat
  exponent : Int
  deriving DecidableEq, Repr

namespace Double

/-- A quotient rounded to the nearest whole number, a half to the even one. -/
def roundDiv (n d : Nat) : Nat :=
  let q := n / d
  let twice := 2 * (n % d)
  if twice < d ∨ (twice = d ∧ q % 2 = 0) then q else q + 1

/-- The power of two whose multiples are the doubles around `n / d`. -/
def gridExponent (n d : Nat) : Int :=
  let k : Int := n.log2 - d.log2
  let order := if d * Nat.pow 2 k.toNat ≤ n * Nat.pow 2 (-k).toNat then k else k - 1
  max (-1074) (order - 52)

/-- The double nearest to `n / d`, if exponents had no upper end. -/
def nearest (n d : Nat) : Double :=
  let q := gridExponent n d
  ⟨roundDiv (n * Nat.pow 2 (-q).toNat) (d * Nat.pow 2 q.toNat), q⟩

/-- The whole number that a double is, if it is one. -/
def whole? (x : Double) : Option Nat :=
  if 0 ≤ x.exponent then some (x.digits * Nat.pow 2 x.exponent.toNat)
  else
    let unit := Nat.pow 2 (-x.exponent).toNat
    if x.digits % unit = 0 then some (x.digits / unit) else none

/-- Whether a double lies beyond the last exponent. -/
def isBeyond (x : Double) : Bool := x.whole?.any (Nat.pow 2 1024 ≤ ·)

/-- The double nearest to `mantissa * 10 ^ exponent`, unless it lies beyond the last exponent. -/
def ofDecimal? (mantissa : Nat) (exponent : Int) : Option Double :=
  let size : Int := (Nat.toDigits 10 mantissa).length + exponent
  -- far from all exponents the number of digits tells
  if mantissa = 0 ∨ size < -330 then some ⟨0, 0⟩
  else if 330 < size then none
  else
    let x := nearest (mantissa * Nat.pow 10 exponent.toNat) (Nat.pow 10 (-exponent).toNat)
    if x.isBeyond then none else some x

end Double

end Multifiling
