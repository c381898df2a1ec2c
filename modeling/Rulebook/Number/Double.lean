/-!
Double-precision numbers as values: what is left of a double once its bits are forgotten.

A finite double is a whole number of units of 2^-1074, so comparing is comparing integers and
equal values are equal terms; there is no value that differs from itself. A number is rounded
exactly once, to the nearest double, a tie to the one with the even significand, and a number
that would need an exponent beyond the largest is infinite.

* `Double.ofRatio`: the double nearest to a quotient, in units.
* `Double.ofUnits`: the double nearest to a whole number of units.
* `Double.lt_trichotomy`: of two doubles one is smaller or they are the same.
-/

namespace Rulebook

/-- A double other than a NaN, by value. -/
inductive Double where
  | negativeInfinity
  /-- A finite double, as a multiple of 2^-1074. -/
  | finite (units : Int)
  | infinity
  deriving DecidableEq, Repr, Inhabited

namespace Double

/-- The quotient, rounded to the nearest whole number, a half to the even neighbour. -/
def divHalfEven (num den : Nat) : Nat :=
  let floor := num / den
  let twice := 2 * (num % den)
  if twice < den || (twice == den && floor % 2 == 0) then floor else floor + 1

/-- How many low bits a value of that many units has to give up to fit into 53. -/
def surplusBits (units : Nat) : Nat := Nat.log2 units - 52

/-- The quotient `num / den`, a number of units, rounded to 53 significant bits. -/
def roundUnits (num den : Nat) : Nat :=
  let step := Nat.pow 2 (surplusBits (num / den))
  divHalfEven num (den * step) * step

/-- The units of 2^1024, the first power of two that is no longer finite. -/
def overflowUnits : Nat := Nat.pow 2 2098

/-- The double nearest to `num / den` units, or to its negative. -/
def ofRatio (negative : Bool) (num den : Nat) : Double :=
  let units := roundUnits num den
  if units < overflowUnits then finite (if negative then -units else units)
  else if negative then negativeInfinity else infinity

/-- The double nearest to a whole number of units. -/
def ofUnits (units : Int) : Double := ofRatio (units < 0) units.natAbs 1

/-- The units of 1. -/
def oneUnits : Nat := Nat.pow 2 1074

/-- The double nearest to a product with a positive whole number. -/
def mulNat : Double → Nat → Double
  | finite units, k => ofUnits (units * k)
  | x, _ => x

/-- The double nearest to a sum with a whole number. -/
def addNat : Double → Nat → Double
  | finite units, k => ofUnits (units + k * oneUnits)
  | x, _ => x

/-- Zero; the sign of a zero is not part of its value. -/
def zero : Double := finite 0

/-- The numeric order. -/
def lt : Double → Double → Bool
  | negativeInfinity, negativeInfinity => false
  | negativeInfinity, _ => true
  | finite _, negativeInfinity => false
  | finite a, finite b => decide (a < b)
  | finite _, infinity => true
  | infinity, _ => false

theorem lt_irrefl (a : Double) : lt a a = false := by
  cases a <;> simp [lt]

theorem ne_of_lt {a b : Double} (h : lt a b = true) : a ≠ b := by
  rintro rfl
  rw [lt_irrefl] at h
  cases h

theorem lt_asymm {a b : Double} (h : lt a b = true) : lt b a = false := by
  cases a <;> cases b <;> simp_all [lt]
  omega

/-- Of two doubles one is smaller or they are the same. -/
theorem lt_trichotomy (a b : Double) : lt a b = true ∨ a = b ∨ lt b a = true := by
  cases a <;> cases b <;> simp [lt]
  omega

end Double
end Rulebook
