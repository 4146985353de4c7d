import AccessGrants.Number.Decimal

/-!
# Magnitudes

The size of a binary floating point number of 64 bits: a whole number below `2 ^ 53` times a power
of two from `2 ^ -1074` to `2 ^ 971`, or infinite. Each size has one form: the whole number is at
least `2 ^ 52` unless the power of two is the smallest.

* `Magnitude.ofRatio` rounds a quotient to the nearest size, and `Magnitude.ofDecimal` a decimal.
* `Magnitude.plus` and `Magnitude.times` round the exact sum and product.
* `Magnitude.toNat?` is the whole number that a size is.
-/

namespace AccessGrants

/-- The size of a binary floating point number: `mantissa * 2 ^ exponent`, or infinite. -/
inductive Magnitude
  | finite (mantissa : Nat) (exponent : Int)
  | infinite
  deriving DecidableEq

namespace Magnitude

/-- Nothing at all. -/
def zero : Magnitude := .finite 0 (-1074)

/-! ## Rounding -/

/-- A quotient rounded to a whole number: to the nearest, and to the even one if two are equally
near. -/
def roundDiv (n d : Nat) : Nat :=
  let twice := 2 * (n % d)
  if twice < d ∨ (twice = d ∧ n / d % 2 = 0) then n / d else n / d + 1

@[simp] theorem roundDiv_one (n : Nat) : roundDiv n 1 = n := by
  simp [roundDiv, Nat.mod_one]

/-- A power of a base; below the exponent zero it is one. -/
def power (base : Nat) (e : Int) : Nat := Nat.pow base e.toNat

/-- The power of two in which a quotient other than zero is counted: it leaves 53 binary digits, or
is the smallest. -/
def unitExponent (n d : Nat) : Int :=
  let guess : Int := n.log2 - d.log2
  let top := if n * power 2 (-guess) < d * power 2 guess then guess - 1 else guess
  max (top - 52) (-1074)

/-- The size nearest to a quotient. -/
def ofRatio (n d : Nat) : Magnitude :=
  if n = 0 then zero
  else
    let e := unitExponent n d
    let m := roundDiv (n * power 2 (-e)) (d * power 2 e)
    let (m, e) := if m = power 2 53 then (power 2 52, e + 1) else (m, e)
    if 971 < e then .infinite else .finite m e

/-- The size nearest to a whole number. -/
def ofNat (n : Nat) : Magnitude := ofRatio n 1

/-- The size nearest to a decimal. Those far out of range are told by their exponents alone. -/
def ofDecimal (x : Decimal) : Magnitude :=
  if x.digits = 0 then zero
  else if 400 < x.exponent then .infinite
  else if x.exponent < -400 - x.digits.log2 then zero
  else ofRatio (x.digits * power 10 x.exponent) (power 10 (-x.exponent))

/-! ## Arithmetic -/

/-- The size nearest to a whole number times a power of two. -/
def ofDyadic (n : Nat) (e : Int) : Magnitude :=
  ofRatio (n * power 2 e) (power 2 (-e))

/-- The sum of two sizes, rounded. -/
def plus : Magnitude → Magnitude → Magnitude
  | .finite m e, .finite n f =>
    let low := min e f
    ofDyadic (m * power 2 (e - low) + n * power 2 (f - low)) low
  | _, _ => .infinite

/-- The product of two sizes, rounded; what is infinite stays so. -/
def times : Magnitude → Magnitude → Magnitude
  | .finite m e, .finite n f => ofDyadic (m * n) (e + f)
  | _, _ => .infinite

/-- The whole number that a size is, if it is one. -/
def toNat? : Magnitude → Option Nat
  | .finite m e =>
    let scale := power 2 (-e)
    if m % scale = 0 then some (m / scale * power 2 e) else none
  | .infinite => none

end Magnitude

end AccessGrants
