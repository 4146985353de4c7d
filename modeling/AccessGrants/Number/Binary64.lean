import AccessGrants.Number.Shortest

/-!
# Binary floating point numbers

A number with a fraction is kept as a binary floating point number of 64 bits: a sign with a
magnitude, or no number at all. The two zeros are one value that is written in two ways.

* `Binary64` has the numbers, `Binary64.ofDecimal` rounds a decimal to one.
* `Binary64.toInt?` is the whole number that a number is, `Binary64.display` its wording.
-/

namespace AccessGrants

/-- A binary floating point number. -/
inductive Binary64
  | number (negative : Bool) (size : Magnitude)
  | undefined
  deriving DecidableEq

namespace Binary64

/-- The number nearest to a decimal with a sign. -/
def ofDecimal (negative : Bool) (x : Decimal) : Binary64 :=
  .number negative (Magnitude.ofDecimal x)

/-- The whole number that a number is, if it is one. -/
def toInt? : Binary64 → Option Int
  | .number negative size =>
    size.toNat?.map fun n => if negative then -(n : Int) else n
  | .undefined => none

/-- A number other than zero. -/
def isTruthy (x : Binary64) : Bool :=
  x.toInt? != some 0

/-- A number in a message. -/
def display : Binary64 → Text
  | .number true size => '-' :: size.display
  | .number false size => size.display
  | .undefined => "nan".toList

end Binary64

end AccessGrants
