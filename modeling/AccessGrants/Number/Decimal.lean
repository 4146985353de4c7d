import AccessGrants.Text.Basic

/-!
# Decimal numbers

A decimal number is written with digits and a power of ten that the digits count in.

* `Decimal` has the numbers that are not negative, `Decimal.reduce` drops zeros at the end.
* `Decimal.display` writes a number: with a point from `0.0001` to below `10 ^ 16`, with an exponent
  outside of this.
-/

namespace AccessGrants

/-- The number `digits * 10 ^ exponent`. -/
structure Decimal where
  digits : Nat
  exponent : Int
  deriving DecidableEq

namespace Decimal

/-- How many digits a number has. -/
def digitCount (n : Nat) : Nat := (toString n).length

/-- The most digits with which a whole number is read or written. -/
def maxDigits : Nat := 4300

/-- The same number without the zeros at the end of its digits, of which at most `fuel` go. -/
def reduceIn : Nat → Decimal → Decimal
  | 0, x => x
  | fuel + 1, x =>
    if x.digits ≠ 0 ∧ x.digits % 10 = 0 then reduceIn fuel ⟨x.digits / 10, x.exponent + 1⟩ else x

/-- The same number without the zeros at the end of its digits. -/
def reduce (x : Decimal) : Decimal :=
  reduceIn (digitCount x.digits) x

/-- A point after the first `n` digits; a digit stands on both sides of it. -/
def pointAfter (digits : Text) (n : Nat) : Text :=
  let whole := digits.take n ++ List.replicate (n - digits.length) '0'
  let fraction := digits.drop n
  (if whole = [] then ['0'] else whole) ++ '.' :: (if fraction = [] then ['0'] else fraction)

/-- A point after the first digit, if there are more, and the exponent that goes with it, in at
least two digits. -/
def scientific (digits : Text) (power : Int) : Text :=
  let places := (toString power.natAbs).toList
  (if digits.length = 1 then digits else digits.take 1 ++ '.' :: digits.drop 1) ++
    'e' :: (if power < 0 then '-' else '+') ::
      (if places.length = 1 then '0' :: places else places)

/-- A number in a message. -/
def display (x : Decimal) : Text :=
  if x.digits = 0 then "0.0".toList
  else
    let x := x.reduce
    let digits := (toString x.digits).toList
    let point : Int := digits.length + x.exponent
    if -4 < point ∧ point ≤ 0 then
      "0.".toList ++ List.replicate (-point).toNat '0' ++ digits
    else if 0 < point ∧ point ≤ 16 then pointAfter digits point.toNat
    else scientific digits (point - 1)

end Decimal

end AccessGrants
