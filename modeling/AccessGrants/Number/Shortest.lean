import AccessGrants.Number.Magnitude

/-!
# The fewest digits

A binary number is written with the fewest decimal digits from which it is read back; of several
such texts the nearest is taken.

* `Magnitude.onGrid?` looks among the decimals with a given exponent.
* `Magnitude.shortest` takes the largest exponent for which there is one.
-/

namespace AccessGrants

namespace Magnitude

/-- The number `p` for which a positive quotient is below `10 ^ p` and not below `10 ^ (p - 1)`. -/
def decimalPoint (n d : Nat) : Int :=
  if d ≤ n then Decimal.digitCount (n / d)
  else
    let k := Decimal.digitCount (d / n)
    if d ≤ n * Nat.pow 10 (k - 1) then 2 - k else 1 - k

/-- The decimal with an exponent that is nearest to a quotient, of those that are read back as a
size. Only the two neighbours of the quotient can be nearest. -/
def onGrid? (x : Magnitude) (n d : Nat) (exponent : Int) : Option Decimal :=
  let n := n * power 10 (-exponent)
  let d := d * power 10 exponent
  let below : Decimal := ⟨n / d, exponent⟩
  let above : Decimal := ⟨n / d + 1, exponent⟩
  if ofDecimal below = x then
    if ofDecimal above = x then some ⟨roundDiv n d, exponent⟩ else some below
  else if ofDecimal above = x then some above
  else none

/-- The decimal with the fewest digits that is read back as `m * 2 ^ e`; seventeen are enough. -/
def shortest (m : Nat) (e : Int) : Decimal :=
  if m = 0 then ⟨0, 0⟩
  else
    let n := m * power 2 e
    let d := power 2 (-e)
    let point := decimalPoint n d
    ((List.range 17).findSome? fun (k : Nat) =>
      onGrid? (.finite m e) n d (point - (k + 1 : Nat))).getD ⟨0, 0⟩

/-- A size in a message. -/
def display : Magnitude → Text
  | .finite m e => (shortest m e).display
  | .infinite => "inf".toList

end Magnitude

end AccessGrants
