import AccessGrants.Document.Fault
import AccessGrants.Number.Binary64

/-!
# Written numbers

A number may have low lines between its digits. A whole number is binary, octal, hexadecimal,
decimal or in base sixty, with colons between its places; a number with a point is decimal or in base
sixty.

* `Numeral.int?` and `Numeral.real?` say whether a text is written like a number, and read it.
-/

namespace AccessGrants

namespace Numeral

/-! ## Signs and digits -/

/-- Splits off a sign: whether it is a minus, and the rest. -/
def sign : Text → Bool × Text
  | '-' :: t => (true, t)
  | '+' :: t => (false, t)
  | t => (false, t)

/-- The number with a sign in front. -/
def signed (negative : Bool) (n : Nat) : Int :=
  if negative then -(n : Int) else n

/-- The value of a digit in bases up to sixteen. -/
def digitValue (c : Char) : Nat :=
  if c.isDigit then c.toNat - 48 else c.toLower.toNat - 87

/-- The digits of a number without the low lines. -/
def bare (digits : Text) : Text :=
  digits.filter (· ≠ '_')

/-- The number that digits write in a base. -/
def number (base : Nat) (digits : Text) : Nat :=
  (bare digits).foldl (fun n c => base * n + digitValue c) 0

/-- The number that digits write in a base, if there are any, and not too many decimal ones. -/
def whole (base : Nat) (digits : Text) : Except ValueFault Nat :=
  let count := (bare digits).length
  if count = 0 then .error (.noDigits base)
  else if base = 10 ∧ Decimal.maxDigits < count then .error (.tooManyDigits count)
  else .ok (number base digits)

/-- A digit or a low line. -/
def isDigitOrLine (c : Char) : Bool := c.isDigit || c == '_'

/-- A binary digit or a low line. -/
def isBinary (c : Char) : Bool := c == '0' || c == '1' || c == '_'

/-- An octal digit or a low line. -/
def isOctal (c : Char) : Bool := ('0' ≤ c && c ≤ '7') || c == '_'

/-- A hexadecimal digit or a low line. -/
def isHexadecimal (c : Char) : Bool :=
  isDigitOrLine c || ('a' ≤ c && c ≤ 'f') || ('A' ≤ c && c ≤ 'F')

/-- Digits and low lines, a digit first. -/
def isDigits : Text → Bool
  | [] => false
  | c :: r => c.isDigit && r.all isDigitOrLine

/-- Digits and low lines, a digit other than zero first. -/
def isPositive (t : Text) : Bool :=
  isDigits t && t.head? != some '0'

/-- A place of a number in base sixty after the first: at most 59, in one or two digits. -/
def isSexagesimalPlace : Text → Bool
  | [c] => c.isDigit
  | [c, d] => '0' ≤ c && c ≤ '5' && d.isDigit
  | _ => false

/-! ## Whole numbers -/

/-- The number that places write in base sixty. -/
def sexagesimal (places : List Text) : Except ValueFault Nat := do
  let places ← places.mapM (whole 10)
  return places.foldl (fun n place => 60 * n + place) 0

/-- A whole number without its sign. A zero in front of other digits makes it octal. -/
def natural? : Text → Option (Except ValueFault Nat)
  | '0' :: 'b' :: digits =>
    if digits ≠ [] ∧ digits.all isBinary then some (whole 2 digits) else none
  | '0' :: 'x' :: digits =>
    if digits ≠ [] ∧ digits.all isHexadecimal then some (whole 16 digits) else none
  | '0' :: digits => if digits.all isOctal then some (whole 8 ('0' :: digits)) else none
  | t =>
    match Text.splitBy ':' t with
    | [first] => if isPositive first then some (whole 10 first) else none
    | first :: places =>
      if isPositive first ∧ places.all isSexagesimalPlace then
        some (sexagesimal (first :: places))
      else none
    | [] => none

/-- A whole number. -/
def int? (t : Text) : Option (Except ValueFault Int) :=
  let (negative, digits) := sign t
  (natural? digits).map fun n => n.map (signed negative)

/-! ## Numbers with a point -/

/-- An exponent with its sign, or nothing, after the digits of a fraction. -/
def exponent? : Text → Option Int
  | [] => some 0
  | e :: s :: digits =>
    if (e = 'e' ∨ e = 'E') ∧ (s = '-' ∨ s = '+') ∧ digits ≠ [] ∧ digits.all Char.isDigit then
      some (signed (s = '-') (number 10 digits))
    else none
  | _ => none

/-- The decimal with the digits before and after the point, and an exponent. -/
def decimal (before after : Text) (exponent : Int) : Decimal :=
  ⟨number 10 (before ++ after), exponent - (bare after).length⟩

/-- The places of a number in base sixty from the last to the first, added to a size. The places are
multiplied by the powers of sixty one by one, and each product and each sum is rounded. -/
def sexagesimalReal : Nat → Magnitude → List Magnitude → Except ValueFault Magnitude
  | _, sum, [] => .ok sum
  | power, sum, place :: places =>
    match Magnitude.ofNat power with
    | .infinite => .error .placeTooLarge
    | scale => sexagesimalReal (60 * power) (sum.plus (place.times scale)) places

/-- A number with a point: with digits before it, perhaps in base sixty, or with none. Only a number
without digits before the point has to be without a sign. -/
def real? (t : Text) : Option (Except ValueFault Binary64) :=
  let (negative, unsigned) := sign t
  if unsigned ∈ [".inf".toList, ".Inf".toList, ".INF".toList] then
    some (.ok (.number negative .infinite))
  else if t ∈ [".nan".toList, ".NaN".toList, ".NAN".toList] then some (.ok .undefined)
  else
    match Text.splitAtFirst '.' unsigned with
    | none => none
    | some (before, after) =>
      let fraction := after.takeWhile isDigitOrLine
      match exponent? (after.dropWhile isDigitOrLine) with
      | none => none
      | some exponent =>
        match Text.splitBy ':' before with
        | [first] =>
          if isDigits first ∨ (t.head? = some '.' ∧ isDigits fraction) then
            some (.ok (.ofDecimal negative (decimal first fraction exponent)))
          else none
        | first :: places =>
          if isDigits first ∧ places.all isSexagesimalPlace ∧ after = fraction then
            match (first :: places).reverse with
            | [] => none
            | last :: earlier =>
              let sizes := Magnitude.ofDecimal (decimal last fraction 0) ::
                earlier.map fun place => Magnitude.ofDecimal (decimal place [] 0)
              some ((sexagesimalReal 1 .zero sizes).map (.number negative))
          else none
        | [] => none

end Numeral

end AccessGrants
