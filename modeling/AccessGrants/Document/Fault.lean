import AccessGrants.Document.Moment
import AccessGrants.Number.Decimal

/-!
# Faults of a document

* `ValueFault` is why something that is written like a number, a date or a character stands for none,
  and `ValueFault.message` its wording.
* `DocumentFault` is why a text is no document.
-/

namespace AccessGrants

/-- Why something that is written like a value is none. -/
inductive ValueFault
  /-- There is no such year. -/
  | year (year : Nat)
  /-- There is no such month. -/
  | month
  /-- The month has no such day. -/
  | day
  | hour
  | minute
  | second
  /-- An offset of a day or more, in minutes. -/
  | offset (minutes : Int)
  /-- A number without digits. -/
  | noDigits (base : Nat)
  /-- A number with too many decimal digits. -/
  | tooManyDigits (count : Nat)
  /-- A part of a number in base sixty is out of the range of magnitudes. -/
  | placeTooLarge
  /-- The code of an escape is beyond all characters. -/
  | noCharacter
  /-- The code of an escape does not even fit into 31 bits. -/
  | codeTooLarge
  deriving DecidableEq

namespace ValueFault

/-- The wording of a fault. -/
def message : ValueFault → Text
  | .year y => "year ".toList ++ (toString y).toList ++ " is out of range".toList
  | .month => "month must be in 1..12".toList
  | .day => "day is out of range for month".toList
  | .hour => "hour must be in 0..23".toList
  | .minute => "minute must be in 0..59".toList
  | .second => "second must be in 0..59".toList
  | .offset minutes =>
    ("offset must be a timedelta strictly between " ++
      "-timedelta(hours=24) and timedelta(hours=24), not ").toList ++
      Moment.offsetText minutes ++ ['.']
  | .noDigits base =>
    "invalid literal for int() with base ".toList ++ (toString base).toList ++ ": ''".toList
  | .tooManyDigits count =>
    "Exceeds the limit (".toList ++ (toString Decimal.maxDigits).toList ++
      " digits) for integer string conversion: value has ".toList ++ (toString count).toList ++
      " digits; use sys.set_int_max_str_digits() to increase the limit".toList
  | .placeTooLarge => "int too large to convert to float".toList
  | .noCharacter => "chr() arg not in range(0x110000)".toList
  | .codeTooLarge => "Python int too large to convert to C int".toList

end ValueFault

/-- Why a text is no document. -/
inductive DocumentFault
  | unprintable (place : Nat)
  | unclosedQuote
  | markerInQuotes
  | unknownEscape
  | keyWithoutValue
  | misplacedEntry
  | misplacedKey
  | misplacedValue
  | unmatchedBracket
  | noToken (c : Char)
  | unexpectedToken
  | unexpectedEnd
  | furtherDocument
  | compositeKey
  | unresolvedScalar (t : Text)
  | unmergeable
  | tooDeep
  | value (e : ValueFault)
  deriving DecidableEq

end AccessGrants
