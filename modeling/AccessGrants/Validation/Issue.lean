import AccessGrants.Document.Scalar

/-!
# Issues of a record

A record that does not validate comes back with the list of all its issues.

* `Step` and `Issue` say where in the record an issue lies and what it is.
* `Fault.tag` and `Fault.message` are the short name and the wording of a fault.
* `Issue.sortByPlace` orders issues by the written form of their place.
* `Invalid` is a refused record: what it should be, and its issues.
-/

namespace AccessGrants

/-! ## Places -/

/-- One step into a value: a key of a mapping or an index of a list. -/
inductive Step
  | key (k : Text)
  | index (n : Int)
  deriving DecidableEq

namespace Step

/-- The hexadecimal digit of a number below sixteen. -/
def hexDigit (n : Nat) : Char :=
  if n < 10 then Char.ofNat (48 + n) else Char.ofNat (87 + n)

/-- The escape of a sixteen-bit unit. -/
def escapeUnit (n : Nat) : Text :=
  ['\\', 'u', hexDigit (n / 4096 % 16), hexDigit (n / 256 % 16), hexDigit (n / 16 % 16),
    hexDigit (n % 16)]

/-- A character inside a written key: everything but printable ASCII is escaped. -/
def escape (c : Char) : Text :=
  let n := c.toNat
  if c = '"' then "\\\"".toList
  else if c = '\\' then "\\\\".toList
  else if c = '\n' then "\\n".toList
  else if c = '\r' then "\\r".toList
  else if c = '\t' then "\\t".toList
  else if n = 8 then "\\b".toList
  else if n = 12 then "\\f".toList
  else if 32 ≤ n ∧ n < 127 then [c]
  else if n < 65536 then escapeUnit n
  else
    escapeUnit (0xD800 + (n - 65536) / 1024) ++ escapeUnit (0xDC00 + (n - 65536) % 1024)

/-- The written form of a step: a key in quotes, an index in digits. -/
def written : Step → Text
  | .key k => '"' :: k.flatMap escape ++ ['"']
  | .index n => (toString n).toList

/-- The digits of a whole number, unless there are too many. -/
def wholeText (n : Int) : Text :=
  if Decimal.maxDigits < Decimal.digitCount n.natAbs then "<unprintable int object>".toList
  else (toString n).toList

/-- The step to a key: truth values and whole numbers of 64 bits as numbers, all other keys as
texts. -/
def ofKey : Scalar → Step
  | .text t => .key t
  | .int n =>
    if Int64.minValue.toInt ≤ n ∧ n ≤ Int64.maxValue.toInt then .index n else .key (wholeText n)
  | .bool b => .index (if b then 1 else 0)
  | s => .key s.display

end Step

/-! ## Faults -/

/-- What is wrong with a part of a record. -/
inductive Fault
  | missing
  | notText
  | brokenText
  | emptyText
  | notFlag
  | unreadableFlag
  | notAmong (allowed : List Text)
  | notList
  | notTuple
  | noItems
  | notRecord (record : Text)
  | extraKey
  | keyNotText
  | refused (reason : Text)
  deriving DecidableEq

namespace Fault

/-- The short name of a fault. -/
def tag : Fault → Text
  | .missing => "missing".toList
  | .notText => "string_type".toList
  | .brokenText => "string_unicode".toList
  | .emptyText => "string_too_short".toList
  | .notFlag => "bool_type".toList
  | .unreadableFlag => "bool_parsing".toList
  | .notAmong _ => "enum".toList
  | .notList => "list_type".toList
  | .notTuple => "tuple_type".toList
  | .noItems => "too_short".toList
  | .notRecord _ => "model_type".toList
  | .extraKey => "extra_forbidden".toList
  | .keyNotText => "invalid_key".toList
  | .refused _ => "value_error".toList

/-- The allowed words in quotes, the last after "or". -/
def alternatives : List Text → Text
  | [] => []
  | [w] => '\'' :: w ++ ['\'']
  | [v, w] => '\'' :: v ++ "' or '".toList ++ w ++ ['\'']
  | w :: rest => '\'' :: w ++ "', ".toList ++ alternatives rest

/-- The wording of a fault. -/
def message : Fault → Text
  | .missing => "Field required".toList
  | .notText => "Input should be a valid string".toList
  | .brokenText =>
    "Input should be a valid string, unable to parse raw data as a unicode string".toList
  | .emptyText => "String should have at least 1 character".toList
  | .notFlag => "Input should be a valid boolean".toList
  | .unreadableFlag => "Input should be a valid boolean, unable to interpret input".toList
  | .notAmong allowed => "Input should be ".toList ++ alternatives allowed
  | .notList => "Input should be a valid list".toList
  | .notTuple => "Input should be a valid tuple".toList
  | .noItems => "Tuple should have at least 1 item after validation, not 0".toList
  | .notRecord record =>
    "Input should be a valid dictionary or instance of ".toList ++ record
  | .extraKey => "Extra inputs are not permitted".toList
  | .keyNotText => "Keys should be strings".toList
  | .refused reason => "Value error, ".toList ++ reason

end Fault

/-! ## Issues -/

/-- A fault and its place, from the record inwards. -/
structure Issue where
  place : List Step
  fault : Fault
  deriving DecidableEq

namespace Issue

/-- The written form of the place of an issue. -/
def writtenPlace (issue : Issue) : Text :=
  '[' :: Text.join ", ".toList (issue.place.map Step.written) ++ [']']

/-- The issues in the order of their written places. -/
def sortByPlace (issues : List Issue) : List Issue :=
  issues.mergeSort fun a b => !Text.before b.writtenPlace a.writtenPlace

end Issue

/-- A refused record: what it should have been, and all its issues. -/
structure Invalid where
  record : Text
  issues : List Issue
  deriving DecidableEq

end AccessGrants
